/-
  BacnetRs.Encoding.FieldCodec — fields one after another are read as they were
  written.

  A decoder of several fields goes by positions, an encoder by appending.  What
  joins the two is what is `Left` of the data at a position: a field that
  stands there in front is read, and what was after it is left.

    * `readAt_of_left`, `openAt_of_left`, `closeAt_of_left`, `readOptionalAt_of_left`
                        — one field, read where it stands.
    * `readAll_cons`, `readAll_stop`
                        — one round of a list, and its end.
    * `readBracketed`   — a list in its brackets, behind the object it belongs to.
    * `reads_contextBoolean`, `reads_contextReal` — the context-tagged values.
-/
import BacnetRs.Encoding.PrimitiveCodec

namespace BacnetRs.Encoding

open BacnetRs.Object Checked Octets

/-! ## §1. Tags -/

theorem decodeOpeningTag_append (tag : UInt8) (rest : Bytes) :
    decodeOpeningTag (encodeOpeningTag tag ++ rest) tag = .ok (encodeOpeningTag tag).length := by
  unfold decodeOpeningTag
  rw [decodeTag_encodeOpeningTag]
  exact if_pos rfl

theorem decodeClosingTag_append (tag : UInt8) (rest : Bytes) :
    decodeClosingTag (encodeClosingTag tag ++ rest) tag = .ok (encodeClosingTag tag).length := by
  unfold decodeClosingTag
  rw [decodeTag_encodeClosingTag]
  exact if_pos rfl

theorem decodeContextTag_append_mod (tag : UInt8) (length : Nat) (rest : Bytes) :
    decodeContextTag (encodeContextTag tag length ++ rest)
      = .ok (tag, length % 2 ^ 32, (encodeContextTag tag length).length) := by
  unfold decodeContextTag
  rw [decodeTag_encodeContextTag_mod]

theorem decodeContextTag_append (tag : UInt8) {length : Nat} (hlength : length < 2 ^ 32)
    (rest : Bytes) :
    decodeContextTag (encodeContextTag tag length ++ rest)
      = .ok (tag, length, (encodeContextTag tag length).length) := by
  rw [decodeContextTag_append_mod,
    show length % 2 ^ 32 = length from Nat.mod_eq_of_lt hlength]

section NextTag

variable {tag other : UInt8} {rest : Bytes}

theorem isOpeningTag_opening : isOpeningTag (encodeOpeningTag tag ++ rest) tag = true := by
  unfold isOpeningTag
  rw [decodeTag_encodeOpeningTag]
  exact beq_self_eq_true tag

theorem isClosingTag_closing : isClosingTag (encodeClosingTag tag ++ rest) tag = true := by
  unfold isClosingTag
  rw [decodeTag_encodeClosingTag]
  exact beq_self_eq_true tag

theorem isContextTag_opening : isContextTag (encodeOpeningTag other ++ rest) tag = false := by
  unfold isContextTag
  rw [decodeTag_encodeOpeningTag]

theorem isContextTag_closing : isContextTag (encodeClosingTag other ++ rest) tag = false := by
  unfold isContextTag
  rw [decodeTag_encodeClosingTag]

theorem isContextTag_context {length : Nat} (hlength : length < 2 ^ 32) :
    isContextTag (encodeContextTag other length ++ rest) tag = (other == tag) := by
  unfold isContextTag
  rw [decodeTag_encodeContextTag other hlength]

theorem isClosingTag_context {length : Nat} (hlength : length < 2 ^ 32) :
    isClosingTag (encodeContextTag other length ++ rest) tag = false := by
  unfold isClosingTag
  rw [decodeTag_encodeContextTag other hlength]

/-- An unsigned field is its tag and a few octets. -/
theorem encodeContextUnsigned_eq (value : UInt32) (tag : UInt8) :
    ∃ length content, length < 2 ^ 32
      ∧ encodeContextUnsigned value tag = encodeContextTag tag length ++ content := by
  obtain ⟨width, _, hwidth, _, hoctets⟩ := unsignedOctets_eq value
  refine ⟨(unsignedOctets value).length, unsignedOctets value, ?_, rfl⟩
  rw [hoctets, length_beOctets]
  omega

theorem isContextTag_contextUnsigned {value : UInt32} :
    isContextTag (encodeContextUnsigned value other ++ rest) tag = (other == tag) := by
  obtain ⟨length, content, hlength, heq⟩ := encodeContextUnsigned_eq value other
  rw [heq, List.append_assoc, isContextTag_context hlength]

theorem isClosingTag_contextUnsigned {value : UInt32} :
    isClosingTag (encodeContextUnsigned value other ++ rest) tag = false := by
  obtain ⟨length, content, hlength, heq⟩ := encodeContextUnsigned_eq value other
  rw [heq, List.append_assoc, isClosingTag_context hlength]

end NextTag

/-! ## §2. Context-tagged values -/

theorem reads_contextBoolean (value : Bool) (tag : UInt8) :
    Reads (decodeContextBoolean · tag) (encodeContextBoolean value tag) value := by
  intro rest
  show decodeContextBoolean _ _ = _
  unfold encodeContextBoolean decodeContextBoolean
  rw [List.append_assoc, decodeContextTag_append tag (by decide)]
  simp only [Checked.ofExcept, bind, Except.bind]
  rw [if_neg (by simp), List.getElem?_append_right (Nat.le_refl _), Nat.sub_self]
  cases value <;> simp [orFail, pure, Except.pure]

theorem reads_contextReal (value : F32) (tag : UInt8) :
    Reads (decodeContextReal · tag) (encodeContextReal value tag) value := by
  intro rest
  have hbound : value.bits.toNat < 256 ^ 4 := value.bits.toNat_lt
  have hrange := range?_append (encodeContextTag tag 4) (beOctets 4 value.bits.toNat) rest
  rw [length_beOctets] at hrange
  show decodeContextReal _ _ = _
  unfold encodeContextReal decodeContextReal
  rw [List.append_assoc, expectContextTag_encode tag (by decide)]
  simp only [bind, Except.bind]
  rw [if_neg (not_not_intro rfl), hrange]
  simp only [orFail, pure, Except.pure, beNat_beOctets, List.length_append, length_beOctets]
  rw [show value.bits.toNat % 256 ^ 4 = value.bits.toNat from Nat.mod_eq_of_lt hbound,
    UInt32.ofNat_toNat]

/-! ## §3. One field -/

section Field

variable {α : Type} {decode : Bytes → Decoded (α × Nat)} {data encoded rest : Bytes}
  {consumed : Nat} {value : α}

/-- **A field is read where it stands.** -/
theorem readAt_of_left (h : Left data consumed (encoded ++ rest))
    (hread : decode (encoded ++ rest) = .ok (value, encoded.length)) :
    readAt decode data consumed = .ok (value, consumed + encoded.length) := by
  unfold readAt
  rw [h.dropFrom]
  simp only [bind, Except.bind, hread]
  rfl

/-- What is read at a position is read of what is left there. -/
theorem readAt_eq_ok_of_left {next : Nat} (h : Left data consumed rest) :
    readAt decode data consumed = .ok (value, next)
      ↔ ∃ length, decode rest = .ok (value, length) ∧ next = consumed + length := by
  unfold readAt
  rw [h.dropFrom]
  simp only [bind_eq_ok, pure_eq_ok, Except.ok.injEq, exists_eq_left', Prod.exists, Prod.mk.injEq]
  constructor
  · rintro ⟨_, length, hdecode, rfl, rfl⟩
    exact ⟨length, hdecode, rfl⟩
  · rintro ⟨length, hdecode, rfl⟩
    exact ⟨value, length, hdecode, rfl, rfl⟩

theorem openAt_of_left {tag : UInt8} (h : Left data consumed (encodeOpeningTag tag ++ rest)) :
    openAt data consumed tag = .ok (consumed + (encodeOpeningTag tag).length) := by
  unfold openAt
  rw [h.dropFrom]
  simp only [bind, Except.bind, decodeOpeningTag_append, Checked.ofExcept]
  rfl

theorem closeAt_of_left {tag : UInt8} (h : Left data consumed (encodeClosingTag tag ++ rest)) :
    closeAt data consumed tag = .ok (consumed + (encodeClosingTag tag).length) := by
  unfold closeAt
  rw [h.dropFrom]
  simp only [bind, Except.bind, decodeClosingTag_append, Checked.ofExcept]
  rfl

variable {present : Bytes → Bool}

/-- An optional field that is there. -/
theorem readOptionalAt_of_left (h : Left data consumed (encoded ++ rest))
    (hpresent : present (encoded ++ rest) = true)
    (hread : decode (encoded ++ rest) = .ok (value, encoded.length)) :
    readOptionalAt present decode data consumed
      = .ok (some value, consumed + encoded.length) := by
  unfold readOptionalAt
  rw [h.dropFrom]
  simp only [bind, Except.bind, hpresent, if_true, hread]
  rfl

/-- An optional field that is not. -/
theorem readOptionalAt_absent (h : Left data consumed rest) (habsent : present rest = false) :
    readOptionalAt present decode data consumed = .ok (none, consumed) := by
  unfold readOptionalAt
  rw [h.dropFrom]
  simp only [bind, Except.bind, habsent, Bool.false_eq_true, if_false]
  rfl

end Field

section Unsigned

variable {data rest : Bytes} {consumed : Nat} {tag : UInt8}

theorem readUnsignedAt_of_left {value : UInt32}
    (h : Left data consumed (encodeContextUnsigned value tag ++ rest)) :
    readAt (decodeContextUnsigned · tag) data consumed
      = .ok (value, consumed + (encodeContextUnsigned value tag).length) :=
  readAt_of_left h (reads_contextUnsigned value tag rest)

/-- An optional unsigned field is read back before anything that is not it. -/
theorem readOptionalUnsigned_of_left {value : Option UInt32}
    (h : Left data consumed (encodeOptionalUnsigned value tag ++ rest))
    (hrest : isContextTag rest tag = false) :
    readOptionalAt (isContextTag · tag) (decodeContextUnsigned · tag) data consumed
      = .ok (value, consumed + (encodeOptionalUnsigned value tag).length) := by
  cases value with
  | none => exact readOptionalAt_absent h hrest
  | some value =>
      apply readOptionalAt_of_left h ?_ (reads_contextUnsigned value tag rest)
      show isContextTag (encodeContextUnsigned value tag ++ rest) tag = true
      rw [isContextTag_contextUnsigned]
      exact beq_self_eq_true tag

end Unsigned

/-! ## §4. Lists -/

section List

variable {α : Type} {stop : Bytes → Bool} {decode : Bytes → Decoded (α × Nat)}
  {data encoded rest : Bytes}

theorem readAll_stop (hdecode : ∀ rest, Meets (decode rest) (Takes rest)) (h : stop rest = true) :
    readAll stop decode rest = .ok ([], 0) := by
  rw [readAll_eq hdecode, if_pos h]

/-- **One round of a list**: what stands in front is read, and then the others. -/
theorem readAll_cons {value : α} {values : List α} {more : Nat}
    (hdecode : ∀ rest, Meets (decode rest) (Takes rest)) (hgo : stop (encoded ++ rest) = false)
    (hread : decode (encoded ++ rest) = .ok (value, encoded.length))
    (hmore : readAll stop decode rest = .ok (values, more)) :
    readAll stop decode (encoded ++ rest) = .ok (value :: values, encoded.length + more) := by
  have hrest : (dropFrom (encoded ++ rest) encoded.length : Decoded Bytes) = .ok rest :=
    dropFrom_eq_ok.mpr ⟨by simp, by simp⟩
  rw [readAll_eq hdecode, hgo, if_neg Bool.false_ne_true, hread]
  simp only [bind, Except.bind, hrest, hmore]
  rfl

/-- What is decoded took something. -/
theorem isEmpty_of_takes {value : α} (hdecode : ∀ rest, Meets (decode rest) (Takes rest))
    (hread : decode (encoded ++ rest) = .ok (value, encoded.length)) :
    (encoded ++ rest).isEmpty = false := by
  have htakes : 1 ≤ encoded.length := ((hdecode _).2 _ hread).1
  cases encoded with
  | nil => exact absurd htakes (Nat.not_succ_le_zero 0)
  | cons octet more => rfl

/-- Octets read as `value` before anything that `follows`, which they are themselves, and which do
not end the list. -/
structure Item (stop : Bytes → Bool) (decode : Bytes → Decoded (α × Nat)) (follows : Bytes → Prop)
    (value : α) (octets : Bytes) : Prop where
  goes : ∀ more, stop (octets ++ more) = false
  next : ∀ more, follows (octets ++ more)
  reads : ∀ more, follows more → decode (octets ++ more) = .ok (value, octets.length)

section Items

variable {follows : Bytes → Prop}

/-- What comes after an item is another, or what comes after them all. -/
theorem follows_items {encode : α → Except EncodingError Bytes} {values : List α}
    {encoded : List Bytes} (h : values.mapM encode = .ok encoded)
    (hitems : ∀ value ∈ values, ∀ octets, encode value = .ok octets →
      Item stop decode follows value octets) (hrest : follows rest) :
    follows (encoded.flatten ++ rest) := by
  cases values with
  | nil =>
      cases h
      exact hrest
  | cons value values =>
      simp only [List.mapM_cons, bind_eq_ok, pure_eq_ok] at h
      obtain ⟨octets, hoctets, more, _, rfl⟩ := h
      rw [List.flatten_cons, List.append_assoc]
      exact (hitems value List.mem_cons_self octets hoctets).next _

/-- **A list of items is read back** up to what ends it. -/
theorem readAll_items {encode : α → Except EncodingError Bytes}
    (hdecode : ∀ rest, Meets (decode rest) (Takes rest)) (hstop : stop rest = true)
    (hrest : follows rest) : ∀ {values : List α} {encoded : List Bytes},
    values.mapM encode = .ok encoded →
    (∀ value ∈ values, ∀ octets, encode value = .ok octets →
      Item stop decode follows value octets) →
      readAll stop decode (encoded.flatten ++ rest) = .ok (values, encoded.flatten.length)
  | [], encoded, h, _ => by
      cases h
      exact readAll_stop hdecode hstop
  | value :: values, encoded, h, hitems => by
      simp only [List.mapM_cons, bind_eq_ok, pure_eq_ok] at h
      obtain ⟨octets, hoctets, more, hmore, rfl⟩ := h
      obtain ⟨hvalue, hothers⟩ := List.forall_mem_cons.mp hitems
      have hitem := hvalue octets hoctets
      rw [List.flatten_cons, List.append_assoc, List.length_append]
      exact readAll_cons hdecode (hitem.goes _)
        (hitem.reads _ (follows_items hmore hothers hrest))
        (readAll_items hdecode hstop hrest hmore hothers)

/-- The same, of an encoder that cannot fail. -/
theorem readAll_flatMap {encode : α → Bytes} {values : List α}
    (hdecode : ∀ rest, Meets (decode rest) (Takes rest)) (hstop : stop rest = true)
    (hrest : follows rest)
    (hitems : ∀ value ∈ values, Item stop decode follows value (encode value)) :
    readAll stop decode (values.flatMap encode ++ rest)
      = .ok (values, (values.flatMap encode).length) := by
  have hencoded : values.mapM (fun value => (.ok (encode value) : Except EncodingError Bytes))
      = .ok (values.map encode) := List.mapM_pure
  apply readAll_items hdecode hstop hrest hencoded
  intro value hvalue octets hoctets
  cases hoctets
  exact hitems value hvalue

end Items

/-- **An object and the list of what belongs to it**, in its brackets: each part is read where
it stands, up to the end of them all. -/
theorem readBracketed {object : ObjectIdentifier} {front items more : Bytes} {values : List α}
    (hobject : encodeContextObjectId object 0 = .ok front)
    (hlist : readAll stop decode (items ++ (encodeClosingTag 1 ++ more))
      = .ok (values, items.length))
    (hdata : data = front ++ encodeOpeningTag 1 ++ items ++ encodeClosingTag 1 ++ more) :
    ∃ opened, decodeContextObjectId data 0 = .ok (object, front.length)
      ∧ openAt data front.length 1 = .ok opened
      ∧ readAt (readAll stop decode) data opened = .ok (values, opened + items.length)
      ∧ closeAt data (opened + items.length) 1
        = .ok (front ++ encodeOpeningTag 1 ++ items ++ encodeClosingTag 1).length := by
  simp only [List.append_assoc] at hdata
  subst hdata
  have h₁ := (left_zero (front ++ (encodeOpeningTag 1
    ++ (items ++ (encodeClosingTag 1 ++ more))))).next
  rw [Nat.zero_add] at h₁
  have h₂ := h₁.next
  refine ⟨_, reads_contextObjectId hobject _, openAt_of_left h₁, readAt_of_left h₂ hlist, ?_⟩
  rw [closeAt_of_left h₂.next]
  simp only [List.length_append]

/-- The first of a list that was read. -/
theorem readAll_eq_cons {value : α} {values : List α} {total : Nat}
    (hdecode : ∀ rest, Meets (decode rest) (Takes rest))
    (h : readAll stop decode data = .ok (value :: values, total)) :
    stop data = false ∧ ∃ length more, decode data = .ok (value, length)
      ∧ readAll stop decode (data.drop length) = .ok (values, more) ∧ total = length + more := by
  rw [readAll_eq hdecode] at h
  cases hstop : stop data with
  | true =>
      rw [hstop, if_pos rfl] at h
      cases h
  | false =>
      rw [hstop, if_neg Bool.false_ne_true] at h
      simp only [bind_eq_ok, pure_eq_ok, dropFrom_eq_ok] at h
      obtain ⟨⟨first, length⟩, hfirst, _, ⟨_, rfl⟩, ⟨others, more⟩, hothers, hsame⟩ := h
      cases hsame
      exact ⟨rfl, length, more, hfirst, hothers, rfl⟩

end List

end BacnetRs.Encoding
