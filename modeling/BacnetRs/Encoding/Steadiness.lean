/-
  BacnetRs.Encoding.Steadiness — tags and fields of data that end too early.

  A tag is read from its own octets, and a field from its tag and the octets the
  tag counts, so neither is read otherwise when more octets follow.  Only what
  looks at the tag that comes next can be misled by an end: an optional field
  counts as left out where nothing has come yet.

    * `decodeTag_steady`, `decodeContextUnsigned_steady`, `readAt_steady`
                              — what is read is read of the whole too.
    * `readOptionalAt_before` — an optional field with a tag behind it is as well.
    * `readOptionalAt_append` — and any other, unless it seems to be left out.
    * `readAll_before`        — a list is, when the tag that ends it is there.
    * `readAll_cut`           — a list without such a tag loses whole items.
-/
import BacnetRs.Encoding.FieldCodec
import BacnetRs.Library.Steady

namespace BacnetRs.Encoding

open BacnetRs.Object Checked Octets

/-! ## §1. Tags -/

theorem decodeTag_steady : Steady decodeTag := by
  rintro front rest ⟨tag, length, consumed⟩ h
  -- The octets the tag takes are all in the part.
  apply decodeTag_of_take ?_ h (Nat.le_refl consumed)
  rw [List.take_append_of_le_length (decodeTag_takes h).2]

/-- A whole tag stands in front. -/
def HasTag (data : Bytes) : Prop := ∃ decoded, decodeTag data = .ok decoded

section HasTag

variable {α : Type} {data front : Bytes} {tag : UInt8}

/-- What the tag in front decides is not changed by what comes later. -/
theorem append_of_tag {f : Bytes → α}
    (hf : ∀ data data', decodeTag data = decodeTag data' → f data = f data') (h : HasTag front)
    (rest : Bytes) : f (front ++ rest) = f front := by
  obtain ⟨decoded, hdecoded⟩ := h
  apply hf
  rw [decodeTag_steady front rest _ hdecoded, hdecoded]

theorem isContextTag_append (h : HasTag front) (rest : Bytes) :
    isContextTag (front ++ rest) tag = isContextTag front tag :=
  append_of_tag (f := (isContextTag · tag))
    (fun _ _ hsame => by simp only [isContextTag, hsame]) h rest

theorem isClosingTag_append (h : HasTag front) (rest : Bytes) :
    isClosingTag (front ++ rest) tag = isClosingTag front tag :=
  append_of_tag (f := (isClosingTag · tag))
    (fun _ _ hsame => by simp only [isClosingTag, hsame]) h rest

theorem hasTag_of_isContextTag (h : isContextTag data tag = true) : HasTag data := by
  unfold isContextTag at h
  cases hdecoded : decodeTag data with
  | error e =>
      rw [hdecoded] at h
      cases h
  | ok decoded => exact ⟨decoded, hdecoded⟩

/-- What fails when no tag can be decoded had one when it did not fail. -/
theorem hasTag_of_ok {f : Bytes → Except EncodingError α} {a : α}
    (hf : ∀ data e, decodeTag data = .error e → f data = .error e) (h : f data = .ok a) :
    HasTag data := by
  cases hdecoded : decodeTag data with
  | error e => cases (hf data e hdecoded).symm.trans h
  | ok decoded => exact ⟨decoded, hdecoded⟩

theorem hasTag_of_contextTag {decoded : UInt8 × Nat × Nat}
    (h : decodeContextTag data = .ok decoded) : HasTag data :=
  hasTag_of_ok (fun _ _ hnone => by simp only [decodeContextTag, hnone]) h

theorem hasTag_of_openingTag {length : Nat} (h : decodeOpeningTag data tag = .ok length) :
    HasTag data :=
  hasTag_of_ok (f := (decodeOpeningTag · tag))
    (fun _ _ hnone => by simp only [decodeOpeningTag, hnone]) h

theorem hasTag_of_closingTag {length : Nat} (h : decodeClosingTag data tag = .ok length) :
    HasTag data :=
  hasTag_of_ok (f := (decodeClosingTag · tag))
    (fun _ _ hnone => by simp only [decodeClosingTag, hnone]) h

end HasTag

theorem decodeContextTag_steady : Steady decodeContextTag := by
  intro front rest read h
  exact (append_of_tag (f := decodeContextTag)
    (fun _ _ hsame => by simp only [decodeContextTag, hsame]) (hasTag_of_contextTag h) rest).trans h

theorem decodeOpeningTag_steady (tag : UInt8) : Steady (decodeOpeningTag · tag) := by
  intro front rest read h
  exact (append_of_tag (f := (decodeOpeningTag · tag))
    (fun _ _ hsame => by simp only [decodeOpeningTag, hsame]) (hasTag_of_openingTag h) rest).trans h

theorem decodeClosingTag_steady (tag : UInt8) : Steady (decodeClosingTag · tag) := by
  intro front rest read h
  exact (append_of_tag (f := (decodeClosingTag · tag))
    (fun _ _ hsame => by simp only [decodeClosingTag, hsame]) (hasTag_of_closingTag h) rest).trans h

/-! ## §2. Context-tagged values -/

theorem expectContextTag_steady (tag : UInt8) : Steady (expectContextTag · tag) := by
  refine (steady_ofExcept decodeContextTag_steady).bind ?_
  rintro ⟨number, length, consumed⟩
  exact steady_guard (steady_const _)

theorem decodeContextUnsigned_steady (tag : UInt8) : Steady (decodeContextUnsigned · tag) := by
  refine (expectContextTag_steady tag).bind ?_
  rintro ⟨length, consumed⟩
  refine steady_unless_short (steady_ite (fun _ => ?_) (fun _ => steady_const _))
  exact steady_natAt.bind (fun _ => steady_const _)

theorem decodeContextObjectId_steady (tag : UInt8) : Steady (decodeContextObjectId · tag) := by
  refine (expectContextTag_steady tag).bind ?_
  rintro ⟨length, consumed⟩
  refine steady_guard (steady_unless_short ?_)
  exact steady_natAt.bind (fun _ => steady_const _)

theorem decodeContextBoolean_steady (tag : UInt8) : Steady (decodeContextBoolean · tag) := by
  refine (steady_ofExcept decodeContextTag_steady).bind ?_
  rintro ⟨number, length, consumed⟩
  exact steady_guard (steady_getElem?.bind (fun _ => steady_const _))

/-- A field that was read had its tag. -/
theorem hasTag_of_contextUnsigned {data : Bytes} {tag : UInt8} {decoded : UInt32 × Nat}
    (h : decodeContextUnsigned data tag = .ok decoded) : HasTag data := by
  obtain ⟨read, hread, _⟩ := bind_eq_ok.mp h
  obtain ⟨header, hheader, _⟩ := bind_eq_ok.mp hread
  exact hasTag_of_contextTag (ofExcept_eq_ok.mp hheader)

/-! ## §3. Fields one after another -/

section Field

variable {α : Type} {decode : Bytes → Decoded (α × Nat)} {data front rest : Bytes}
  {consumed next : Nat} {value : α}

theorem readAt_steady (hdecode : Steady decode) (consumed : Nat) :
    Steady (readAt decode · consumed) := by
  refine steady_from (hdecode.bind ?_)
  rintro ⟨value, length⟩
  exact steady_const _

theorem openAt_steady (consumed : Nat) (tag : UInt8) : Steady (openAt · consumed tag) :=
  steady_from ((steady_ofExcept (decodeOpeningTag_steady tag)).bind (fun _ => steady_const _))

theorem closeAt_steady (consumed : Nat) (tag : UInt8) : Steady (closeAt · consumed tag) :=
  steady_from ((steady_ofExcept (decodeClosingTag_steady tag)).bind (fun _ => steady_const _))

theorem readAt_eq_ok : readAt decode data consumed = .ok (value, next)
    ↔ consumed ≤ data.length
      ∧ ∃ length, decode (data.drop consumed) = .ok (value, length) ∧ next = consumed + length := by
  unfold readAt
  simp only [bind_eq_ok, dropFrom_eq_ok, pure_eq_ok]
  constructor
  · rintro ⟨_, ⟨hwithin, rfl⟩, ⟨_, length⟩, hread, hsame⟩
    cases hsame
    exact ⟨hwithin, length, hread, rfl⟩
  · rintro ⟨hwithin, length, hread, rfl⟩
    exact ⟨_, ⟨hwithin, rfl⟩, _, hread, rfl⟩

/-- A field that needs something behind it, read where it stands. -/
theorem readAt_before {follows : Bytes → Prop} (hdecode : SteadyBefore follows decode)
    (h : readAt decode front consumed = .ok (value, next)) (hnext : follows (front.drop next))
    (rest : Bytes) : readAt decode (front ++ rest) consumed = .ok (value, next) := by
  obtain ⟨hwithin, length, hread, rfl⟩ := readAt_eq_ok.mp h
  rw [← List.drop_drop] at hnext
  refine readAt_eq_ok.mpr ⟨?_, length, ?_, rfl⟩
  · rw [List.length_append]
    omega
  · rw [List.drop_append_of_le_length hwithin]
    exact hdecode _ rest value length hread hnext

theorem closeAt_within {tag : UInt8} (h : closeAt data consumed tag = .ok next) :
    next ≤ data.length := by
  obtain ⟨left, hleft, _⟩ := bind_eq_ok.mp h
  exact ((closeAt_meets tag (dropFrom_eq_ok.mp hleft).1).ensures _ h).2

theorem hasTag_of_openAt {tag : UInt8} (h : openAt data consumed tag = .ok next) :
    HasTag (data.drop consumed) := by
  obtain ⟨left, hleft, hread⟩ := bind_eq_ok.mp h
  obtain ⟨length, hlength, _⟩ := bind_eq_ok.mp hread
  rw [← (dropFrom_eq_ok.mp hleft).2]
  exact hasTag_of_openingTag (ofExcept_eq_ok.mp hlength)

theorem hasTag_of_closeAt {tag : UInt8} (h : closeAt data consumed tag = .ok next) :
    HasTag (data.drop consumed) := by
  obtain ⟨left, hleft, hread⟩ := bind_eq_ok.mp h
  obtain ⟨length, hlength, _⟩ := bind_eq_ok.mp hread
  rw [← (dropFrom_eq_ok.mp hleft).2]
  exact hasTag_of_closingTag (ofExcept_eq_ok.mp hlength)

end Field

/-! ## §4. Optional fields -/

section Optional

variable {α : Type} {present : Bytes → Bool} {decode : Bytes → Decoded (α × Nat)}
  {data front rest : Bytes} {consumed next : Nat} {value : Option α} {tag : UInt8}

/-- An optional field is there and read, or is not there and takes nothing. -/
theorem readOptionalAt_eq_ok : readOptionalAt present decode data consumed = .ok (value, next)
    ↔ consumed ≤ data.length
      ∧ (present (data.drop consumed) = true ∧ (∃ found length,
          decode (data.drop consumed) = .ok (found, length) ∧ value = some found
            ∧ next = consumed + length)
        ∨ present (data.drop consumed) = false ∧ value = none ∧ next = consumed) := by
  unfold readOptionalAt
  simp only [bind_eq_ok, dropFrom_eq_ok]
  constructor
  · rintro ⟨_, ⟨hwithin, rfl⟩, hread⟩
    refine ⟨hwithin, ?_⟩
    cases hpresent : present (data.drop consumed) with
    | true =>
        rw [hpresent, if_pos rfl] at hread
        obtain ⟨⟨found, length⟩, hfound, hsame⟩ := bind_eq_ok.mp hread
        cases hsame
        exact .inl ⟨rfl, found, length, hfound, rfl, rfl⟩
    | false =>
        rw [hpresent, if_neg Bool.false_ne_true] at hread
        cases hread
        exact .inr ⟨rfl, rfl, rfl⟩
  · rintro ⟨hwithin, ⟨hpresent, found, length, hfound, rfl, rfl⟩ | ⟨hpresent, rfl, rfl⟩⟩
    · refine ⟨_, ⟨hwithin, rfl⟩, ?_⟩
      rw [hpresent, if_pos rfl, hfound]
      rfl
    · refine ⟨_, ⟨hwithin, rfl⟩, ?_⟩
      rw [hpresent, if_neg Bool.false_ne_true]
      rfl

/-- A field that is left out takes nothing. -/
theorem readOptionalAt_none (h : readOptionalAt present decode data consumed = .ok (none, next)) :
    next = consumed := by
  obtain ⟨_, ⟨_, _, _, _, hsome, _⟩ | ⟨_, _, hsame⟩⟩ := readOptionalAt_eq_ok.mp h
  · cases hsome
  · exact hsame

/-- A tag behind an optional field is one in front of what starts with the field. -/
theorem hasTag_of_optional
    (h : readOptionalAt (isContextTag · tag) decode data consumed = .ok (value, next))
    (hnext : HasTag (data.drop next)) : HasTag (data.drop consumed) := by
  obtain ⟨_, ⟨hpresent, _⟩ | ⟨_, _, rfl⟩⟩ := readOptionalAt_eq_ok.mp h
  · exact hasTag_of_isContextTag hpresent
  · exact hnext

/-- **An optional field before a whole tag** is read of the whole as it is of the part. -/
theorem readOptionalAt_before (hdecode : Steady decode)
    (h : readOptionalAt (isContextTag · tag) decode front consumed = .ok (value, next))
    (hnext : HasTag (front.drop next)) (rest : Bytes) :
    readOptionalAt (isContextTag · tag) decode (front ++ rest) consumed = .ok (value, next) := by
  obtain ⟨hwithin, hread⟩ := readOptionalAt_eq_ok.mp h
  refine readOptionalAt_eq_ok.mpr ⟨?_, ?_⟩
  · rw [List.length_append]
    omega
  · rw [List.drop_append_of_le_length hwithin]
    rcases hread with ⟨hpresent, found, length, hfound, rfl, rfl⟩ | ⟨habsent, rfl, rfl⟩
    · -- A field that is there has its tag in front; one that is not, the tag behind it.
      refine .inl ⟨?_, found, length, hdecode _ rest _ hfound, rfl, rfl⟩
      rw [isContextTag_append (hasTag_of_isContextTag hpresent)]
      exact hpresent
    · refine .inr ⟨?_, rfl, rfl⟩
      rw [isContextTag_append hnext]
      exact habsent

/-- **Any other optional field is as well**, unless it seems to be left out. -/
theorem readOptionalAt_append (hdecode : Steady decode)
    (h : readOptionalAt (isContextTag · tag) decode front consumed = .ok (value, next))
    (rest : Bytes) :
    readOptionalAt (isContextTag · tag) decode (front ++ rest) consumed = .ok (value, next)
      ∨ value = none ∧ next = consumed := by
  obtain ⟨hwithin, hread⟩ := readOptionalAt_eq_ok.mp h
  rcases hread with ⟨hpresent, found, length, hfound, rfl, rfl⟩ | ⟨_, hnone, hsame⟩
  · refine .inl (readOptionalAt_eq_ok.mpr ⟨?_, .inl ⟨?_, found, length, ?_, rfl, rfl⟩⟩)
    · rw [List.length_append]
      omega
    · rw [List.drop_append_of_le_length hwithin,
        isContextTag_append (hasTag_of_isContextTag hpresent)]
      exact hpresent
    · rw [List.drop_append_of_le_length hwithin]
      exact hdecode _ rest _ hfound
  · exact .inr ⟨hnone, hsame⟩

/-- **The last optional field is lost with the end**: nothing of it is read of less than all. -/
theorem readOptionalAt_cut (htakes : ∀ rest, Meets (decode rest) (Takes rest))
    (hdecode : Steady decode) (hrest : rest ≠ []) {whole : Option α}
    (h : readOptionalAt (isContextTag · tag) decode front consumed = .ok (value, next))
    (hwhole : readOptionalAt (isContextTag · tag) decode (front ++ rest) consumed
      = .ok (whole, (front ++ rest).length)) : value = none ∧ whole ≠ none := by
  have hpositive := List.length_pos_iff.mpr hrest
  obtain ⟨hwithin, _⟩ := readOptionalAt_eq_ok.mp h
  obtain ⟨_, hend⟩ := (readOptionalAt_meets htakes hwithin).ensures _ h
  rw [List.length_append] at hwhole
  simp only at hend
  constructor
  · rcases readOptionalAt_append hdecode h rest with hsame | ⟨hnone, _⟩
    · rw [hsame] at hwhole
      cases hwhole
      omega
    · exact hnone
  · rintro rfl
    have hnothing := readOptionalAt_none hwhole
    omega

end Optional

/-! ## §5. Lists -/

section List

variable {α : Type} {stop : Bytes → Bool} {decode : Bytes → Decoded (α × Nat)}
  {data front rest : Bytes} {values : List α} {length : Nat}

theorem readAll_eq_nil (htakes : ∀ rest, Meets (decode rest) (Takes rest))
    (h : readAll stop decode data = .ok ([], length)) : stop data = true ∧ length = 0 := by
  rw [readAll_eq htakes] at h
  cases hstop : stop data with
  | true =>
      rw [hstop, if_pos rfl] at h
      cases h
      exact ⟨rfl, rfl⟩
  | false =>
      rw [hstop, if_neg Bool.false_ne_true] at h
      obtain ⟨read, _, hmore⟩ := bind_eq_ok.mp h
      obtain ⟨left, _, hothers⟩ := bind_eq_ok.mp hmore
      obtain ⟨others, _, hsame⟩ := bind_eq_ok.mp hothers
      cases hsame

/-- A list that was read starts with a tag, if one stands behind it. -/
theorem hasTag_of_readAll (htakes : ∀ rest, Meets (decode rest) (Takes rest))
    (hfirst : ∀ {data decoded}, decode data = .ok decoded → HasTag data)
    (h : readAll stop decode data = .ok (values, length)) (hnext : HasTag (data.drop length)) :
    HasTag data := by
  cases values with
  | nil =>
      obtain ⟨_, rfl⟩ := readAll_eq_nil htakes h
      exact hnext
  | cons value values =>
      obtain ⟨_, _, _, hvalue, _⟩ := readAll_eq_cons htakes h
      exact hfirst hvalue

/-- **A list is read of the whole as it is of the part**, if the tag behind it is there. -/
theorem readAll_before (htakes : ∀ rest, Meets (decode rest) (Takes rest))
    (hfirst : ∀ {data decoded}, decode data = .ok decoded → HasTag data)
    (hstop : ∀ {front}, HasTag front → ∀ rest, stop (front ++ rest) = stop front)
    (hdecode : SteadyBefore HasTag decode) : SteadyBefore HasTag (readAll stop decode) := by
  intro front rest values
  induction values generalizing front with
  | nil =>
      intro length h hnext
      obtain ⟨hends, rfl⟩ := readAll_eq_nil htakes h
      exact readAll_stop htakes ((hstop hnext rest).trans hends)
  | cons value values ih =>
      intro length h hnext
      obtain ⟨hgoes, first, more, hvalue, hmore, rfl⟩ := readAll_eq_cons htakes h
      rw [← List.drop_drop] at hnext
      have hwhole := hdecode front rest value first hvalue
        (hasTag_of_readAll htakes hfirst hmore hnext)
      have hothers := @ih (front.drop first) more hmore hnext
      rw [← hstop (hfirst hvalue) rest] at hgoes
      -- The part is the octets of the first value, and those of the others.
      obtain ⟨octets, left, rfl, rfl⟩ : ∃ octets left, front = octets ++ left
          ∧ octets.length = first :=
        ⟨front.take first, front.drop first, (List.take_append_drop _ _).symm,
          List.length_take_of_le ((htakes front).ensures _ hvalue).2⟩
      rw [List.append_assoc] at hgoes hwhole ⊢
      rw [List.drop_left] at hothers
      exact readAll_cons htakes hgoes hwhole hothers

/-- **A list without a tag behind it loses whole items**, and at least one, when its octets are
cut. -/
theorem readAll_cut {encode : α → Except EncodingError Bytes}
    (htakes : ∀ rest, Meets (decode rest) (Takes rest)) (hdecode : Steady decode) :
    ∀ {values : List α} {encoded : List Bytes} {front rest : Bytes} {read : List α} {length : Nat},
      values.mapM encode = .ok encoded →
      (∀ value ∈ values, ∀ octets, encode value = .ok octets → Reads decode octets value) →
      front ++ rest = encoded.flatten → rest ≠ [] →
      readAll List.isEmpty decode front = .ok (read, length) →
        ∃ count, count < values.length ∧ read = values.take count
  | [], _, _, _, _, _, h, _, hparts, hrest, _ => by
      cases h
      exact absurd (List.append_eq_nil_iff.mp hparts).2 hrest
  | value :: values, _, _, _, [], _, _, _, _, _, _ => ⟨0, Nat.zero_lt_succ _, rfl⟩
  | value :: values, _, front, rest, found :: read, _, h, hreads, hparts, hrest, hread => by
      simp only [List.mapM_cons, bind_eq_ok, pure_eq_ok] at h
      obtain ⟨octets, hoctets, others, hothers, rfl⟩ := h
      obtain ⟨hvalue, hvalues⟩ := List.forall_mem_cons.mp hreads
      obtain ⟨_, first, more, hfound, hmore, _⟩ := readAll_eq_cons htakes hread
      have hwithin : first ≤ front.length := ((htakes front).ensures _ hfound).2
      rw [List.flatten_cons] at hparts
      -- The first value read is the first there is, and ends where that does.
      have hwhole : decode (front ++ rest) = .ok (value, octets.length) := by
        rw [hparts]
        exact hvalue octets hoctets _
      cases hdecode.agrees hfound hwhole
      have hbehind : front.drop octets.length ++ rest = others.flatten := by
        rw [← List.drop_append_of_le_length hwithin, hparts, List.drop_left]
      obtain ⟨count, hcount, hsame⟩ :=
        readAll_cut htakes hdecode hothers hvalues hbehind hrest hmore
      refine ⟨count + 1, Nat.succ_lt_succ hcount, ?_⟩
      rw [List.take_succ_cons, hsame]

/-- **An object and the list of what belongs to it** are read of the whole as they are of the part:
the bracket that closes is the tag behind the list. -/
theorem readBracketed_append {object : ObjectIdentifier} {p₁ p₂ p₃ p₄ : Nat}
    (htakes : ∀ rest, Meets (decode rest) (Takes rest))
    (hfirst : ∀ {data decoded}, decode data = .ok decoded → HasTag data)
    (hdecode : SteadyBefore HasTag decode)
    (hobject : decodeContextObjectId front 0 = .ok (object, p₁))
    (hopen : openAt front p₁ 1 = .ok p₂)
    (hlist : readAt (readAll (isClosingTag · 1) decode) front p₂ = .ok (values, p₃))
    (hclose : closeAt front p₃ 1 = .ok p₄) (rest : Bytes) :
    decodeContextObjectId (front ++ rest) 0 = .ok (object, p₁)
      ∧ openAt (front ++ rest) p₁ 1 = .ok p₂
      ∧ readAt (readAll (isClosingTag · 1) decode) (front ++ rest) p₂ = .ok (values, p₃)
      ∧ closeAt (front ++ rest) p₃ 1 = .ok p₄ :=
  ⟨decodeContextObjectId_steady 0 front rest _ hobject, openAt_steady p₁ 1 front rest _ hopen,
    readAt_before (readAll_before htakes hfirst isClosingTag_append hdecode) hlist
      (hasTag_of_closeAt hclose) rest,
    closeAt_steady p₃ 1 front rest _ hclose⟩

end List

end BacnetRs.Encoding
