/-
  BacnetRs.Encoding.Consumption — every decoder moves on, and stays within.

  A decoder returns what it read and how many octets that took.  A loop over a
  list without a count stops because each round takes at least one octet: the
  tag alone is one.  What comes next is read from where the last value ended,
  and no decoder panics because none says it took more than there was.

    * `Takes`             — at least one octet, and no more than there are.
    * `decodeTag_bounds`  — what a header announces fits in 32 bits.
    * `readAt_meets`      — a field after others takes what follows them.
    * `readAll_eq`        — values until a stop are read round after round; the bound on
                            the rounds is never met.
-/
import BacnetRs.Encoding.Primitive

namespace BacnetRs.Encoding

open BacnetRs.Object Checked

/-! ## §1. Tags -/

/-- A decoder's result that took at least one octet. -/
def MovesOn {α : Type} (decoded : α × Nat) : Prop := 1 ≤ decoded.2

/-- A decoder's result that took at least one octet of `data`, and no more than it has. -/
def Takes {α : Type} (data : Bytes) (decoded : α × Nat) : Prop :=
  1 ≤ decoded.2 ∧ decoded.2 ≤ data.length

theorem movesOn_of_takes {α : Type} {data : Bytes} {x : Decoded (α × Nat)}
    (h : Meets x (Takes data)) : Ensures x MovesOn :=
  h.ensures.mono (fun _ htakes => htakes.1)

theorem readExtendedLength_within {data : Bytes} {offset length extra : Nat}
    (h : readExtendedLength data offset = .ok (length, extra)) : offset + extra ≤ data.length := by
  unfold readExtendedLength Octets.range? at h
  split at h
  · cases h
  · next first hfirst =>
      have hlt : offset < data.length := (List.getElem?_eq_some_iff.mp hfirst).1
      grind

theorem decodeTagValue_takes {data : Bytes} {isContext : Bool} {lvt tagNumber : UInt8}
    {start : Nat} {tag : BACnetTag} {length consumed : Nat} (hstart : start ≤ data.length)
    (h : decodeTagValue data isContext lvt tagNumber start = .ok (tag, length, consumed)) :
    start ≤ consumed ∧ consumed ≤ data.length := by
  unfold decodeTagValue at h
  simp only [bind, Except.bind, pure, Except.pure, throw, throwThe, MonadExceptOf.throw] at h
  cases hextended : readExtendedLength data start with
  | error e =>
      rw [hextended] at h
      grind
  | ok extended =>
      have hwithin := readExtendedLength_within hextended
      rw [hextended] at h
      grind

/-- A tag is at least one octet, and is there. -/
theorem decodeTag_takes {data : Bytes} {tag : BACnetTag} {length consumed : Nat}
    (h : decodeTag data = .ok (tag, length, consumed)) : 1 ≤ consumed ∧ consumed ≤ data.length := by
  unfold decodeTag at h
  cases data with
  | nil => cases h
  | cons tagByte rest =>
      simp only [List.head?_cons] at h
      split at h
      · split at h
        · cases h
        · cases rest with
          | nil => cases h
          | cons tagNumber rest =>
              have hlength : 2 ≤ (tagByte :: tagNumber :: rest).length := by simp
              obtain ⟨hlow, hhigh⟩ := decodeTagValue_takes hlength h
              exact ⟨by omega, hhigh⟩
      · exact decodeTagValue_takes (by simp) h

/-- An extended length is at most four octets' worth, and takes at most five. -/
theorem readExtendedLength_bounds {data : Bytes} {offset length extra : Nat}
    (h : readExtendedLength data offset = .ok (length, extra)) : length < 2 ^ 32 ∧ extra ≤ 5 := by
  unfold readExtendedLength at h
  split at h
  · cases h
  · next first _ =>
      split at h
      · have hbyte := first.toNat_lt
        cases h
        exact ⟨by omega, by omega⟩
      · -- Two octets, or four: a numeral of that many is below `256` to their number.
        have hnumeral : ∀ {stop : Nat} {octets : Bytes},
            Octets.range? data (offset + 1) stop = some octets → stop ≤ offset + 5 →
              Octets.beNat octets < 2 ^ 32 := by
          intro stop octets hoctets hstop
          have hlength : octets.length ≤ 4 := by
            unfold Octets.range? at hoctets
            split at hoctets
            · rw [← Option.some.inj hoctets, List.length_take]
              omega
            · cases hoctets
          calc Octets.beNat octets < 256 ^ octets.length := Octets.beNat_lt octets
            _ ≤ 256 ^ 4 := Nat.pow_le_pow_right (by omega) hlength
            _ = 2 ^ 32 := by decide
        split at h
        · split at h
          · cases h
          · next hoctets =>
              cases h
              exact ⟨hnumeral hoctets (by omega), by omega⟩
        · split at h
          · cases h
          · next hoctets =>
              cases h
              exact ⟨hnumeral hoctets (by omega), by omega⟩

theorem decodeTagValue_bounds {data : Bytes} {isContext : Bool} {lvt tagNumber : UInt8}
    {start : Nat} {tag : BACnetTag} {length consumed : Nat}
    (h : decodeTagValue data isContext lvt tagNumber start = .ok (tag, length, consumed)) :
    length < 2 ^ 32 ∧ consumed ≤ start + 5 := by
  have hnibble := lvt.toNat_lt
  unfold decodeTagValue at h
  simp only [bind, Except.bind, pure, Except.pure, throw, throwThe, MonadExceptOf.throw] at h
  cases hextended : readExtendedLength data start with
  | error e =>
      rw [hextended] at h
      grind
  | ok extended =>
      obtain ⟨hlength, hextra⟩ := readExtendedLength_bounds hextended
      rw [hextended] at h
      grind

/-- **A header announces less than 2³² octets**, and is at most seven itself. -/
theorem decodeTag_bounds {data : Bytes} {tag : BACnetTag} {length consumed : Nat}
    (h : decodeTag data = .ok (tag, length, consumed)) : length < 2 ^ 32 ∧ consumed ≤ 7 := by
  unfold decodeTag at h
  cases data with
  | nil => cases h
  | cons tagByte rest =>
      simp only [List.head?_cons] at h
      split at h
      · split at h
        · cases h
        · cases rest with
          | nil => cases h
          | cons tagNumber rest => exact decodeTagValue_bounds h
      · obtain ⟨hlength, hconsumed⟩ := decodeTagValue_bounds h
        exact ⟨hlength, by omega⟩

theorem decodeApplicationTag_takes {data : Bytes} {tag : ApplicationTag} {length consumed : Nat}
    (h : decodeApplicationTag data = .ok (tag, length, consumed)) :
    1 ≤ consumed ∧ consumed ≤ data.length := by
  unfold decodeApplicationTag at h
  split at h
  next heq =>
    cases h
    exact decodeTag_takes heq
  · cases h
  · cases h

theorem decodeContextTag_takes {data : Bytes} {tag : UInt8} {length consumed : Nat}
    (h : decodeContextTag data = .ok (tag, length, consumed)) :
    1 ≤ consumed ∧ consumed ≤ data.length := by
  unfold decodeContextTag at h
  split at h
  next heq =>
    cases h
    exact decodeTag_takes heq
  · cases h
  · cases h

theorem decodeOpeningTag_takes {data : Bytes} {expected : UInt8} {consumed : Nat}
    (h : decodeOpeningTag data expected = .ok consumed) :
    1 ≤ consumed ∧ consumed ≤ data.length := by
  unfold decodeOpeningTag at h
  split at h
  next heq =>
    split at h
    · cases h
      exact decodeTag_takes heq
    · cases h
  · cases h
  · cases h

theorem decodeClosingTag_takes {data : Bytes} {expected : UInt8} {consumed : Nat}
    (h : decodeClosingTag data expected = .ok consumed) :
    1 ≤ consumed ∧ consumed ≤ data.length := by
  unfold decodeClosingTag at h
  split at h
  next heq =>
    split at h
    · cases h
      exact decodeTag_takes heq
    · cases h
  · cases h
  · cases h

theorem expectApplicationTag_takes (data : Bytes) (expected : ApplicationTag) :
    Meets (expectApplicationTag data expected) (Takes data) := by
  unfold expectApplicationTag
  refine (meets_ofExcept (P := fun tag => 1 ≤ tag.2.2 ∧ tag.2.2 ≤ data.length)
    (fun _ h => decodeApplicationTag_takes h)).bind ?_
  rintro ⟨tag, length, consumed⟩ htakes
  exact meets_guard (fun _ => meets_ok htakes)

theorem expectContextTag_takes (data : Bytes) (expected : UInt8) :
    Meets (expectContextTag data expected) (Takes data) := by
  unfold expectContextTag
  refine (meets_ofExcept (P := fun tag => 1 ≤ tag.2.2 ∧ tag.2.2 ≤ data.length)
    (fun _ h => decodeContextTag_takes h)).bind ?_
  rintro ⟨tag, length, consumed⟩ htakes
  exact meets_guard (fun _ => meets_ok htakes)

/-! ## §2. Primitive values -/

theorem expectApplicationTag_eq_ok {data : Bytes} {expected : ApplicationTag}
    {length consumed : Nat} :
    expectApplicationTag data expected = .ok (length, consumed)
      ↔ decodeApplicationTag data = .ok (expected, length, consumed) := by
  unfold expectApplicationTag
  constructor
  · intro h
    obtain ⟨⟨tag, _, _⟩, htag, hrest⟩ := bind_eq_ok.mp h
    obtain ⟨hexpected, hlength⟩ := guard_eq_ok.mp hrest
    cases hlength
    rw [← not_not.mp hexpected]
    exact ofExcept_eq_ok.mp htag
  · intro h
    apply bind_eq_ok.mpr
    exact ⟨_, ofExcept_eq_ok.mpr h, guard_eq_ok.mpr ⟨not_not.mpr rfl, rfl⟩⟩

/-- What follows the tag only adds to what it took. -/
theorem takes_after_tag {α : Type} {data : Bytes} {expected : ApplicationTag}
    {f : Nat × Nat → Decoded (α × Nat)}
    (hf : ∀ length consumed, 1 ≤ consumed → consumed ≤ data.length →
      Meets (f (length, consumed)) (Takes data)) :
    Meets (expectApplicationTag data expected >>= f) (Takes data) :=
  (expectApplicationTag_takes data expected).bind (fun tag h => hf tag.1 tag.2 h.1 h.2)

theorem takes_after_context {α : Type} {data : Bytes} {expected : UInt8}
    {f : Nat × Nat → Decoded (α × Nat)}
    (hf : ∀ length consumed, 1 ≤ consumed → consumed ≤ data.length →
      Meets (f (length, consumed)) (Takes data)) :
    Meets (expectContextTag data expected >>= f) (Takes data) :=
  (expectContextTag_takes data expected).bind (fun tag h => hf tag.1 tag.2 h.1 h.2)

/-- The value that follows its tag, when it is there. -/
theorem takes_ok {α : Type} {data : Bytes} {value : α} {consumed more : Nat} (h : 1 ≤ consumed)
    (hmore : consumed + more ≤ data.length) :
    Meets (.ok (value, consumed + more) : Decoded (α × Nat)) (Takes data) :=
  meets_ok ⟨Nat.le_trans h (Nat.le_add_right consumed more), hmore⟩

theorem takes_map {α β : Type} {f : α → β} {data : Bytes} {decoded : Decoded (α × Nat)}
    (h : Meets decoded (Takes data)) : Meets (Prod.map f id <$> decoded) (Takes data) :=
  Meets.map (R := Takes data) h

theorem decodeBoolean_takes (data : Bytes) : Meets (decodeBoolean data) (Takes data) := by
  refine takes_after_tag (fun length consumed h hwithin => ?_)
  match length with
  | 0 => exact meets_ok ⟨h, hwithin⟩
  | 1 => exact meets_ok ⟨h, hwithin⟩
  | length + 2 => exact meets_fail _

theorem decodeUnsigned32_takes (data : Bytes) (expected : ApplicationTag) :
    Meets (decodeUnsigned32 data expected) (Takes data) := by
  refine takes_after_tag (fun length consumed h _ => meets_guard (fun hlength => ?_))
  split
  · exact (Octets.natAt_meets (by omega)).bind (fun _ _ => takes_ok h (by omega))
  · exact meets_fail _

theorem decodeUnsigned64_takes (data : Bytes) : Meets (decodeUnsigned64 data) (Takes data) :=
  takes_after_tag (fun _ _ h _ => meets_guard (fun _ => meets_guard (fun _ =>
    (Octets.natAt_meets (by omega)).bind (fun _ _ => takes_ok h (by omega)))))

theorem decodeSigned64_takes (data : Bytes) : Meets (decodeSigned64 data) (Takes data) :=
  takes_after_tag (fun _ _ h _ => meets_guard (fun _ => meets_guard (fun _ =>
    (Octets.index_meets (by omega)).bind (fun _ _ =>
      (Octets.range_meets (by omega) (by omega)).bind (fun _ _ => takes_ok h (by omega))))))

theorem decodeSigned_takes (data : Bytes) : Meets (decodeSigned data) (Takes data) := by
  refine takes_after_tag (fun length consumed h _ => meets_guard (fun hlength => ?_))
  split
  · exact (Octets.index_meets (by omega)).bind (fun _ _ =>
      (Octets.range_meets (by omega) (by omega)).bind (fun _ _ => takes_ok h (by omega)))
  · exact meets_fail _

theorem decodeReal_takes (data : Bytes) : Meets (decodeReal data) (Takes data) :=
  takes_after_tag (fun _ _ h _ => meets_guard (fun _ => meets_guard (fun _ =>
    (Octets.natAt_meets (by omega)).bind (fun _ _ => takes_ok h (by omega)))))

theorem decodeDouble_takes (data : Bytes) : Meets (decodeDouble data) (Takes data) :=
  takes_after_tag (fun _ _ h _ => meets_guard (fun _ =>
    (Octets.natAt_meets (by omega)).bind (fun _ _ => takes_ok h (by omega))))

theorem decodeOctetString_takes (data : Bytes) : Meets (decodeOctetString data) (Takes data) :=
  takes_after_tag (fun _ _ h _ => meets_guard (fun _ =>
    (Octets.range_meets (by omega) (by omega)).bind (fun _ _ => takes_ok h (by omega))))

theorem decodeCharacterString_takes (data : Bytes) :
    Meets (decodeCharacterString data) (Takes data) := by
  refine takes_after_tag (fun length consumed h _ => meets_guard (fun hlength => ?_))
  refine (Octets.index_meets (by omega)).bind (fun octet _ => ?_)
  refine (meets_ofExcept (fun _ _ => trivial)).bind (fun set _ => ?_)
  refine (Octets.range_meets (by omega) (by omega)).bind (fun text _ => ?_)
  exact (meets_ofExcept (fun _ _ => trivial)).bind (fun _ _ => takes_ok h (by omega))

theorem decodeBitString_takes (data : Bytes) : Meets (decodeBitString data) (Takes data) := by
  refine takes_after_tag (fun length consumed h _ => meets_guard (fun hlength => ?_))
  refine (Octets.index_meets (by omega)).bind (fun unusedBits _ => meets_guard (fun _ => ?_))
  exact (Octets.range_meets (by omega) (by omega)).bind (fun _ _ => takes_ok h (by omega))

theorem decodeDate_takes (data : Bytes) : Meets (decodeDate data) (Takes data) := by
  refine takes_after_tag (fun length consumed h _ => meets_guard (fun hlength => ?_))
  refine (Octets.index_meets (by omega)).bind (fun year _ => ?_)
  refine (Octets.index_meets (by omega)).bind (fun month _ => ?_)
  refine (Octets.index_meets (by omega)).bind (fun day _ => ?_)
  exact (Octets.index_meets (by omega)).bind (fun _ _ => takes_ok h (by omega))

theorem decodeTime_takes (data : Bytes) : Meets (decodeTime data) (Takes data) := by
  refine takes_after_tag (fun length consumed h _ => meets_guard (fun hlength => ?_))
  refine (Octets.index_meets (by omega)).bind (fun hour _ => ?_)
  refine (Octets.index_meets (by omega)).bind (fun minute _ => ?_)
  refine (Octets.index_meets (by omega)).bind (fun second _ => ?_)
  exact (Octets.index_meets (by omega)).bind (fun _ _ => takes_ok h (by omega))

theorem decodeObjectIdentifier_takes (data : Bytes) :
    Meets (decodeObjectIdentifier data) (Takes data) :=
  takes_after_tag (fun _ _ h _ => meets_guard (fun _ =>
    (Octets.natAt_meets (by omega)).bind (fun _ _ => takes_ok h (by omega))))

theorem decodeContextUnsigned_takes (data : Bytes) (expectedTag : UInt8) :
    Meets (decodeContextUnsigned data expectedTag) (Takes data) := by
  refine takes_after_context (fun length consumed h _ => meets_guard (fun hlength => ?_))
  split
  · exact (Octets.natAt_meets (by omega)).bind (fun _ _ => takes_ok h (by omega))
  · exact meets_fail _

theorem decodeContextObjectId_takes (data : Bytes) (expectedTag : UInt8) :
    Meets (decodeContextObjectId data expectedTag) (Takes data) :=
  takes_after_context (fun _ _ h _ => meets_guard (fun _ => meets_guard (fun _ =>
    (Octets.natAt_meets (by omega)).bind (fun _ _ => takes_ok h (by omega)))))

theorem decodeContextBoolean_takes (data : Bytes) (expectedTag : UInt8) :
    Meets (decodeContextBoolean data expectedTag) (Takes data) := by
  unfold decodeContextBoolean
  refine (meets_ofExcept (P := fun tag => 1 ≤ tag.2.2 ∧ tag.2.2 ≤ data.length)
    (fun _ h => decodeContextTag_takes h)).bind ?_
  rintro ⟨tag, length, consumed⟩ ⟨hconsumed, _⟩
  refine meets_guard (fun _ => ?_)
  refine (meets_orFail (P := fun _ => consumed + 1 ≤ data.length) ?_).bind
    (fun octet hwithin => ?_)
  · intro octet hoctet
    exact (List.getElem?_eq_some_iff.mp hoctet).1
  · split
    · exact takes_ok hconsumed hwithin
    · exact takes_ok hconsumed hwithin
    · exact meets_fail _

theorem decodeContextReal_takes (data : Bytes) (expectedTag : UInt8) :
    Meets (decodeContextReal data expectedTag) (Takes data) := by
  refine takes_after_context (fun length consumed h _ => meets_guard (fun _ => ?_))
  refine (meets_orFail (P := fun _ => consumed + 4 ≤ data.length) ?_).bind
    (fun _ hwithin => takes_ok h hwithin)
  intro octets hoctets
  exact (Octets.range?_within hoctets).2

/-- An identifier that was decoded has an encoding. -/
theorem decodeContextObjectId_fits (data : Bytes) (expectedTag : UInt8) :
    Ensures (decodeContextObjectId data expectedTag) (fun decoded => decoded.1.fits = true) :=
  ensures_bind (fun _ => ensures_guard (ensures_guard (ensures_bind (fun _ =>
    ensures_ok (ObjectIdentifier.fits_ofUInt32 _)))))

/-! ## §3. Fields one after another -/

/-- Further into `data` than `consumed`, and still within it. -/
def Advances {α : Type} (data : Bytes) (consumed : Nat) (decoded : α × Nat) : Prop :=
  consumed < decoded.2 ∧ decoded.2 ≤ data.length

/-- **A field after others takes what follows them.** -/
theorem readAt_meets {α : Type} {decode : Bytes → Decoded (α × Nat)} {data : Bytes}
    {consumed : Nat} (hdecode : ∀ rest, Meets (decode rest) (Takes rest))
    (h : consumed ≤ data.length) :
    Meets (readAt decode data consumed) (Advances data consumed) := by
  refine (Octets.dropFrom_meets h).bind (fun rest hrest => ?_)
  refine (hdecode rest).bind ?_
  rintro ⟨value, length⟩ ⟨hlow, hhigh⟩
  exact meets_ok ⟨by simp only at *; omega, by simp only at *; omega⟩

theorem openAt_meets {data : Bytes} {consumed : Nat} (tag : UInt8) (h : consumed ≤ data.length) :
    Meets (openAt data consumed tag) (fun next => consumed < next ∧ next ≤ data.length) := by
  refine (Octets.dropFrom_meets h).bind (fun rest hrest => ?_)
  refine (meets_ofExcept (fun _ h => decodeOpeningTag_takes h)).bind ?_
  rintro length ⟨hlow, hhigh⟩
  exact meets_ok ⟨by omega, by omega⟩

theorem closeAt_meets {data : Bytes} {consumed : Nat} (tag : UInt8) (h : consumed ≤ data.length) :
    Meets (closeAt data consumed tag) (fun next => consumed < next ∧ next ≤ data.length) := by
  refine (Octets.dropFrom_meets h).bind (fun rest hrest => ?_)
  refine (meets_ofExcept (fun _ h => decodeClosingTag_takes h)).bind ?_
  rintro length ⟨hlow, hhigh⟩
  exact meets_ok ⟨by omega, by omega⟩

/-- An optional field takes nothing when it is not there. -/
theorem readOptionalAt_meets {α : Type} {present : Bytes → Bool}
    {decode : Bytes → Decoded (α × Nat)} {data : Bytes} {consumed : Nat}
    (hdecode : ∀ rest, Meets (decode rest) (Takes rest)) (h : consumed ≤ data.length) :
    Meets (readOptionalAt present decode data consumed)
      (fun decoded => consumed ≤ decoded.2 ∧ decoded.2 ≤ data.length) := by
  refine (Octets.dropFrom_meets h).bind (fun rest hrest => ?_)
  split
  · refine (hdecode rest).bind ?_
    rintro ⟨value, length⟩ ⟨_, hhigh⟩
    exact meets_ok ⟨by simp only; omega, by simp only at *; omega⟩
  · exact meets_ok ⟨Nat.le_refl _, h⟩

/-! ## §4. Values until a stop -/

/-- Steps that agree wherever the first succeeds make the same computation. -/
theorem bind_congr_of_ensures {α β : Type} {x : Decoded α} {P : α → Prop} {f g : α → Decoded β}
    (hx : Ensures x P) (hfg : ∀ a, P a → f a = g a) : x >>= f = x >>= g := by
  cases hxa : x with
  | error fault => rfl
  | ok a => exact hfg a (hx a hxa)

/-- A computation that more fuel never changes beyond `bound` has settled there. -/
theorem settled_of_succ {β : Type} {f : Nat → β} {bound : Nat}
    (hsucc : ∀ {fuel : Nat}, bound < fuel → f (fuel + 1) = f fuel) {fuel : Nat}
    (h : bound < fuel) : f fuel = f (bound + 1) := by
  induction h with
  | refl => rfl
  | step hle ih => rw [hsucc hle, ih]

section ReadAll

variable {α : Type} {stop : Bytes → Bool} {decode : Bytes → Decoded (α × Nat)}

theorem readUntil_succ (hdecode : ∀ rest, Meets (decode rest) (Takes rest)) :
    ∀ {fuel : Nat} {data : Bytes}, data.length < fuel →
      readUntil stop decode (fuel + 1) data = readUntil stop decode fuel data
  | 0, _, h => absurd h (Nat.not_lt_zero _)
  | fuel + 1, data, h => by
      unfold readUntil
      split
      · rfl
      · refine bind_congr_of_ensures (hdecode data).ensures ?_
        rintro ⟨value, length⟩ ⟨hlength, _⟩
        refine bind_congr_of_ensures (Octets.dropFrom_ensures data length) (fun rest hrest => ?_)
        simp only at *
        rw [readUntil_succ hdecode (by omega)]

theorem readUntil_of_lt (hdecode : ∀ rest, Meets (decode rest) (Takes rest)) {data : Bytes}
    {fuel : Nat} (h : data.length < fuel) :
    readUntil stop decode fuel data = readAll stop decode data :=
  settled_of_succ (f := fun fuel => readUntil stop decode fuel data)
    (readUntil_succ hdecode) h

/-- **Round after round**: the bound on the rounds is never met. -/
theorem readAll_eq (hdecode : ∀ rest, Meets (decode rest) (Takes rest)) (data : Bytes) :
    readAll stop decode data
      = if stop data then .ok ([], 0)
        else do
          let (value, length) ← decode data
          let rest ← Octets.dropFrom data length
          let (values, more) ← readAll stop decode rest
          return (value :: values, length + more) := by
  rw [readAll, readUntil]
  split
  · rfl
  · refine bind_congr_of_ensures (hdecode data).ensures ?_
    rintro ⟨value, length⟩ ⟨hlength, _⟩
    refine bind_congr_of_ensures (Octets.dropFrom_ensures data length) (fun rest hrest => ?_)
    simp only at *
    rw [readUntil_of_lt hdecode (by omega)]

theorem readUntil_meets {P : α → Prop} (hdecode : ∀ rest, Meets (decode rest) (Takes rest))
    (hP : ∀ rest, Ensures (decode rest) (fun decoded => P decoded.1)) :
    ∀ (fuel : Nat) (data : Bytes), Meets (readUntil stop decode fuel data)
      (fun decoded => decoded.2 ≤ data.length ∧ ∀ value ∈ decoded.1, P value)
  | 0, _ => meets_fail _
  | fuel + 1, data => by
      unfold readUntil
      split
      · exact meets_ok ⟨Nat.zero_le _, fun _ h => absurd h List.not_mem_nil⟩
      · refine ((hdecode data).and (hP data)).bind ?_
        rintro ⟨value, length⟩ ⟨⟨_, hlength⟩, hvalue⟩
        refine (Octets.dropFrom_meets hlength).bind (fun rest hrest => ?_)
        refine (readUntil_meets hdecode hP fuel rest).bind ?_
        rintro ⟨values, more⟩ ⟨hmore, hvalues⟩
        exact meets_ok ⟨by simp only at *; omega, List.forall_mem_cons.mpr ⟨hvalue, hvalues⟩⟩

/-- Every value read satisfies what a round ensures. -/
theorem readAll_meets_all {P : α → Prop} (hdecode : ∀ rest, Meets (decode rest) (Takes rest))
    (hP : ∀ rest, Ensures (decode rest) (fun decoded => P decoded.1)) (data : Bytes) :
    Meets (readAll stop decode data)
      (fun decoded => decoded.2 ≤ data.length ∧ ∀ value ∈ decoded.1, P value) :=
  readUntil_meets hdecode hP _ data

theorem readAll_meets (hdecode : ∀ rest, Meets (decode rest) (Takes rest)) (data : Bytes) :
    Meets (readAll stop decode data) (fun decoded => decoded.2 ≤ data.length) :=
  (readAll_meets_all (P := fun _ => True) hdecode (fun _ _ _ => trivial) data).mono
    (fun _ h => h.1)

/-- Values until a stop, after other fields. -/
theorem readAllAt_meets (hdecode : ∀ rest, Meets (decode rest) (Takes rest)) {data : Bytes}
    {consumed : Nat} (h : consumed ≤ data.length) :
    Meets (readAt (readAll stop decode) data consumed)
      (fun decoded => consumed ≤ decoded.2 ∧ decoded.2 ≤ data.length) := by
  refine (Octets.dropFrom_meets h).bind (fun rest hrest => ?_)
  refine (readAll_meets hdecode rest).bind ?_
  rintro ⟨values, length⟩ hlength
  exact meets_ok ⟨by simp only; omega, by simp only at *; omega⟩

end ReadAll

end BacnetRs.Encoding
