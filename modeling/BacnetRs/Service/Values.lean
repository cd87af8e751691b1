/-
  BacnetRs.Service.Values — the values of a property inside a request
  (`service/mod.rs`).

  A request brackets the values of a property by an opening and a closing tag,
  and they may hold brackets of their own.  Where the bracket closes is found by
  keeping the tags that are open; what is inside is decoded by the property it
  belongs to, and failing that as whatever parses.

    * `findConstructedValueEnd_meets` — the end is found within the data, and
                            nothing panics on the way.
    * `findEnd_succ`      — the bound on the rounds is never met.
-/
import BacnetRs.Property.Datatype

namespace BacnetRs.Service

open BacnetRs.Encoding BacnetRs.Object BacnetRs.Property

/-! ## §1. Where a bracket closes -/

/-- Where the tag, or the primitive value, at `position` ends, and the tags open then;
`none` when it closes the last of them. -/
def findStep (data : Bytes) (position : Nat) (openTags : List UInt8) :
    Decoded (Option (Nat × List UInt8)) := do
  let rest ← Octets.dropFrom data position
  let (tag, length, headerLength) ← Checked.ofExcept (decodeTag rest)
  match tag with
  | .application _ =>
      let (_, consumed) ← decodePropertyValue rest
      return some (position + consumed, openTags)
  | .opening tagNumber => return some (position + headerLength, tagNumber :: openTags)
  | .closing tagNumber =>
      match openTags with
      | [] => Checked.fail .invalidTag
      | last :: outer =>
          if last ≠ tagNumber then Checked.fail .invalidTag
          if outer.isEmpty then return none
          return some (position + headerLength, outer)
  | .context _ =>
      if data.length < position + headerLength + length then Checked.fail .bufferUnderflow
      return some (position + headerLength + length, openTags)

/-- The loop of `find_constructed_value_end`.  The first argument bounds the rounds. -/
def findEnd (data : Bytes) : Nat → Nat → List UInt8 → Decoded Nat
  | 0, _, _ => Checked.fail .unexpectedEndOfData
  | fuel + 1, position, openTags =>
      if position < data.length then do
        match ← findStep data position openTags with
        | none => return position
        | some (next, openTags) => findEnd data fuel next openTags
      else Checked.fail .invalidTag

/-- `find_constructed_value_end`. -/
def findConstructedValueEnd (data : Bytes) (position : Nat) (outerTag : UInt8) : Decoded Nat :=
  findEnd data (data.length + 1) position [outerTag]

/-- A round moves on, and stays within. -/
theorem findStep_meets {data : Bytes} {position : Nat} (openTags : List UInt8)
    (h : position < data.length) :
    Checked.Meets (findStep data position openTags)
      (fun step => ∀ next, step = some next → position < next.1 ∧ next.1 ≤ data.length) := by
  refine (Octets.dropFrom_meets (Nat.le_of_lt h)).bind (fun rest hrest => ?_)
  refine (Checked.meets_ofExcept (P := fun tag => 1 ≤ tag.2.2 ∧ tag.2.2 ≤ rest.length)
    (fun _ h => decodeTag_takes h)).bind ?_
  rintro ⟨tag, length, headerLength⟩ ⟨hlow, hhigh⟩
  simp only at *
  have hheader : position < position + headerLength ∧ position + headerLength ≤ data.length :=
    ⟨by omega, by omega⟩
  cases tag with
  | application tag =>
      refine (decodePropertyValue_takes rest).bind ?_
      rintro ⟨value, consumed⟩ ⟨hvalue, hwithin⟩
      refine Checked.meets_ok ?_
      rintro next ⟨rfl⟩
      exact ⟨by simp only at *; omega, by simp only at *; omega⟩
  | opening tagNumber =>
      refine Checked.meets_ok ?_
      rintro next ⟨rfl⟩
      exact hheader
  | closing tagNumber =>
      cases openTags with
      | nil => exact Checked.meets_fail _
      | cons last outer =>
          refine Checked.meets_guard (fun _ => ?_)
          cases outer with
          | nil => exact Checked.meets_ok (fun next hnext => by cases hnext)
          | cons _ _ =>
              refine Checked.meets_ok ?_
              rintro next ⟨rfl⟩
              exact hheader
  | context tagNumber =>
      refine Checked.meets_guard (fun hlength => Checked.meets_ok ?_)
      rintro next ⟨rfl⟩
      exact ⟨by simp only; omega, by simp only; omega⟩

theorem findEnd_meets (data : Bytes) : ∀ (fuel position : Nat) (openTags : List UInt8),
    Checked.Meets (findEnd data fuel position openTags)
      (fun found => position ≤ found ∧ found < data.length)
  | 0, _, _ => Checked.meets_fail _
  | fuel + 1, position, openTags => by
      unfold findEnd
      split
      · next h =>
          refine (findStep_meets openTags h).bind ?_
          rintro (_ | ⟨next, openTags'⟩) hstep
          · exact Checked.meets_ok ⟨Nat.le_refl _, h⟩
          · obtain ⟨hnext, _⟩ := hstep _ rfl
            refine (findEnd_meets data fuel next openTags').mono ?_
            rintro found ⟨hlow, hhigh⟩
            exact ⟨Nat.le_trans (Nat.le_of_lt hnext) hlow, hhigh⟩
      · exact Checked.meets_fail _

/-- **The end is within the data.** -/
theorem findConstructedValueEnd_meets (data : Bytes) (position : Nat) (outerTag : UInt8) :
    Checked.Meets (findConstructedValueEnd data position outerTag)
      (fun found => position ≤ found ∧ found < data.length) :=
  findEnd_meets data _ position [outerTag]

/-- **More rounds never change the end found**, once there is one for each octet left. -/
theorem findEnd_succ (data : Bytes) : ∀ {fuel position : Nat} (openTags : List UInt8),
    position ≤ data.length → data.length < fuel + position →
      findEnd data (fuel + 1) position openTags = findEnd data fuel position openTags
  | 0, position, _, hposition, h => absurd hposition (by omega)
  | fuel + 1, position, openTags, _, h => by
      rw [findEnd, findEnd]
      split
      · next hlt =>
          refine bind_congr_of_ensures (findStep_meets openTags hlt).ensures ?_
          rintro (_ | ⟨next, openTags'⟩) hstep
          · rfl
          · obtain ⟨hnext, hwithin⟩ := hstep _ rfl
            exact findEnd_succ data openTags' hwithin (by simp only at hnext; omega)
      · rfl

/-- **The bound on the rounds is never met**: any bound above the octets finds the same end. -/
theorem findEnd_of_lt {data : Bytes} {fuel : Nat} (h : data.length < fuel) (position : Nat)
    (outerTag : UInt8) :
    findEnd data fuel position [outerTag] = findConstructedValueEnd data position outerTag := by
  refine settled_of_succ (f := fun fuel => findEnd data fuel position [outerTag]) ?_ h
  intro fuel hfuel
  by_cases hposition : position ≤ data.length
  · exact findEnd_succ data [outerTag] hposition (by omega)
  · -- A start behind the data fails in its first round.
    obtain ⟨rounds, rfl⟩ : ∃ rounds, fuel = rounds + 1 := ⟨fuel - 1, by omega⟩
    have hbehind : ¬ position < data.length := by omega
    simp only [findEnd]
    rw [if_neg hbehind, if_neg hbehind]

/-! ## §2. The values inside -/

/-- What is kept of a value that only its property could explain: its octets as they are. -/
def rawValue (data : Bytes) (end_ : Nat) : Decoded (PropertyValue × Nat) := do
  let raw ← Checked.orFail .bufferUnderflow (Octets.range? data 0 end_)
  return (.unknown raw, end_)

/-- A round of `decode_property_result_values`. -/
def decodeResultValue (data : Bytes) : Decoded (PropertyValue × Nat) := do
  let (tag, length, headerLength) ← Checked.ofExcept (decodeTag data)
  match tag with
  | .application _ => decodePropertyValue data
  | .closing _ => Checked.fail .invalidTag
  | .opening tagNumber =>
      let closing ← findConstructedValueEnd data headerLength tagNumber
      let rest ← Octets.dropFrom data closing
      let (_, _, closingLength) ← Checked.ofExcept (decodeTag rest)
      rawValue data (closing + closingLength)
  | .context _ => rawValue data (headerLength + length)

/-- `decode_property_result_values`. -/
def decodePropertyResultValues (data : Bytes) : Decoded (List PropertyValue) :=
  Prod.fst <$> readAll List.isEmpty decodeResultValue data

/-- `decode_values_for`: by the property's datatype, and failing that whatever parses. -/
def decodeValuesFor (property : PropertyIdentifier) (encoded : Bytes) :
    Decoded (List PropertyValue) :=
  match datatype property with
  | some datatype =>
      if datatype.element ≠ .any then
        match datatype.element.decodeAll encoded with
        -- What the element's decoder refuses is read once more as values of any type.
        | .error (.error _) => decodePropertyResultValues encoded
        | decoded => decoded
      else decodePropertyResultValues encoded
  | none => decodePropertyResultValues encoded

theorem rawValue_takes {data : Bytes} {end_ : Nat} (h : 1 ≤ end_) :
    Checked.Meets (rawValue data end_) (Takes data) := by
  refine (Checked.meets_orFail (P := fun _ => end_ ≤ data.length) ?_).bind
    (fun _ hwithin => Checked.meets_ok ⟨h, hwithin⟩)
  intro raw hraw
  exact (Octets.range?_within hraw).2

theorem decodeResultValue_takes (data : Bytes) :
    Checked.Meets (decodeResultValue data) (Takes data) := by
  refine (Checked.meets_ofExcept (P := fun tag => 1 ≤ tag.2.2 ∧ tag.2.2 ≤ data.length)
    (fun _ h => decodeTag_takes h)).bind ?_
  rintro ⟨tag, length, headerLength⟩ ⟨hlow, hhigh⟩
  simp only at *
  cases tag with
  | application tag => exact decodePropertyValue_takes data
  | closing tagNumber => exact Checked.meets_fail _
  | opening tagNumber =>
      refine (findConstructedValueEnd_meets data headerLength tagNumber).bind ?_
      rintro closing ⟨hclosing, hwithin⟩
      refine (Octets.dropFrom_meets (Nat.le_of_lt hwithin)).bind (fun rest _ => ?_)
      refine (Checked.meets_ofExcept (fun _ _ => trivial)).bind ?_
      rintro ⟨_, _, closingLength⟩ _
      exact rawValue_takes (by omega)
  | context tagNumber => exact rawValue_takes (by omega)

theorem decodePropertyResultValues_meets (data : Bytes) :
    Checked.Meets (decodePropertyResultValues data) (fun _ => True) :=
  ((readAll_meets decodeResultValue_takes data).mono (fun _ _ => trivial)).map

/-- **Decoding the values of a property does not panic.** -/
theorem decodeValuesFor_meets (property : PropertyIdentifier) (encoded : Bytes) :
    Checked.Meets (decodeValuesFor property encoded) (fun _ => True) := by
  unfold decodeValuesFor
  cases datatype property with
  | none => exact decodePropertyResultValues_meets encoded
  | some datatype =>
      simp only
      split
      · rcases (datatype.element.decodeAll_meets encoded).cases with ⟨values, hvalues, _⟩ | ⟨e, he⟩
        · rw [hvalues]
          exact Checked.meets_ok trivial
        · rw [he]
          exact decodePropertyResultValues_meets encoded
      · exact decodePropertyResultValues_meets encoded

end BacnetRs.Service
