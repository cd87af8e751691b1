/-
  BacnetRs.Service.ReadResponse — the answers to ReadProperty and
  ReadPropertyMultiple, as a client decodes them (`service/mod.rs`).

  The values of a property are bracketed, and decoded by the property they
  belong to.  An answer to ReadPropertyMultiple has for each property its values
  or the error that reading it met.

    * `PropertyResult.decode_takes`, `ReadAccessResult.decode_takes` — each takes
                            at least one octet, and no more than there are.
-/
import BacnetRs.Service.ReadProperty
import BacnetRs.Service.Values

namespace BacnetRs.Service

open BacnetRs.Encoding BacnetRs.Object BacnetRs.Property

/-! ## §1. Decoding -/

/-- `BACNET_ARRAY_ALL`: the index of a whole array. -/
def bacnetArrayAll : UInt32 := 0xFFFFFFFF

/-- An array index of a ReadProperty answer: one that does not decode is not there. -/
def readIndexAt (data : Bytes) (pos : Nat) (tag : UInt8) : Decoded (Option UInt32 × Nat) := do
  let rest ← Octets.dropFrom data pos
  match decodeContextUnsigned rest tag with
  | .ok (index, consumed) =>
      return (if index = bacnetArrayAll then none else some index, pos + consumed)
  | .error (.error _) => return (none, pos)
  | .error .panic => .error .panic

/-- The values of a property up to closing tag `tag`, and where that begins. -/
def readValuesAt (property : PropertyIdentifier) (data : Bytes) (pos : Nat) (tag : UInt8) :
    Decoded (List PropertyValue × Nat) := do
  let valueEnd ← findConstructedValueEnd data pos tag
  let encoded ← Octets.range data pos valueEnd
  let values ← decodeValuesFor property encoded
  return (values, valueEnd)

/-- `ReadPropertyResponse::decode`. -/
def ReadPropertyResponse.decode (data : Bytes) : Decoded ReadPropertyResponse := do
  let (objectIdentifier, pos) ← decodeContextObjectId data 0
  let (propertyIdentifier, pos) ← readAt (decodeContextUnsigned · 1) data pos
  let (propertyArrayIndex, pos) ← readIndexAt data pos 2
  let pos ← openAt data pos 3
  let (propertyValues, pos) ← readValuesAt ⟨propertyIdentifier⟩ data pos 3
  let _ ← closeAt data pos 3
  return ⟨objectIdentifier, ⟨propertyIdentifier⟩, propertyArrayIndex, propertyValues⟩

/-- The values or the error of a property, in their brackets. -/
def PropertyResultValue.decodeAt (property : PropertyIdentifier) (data : Bytes) (pos : Nat) :
    Decoded (PropertyResultValue × Nat) := do
  let rest ← Octets.dropFrom data pos
  let (tag, _, consumed) ← Checked.ofExcept (decodeTag rest)
  let pos := pos + consumed
  match tag with
  | .opening 4 =>
      let (values, pos) ← readValuesAt property data pos 4
      let pos ← closeAt data pos 4
      return (.value values, pos)
  | .opening 5 =>
      let (errorClass, pos) ← readAt decodeEnumerated data pos
      let (errorCode, pos) ← readAt decodeEnumerated data pos
      let pos ← closeAt data pos 5
      return (.error errorClass errorCode, pos)
  | _ => Checked.fail .invalidTag

/-- `PropertyResult::decode`. -/
def PropertyResult.decode (data : Bytes) : Decoded (PropertyResult × Nat) := do
  let (propertyIdentifier, pos) ← decodeContextUnsigned data 2
  let (arrayIndex, pos) ← readOptionalAt (isContextTag · 3) (decodeContextUnsigned · 3) data pos
  let (value, pos) ← PropertyResultValue.decodeAt ⟨propertyIdentifier⟩ data pos
  return (⟨⟨propertyIdentifier⟩, arrayIndex, value⟩, pos)

/-- A tag closes the results when it decodes as the closing one. -/
def closesResults (rest : Bytes) : Bool := (decodeClosingTag rest 1).isOk

/-- `ReadAccessResult::decode`. -/
def ReadAccessResult.decode (data : Bytes) : Decoded (ReadAccessResult × Nat) := do
  let (objectIdentifier, pos) ← decodeContextObjectId data 0
  let pos ← openAt data pos 1
  let (results, pos) ← readAt (readAll closesResults PropertyResult.decode) data pos
  let pos ← closeAt data pos 1
  return (⟨objectIdentifier, results⟩, pos)

/-- `ReadPropertyMultipleResponse::decode`. -/
def ReadPropertyMultipleResponse.decode (data : Bytes) : Decoded ReadPropertyMultipleResponse := do
  let (results, _) ← readAll List.isEmpty ReadAccessResult.decode data
  return ⟨results⟩

/-! ## §2. Decoding does not panic -/

section Meets

open Checked

theorem readIndexAt_meets {data : Bytes} {pos : Nat} (tag : UInt8) (h : pos ≤ data.length) :
    Meets (readIndexAt data pos tag)
      (fun decoded => pos ≤ decoded.2 ∧ decoded.2 ≤ data.length) := by
  refine (Octets.dropFrom_meets h).bind (fun rest hrest => ?_)
  rcases (decodeContextUnsigned_takes rest tag).cases with ⟨⟨index, consumed⟩, hok, htakes⟩ | ⟨e, he⟩
  · rw [hok]
    obtain ⟨_, hwithin⟩ := htakes
    exact meets_ok ⟨by simp only; omega, by simp only at *; omega⟩
  · rw [he]
    exact meets_ok ⟨Nat.le_refl _, h⟩

theorem readValuesAt_meets (property : PropertyIdentifier) (data : Bytes) (pos : Nat)
    (tag : UInt8) : Meets (readValuesAt property data pos tag)
      (fun decoded => pos ≤ decoded.2 ∧ decoded.2 ≤ data.length) := by
  refine (findConstructedValueEnd_meets data pos tag).bind ?_
  rintro valueEnd ⟨hpos, hwithin⟩
  refine (Octets.range_meets hpos (Nat.le_of_lt hwithin)).bind (fun encoded _ => ?_)
  refine (decodeValuesFor_meets property encoded).bind (fun values _ => ?_)
  exact meets_ok ⟨hpos, Nat.le_of_lt hwithin⟩

theorem ReadPropertyResponse.decode_meets (data : Bytes) :
    Meets (ReadPropertyResponse.decode data) (fun _ => True) := by
  refine (decodeContextObjectId_takes data 0).bind ?_
  rintro ⟨object, p₁⟩ ⟨_, hobject⟩
  refine (readAt_meets (decodeContextUnsigned_takes · 1) hobject).bind ?_
  rintro ⟨property, p₂⟩ ⟨_, hproperty⟩
  refine (readIndexAt_meets 2 hproperty).bind ?_
  rintro ⟨index, p₃⟩ ⟨_, hindex⟩
  refine (openAt_meets 3 hindex).bind (fun p₄ hopened => ?_)
  refine (readValuesAt_meets ⟨property⟩ data p₄ 3).bind ?_
  rintro ⟨values, p₅⟩ ⟨_, hvalues⟩
  refine (closeAt_meets 3 hvalues).bind (fun p₆ _ => ?_)
  exact meets_ok trivial

theorem PropertyResultValue.decodeAt_meets (property : PropertyIdentifier) {data : Bytes}
    {pos : Nat} (h : pos ≤ data.length) :
    Meets (PropertyResultValue.decodeAt property data pos) (Advances data pos) := by
  refine (Octets.dropFrom_meets h).bind (fun rest hrest => ?_)
  refine (meets_ofExcept (P := fun tag => 1 ≤ tag.2.2 ∧ tag.2.2 ≤ rest.length)
    (fun _ h => decodeTag_takes h)).bind ?_
  rintro ⟨tag, _, consumed⟩ ⟨hlow, hhigh⟩
  simp only at *
  have hopened : pos + consumed ≤ data.length := by omega
  split
  · refine (readValuesAt_meets property data (pos + consumed) 4).bind ?_
    rintro ⟨values, next⟩ ⟨hnext, hvalues⟩
    refine (closeAt_meets 4 hvalues).bind (fun closed hclosed => ?_)
    exact meets_ok ⟨by simp only at *; omega, hclosed.2⟩
  · refine (readAt_meets (decodeUnsigned32_takes · .enumerated) hopened).bind ?_
    rintro ⟨errorClass, p₁⟩ ⟨hclass, hclassWithin⟩
    refine (readAt_meets (decodeUnsigned32_takes · .enumerated) hclassWithin).bind ?_
    rintro ⟨errorCode, p₂⟩ ⟨hcode, hcodeWithin⟩
    refine (closeAt_meets 5 hcodeWithin).bind (fun closed hclosed => ?_)
    exact meets_ok ⟨by simp only at *; omega, hclosed.2⟩
  · exact meets_fail _

theorem PropertyResult.decode_takes (data : Bytes) :
    Meets (PropertyResult.decode data) (Takes data) := by
  refine (decodeContextUnsigned_takes data 2).bind ?_
  rintro ⟨property, p₁⟩ ⟨hlow, hproperty⟩
  refine (readOptionalAt_meets (decodeContextUnsigned_takes · 3) hproperty).bind ?_
  rintro ⟨index, p₂⟩ ⟨hnext, hindex⟩
  refine (PropertyResultValue.decodeAt_meets ⟨property⟩ hindex).bind ?_
  rintro ⟨value, p₃⟩ ⟨hvalue, hwithin⟩
  exact meets_ok ⟨by simp only at *; omega, hwithin⟩

theorem ReadAccessResult.decode_takes (data : Bytes) :
    Meets (ReadAccessResult.decode data) (Takes data) := by
  refine (decodeContextObjectId_takes data 0).bind ?_
  rintro ⟨object, p₁⟩ ⟨_, hobject⟩
  refine (openAt_meets 1 hobject).bind (fun p₂ hopened => ?_)
  refine (readAllAt_meets PropertyResult.decode_takes hopened.2).bind ?_
  rintro ⟨results, p₃⟩ ⟨_, hresults⟩
  refine (closeAt_meets 1 hresults).bind (fun p₄ hclosed => ?_)
  exact meets_ok ⟨Nat.lt_of_le_of_lt (Nat.zero_le _) hclosed.1, hclosed.2⟩

theorem ReadPropertyMultipleResponse.decode_meets (data : Bytes) :
    Meets (ReadPropertyMultipleResponse.decode data) (fun _ => True) := by
  refine (readAll_meets ReadAccessResult.decode_takes data).bind ?_
  rintro ⟨results, _⟩ _
  exact meets_ok trivial

end Meets

end BacnetRs.Service
