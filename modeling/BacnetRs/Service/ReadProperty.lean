/-
  BacnetRs.Service.ReadProperty — ReadProperty and ReadPropertyMultiple
  (`service/mod.rs`).

  A request names objects and properties of them; a response carries the values
  read, or for one of many properties the error that reading it met.  Requests
  are decoded without panicking, and a response is encoded exactly when the
  object identifiers and the values in it are.
-/
import BacnetRs.Property.Encode
import BacnetRs.Service.SubscribeCov

namespace BacnetRs.Service

open BacnetRs.Encoding BacnetRs.Object BacnetRs.Property

/-! ## §1. ReadProperty -/

/-- `ReadPropertyRequest`. -/
structure ReadPropertyRequest where
  objectIdentifier : ObjectIdentifier
  propertyIdentifier : PropertyIdentifier
  propertyArrayIndex : Option UInt32
  deriving Repr, DecidableEq

/-- `ReadPropertyRequest::encode`. -/
def ReadPropertyRequest.encode (self : ReadPropertyRequest) : Except EncodingError Bytes := do
  let object ← encodeContextObjectId self.objectIdentifier 0
  return object ++ encodeContextEnumerated self.propertyIdentifier.value 1
    ++ encodeOptionalUnsigned self.propertyArrayIndex 2

/-- `ReadPropertyRequest::decode`: what follows the property is its index. -/
def ReadPropertyRequest.decode (data : Bytes) : Decoded ReadPropertyRequest := do
  let (objectIdentifier, offset) ← decodeContextObjectId data 0
  let (propertyIdentifier, offset) ← readAt (decodeContextUnsigned · 1) data offset
  if offset < data.length then
    let (arrayIndex, _) ← readAt (decodeContextUnsigned · 2) data offset
    return ⟨objectIdentifier, ⟨propertyIdentifier⟩, some arrayIndex⟩
  else
    return ⟨objectIdentifier, ⟨propertyIdentifier⟩, none⟩

/-- `ReadPropertyResponse`. -/
structure ReadPropertyResponse where
  objectIdentifier : ObjectIdentifier
  propertyIdentifier : PropertyIdentifier
  propertyArrayIndex : Option UInt32
  propertyValues : List PropertyValue

/-- An array index, when there is one. -/
def encodeIndex (index : Option UInt32) (tag : UInt8) : Bytes :=
  match index with
  | some index => encodeContextUnsigned index tag
  | none => []

/-- `ReadPropertyResponse::encode`. -/
def ReadPropertyResponse.encode (response : ReadPropertyResponse) :
    Except EncodingError Bytes := do
  let object ← encodeContextObjectId response.objectIdentifier 0
  let values ← encodeValues response.propertyValues
  return object ++ encodeContextEnumerated response.propertyIdentifier.value 1
    ++ encodeIndex response.propertyArrayIndex 2 ++ 0x3E :: values ++ [0x3F]

/-! ## §2. ReadPropertyMultiple -/

/-- `ReadAccessSpecification`. -/
structure ReadAccessSpecification where
  objectIdentifier : ObjectIdentifier
  propertyReferences : List PropertyReference
  deriving Repr, DecidableEq

/-- `ReadAccessSpecification::encode`. -/
def ReadAccessSpecification.encode (self : ReadAccessSpecification) :
    Except EncodingError Bytes := do
  let object ← encodeContextObjectId self.objectIdentifier 0
  return object ++ 0x1E :: self.propertyReferences.flatMap PropertyReference.encode ++ [0x1F]

/-- `ReadAccessSpecification::decode`: at least one reference, up to the closing tag. -/
def ReadAccessSpecification.decode (data : Bytes) : Decoded (ReadAccessSpecification × Nat) := do
  let (objectIdentifier, consumed) ← decodeContextObjectId data 0
  let consumed ← openAt data consumed 1
  let (propertyReferences, consumed) ←
    readAt (readAll (isClosingTag · 1) PropertyReference.decode) data consumed
  let consumed ← closeAt data consumed 1
  if propertyReferences.isEmpty then Checked.fail .invalidLength
  return (⟨objectIdentifier, propertyReferences⟩, consumed)

/-- `ReadPropertyMultipleRequest`. -/
structure ReadPropertyMultipleRequest where
  readAccessSpecifications : List ReadAccessSpecification
  deriving Repr, DecidableEq

/-- `ReadPropertyMultipleRequest::encode`. -/
def ReadPropertyMultipleRequest.encode (self : ReadPropertyMultipleRequest) :
    Except EncodingError Bytes :=
  List.flatten <$> self.readAccessSpecifications.mapM ReadAccessSpecification.encode

/-- `ReadPropertyMultipleRequest::decode`: at least one specification, to the end. -/
def ReadPropertyMultipleRequest.decode (data : Bytes) : Decoded ReadPropertyMultipleRequest := do
  let (specifications, _) ← readAll List.isEmpty ReadAccessSpecification.decode data
  if specifications.isEmpty then Checked.fail .invalidLength
  return ⟨specifications⟩

/-- `PropertyResultValue`. -/
inductive PropertyResultValue where
  | value (values : List PropertyValue)
  | error (errorClass errorCode : UInt32)

/-- The value or the error of `PropertyResult::encode`, each in its own brackets. -/
def PropertyResultValue.encode : PropertyResultValue → Except EncodingError Bytes
  | .value values => do
      let octets ← encodeValues values
      return encodeOpeningTag 4 ++ octets ++ encodeClosingTag 4
  | .error errorClass errorCode =>
      .ok (encodeOpeningTag 5 ++ encodeEnumerated errorClass ++ encodeEnumerated errorCode
        ++ encodeClosingTag 5)

/-- `PropertyResult`. -/
structure PropertyResult where
  propertyIdentifier : PropertyIdentifier
  arrayIndex : Option UInt32
  value : PropertyResultValue

/-- `PropertyResult::encode`. -/
def PropertyResult.encode (result : PropertyResult) : Except EncodingError Bytes := do
  let value ← result.value.encode
  return encodeContextEnumerated result.propertyIdentifier.value 2
    ++ encodeIndex result.arrayIndex 3 ++ value

/-- `ReadAccessResult`. -/
structure ReadAccessResult where
  objectIdentifier : ObjectIdentifier
  results : List PropertyResult

/-- `ReadAccessResult::encode`. -/
def ReadAccessResult.encode (result : ReadAccessResult) : Except EncodingError Bytes := do
  let object ← encodeContextObjectId result.objectIdentifier 0
  let results ← result.results.mapM PropertyResult.encode
  return object ++ encodeOpeningTag 1 ++ results.flatten ++ encodeClosingTag 1

/-- `ReadPropertyMultipleResponse`. -/
structure ReadPropertyMultipleResponse where
  readAccessResults : List ReadAccessResult

/-- `ReadPropertyMultipleResponse::encode`. -/
def ReadPropertyMultipleResponse.encode (response : ReadPropertyMultipleResponse) :
    Except EncodingError Bytes :=
  List.flatten <$> response.readAccessResults.mapM ReadAccessResult.encode

/-! ## §3. Decoding does not panic -/

section Meets

open Checked

theorem ReadPropertyRequest.decode_meets (data : Bytes) :
    Meets (ReadPropertyRequest.decode data)
      (fun request => request.objectIdentifier.fits = true) := by
  refine ((decodeContextObjectId_takes data 0).and (decodeContextObjectId_fits data 0)).bind ?_
  rintro ⟨object, offset⟩ ⟨⟨_, hobject⟩, hfits⟩
  refine (readAt_meets (decodeContextUnsigned_takes · 1) hobject).bind ?_
  rintro ⟨property, offset⟩ ⟨_, hproperty⟩
  simp only at *
  split
  · refine (readAt_meets (decodeContextUnsigned_takes · 2) hproperty).bind ?_
    rintro ⟨index, _⟩ _
    exact meets_ok hfits
  · exact meets_ok hfits

theorem ReadAccessSpecification.decode_meets (data : Bytes) :
    Meets (ReadAccessSpecification.decode data)
      (fun decoded => Takes data decoded ∧ decoded.1.objectIdentifier.fits = true) := by
  refine ((decodeContextObjectId_takes data 0).and (decodeContextObjectId_fits data 0)).bind ?_
  rintro ⟨object, consumed⟩ ⟨⟨_, hobject⟩, hfits⟩
  refine (openAt_meets 1 hobject).bind (fun opened hopened => ?_)
  refine (readAllAt_meets PropertyReference.decode_takes hopened.2).bind ?_
  rintro ⟨references, afterReferences⟩ ⟨_, hreferences⟩
  refine (closeAt_meets 1 hreferences).bind (fun closed hclosed => ?_)
  refine meets_guard (fun _ => meets_ok ⟨⟨?_, hclosed.2⟩, hfits⟩)
  exact Nat.lt_of_le_of_lt (Nat.zero_le _) hclosed.1

theorem ReadAccessSpecification.decode_takes (data : Bytes) :
    Meets (ReadAccessSpecification.decode data) (Takes data) :=
  (ReadAccessSpecification.decode_meets data).mono (fun _ h => h.1)

theorem ReadPropertyMultipleRequest.decode_meets (data : Bytes) :
    Meets (ReadPropertyMultipleRequest.decode data) (fun request =>
      ∀ specification ∈ request.readAccessSpecifications,
        specification.objectIdentifier.fits = true) := by
  refine (readAll_meets_all (P := fun specification => specification.objectIdentifier.fits = true)
    ReadAccessSpecification.decode_takes
    (fun rest => (ReadAccessSpecification.decode_meets rest).ensures.mono (fun _ h => h.2))
    data).bind ?_
  rintro ⟨specifications, _⟩ ⟨_, hfits⟩
  exact meets_guard (fun _ => meets_ok hfits)

end Meets

/-! ## §4. What has an encoding -/

theorem ReadPropertyResponse.encode_isOk (response : ReadPropertyResponse) :
    response.encode.isOk
      = (response.objectIdentifier.fits && allEncodable response.propertyValues) := by
  rw [← encodeContextObjectId_isOk _ 0, ← encodeValues_isOk]
  exact isOk_bind (fun _ => isOk_bind_pure (fun _ => rfl))

/-- A list is encoded when all of its members are. -/
theorem mapM_isOk {α β ε : Type} (f : α → Except ε β) (l : List α) :
    (l.mapM f).isOk = l.all (fun a => (f a).isOk) := by
  induction l with
  | nil => rfl
  | cons a rest ih =>
      rw [List.mapM_cons, List.all_cons, ← ih]
      exact isOk_bind (fun _ => isOk_bind_pure (fun _ => rfl))

/-- The values of a result; an error carries none. -/
def PropertyResult.values (result : PropertyResult) : List PropertyValue :=
  match result.value with
  | .value values => values
  | .error _ _ => []

theorem PropertyResult.encode_isOk (result : PropertyResult) :
    result.encode.isOk = allEncodable result.values := by
  refine (isOk_bind_pure (fun _ => rfl)).trans ?_
  unfold PropertyResult.values
  cases result.value with
  | value values => exact (isOk_bind_pure (fun _ => rfl)).trans (encodeValues_isOk values)
  | error errorClass errorCode => rfl

theorem ReadAccessResult.encode_isOk (result : ReadAccessResult) :
    result.encode.isOk = (result.objectIdentifier.fits
      && result.results.all (fun result => allEncodable result.values)) := by
  have hresults : result.results.all (fun result => allEncodable result.values)
      = (result.results.mapM PropertyResult.encode).isOk := by
    rw [mapM_isOk]
    exact congrArg (List.all _) (funext (fun result => result.encode_isOk.symm))
  rw [hresults, ← encodeContextObjectId_isOk _ 0]
  exact isOk_bind (fun _ => isOk_bind_pure (fun _ => rfl))

/-- **A response is encoded exactly when all in it is.** -/
theorem ReadPropertyMultipleResponse.encode_isOk (response : ReadPropertyMultipleResponse) :
    response.encode.isOk = response.readAccessResults.all (fun result =>
      result.objectIdentifier.fits
        && result.results.all (fun result => allEncodable result.values)) := by
  have hmap : response.encode.isOk
      = (response.readAccessResults.mapM ReadAccessResult.encode).isOk := by
    unfold ReadPropertyMultipleResponse.encode
    cases response.readAccessResults.mapM ReadAccessResult.encode <;> rfl
  rw [hmap, mapM_isOk]
  exact congrArg (List.all _) (funext ReadAccessResult.encode_isOk)

end BacnetRs.Service
