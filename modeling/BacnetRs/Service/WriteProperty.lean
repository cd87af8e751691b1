/-
  BacnetRs.Service.WriteProperty — WriteProperty and WritePropertyMultiple
  (`service/mod.rs`).

  A write carries its value encoded: what it is, only the property says.  The
  optional fields are read when their tags are there, so one that is there and
  malformed fails the decode.
-/
import BacnetRs.Service.Values

namespace BacnetRs.Service

open BacnetRs.Encoding BacnetRs.Object BacnetRs.Property

/-! ## §1. WriteProperty -/

/-- `WritePropertyRequest`. -/
structure WritePropertyRequest where
  objectIdentifier : ObjectIdentifier
  propertyIdentifier : UInt32
  propertyArrayIndex : Option UInt32
  /-- The encoded value. -/
  propertyValue : Bytes
  /-- 1 to 16, if the request is a command. -/
  priority : Option UInt8
  deriving Repr, DecidableEq

/-- A priority, when there is one. -/
def encodePriority (priority : Option UInt8) (tag : UInt8) : Bytes :=
  encodeOptionalUnsigned (priority.map UInt8.toUInt32) tag

/-- `WritePropertyRequest::encode`. -/
def WritePropertyRequest.encode (self : WritePropertyRequest) : Except EncodingError Bytes := do
  let object ← encodeContextObjectId self.objectIdentifier 0
  return object ++ encodeContextEnumerated self.propertyIdentifier 1
    ++ encodeOptionalUnsigned self.propertyArrayIndex 2
    ++ encodeOpeningTag 3 ++ self.propertyValue ++ encodeClosingTag 3
    ++ encodePriority self.priority 4

/-- The encoded value between the tags numbered `tag`, and where they end. -/
def readEncodedAt (data : Bytes) (consumed : Nat) (tag : UInt8) : Decoded (Bytes × Nat) := do
  let start ← openAt data consumed tag
  let end_ ← findConstructedValueEnd data start tag
  let value ← Octets.range data start end_
  let consumed ← closeAt data end_ tag
  return (value, consumed)

/-- A priority, when its tag is there. -/
def readPriorityAt (data : Bytes) (consumed : Nat) (tag : UInt8) : Decoded (Option UInt8 × Nat) := do
  let (priority, consumed) ← readOptionalAt (isContextTag · tag) (decodeContextUnsigned · tag)
    data consumed
  match priority with
  | none => return (none, consumed)
  | some priority =>
      if priority.toNat < 2 ^ 8 then return (some priority.toUInt8, consumed)
      else Checked.fail .valueOutOfRange

/-- `WritePropertyRequest::decode`. -/
def WritePropertyRequest.decode (data : Bytes) : Decoded WritePropertyRequest := do
  let (objectIdentifier, pos) ← decodeContextObjectId data 0
  let (propertyIdentifier, pos) ← readAt (decodeContextUnsigned · 1) data pos
  let (propertyArrayIndex, pos) ← readOptionalAt (isContextTag · 2) (decodeContextUnsigned · 2)
    data pos
  let (propertyValue, pos) ← readEncodedAt data pos 3
  let (priority, _) ← readPriorityAt data pos 4
  return ⟨objectIdentifier, propertyIdentifier, propertyArrayIndex, propertyValue, priority⟩

/-! ## §2. WritePropertyMultiple -/

/-- `PropertyWrite`. -/
structure PropertyWrite where
  propertyIdentifier : PropertyIdentifier
  propertyArrayIndex : Option UInt32
  /-- The encoded value. -/
  value : Bytes
  priority : Option UInt8
  deriving Repr, DecidableEq

/-- `PropertyWrite::encode`. -/
def PropertyWrite.encode (self : PropertyWrite) : Bytes :=
  encodeContextEnumerated self.propertyIdentifier.value 0
    ++ encodeOptionalUnsigned self.propertyArrayIndex 1
    ++ encodeOpeningTag 2 ++ self.value ++ encodeClosingTag 2
    ++ encodePriority self.priority 3

/-- `PropertyWrite::decode`. -/
def PropertyWrite.decode (data : Bytes) : Decoded (PropertyWrite × Nat) := do
  let (propertyIdentifier, consumed) ← decodeContextUnsigned data 0
  let (propertyArrayIndex, consumed) ← readOptionalAt (isContextTag · 1)
    (decodeContextUnsigned · 1) data consumed
  let (value, consumed) ← readEncodedAt data consumed 2
  let (priority, consumed) ← readPriorityAt data consumed 3
  return (⟨⟨propertyIdentifier⟩, propertyArrayIndex, value, priority⟩, consumed)

/-- `WriteAccessSpecification`. -/
structure WriteAccessSpecification where
  objectIdentifier : ObjectIdentifier
  listOfProperties : List PropertyWrite
  deriving Repr, DecidableEq

/-- `WriteAccessSpecification::encode`. -/
def WriteAccessSpecification.encode (self : WriteAccessSpecification) :
    Except EncodingError Bytes := do
  let object ← encodeContextObjectId self.objectIdentifier 0
  return object ++ encodeOpeningTag 1 ++ self.listOfProperties.flatMap PropertyWrite.encode
    ++ encodeClosingTag 1

/-- `WriteAccessSpecification::decode`: at least one write, up to the closing tag. -/
def WriteAccessSpecification.decode (data : Bytes) : Decoded (WriteAccessSpecification × Nat) := do
  let (objectIdentifier, consumed) ← decodeContextObjectId data 0
  let consumed ← openAt data consumed 1
  let (listOfProperties, consumed) ←
    readAt (readAll (isClosingTag · 1) PropertyWrite.decode) data consumed
  let consumed ← closeAt data consumed 1
  if listOfProperties.isEmpty then Checked.fail .invalidLength
  return (⟨objectIdentifier, listOfProperties⟩, consumed)

/-- `WritePropertyMultipleRequest`. -/
structure WritePropertyMultipleRequest where
  writeAccessSpecifications : List WriteAccessSpecification
  deriving Repr, DecidableEq

/-- `WritePropertyMultipleRequest::encode`. -/
def WritePropertyMultipleRequest.encode (self : WritePropertyMultipleRequest) :
    Except EncodingError Bytes :=
  List.flatten <$> self.writeAccessSpecifications.mapM WriteAccessSpecification.encode

/-- `WritePropertyMultipleRequest::decode`: at least one specification, to the end. -/
def WritePropertyMultipleRequest.decode (data : Bytes) : Decoded WritePropertyMultipleRequest := do
  let (specifications, _) ← readAll List.isEmpty WriteAccessSpecification.decode data
  if specifications.isEmpty then Checked.fail .invalidLength
  return ⟨specifications⟩

/-- The WriteProperty that would make a write of a specification. -/
def WriteAccessSpecification.request (specification : WriteAccessSpecification)
    (write : PropertyWrite) : WritePropertyRequest :=
  ⟨specification.objectIdentifier, write.propertyIdentifier.value, write.propertyArrayIndex,
    write.value, write.priority⟩

/-- `writes`: each write as the WriteProperty that would make it, in order. -/
def WritePropertyMultipleRequest.writes (request : WritePropertyMultipleRequest) :
    List WritePropertyRequest :=
  request.writeAccessSpecifications.flatMap (fun specification =>
    specification.listOfProperties.map specification.request)

/-! ## §3. Decoding does not panic -/

section Meets

open Checked

theorem readEncodedAt_meets {data : Bytes} {consumed : Nat} (tag : UInt8)
    (h : consumed ≤ data.length) :
    Meets (readEncodedAt data consumed tag) (Advances data consumed) := by
  refine (openAt_meets tag h).bind (fun start hstart => ?_)
  refine (findConstructedValueEnd_meets data start tag).bind ?_
  rintro end_ ⟨hlow, hhigh⟩
  refine (Octets.range_meets hlow (Nat.le_of_lt hhigh)).bind (fun value _ => ?_)
  refine (closeAt_meets tag (Nat.le_of_lt hhigh)).bind (fun closed hclosed => ?_)
  refine meets_ok ⟨?_, hclosed.2⟩
  exact Nat.lt_trans hstart.1 (Nat.lt_of_le_of_lt hlow hclosed.1)

theorem readPriorityAt_meets {data : Bytes} {consumed : Nat} (tag : UInt8)
    (h : consumed ≤ data.length) :
    Meets (readPriorityAt data consumed tag)
      (fun decoded => consumed ≤ decoded.2 ∧ decoded.2 ≤ data.length) := by
  refine (readOptionalAt_meets (decodeContextUnsigned_takes · tag) h).bind ?_
  rintro ⟨priority, next⟩ hnext
  cases priority with
  | none => exact meets_ok hnext
  | some priority =>
      simp only
      split
      · exact meets_ok hnext
      · exact meets_fail _

theorem WritePropertyRequest.decode_meets (data : Bytes) :
    Meets (WritePropertyRequest.decode data) (fun _ => True) := by
  refine (decodeContextObjectId_takes data 0).bind ?_
  rintro ⟨object, pos⟩ ⟨_, hobject⟩
  refine (readAt_meets (decodeContextUnsigned_takes · 1) hobject).bind ?_
  rintro ⟨property, pos⟩ ⟨_, hproperty⟩
  refine (readOptionalAt_meets (decodeContextUnsigned_takes · 2) hproperty).bind ?_
  rintro ⟨index, pos⟩ ⟨_, hindex⟩
  refine (readEncodedAt_meets 3 hindex).bind ?_
  rintro ⟨value, pos⟩ ⟨_, hvalue⟩
  refine (readPriorityAt_meets 4 hvalue).bind ?_
  rintro ⟨priority, _⟩ _
  exact meets_ok trivial

theorem PropertyWrite.decode_takes (data : Bytes) :
    Meets (PropertyWrite.decode data) (Takes data) := by
  refine (decodeContextUnsigned_takes data 0).bind ?_
  rintro ⟨property, p₁⟩ ⟨hlow, hproperty⟩
  refine (readOptionalAt_meets (decodeContextUnsigned_takes · 1) hproperty).bind ?_
  rintro ⟨index, p₂⟩ ⟨_, hindex⟩
  refine (readEncodedAt_meets 2 hindex).bind ?_
  rintro ⟨value, p₃⟩ ⟨hvalue, hwithin⟩
  refine (readPriorityAt_meets 3 hwithin).bind ?_
  rintro ⟨priority, p₄⟩ ⟨hpriority, hend⟩
  refine meets_ok ⟨?_, hend⟩
  exact Nat.lt_of_lt_of_le (Nat.lt_of_le_of_lt (Nat.zero_le _) hvalue) hpriority

theorem WriteAccessSpecification.decode_takes (data : Bytes) :
    Meets (WriteAccessSpecification.decode data) (Takes data) := by
  refine (decodeContextObjectId_takes data 0).bind ?_
  rintro ⟨object, consumed⟩ ⟨_, hobject⟩
  refine (openAt_meets 1 hobject).bind (fun opened hopened => ?_)
  refine (readAllAt_meets PropertyWrite.decode_takes hopened.2).bind ?_
  rintro ⟨writes, afterWrites⟩ ⟨_, hwrites⟩
  refine (closeAt_meets 1 hwrites).bind (fun closed hclosed => ?_)
  refine meets_guard (fun _ => meets_ok ⟨?_, hclosed.2⟩)
  exact Nat.lt_of_le_of_lt (Nat.zero_le _) hclosed.1

/-- **Decoding a WritePropertyMultiple does not panic.** -/
theorem WritePropertyMultipleRequest.decode_meets (data : Bytes) :
    Meets (WritePropertyMultipleRequest.decode data) (fun _ => True) := by
  refine (readAll_meets WriteAccessSpecification.decode_takes data).bind ?_
  rintro ⟨specifications, _⟩ _
  exact meets_guard (fun _ => meets_ok trivial)

end Meets

end BacnetRs.Service
