/-
  BacnetRs.Service.SubscribeCov — requests for change-of-value notifications
  (`service/mod.rs`).

  SubscribeCOV and SubscribeCOVProperty open with the same fields; the second
  goes on to name the property it watches, and may end with an increment.
  Neither is decoded with a panic.
-/
import BacnetRs.Property.Value

namespace BacnetRs.Service

open BacnetRs.Encoding BacnetRs.Object

/-! ## §1. Requests -/

/-- A property, or one element of an array property. -/
structure PropertyReference where
  propertyIdentifier : PropertyIdentifier
  propertyArrayIndex : Option UInt32
  deriving Repr, DecidableEq

/-- A SubscribeCOV request. -/
structure SubscribeCovRequest where
  subscriberProcessIdentifier : UInt32
  monitoredObjectIdentifier : ObjectIdentifier
  issueConfirmedNotifications : Option Bool
  lifetime : Option UInt32
  deriving Repr, DecidableEq

/-- `SubscribeCovRequest::is_cancellation`: neither a preference nor a lifetime. -/
def SubscribeCovRequest.isCancellation (request : SubscribeCovRequest) : Bool :=
  request.issueConfirmedNotifications.isNone && request.lifetime.isNone

/-- A SubscribeCOVProperty request. -/
structure SubscribeCovPropertyRequest where
  subscriberProcessIdentifier : UInt32
  monitoredObjectIdentifier : ObjectIdentifier
  issueConfirmedNotifications : Option Bool
  lifetime : Option UInt32
  monitoredProperty : PropertyReference
  covIncrement : Option F32
  deriving Repr, DecidableEq

/-- `SubscribeCovPropertyRequest::is_cancellation`. -/
def SubscribeCovPropertyRequest.isCancellation (request : SubscribeCovPropertyRequest) : Bool :=
  request.issueConfirmedNotifications.isNone && request.lifetime.isNone

/-- `PropertyReference::encode`. -/
def PropertyReference.encode (self : PropertyReference) : Bytes :=
  encodeContextEnumerated self.propertyIdentifier.value 0
    ++ encodeOptionalUnsigned self.propertyArrayIndex 1

/-- The header that a SubscribeCOVProperty opens with. -/
def SubscribeCovPropertyRequest.header (self : SubscribeCovPropertyRequest) :
    SubscribeCovRequest :=
  ⟨self.subscriberProcessIdentifier, self.monitoredObjectIdentifier,
    self.issueConfirmedNotifications, self.lifetime⟩

/-- A context-tagged Boolean field that may be left out. -/
def encodeOptionalBoolean (value : Option Bool) (tagNumber : UInt8) : Bytes :=
  match value with
  | some value => encodeContextBoolean value tagNumber
  | none => []

/-- A context-tagged Real field that may be left out. -/
def encodeOptionalReal (value : Option F32) (tagNumber : UInt8) : Bytes :=
  match value with
  | some value => encodeContextReal value tagNumber
  | none => []

/-- `SubscriptionHeader::encode`. -/
def SubscriptionHeader.encode (header : SubscribeCovRequest) : Except EncodingError Bytes := do
  let object ← encodeContextObjectId header.monitoredObjectIdentifier 1
  return encodeContextUnsigned header.subscriberProcessIdentifier 0 ++ object
    ++ encodeOptionalBoolean header.issueConfirmedNotifications 2
    ++ encodeOptionalUnsigned header.lifetime 3

/-- `SubscribeCovRequest::encode`. -/
def SubscribeCovRequest.encode (self : SubscribeCovRequest) : Except EncodingError Bytes :=
  SubscriptionHeader.encode self

/-- `SubscribeCovPropertyRequest::encode`. -/
def SubscribeCovPropertyRequest.encode (self : SubscribeCovPropertyRequest) :
    Except EncodingError Bytes := do
  let header ← SubscriptionHeader.encode self.header
  return header ++ encodeOpeningTag 4 ++ self.monitoredProperty.encode ++ encodeClosingTag 4
    ++ encodeOptionalReal self.covIncrement 5

/-! ## §2. Decoding -/

/-- `PropertyReference::decode`. -/
def PropertyReference.decode (data : Bytes) : Decoded (PropertyReference × Nat) := do
  let (propertyIdentifier, consumed) ← decodeContextUnsigned data 0
  let (arrayIndex, consumed) ← readOptionalAt (isContextTag · 1) (decodeContextUnsigned · 1)
    data consumed
  return (⟨⟨propertyIdentifier⟩, arrayIndex⟩, consumed)

/-- `SubscriptionHeader::decode`: what both requests open with.  The optional fields'
joint absence marks a cancellation. -/
def SubscriptionHeader.decode (data : Bytes) : Decoded (SubscribeCovRequest × Nat) := do
  let (subscriberProcessIdentifier, offset) ← decodeContextUnsigned data 0
  let (monitoredObjectIdentifier, offset) ← readAt (decodeContextObjectId · 1) data offset
  let (issueConfirmedNotifications, offset) ← readOptionalAt (isContextTag · 2)
    (decodeContextBoolean · 2) data offset
  let (lifetime, offset) ← readOptionalAt (isContextTag · 3) (decodeContextUnsigned · 3)
    data offset
  return (⟨subscriberProcessIdentifier, monitoredObjectIdentifier, issueConfirmedNotifications,
    lifetime⟩, offset)

/-- `SubscribeCovRequest::decode`: the header, whatever follows it. -/
def SubscribeCovRequest.decode (data : Bytes) : Decoded SubscribeCovRequest := do
  let (header, _) ← SubscriptionHeader.decode data
  return header

/-- The increment that a SubscribeCOVProperty ends with, when anything is left. -/
def readIncrementAt (data : Bytes) (offset : Nat) : Decoded (Option F32) := do
  if offset < data.length then
    let rest ← Octets.dropFrom data offset
    let (tag, length, tagLength) ← Checked.ofExcept (decodeContextTag rest)
    if tag ≠ 5 then Checked.fail .invalidTag
    if length ≠ 4 ∨ data.length < offset + tagLength + 4 then Checked.fail .invalidLength
    let value ← Octets.natAt data (offset + tagLength) 4
    return some ⟨UInt32.ofNat value⟩
  else return none

/-- `SubscribeCovPropertyRequest::decode`. -/
def SubscribeCovPropertyRequest.decode (data : Bytes) : Decoded SubscribeCovPropertyRequest := do
  let (header, offset) ← SubscriptionHeader.decode data
  let offset ← openAt data offset 4
  let (monitoredProperty, offset) ← readAt PropertyReference.decode data offset
  let offset ← closeAt data offset 4
  let covIncrement ← readIncrementAt data offset
  return ⟨header.subscriberProcessIdentifier, header.monitoredObjectIdentifier,
    header.issueConfirmedNotifications, header.lifetime, monitoredProperty, covIncrement⟩

/-! ## §3. Decoding does not panic -/

section Meets

open Checked

theorem PropertyReference.decode_takes (data : Bytes) :
    Meets (PropertyReference.decode data) (Takes data) := by
  refine (decodeContextUnsigned_takes data 0).bind ?_
  rintro ⟨property, consumed⟩ ⟨hlow, hhigh⟩
  refine (readOptionalAt_meets (decodeContextUnsigned_takes · 1) hhigh).bind ?_
  rintro ⟨index, next⟩ ⟨hnext, hwithin⟩
  exact meets_ok ⟨Nat.le_trans hlow hnext, hwithin⟩

theorem SubscriptionHeader.decode_takes (data : Bytes) :
    Meets (SubscriptionHeader.decode data) (Takes data) := by
  refine (decodeContextUnsigned_takes data 0).bind ?_
  rintro ⟨process, p₁⟩ ⟨_, hprocess⟩
  refine (readAt_meets (decodeContextObjectId_takes · 1) hprocess).bind ?_
  rintro ⟨object, p₂⟩ ⟨hlow, hobject⟩
  refine (readOptionalAt_meets (decodeContextBoolean_takes · 2) hobject).bind ?_
  rintro ⟨confirmed, p₃⟩ ⟨hconfirmed, hwithin⟩
  refine (readOptionalAt_meets (decodeContextUnsigned_takes · 3) hwithin).bind ?_
  rintro ⟨lifetime, p₄⟩ ⟨hlifetime, hend⟩
  refine meets_ok ⟨?_, hend⟩
  exact Nat.lt_of_lt_of_le (Nat.lt_of_le_of_lt (Nat.zero_le _) hlow)
    (Nat.le_trans hconfirmed hlifetime)

theorem SubscribeCovRequest.decode_meets (data : Bytes) :
    Meets (SubscribeCovRequest.decode data) (fun _ => True) := by
  refine (SubscriptionHeader.decode_takes data).bind ?_
  rintro ⟨header, _⟩ _
  exact meets_ok trivial

theorem readIncrementAt_meets (data : Bytes) (offset : Nat) :
    Meets (readIncrementAt data offset) (fun _ => True) := by
  unfold readIncrementAt
  split
  · next hlt =>
      refine (Octets.dropFrom_meets (Nat.le_of_lt hlt)).bind (fun rest _ => ?_)
      refine (meets_ofExcept (P := fun _ => True) (fun _ _ => trivial)).bind ?_
      rintro ⟨tag, length, tagLength⟩ _
      refine meets_guard (fun _ => meets_guard (fun hlength => ?_))
      refine (Octets.natAt_meets (by omega)).bind (fun _ _ => ?_)
      exact meets_ok trivial
  · exact meets_ok trivial

/-- **Decoding a SubscribeCOVProperty does not panic.** -/
theorem SubscribeCovPropertyRequest.decode_meets (data : Bytes) :
    Meets (SubscribeCovPropertyRequest.decode data) (fun _ => True) := by
  refine (SubscriptionHeader.decode_takes data).bind ?_
  rintro ⟨header, p₁⟩ ⟨_, hheader⟩
  refine (openAt_meets 4 hheader).bind (fun p₂ hopened => ?_)
  refine (readAt_meets PropertyReference.decode_takes hopened.2).bind ?_
  rintro ⟨property, p₃⟩ hproperty
  refine (closeAt_meets 4 hproperty.2).bind (fun p₄ _ => ?_)
  exact (readIncrementAt_meets data p₄).bind (fun _ _ => meets_ok trivial)

end Meets

end BacnetRs.Service
