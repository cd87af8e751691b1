/-
  BacnetRs.Service.EventNotification — what a device tells of a transition
  (`service/event_notification.rs`).
-/
import BacnetRs.Object.Alarm
import BacnetRs.Service.AcknowledgeAlarm

namespace BacnetRs.Service

open BacnetRs.Encoding BacnetRs.Object BacnetRs.Property

/-! ## §1. Notifications -/

/-- `StatusFlags`. -/
structure StatusFlags where
  inAlarm : Bool
  fault : Bool
  overridden : Bool
  outOfService : Bool
  deriving Repr, DecidableEq

/-- `for_event_state`. -/
def StatusFlags.forEventState (state : EventState) (outOfService : Bool) : StatusFlags :=
  { inAlarm := state != .normal
    fault := state == .fault
    overridden := false
    outOfService }

/-- `PropertyStates`, as far as change-of-state uses it. -/
inductive PropertyStates where
  | booleanValue (value : Bool)
  | binaryValue (active : Bool)
  | unsignedValue (state : UInt32)
  deriving Repr, DecidableEq

/-- `NotificationParameters`. -/
inductive NotificationParameters where
  | changeOfState (newState : PropertyStates) (statusFlags : StatusFlags)
  | outOfRange (exceedingValue : F32) (statusFlags : StatusFlags) (deadband exceededLimit : F32)
  | changeOfReliability (reliability : Reliability) (statusFlags : StatusFlags)
  deriving Repr, DecidableEq

/-- `EventNotification`. -/
structure EventNotification where
  /-- The recipient's, from the Recipient_List entry. -/
  processIdentifier : UInt32
  initiatingDevice : ObjectIdentifier
  eventObject : ObjectIdentifier
  timestamp : TimestampValue
  notificationClass : UInt32
  priority : UInt32
  notifyType : NotifyType
  ackRequired : Bool
  fromState : EventState
  toState : EventState
  messageText : Option String
  parameters : NotificationParameters
  deriving Repr, DecidableEq

/-! ## §2. Encoding -/

/-- `to_bits`. -/
def StatusFlags.toBits (self : StatusFlags) : List Bool :=
  [self.inAlarm, self.fault, self.overridden, self.outOfService]

/-- `EventType`, as far as intrinsic reporting produces it. -/
inductive EventType where
  | changeOfState
  | outOfRange
  | changeOfReliability
  deriving Repr, DecidableEq

/-- `u32::from(event_type)`. -/
def EventType.toUInt32 : EventType → UInt32
  | .changeOfState => 1
  | .outOfRange => 5
  | .changeOfReliability => 19

/-- `event_type`. -/
def NotificationParameters.eventType : NotificationParameters → EventType
  | .changeOfState _ _ => .changeOfState
  | .outOfRange _ _ _ _ => .outOfRange
  | .changeOfReliability _ _ => .changeOfReliability

/-- `encode_context_bit_string`. -/
def encodeContextBitString (bits : List Bool) (tag : UInt8) : Bytes :=
  let octets := (Octets.chunks 8 bits).map bitsOctet
  let unusedBits := if bits.length % 8 = 0 then 0 else 8 - bits.length % 8
  encodeContextTag tag ((bits.length + 7) / 8 + 1) ++ UInt8.ofNat unusedBits :: octets

/-- `PropertyStates::encode`: the tag is the choice. -/
def PropertyStates.encode : PropertyStates → Bytes
  | .booleanValue value => encodeContextBoolean value 0
  | .binaryValue active => encodeContextEnumerated (if active then 1 else 0) 1
  | .unsignedValue state => encodeContextUnsigned state 11

/-- `NotificationParameters::encode`. -/
def NotificationParameters.encode : NotificationParameters → Bytes
  | .changeOfState newState statusFlags =>
      encodeOpeningTag 1 ++ encodeOpeningTag 0 ++ newState.encode ++ encodeClosingTag 0
        ++ encodeContextBitString statusFlags.toBits 1 ++ encodeClosingTag 1
  | .outOfRange exceedingValue statusFlags deadband exceededLimit =>
      encodeOpeningTag 5 ++ encodeContextReal exceedingValue 0
        ++ encodeContextBitString statusFlags.toBits 1 ++ encodeContextReal deadband 2
        ++ encodeContextReal exceededLimit 3 ++ encodeClosingTag 5
  -- The property values are required, and may be none.
  | .changeOfReliability reliability statusFlags =>
      encodeOpeningTag 19 ++ encodeContextEnumerated reliability.value 0
        ++ encodeContextBitString statusFlags.toBits 1 ++ encodeOpeningTag 2 ++ encodeClosingTag 2
        ++ encodeClosingTag 19

/-- `EventNotification::encode`: an acknowledgement tells neither whether another is wanted nor
what it is about. -/
def EventNotification.encode (self : EventNotification) : Except EncodingError Bytes := do
  let device ← encodeContextObjectId self.initiatingDevice 1
  let object ← encodeContextObjectId self.eventObject 2
  let timestamp ← encodeConstructedTimestamp self.timestamp 3
  let message :=
    match self.messageText with
    | some text => encodeContextCharString text 7
    | none => []
  -- An acknowledgement carries neither the state left nor the values.
  let before :=
    if self.notifyType ≠ .ackNotification then
      encodeContextBoolean self.ackRequired 9
        ++ encodeContextEnumerated self.fromState.value.toUInt32 10
    else []
  let values :=
    if self.notifyType ≠ .ackNotification then
      encodeOpeningTag 12 ++ self.parameters.encode ++ encodeClosingTag 12
    else []
  return encodeContextUnsigned self.processIdentifier 0 ++ device ++ object ++ timestamp
    ++ encodeContextUnsigned self.notificationClass 4 ++ encodeContextUnsigned self.priority 5
    ++ encodeContextEnumerated self.parameters.eventType.toUInt32 6 ++ message
    ++ encodeContextEnumerated self.notifyType.toUInt32 8 ++ before
    ++ encodeContextEnumerated self.toState.value.toUInt32 11 ++ values

end BacnetRs.Service
