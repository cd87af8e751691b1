/-
  BacnetRs.Service.Choice — service choices, reasons and error codes
  (`service/mod.rs`).

  Reject reasons, abort reasons, error classes and error codes come from
  `generate_custom_enum!` and are modelled by their numbers; the named ones are
  those the modelled code sends or a reader meets in a trace.
-/
import BacnetRs.Property.Value

namespace BacnetRs.Service

open BacnetRs.Encoding BacnetRs.Object

/-! ## §1. Service choices -/

/-- Confirmed service choices. -/
inductive ConfirmedServiceChoice where
  | acknowledgeAlarm
  | confirmedCovNotification
  | confirmedEventNotification
  | getAlarmSummary
  | getEnrollmentSummary
  | getEventInformation
  | atomicReadFile
  | atomicWriteFile
  | addListElement
  | removeListElement
  | createObject
  | deleteObject
  | readProperty
  | readPropertyMultiple
  | writeProperty
  | writePropertyMultiple
  | deviceCommunicationControl
  | reinitializeDevice
  | vtOpen
  | vtClose
  | vtData
  | authenticate
  | requestKey
  | readRange
  | subscribeCov
  | subscribeCovProperty
  | authRequest
  deriving Repr, DecidableEq

/-- `choice as u8`. -/
def ConfirmedServiceChoice.toByte : ConfirmedServiceChoice → UInt8
  | .acknowledgeAlarm => 0
  | .confirmedCovNotification => 1
  | .confirmedEventNotification => 2
  | .getAlarmSummary => 3
  | .getEnrollmentSummary => 4
  | .getEventInformation => 29
  | .atomicReadFile => 6
  | .atomicWriteFile => 7
  | .addListElement => 8
  | .removeListElement => 9
  | .createObject => 10
  | .deleteObject => 11
  | .readProperty => 12
  | .readPropertyMultiple => 14
  | .writeProperty => 15
  | .writePropertyMultiple => 16
  | .deviceCommunicationControl => 17
  | .reinitializeDevice => 20
  | .vtOpen => 21
  | .vtClose => 22
  | .vtData => 23
  | .authenticate => 24
  | .requestKey => 25
  | .readRange => 26
  | .subscribeCov => 5
  | .subscribeCovProperty => 28
  | .authRequest => 34

/-- `ConfirmedServiceChoice::try_from`; `none` is the unsupported-choice error. -/
def ConfirmedServiceChoice.tryFrom (value : UInt8) : Option ConfirmedServiceChoice :=
  match value.toNat with
  | 0 => some .acknowledgeAlarm
  | 1 => some .confirmedCovNotification
  | 2 => some .confirmedEventNotification
  | 3 => some .getAlarmSummary
  | 4 => some .getEnrollmentSummary
  | 29 => some .getEventInformation
  | 6 => some .atomicReadFile
  | 7 => some .atomicWriteFile
  | 8 => some .addListElement
  | 9 => some .removeListElement
  | 10 => some .createObject
  | 11 => some .deleteObject
  | 12 => some .readProperty
  | 14 => some .readPropertyMultiple
  | 15 => some .writeProperty
  | 16 => some .writePropertyMultiple
  | 17 => some .deviceCommunicationControl
  | 20 => some .reinitializeDevice
  | 21 => some .vtOpen
  | 22 => some .vtClose
  | 23 => some .vtData
  | 24 => some .authenticate
  | 25 => some .requestKey
  | 26 => some .readRange
  | 5 => some .subscribeCov
  | 28 => some .subscribeCovProperty
  | 34 => some .authRequest
  | _ => none

/-- A service choice is recovered from its octet. -/
theorem ConfirmedServiceChoice.tryFrom_toByte (choice : ConfirmedServiceChoice) :
    tryFrom choice.toByte = some choice := by
  cases choice <;> rfl

/-- Different services have different octets. -/
theorem ConfirmedServiceChoice.toByte_injective {a b : ConfirmedServiceChoice}
    (h : a.toByte = b.toByte) : a = b := by
  have hab : tryFrom a.toByte = tryFrom b.toByte := by rw [h]
  rw [tryFrom_toByte, tryFrom_toByte] at hab
  exact Option.some.inj hab

/-- Unconfirmed service choices. -/
inductive UnconfirmedServiceChoice where
  | iAm
  | iHave
  | unconfirmedCovNotification
  | unconfirmedEventNotification
  | unconfirmedPrivateTransfer
  | unconfirmedTextMessage
  | timeSynchronization
  | whoHas
  | whoIs
  | utcTimeSynchronization
  | writeGroup
  | unconfirmedCovNotificationMultiple
  | unconfirmedAuditNotification
  | whoAmI
  | youAre
  deriving Repr, DecidableEq

/-- `choice as u8`. -/
def UnconfirmedServiceChoice.toByte : UnconfirmedServiceChoice → UInt8
  | .iAm => 0
  | .iHave => 1
  | .unconfirmedCovNotification => 2
  | .unconfirmedEventNotification => 3
  | .unconfirmedPrivateTransfer => 4
  | .unconfirmedTextMessage => 5
  | .timeSynchronization => 6
  | .whoHas => 7
  | .whoIs => 8
  | .utcTimeSynchronization => 9
  | .writeGroup => 10
  | .unconfirmedCovNotificationMultiple => 11
  | .unconfirmedAuditNotification => 12
  | .whoAmI => 13
  | .youAre => 14

/-- `UnconfirmedServiceChoice::try_from`. -/
def UnconfirmedServiceChoice.tryFrom (value : UInt8) : Option UnconfirmedServiceChoice :=
  match value.toNat with
  | 0 => some .iAm
  | 1 => some .iHave
  | 2 => some .unconfirmedCovNotification
  | 3 => some .unconfirmedEventNotification
  | 4 => some .unconfirmedPrivateTransfer
  | 5 => some .unconfirmedTextMessage
  | 6 => some .timeSynchronization
  | 7 => some .whoHas
  | 8 => some .whoIs
  | 9 => some .utcTimeSynchronization
  | 10 => some .writeGroup
  | 11 => some .unconfirmedCovNotificationMultiple
  | 12 => some .unconfirmedAuditNotification
  | 13 => some .whoAmI
  | 14 => some .youAre
  | _ => none

/-! ## §2. Reasons and error codes -/

/-- `RejectReason`, by its number. -/
structure RejectReason where
  value : UInt8
  deriving Repr, DecidableEq

def RejectReason.invalidTag : RejectReason := ⟨4⟩
def RejectReason.unrecognizedService : RejectReason := ⟨9⟩

/-- `AbortReason`, by its number. -/
structure AbortReason where
  value : UInt8
  deriving Repr, DecidableEq

namespace AbortReason

def bufferOverflow : AbortReason := ⟨1⟩
def invalidApduInThisState : AbortReason := ⟨2⟩
def segmentationNotSupported : AbortReason := ⟨4⟩
def apduTooLong : AbortReason := ⟨11⟩

end AbortReason

/-- `ErrorClass`, by its number. -/
structure ErrorClass where
  value : UInt32
  deriving Repr, DecidableEq

/-- `ErrorCode`, by its number. -/
structure ErrorCode where
  value : UInt32
  deriving Repr, DecidableEq

/-! ## §3. Who-Is and I-Am -/

/-- `WhoIsRequest`: the device instances asked for. -/
structure WhoIsRequest where
  deviceInstanceRangeLowLimit : Option UInt32
  deviceInstanceRangeHighLimit : Option UInt32
  deriving Repr, DecidableEq

namespace WhoIsRequest

/-- `WhoIsRequest::new`: all devices. -/
def new : WhoIsRequest := ⟨none, none⟩

/-- `WhoIsRequest::encode`: one limit without the other is not written. -/
def encode (request : WhoIsRequest) : Bytes :=
  match request.deviceInstanceRangeLowLimit, request.deviceInstanceRangeHighLimit with
  | some low, some high => encodeContextUnsigned low 0 ++ encodeContextUnsigned high 1
  | _, _ => []

/-- `WhoIsRequest::decode`: a low limit needs a high limit, and nothing after it. -/
def decode (data : Bytes) : Decoded WhoIsRequest := do
  if data.isEmpty then return new
  let (low, consumed) ← (decodeContextUnsigned data 0).mapErr
    (fun _ => .invalidFormat "Who-Is request contains an invalid device range")
  let rest ← Octets.dropFrom data consumed
  let (high, length) ← (decodeContextUnsigned rest 1).mapErr
    (fun _ => .invalidFormat "Who-Is request has low limit without high limit")
  if consumed + length ≠ data.length then
    Checked.fail (.invalidFormat "Who-Is request contains trailing data")
  return ⟨some low, some high⟩

/-- `WhoIsRequest::matches`. -/
def «matches» (request : WhoIsRequest) (deviceInstance : UInt32) : Bool :=
  request.deviceInstanceRangeLowLimit.all (fun low => decide (low ≤ deviceInstance))
    && request.deviceInstanceRangeHighLimit.all (fun high => decide (deviceInstance ≤ high))

end WhoIsRequest

/-- `IAmRequest`: what a device announces about itself. -/
structure IAmRequest where
  deviceIdentifier : ObjectIdentifier
  maxApduLengthAccepted : UInt32
  segmentationSupported : Segmentation
  vendorIdentifier : UInt16
  deriving Repr, DecidableEq

/-- `IAmRequest::encode`. -/
def IAmRequest.encode (request : IAmRequest) : Except EncodingError Bytes := do
  let device ← encodeObjectIdentifier request.deviceIdentifier
  return device ++ encodeUnsigned request.maxApduLengthAccepted
    ++ encodeEnumerated request.segmentationSupported.toUInt32
    ++ encodeUnsigned request.vendorIdentifier.toUInt32

/-- `IAmRequest::decode`. -/
def IAmRequest.decode (data : Bytes) : Decoded IAmRequest := do
  let (deviceIdentifier, consumed) ← decodeObjectIdentifier data
  let rest ← Octets.dropFrom data consumed
  let (maxApduLengthAccepted, consumed) ← decodeUnsigned rest
  let rest ← Octets.dropFrom rest consumed
  let (segmentation, consumed) ← decodeEnumerated rest
  let rest ← Octets.dropFrom rest consumed
  let (vendorIdentifier, _) ← decodeUnsigned rest
  match Segmentation.tryFrom segmentation with
  | some segmentationSupported =>
      return ⟨deviceIdentifier, maxApduLengthAccepted, segmentationSupported,
        vendorIdentifier.toUInt16⟩
  | none =>
      Checked.fail (.invalidFormat
        s!"Invalid configuration: Unknown segmentation: {segmentation}")

/-! ## §4. Decoding does not panic -/

section Meets

open Checked

theorem WhoIsRequest.decode_meets (data : Bytes) :
    Meets (WhoIsRequest.decode data) (fun _ => True) := by
  unfold WhoIsRequest.decode
  split
  · exact meets_ok trivial
  · refine ((decodeContextUnsigned_takes data 0).mapErr).bind ?_
    rintro ⟨low, consumed⟩ ⟨_, hlow⟩
    refine (Octets.dropFrom_meets hlow).bind (fun rest _ => ?_)
    refine ((decodeContextUnsigned_takes rest 1).mapErr).bind ?_
    rintro ⟨high, length⟩ _
    exact meets_guard (fun _ => meets_ok trivial)

theorem IAmRequest.decode_meets (data : Bytes) :
    Meets (IAmRequest.decode data) (fun _ => True) := by
  refine (decodeObjectIdentifier_takes data).bind ?_
  rintro ⟨device, consumed⟩ ⟨_, hdevice⟩
  refine (Octets.dropFrom_meets hdevice).bind (fun afterDevice _ => ?_)
  refine (decodeUnsigned32_takes afterDevice .unsignedInt).bind ?_
  rintro ⟨maxApdu, consumed⟩ ⟨_, hmaxApdu⟩
  refine (Octets.dropFrom_meets hmaxApdu).bind (fun afterMaxApdu _ => ?_)
  refine (decodeUnsigned32_takes afterMaxApdu .enumerated).bind ?_
  rintro ⟨segmentation, consumed⟩ ⟨_, hsegmentation⟩
  refine (Octets.dropFrom_meets hsegmentation).bind (fun afterSegmentation _ => ?_)
  refine (decodeUnsigned32_takes afterSegmentation .unsignedInt).bind ?_
  rintro ⟨vendor, consumed⟩ _
  simp only
  split
  · exact meets_ok trivial
  · exact meets_fail _

end Meets

end BacnetRs.Service
