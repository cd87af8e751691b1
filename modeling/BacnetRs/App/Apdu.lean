/-
  BacnetRs.App.Apdu — application protocol data units (`app/mod.rs`).

  The eight APDU types with their encoder, the encoder's advertised length and
  the decoder.
-/
import BacnetRs.Service.CovNotification

namespace BacnetRs.App

open BacnetRs.Encoding BacnetRs.Property BacnetRs.Service

/-- What the application layer reports. -/
inductive ApplicationError where
  | invalidApdu (message : String)
  | unsupportedApduType
  | transactionError (message : String)
  deriving Repr, DecidableEq

/-! ## §1. Sizes -/

/-- Maximum segments that can be accepted. -/
inductive MaxSegments where
  | unspecified
  | two
  | four
  | eight
  | sixteen
  | thirtyTwo
  | sixtyFour
  | greaterThan64
  deriving Repr, DecidableEq

/-- `max_segments as u8`. -/
def MaxSegments.toByte : MaxSegments → UInt8
  | .unspecified => 0
  | .two => 1
  | .four => 2
  | .eight => 3
  | .sixteen => 4
  | .thirtyTwo => 5
  | .sixtyFour => 6
  | .greaterThan64 => 7

/-- The three-bit field of a request's second octet. -/
def MaxSegments.ofByte (value : UInt8) : MaxSegments :=
  match value.toNat with
  | 0 => .unspecified
  | 1 => .two
  | 2 => .four
  | 3 => .eight
  | 4 => .sixteen
  | 5 => .thirtyTwo
  | 6 => .sixtyFour
  | 7 => .greaterThan64
  | _ => .unspecified

/-- Maximum APDU size that can be accepted. -/
inductive MaxApduSize where
  | up50
  | up128
  | up206
  | up480
  | up1024
  | up1476
  deriving Repr, DecidableEq

namespace MaxApduSize

/-- `size as u8`. -/
def toByte : MaxApduSize → UInt8
  | .up50 => 0
  | .up128 => 1
  | .up206 => 2
  | .up480 => 3
  | .up1024 => 4
  | .up1476 => 5

/-- The low nibble of a request's second octet; reserved values read as the
smallest size. -/
def ofByte (value : UInt8) : MaxApduSize :=
  match value.toNat with
  | 0 => .up50
  | 1 => .up128
  | 2 => .up206
  | 3 => .up480
  | 4 => .up1024
  | 5 => .up1476
  | _ => .up50

/-- `MaxApduSize::size`. -/
def size : MaxApduSize → Nat
  | .up50 => 50
  | .up128 => 128
  | .up206 => 206
  | .up480 => 480
  | .up1024 => 1024
  | .up1476 => 1476

/-- `MaxApduSize::at_most`: the largest size within `bytes`, floored at 50. -/
def atMost (bytes : UInt32) : MaxApduSize :=
  ([up1476, up1024, up480, up206, up128].find?
    (fun candidate => candidate.size ≤ bytes.toNat)).getD up50

theorem fifty_le_size (size : MaxApduSize) : 50 ≤ size.size := by
  cases size <;> decide

end MaxApduSize

/-! ## §2. APDUs -/

/-- A confirmed request's fields. -/
structure ConfirmedRequest where
  segmented : Bool
  moreFollows : Bool
  segmentedResponseAccepted : Bool
  maxSegments : MaxSegments
  maxResponseSize : MaxApduSize
  invokeId : UInt8
  sequenceNumber : Option UInt8
  proposedWindowSize : Option UInt8
  serviceChoice : ConfirmedServiceChoice
  serviceData : Bytes
  deriving Repr, DecidableEq

/-- A complex acknowledgement's fields. -/
structure ComplexAck where
  segmented : Bool
  moreFollows : Bool
  invokeId : UInt8
  sequenceNumber : Option UInt8
  proposedWindowSize : Option UInt8
  serviceChoice : ConfirmedServiceChoice
  serviceData : Bytes
  deriving Repr, DecidableEq

/-- Application protocol data unit. -/
inductive Apdu where
  | confirmedRequest (request : ConfirmedRequest)
  | unconfirmedRequest (serviceChoice : UnconfirmedServiceChoice) (serviceData : Bytes)
  | simpleAck (invokeId : UInt8) (serviceChoice : UInt8)
  | complexAck (ack : ComplexAck)
  | segmentAck (negative server : Bool) (invokeId sequenceNumber windowSize : UInt8)
  /-- `firstFailedWrite` is a WritePropertyMultiple error's first failed write. -/
  | error (invokeId : UInt8) (serviceChoice : ConfirmedServiceChoice)
      (errorClass errorCode : UInt32) (firstFailedWrite : Option ObjectPropertyReference)
  | reject (invokeId : UInt8) (rejectReason : RejectReason)
  | abort (server : Bool) (invokeId : UInt8) (abortReason : AbortReason)
  deriving Repr, DecidableEq

/-- An APDU type number in the high nibble. -/
def pduType (number : UInt8) : UInt8 := number <<< 4

/-- A flag bit of the first octet. -/
def flag (set : Bool) (bit : UInt8) : UInt8 := if set then bit else 0

/-- Sequence number and window, which only a segmented PDU carries. -/
def segmentOctets (segmented : Bool) (sequenceNumber windowSize : Option UInt8) : Bytes :=
  if segmented then sequenceNumber.toList ++ windowSize.toList else []

/-- What `reference.encode(&mut buffer)` leaves in the buffer when its outcome is
ignored: an unencodable object identifier fails before anything is written. -/
def encodeIgnored (reference : ObjectPropertyReference) : Bytes :=
  match reference.encode with
  | .ok octets => octets
  | .error _ => []

/-- `Apdu::encode`. -/
def Apdu.encode : Apdu → Bytes
  | .confirmedRequest request =>
      (pduType 0 ||| flag request.segmented 0x08 ||| flag request.moreFollows 0x04
          ||| flag request.segmentedResponseAccepted 0x02)
        :: (request.maxSegments.toByte <<< 4 ||| request.maxResponseSize.toByte)
        :: request.invokeId
        :: (segmentOctets request.segmented request.sequenceNumber request.proposedWindowSize
          ++ request.serviceChoice.toByte :: request.serviceData)
  | .unconfirmedRequest serviceChoice serviceData =>
      pduType 1 :: serviceChoice.toByte :: serviceData
  | .simpleAck invokeId serviceChoice => [pduType 2, invokeId, serviceChoice]
  | .complexAck ack =>
      (pduType 3 ||| flag ack.segmented 0x08 ||| flag ack.moreFollows 0x04)
        :: ack.invokeId
        :: (segmentOctets ack.segmented ack.sequenceNumber ack.proposedWindowSize
          ++ ack.serviceChoice.toByte :: ack.serviceData)
  | .segmentAck negative server invokeId sequenceNumber windowSize =>
      [pduType 4 ||| flag negative 0x02 ||| flag server 0x01, invokeId, sequenceNumber, windowSize]
  | .error invokeId serviceChoice errorClass errorCode firstFailedWrite =>
      pduType 5 :: invokeId :: serviceChoice.toByte ::
        match firstFailedWrite with
        | some reference =>
            encodeOpeningTag 0 ++ encodeEnumerated errorClass ++ encodeEnumerated errorCode
              ++ encodeClosingTag 0 ++ encodeOpeningTag 1 ++ encodeIgnored reference
              ++ encodeClosingTag 1
        | none => encodeEnumerated errorClass ++ encodeEnumerated errorCode
  | .reject invokeId rejectReason => [pduType 6, invokeId, rejectReason.value]
  | .abort server invokeId abortReason =>
      [pduType 7 ||| flag server 0x01, invokeId, abortReason.value]

/-- `encoded_enumerated_len`. -/
def encodedEnumeratedLen (value : UInt32) : Nat :=
  1 + if value ≤ 0xFF then 1 else if value ≤ 0xFFFF then 2 else if value ≤ 0xFFFFFF then 3 else 4

/-- `Apdu::encoded_len`. -/
def Apdu.encodedLen : Apdu → Nat
  | .confirmedRequest request =>
      4 + (if request.segmented then 1 else 0) * 2 + request.serviceData.length
  | .unconfirmedRequest _ serviceData => 2 + serviceData.length
  | .simpleAck _ _ => 3
  | .complexAck ack => 3 + (if ack.segmented then 1 else 0) * 2 + ack.serviceData.length
  | .segmentAck _ _ _ _ _ => 4
  | .error _ _ errorClass errorCode firstFailedWrite =>
      3 + encodedEnumeratedLen errorClass + encodedEnumeratedLen errorCode
        + firstFailedWrite.elim 0 (fun reference => 4 + (encodeIgnored reference).length)
  | .reject _ _ => 3
  | .abort _ _ _ => 3

/-! ## §3. Decoding -/

/-- A decoder's outcome. -/
abbrev DecodedApdu (α : Type) := Checked ApplicationError α

/-- `data[pos..]`, or nothing when the octets end before it. -/
def serviceDataFrom (data : Bytes) (pos : Nat) : DecodedApdu Bytes :=
  if pos < data.length then Octets.dropFrom data pos else return []

/-- The confirmed service choice at `pos`. -/
def serviceChoiceAt (data : Bytes) (pos : Nat) : DecodedApdu ConfirmedServiceChoice := do
  let octet ← Octets.index data pos
  Checked.orFail (.invalidApdu "Unknown confirmed service choice")
    (ConfirmedServiceChoice.tryFrom octet)

/-- The octets a segmented PDU has at `pos` and after it, each absent when the
data ends first, and the position behind them. -/
def segmentFields (segmented : Bool) (data : Bytes) (pos : Nat) :
    Option UInt8 × Option UInt8 × Nat :=
  if segmented then (data[pos]?, data[pos + 1]?, pos + 2) else (none, none, pos)

/-- The confirmed-request arm of `Apdu::decode`. -/
def decodeConfirmedRequest (data : Bytes) (first : UInt8) : DecodedApdu Apdu := do
  if data.length < 4 then Checked.fail (.invalidApdu "Confirmed request too short")
  let maxInfo ← Octets.index data 1
  let invokeId ← Octets.index data 2
  let segmented := first &&& 0x08 != 0
  let (sequenceNumber, proposedWindowSize, pos) := segmentFields segmented data 3
  if pos ≥ data.length then Checked.fail (.invalidApdu "Missing service choice")
  let serviceChoice ← serviceChoiceAt data pos
  let serviceData ← serviceDataFrom data (pos + 1)
  return .confirmedRequest
    { segmented
      moreFollows := first &&& 0x04 != 0
      segmentedResponseAccepted := first &&& 0x02 != 0
      maxSegments := MaxSegments.ofByte ((maxInfo >>> 4) &&& 0x07)
      maxResponseSize := MaxApduSize.ofByte (maxInfo &&& 0x0F)
      invokeId, sequenceNumber, proposedWindowSize, serviceChoice, serviceData }

/-- The complex-acknowledgement arm of `Apdu::decode`. -/
def decodeComplexAck (data : Bytes) (first : UInt8) : DecodedApdu Apdu := do
  if data.length < 3 then Checked.fail (.invalidApdu "ComplexAck too short")
  let invokeId ← Octets.index data 1
  let segmented := first &&& 0x08 != 0
  let (sequenceNumber, proposedWindowSize, pos) := segmentFields segmented data 2
  if pos ≥ data.length then Checked.fail (.invalidApdu "Missing service choice")
  let serviceChoice ← serviceChoiceAt data pos
  let serviceData ← serviceDataFrom data (pos + 1)
  return .complexAck
    { segmented
      moreFollows := first &&& 0x04 != 0
      invokeId, sequenceNumber, proposedWindowSize, serviceChoice, serviceData }

/-- An encoding error inside an Error PDU, reported as the part that is invalid. -/
def invalidPart {α : Type} (what : String) (decoded : Decoded α) : DecodedApdu α :=
  decoded.mapErr (fun _ => .invalidApdu ("Invalid " ++ what))

/-- WritePropertyMultiple's first failed write, after the wrapped error. -/
def decodeFirstFailedWrite (rest : Bytes) : DecodedApdu ObjectPropertyReference := do
  let offset ← invalidPart "first failed write" (Checked.ofExcept (decodeOpeningTag rest 1))
  let rest ← Octets.dropFrom rest offset
  let (reference, offset) ←
    invalidPart "first failed write" (ObjectPropertyReference.decode rest)
  let rest ← Octets.dropFrom rest offset
  let _ ← invalidPart "first failed write" (Checked.ofExcept (decodeClosingTag rest 1))
  return reference

/-- The error arm of `Apdu::decode`. -/
def decodeError (data : Bytes) : DecodedApdu Apdu := do
  if data.length < 5 then Checked.fail (.invalidApdu "Error PDU too short")
  let invokeId ← Octets.index data 1
  let serviceChoice ← serviceChoiceAt data 2
  let rest ← Octets.dropFrom data 3
  -- Some services wrap the error in [0] and add detail after it.
  let extended := isOpeningTag rest 0
  let rest ←
    if extended then do
      let offset ← invalidPart "error" (Checked.ofExcept (decodeOpeningTag rest 0))
      Octets.dropFrom rest offset
    else pure rest
  let (errorClass, offset) ← invalidPart "error class" (decodeEnumerated rest)
  let rest ← Octets.dropFrom rest offset
  let (errorCode, offset) ← invalidPart "error code" (decodeEnumerated rest)
  let rest ← Octets.dropFrom rest offset
  if extended then
    let offset ← invalidPart "error" (Checked.ofExcept (decodeClosingTag rest 0))
    if serviceChoice = .writePropertyMultiple then
      let rest ← Octets.dropFrom rest offset
      let reference ← decodeFirstFailedWrite rest
      return .error invokeId serviceChoice errorClass errorCode (some reference)
    else return .error invokeId serviceChoice errorClass errorCode none
  else return .error invokeId serviceChoice errorClass errorCode none

/-- `Apdu::decode`. -/
def Apdu.decode (data : Bytes) : DecodedApdu Apdu := do
  if data.isEmpty then Checked.fail (.invalidApdu "Empty APDU")
  let first ← Octets.index data 0
  -- The high half of the first octet is the PDU type.
  match ((first >>> 4) &&& 0x0F).toNat with
  | 0 => decodeConfirmedRequest data first
  | 1 =>
      if data.length < 2 then Checked.fail (.invalidApdu "Unconfirmed request too short")
      let octet ← Octets.index data 1
      let serviceData ← serviceDataFrom data 2
      let serviceChoice ← Checked.orFail (.invalidApdu "Unknown unconfirmed service choice")
        (UnconfirmedServiceChoice.tryFrom octet)
      return .unconfirmedRequest serviceChoice serviceData
  | 2 =>
      if data.length < 3 then Checked.fail (.invalidApdu "SimpleAck too short")
      let invokeId ← Octets.index data 1
      let serviceChoice ← Octets.index data 2
      return .simpleAck invokeId serviceChoice
  | 3 => decodeComplexAck data first
  | 4 =>
      if data.length < 4 then Checked.fail (.invalidApdu "SegmentAck too short")
      let invokeId ← Octets.index data 1
      let sequenceNumber ← Octets.index data 2
      let windowSize ← Octets.index data 3
      -- Bit 1 is the negative flag, bit 0 the server's.
      return .segmentAck (first &&& 0x02 != 0) (first &&& 0x01 != 0) invokeId sequenceNumber
        windowSize
  | 5 => decodeError data
  | 6 =>
      if data.length < 3 then Checked.fail (.invalidApdu "Reject PDU too short")
      let invokeId ← Octets.index data 1
      let reason ← Octets.index data 2
      return .reject invokeId ⟨reason⟩
  | 7 =>
      if data.length < 3 then Checked.fail (.invalidApdu "Abort PDU too short")
      let invokeId ← Octets.index data 1
      let reason ← Octets.index data 2
      return .abort (first &&& 0x01 != 0) invokeId ⟨reason⟩
  | _ => Checked.fail .unsupportedApduType

end BacnetRs.App
