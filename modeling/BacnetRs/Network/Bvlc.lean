/-
  BacnetRs.Network.Bvlc — the envelope of a BACnet/IP datagram
  (`datalink/bip.rs`).

  Type, function and total length in four octets, then what the function
  carries.

    * `BvlcHeader.decode_eq_ok` — what a header that decodes says of the datagram.
-/
import BacnetRs.Library.Words
import BacnetRs.Network.Host

namespace BacnetRs.Network

/-- What a data link reports; an operating-system error by its code. -/
inductive DataLinkError where
  | ioError (code : Nat)
  | invalidFrame
  | crcError
  | unsupportedType
  deriving Repr, DecidableEq

/-- BVLC message types. -/
inductive BvlcFunction where
  | result
  | writeBroadcastDistributionTable
  | readBroadcastDistributionTable
  | readBroadcastDistributionTableAck
  | forwardedNpdu
  | registerForeignDevice
  | readForeignDeviceTable
  | readForeignDeviceTableAck
  | deleteForeignDeviceTableEntry
  | distributeBroadcastToNetwork
  | originalUnicastNpdu
  | originalBroadcastNpdu
  | secureBvll
  deriving Repr, DecidableEq

namespace BvlcFunction

/-- `function as u8`. -/
def toByte : BvlcFunction → UInt8
  | result => 0x00
  | writeBroadcastDistributionTable => 0x01
  | readBroadcastDistributionTable => 0x02
  | readBroadcastDistributionTableAck => 0x03
  | forwardedNpdu => 0x04
  | registerForeignDevice => 0x05
  | readForeignDeviceTable => 0x06
  | readForeignDeviceTableAck => 0x07
  | deleteForeignDeviceTableEntry => 0x08
  | distributeBroadcastToNetwork => 0x09
  | originalUnicastNpdu => 0x0A
  | originalBroadcastNpdu => 0x0B
  | secureBvll => 0x0C

/-- `BvlcFunction::try_from`. -/
def tryFrom (value : UInt8) : Except DataLinkError BvlcFunction :=
  if value = 0x00 then .ok result
  else if value = 0x01 then .ok writeBroadcastDistributionTable
  else if value = 0x0A then .ok originalUnicastNpdu
  else if value = 0x0B then .ok originalBroadcastNpdu
  else if value = 0x04 then .ok forwardedNpdu
  else if value = 0x05 then .ok registerForeignDevice
  else if value = 0x02 then .ok readBroadcastDistributionTable
  else if value = 0x03 then .ok readBroadcastDistributionTableAck
  else if value = 0x06 then .ok readForeignDeviceTable
  else if value = 0x07 then .ok readForeignDeviceTableAck
  else if value = 0x08 then .ok deleteForeignDeviceTableEntry
  else if value = 0x09 then .ok distributeBroadcastToNetwork
  else if value = 0x0C then .ok secureBvll
  else .error .invalidFrame

theorem tryFrom_toByte (function : BvlcFunction) : tryFrom function.toByte = .ok function := by
  cases function <;> rfl

theorem toByte_of_tryFrom {value : UInt8} {function : BvlcFunction}
    (h : tryFrom value = .ok function) : function.toByte = value := by
  have hall : ∀ octet : Fin 256, ∀ known, (tryFrom (.ofNat octet)).toOption = some known →
      known.toByte = .ofNat octet := by
    decide +kernel
  have hvalue := hall ⟨value.toNat, value.toNat_lt⟩ function
  simp only [UInt8.ofNat_toNat, h] at hvalue
  exact hvalue rfl

end BvlcFunction

/-- The first four octets of a BACnet/IP message. -/
structure BvlcHeader where
  bvlcType : UInt8
  function : BvlcFunction
  length : UInt16
  deriving Repr, DecidableEq

namespace BvlcHeader

/-- `BvlcHeader::new`. -/
def new (function : BvlcFunction) (length : UInt16) : BvlcHeader := ⟨0x81, function, length⟩

/-- `BvlcHeader::encode`. -/
def encode (header : BvlcHeader) : Bytes :=
  [header.bvlcType, header.function.toByte, (header.length >>> 8).toUInt8,
    (header.length &&& 0xFF).toUInt8]

/-- `BvlcHeader::decode`. -/
def decode : Bytes → Except DataLinkError BvlcHeader
  | bvlcType :: function :: high :: low :: _ => do
      if bvlcType ≠ 0x81 then throw .invalidFrame
      let function ← BvlcFunction.tryFrom function
      return ⟨bvlcType, function, high.toUInt16 <<< 8 ||| low.toUInt16⟩
  | _ => throw .invalidFrame

/-- The length in two octets. -/
theorem length_toNat (high low : UInt8) :
    (high.toUInt16 <<< 8 ||| low.toUInt16).toNat = Octets.beNat [high, low] :=
  Octets.toNat_wordOf_eq_beNat high low

/-- **What a header that decodes says of the datagram.** -/
theorem decode_eq_ok {data : Bytes} {header : BvlcHeader} (h : decode data = .ok header) :
    ∃ high low rest, data = 0x81 :: header.function.toByte :: high :: low :: rest
      ∧ header.length.toNat = Octets.beNat [high, low] := by
  match data with
  | [] => cases h
  | [_] => cases h
  | [_, _] => cases h
  | [_, _, _] => cases h
  | bvlcType :: function :: high :: low :: rest =>
      by_cases htype : bvlcType ≠ 0x81
      · have herror : decode (bvlcType :: function :: high :: low :: rest)
            = .error .invalidFrame := if_pos htype
        rw [herror] at h
        cases h
      · have hread : decode (bvlcType :: function :: high :: low :: rest)
            = BvlcFunction.tryFrom function >>= fun function =>
              pure ⟨bvlcType, function, high.toUInt16 <<< 8 ||| low.toUInt16⟩ := if_neg htype
        rw [hread] at h
        cases hfunction : BvlcFunction.tryFrom function with
        | error e =>
            rw [hfunction] at h
            cases h
        | ok known =>
            rw [hfunction] at h
            cases h
            refine ⟨high, low, rest, ?_, length_toNat high low⟩
            rw [not_not.mp htype, ← BvlcFunction.toByte_of_tryFrom hfunction]

end BvlcHeader

/-- `wrap_bvlc_parts`: the parts of a message, one after another, in an envelope. -/
def wrapBvlcParts (function : BvlcFunction) (payloadParts : List Bytes) : Bytes :=
  (BvlcHeader.new function (UInt16.ofNat (4 + payloadParts.flatten.length))).encode
    ++ payloadParts.flatten

end BacnetRs.Network
