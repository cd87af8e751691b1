/-
  BacnetRs.Network.Npdu — the network layer header (`network/mod.rs`).

  An NPDU carries the control flags and, for traffic through a router, where
  the message goes and where it came from.
-/
import BacnetRs.Library.Octets

namespace BacnetRs.Network

/-- What the network layer reports. -/
inductive NetworkError where
  | invalidNpdu (message : String)
  | routingError (message : String)
  | networkUnreachable (network : UInt16)
  | hopCountExceeded
  | unsupportedNetworkMessageType (value : UInt8)
  deriving Repr, DecidableEq

/-- A network number and a MAC address on that network. -/
structure NetworkAddress where
  network : UInt16
  address : Bytes
  deriving Repr, DecidableEq

/-- `is_broadcast`: every network. -/
def NetworkAddress.isBroadcast (address : NetworkAddress) : Bool := address.network == 0xFFFF

/-- NPDU control flags. -/
structure NpduControl where
  networkMessage : Bool
  destinationPresent : Bool
  sourcePresent : Bool
  expectingReply : Bool
  priority : UInt8
  deriving Repr, DecidableEq

/-- `NpduControl::default`. -/
def NpduControl.default : NpduControl := ⟨false, false, false, false, 0⟩

/-- `NpduControl::to_byte`. -/
def NpduControl.toByte (control : NpduControl) : UInt8 :=
  (if control.networkMessage then 0x80 else 0)
    ||| (if control.destinationPresent then 0x20 else 0)
    ||| (if control.sourcePresent then 0x08 else 0)
    ||| (if control.expectingReply then 0x04 else 0)
    ||| (control.priority &&& 0x03)

/-- `NpduControl::from_byte`. -/
def NpduControl.fromByte (byte : UInt8) : NpduControl where
  networkMessage := byte &&& 0x80 != 0
  destinationPresent := byte &&& 0x20 != 0
  sourcePresent := byte &&& 0x08 != 0
  expectingReply := byte &&& 0x04 != 0
  priority := byte &&& 0x03

/-- A network protocol data unit's header. -/
structure Npdu where
  version : UInt8
  control : NpduControl
  destination : Option NetworkAddress
  source : Option NetworkAddress
  hopCount : Option UInt8
  deriving Repr, DecidableEq

namespace Npdu

/-- `Npdu::new`. -/
def new : Npdu := ⟨1, .default, none, none, none⟩

/-- `Npdu::global_broadcast`. -/
def globalBroadcast : Npdu :=
  ⟨1, ⟨false, true, false, false, 0⟩, some ⟨0xFFFF, []⟩, none, some 255⟩

/-- `Npdu::is_network_message`. -/
def isNetworkMessage (npdu : Npdu) : Bool := npdu.control.networkMessage

/-- `Npdu::set_source`. -/
def setSource (npdu : Npdu) (source : NetworkAddress) : Npdu :=
  { npdu with
    source := some source
    control := { npdu.control with sourcePresent := true } }

/-- `Npdu::set_destination`. -/
def setDestination (npdu : Npdu) (destination : NetworkAddress) : Npdu :=
  { npdu with
    destination := some destination
    control := { npdu.control with destinationPresent := true } }

/-- An address as the header carries it: network, length octet, MAC. -/
def encodeAddress (address : NetworkAddress) : Bytes :=
  Octets.beOctets 2 address.network.toNat ++ UInt8.ofNat address.address.length :: address.address

/-- `Npdu::encode`. -/
def encode (npdu : Npdu) : Bytes :=
  npdu.version :: npdu.control.toByte
    :: (npdu.destination.elim [] encodeAddress ++ npdu.source.elim [] encodeAddress
      ++ if npdu.destination.isSome then [npdu.hopCount.getD 255] else [])

/-- One address specifier at `pos`, and where it ends. -/
def decodeAddress (data : Bytes) (pos : Nat) (what : String) :
    Checked NetworkError (NetworkAddress × Nat) := do
  if pos + 3 > data.length then
    Checked.fail (.invalidNpdu ("Invalid " ++ what ++ " address"))
  let network ← Octets.natAt data pos 2
  let length ← Octets.index data (pos + 2)
  let pos := pos + 3
  if pos + length.toNat > data.length then
    Checked.fail (.invalidNpdu ("Invalid " ++ what ++ " address length"))
  let address ← Octets.range data pos (pos + length.toNat)
  return (⟨UInt16.ofNat network, address⟩, pos + length.toNat)

/-- An address specifier, when the control octet says there is one. -/
def decodeAddressIf (present : Bool) (data : Bytes) (pos : Nat) (what : String) :
    Checked NetworkError (Option NetworkAddress × Nat) :=
  if present then do
    let (address, pos) ← decodeAddress data pos what
    return (some address, pos)
  else return (none, pos)

/-- `Npdu::decode`: the header and how many octets it occupied. -/
def decode (data : Bytes) : Checked NetworkError (Npdu × Nat) := do
  if data.length < 2 then Checked.fail (.invalidNpdu "NPDU too short")
  let version ← Octets.index data 0
  if version ≠ 1 then
    Checked.fail (.invalidNpdu ("Invalid NPDU version: " ++ toString version))
  let byte ← Octets.index data 1
  let control := NpduControl.fromByte byte
  let (destination, pos) ← decodeAddressIf control.destinationPresent data 2 "destination"
  let (source, pos) ← decodeAddressIf control.sourcePresent data pos "source"
  -- A hop count is there exactly when a destination is.
  if destination.isSome then
    if pos ≥ data.length then Checked.fail (.invalidNpdu "Missing hop count")
    let hopCount ← Octets.index data pos
    return (⟨version, control, destination, source, some hopCount⟩, pos + 1)
  else
    return (⟨version, control, destination, source, none⟩, pos)

/-! ## Decoding does not panic -/

section Meets

open Checked

theorem decodeAddress_meets (data : Bytes) (pos : Nat) (what : String) :
    Meets (decodeAddress data pos what)
      (fun decoded => pos ≤ decoded.2 ∧ decoded.2 ≤ data.length) := by
  refine meets_guard (fun hheader => ?_)
  refine (Octets.natAt_meets (by omega)).bind (fun network _ => ?_)
  refine (Octets.index_meets (by omega)).bind (fun length _ => ?_)
  refine meets_guard (fun hlength => ?_)
  refine (Octets.range_meets (Nat.le_add_right _ _) (by omega)).bind (fun address _ => ?_)
  exact meets_ok ⟨by simp only; omega, by simp only; omega⟩

theorem decodeAddressIf_meets (present : Bool) {data : Bytes} {pos : Nat} (what : String)
    (h : pos ≤ data.length) : Meets (decodeAddressIf present data pos what)
      (fun decoded => pos ≤ decoded.2 ∧ decoded.2 ≤ data.length) := by
  unfold decodeAddressIf
  split
  · refine (decodeAddress_meets data pos what).bind ?_
    rintro ⟨address, next⟩ hnext
    exact meets_ok hnext
  · exact meets_ok ⟨Nat.le_refl _, h⟩

/-- **A header takes at least its version and its control octet**, and no more than there is. -/
theorem decode_meets (data : Bytes) :
    Meets (decode data) (fun decoded => 2 ≤ decoded.2 ∧ decoded.2 ≤ data.length) := by
  refine meets_guard (fun hshort => ?_)
  refine (Octets.index_meets (by omega)).bind (fun version _ => ?_)
  refine meets_guard (fun _ => ?_)
  refine (Octets.index_meets (by omega)).bind (fun byte _ => ?_)
  refine (decodeAddressIf_meets _ "destination" (by omega)).bind ?_
  rintro ⟨destination, p₁⟩ ⟨hlow₁, hhigh₁⟩
  refine (decodeAddressIf_meets _ "source" hhigh₁).bind ?_
  rintro ⟨source, p₂⟩ ⟨hlow₂, hhigh₂⟩
  simp only at *
  split
  · refine meets_guard (fun hmissing => ?_)
    refine (Octets.index_meets (by omega)).bind (fun hopCount _ => ?_)
    exact meets_ok ⟨by simp only; omega, by simp only; omega⟩
  · exact meets_ok ⟨by simp only; omega, hhigh₂⟩

end Meets

end Npdu

/-! ## Network layer messages -/

/-- The number of the I-Am-Router-To-Network message. -/
def iAmRouterToNetwork : UInt8 := 0x01

/-- The message types `NetworkMessageType::try_from` knows. -/
def networkMessageTypes : List UInt8 :=
  [0x00, 0x01, 0x02, 0x03, 0x04, 0x05, 0x06, 0x07, 0x08, 0x09, 0x12, 0x13]

/-- `NetworkLayerMessage::decode`: the message type and its data. -/
def decodeNetworkLayerMessage (data : Bytes) : Except NetworkError (UInt8 × Bytes) :=
  match data with
  | [] => .error (.invalidNpdu "Empty network message")
  | messageType :: rest =>
      if messageType ∈ networkMessageTypes then .ok (messageType, rest)
      else .error (.unsupportedNetworkMessageType messageType)

end BacnetRs.Network
