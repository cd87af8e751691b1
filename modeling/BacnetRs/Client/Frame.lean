/-
  BacnetRs.Client.Frame — BACnet/IP frames and what the client reads out of
  them (`client/mod.rs`, `client/error.rs`, and the frame builders at the end of
  `client/async_client.rs`).
-/
import BacnetRs.App.Apdu
import BacnetRs.Network.Npdu
import BacnetRs.Network.Host

namespace BacnetRs.Client

open BacnetRs.Encoding BacnetRs.Object BacnetRs.Property BacnetRs.Service BacnetRs.Network
open BacnetRs.App

/-! ## §1. Targets and errors -/

/-- What a device declared it can handle. -/
structure DeviceCapabilities where
  maxApdu : UInt32
  segmentation : Segmentation
  deriving Repr, DecidableEq

/-- Physical next hop plus an optional network-layer destination. -/
structure BacnetTarget where
  address : SocketAddr
  route : Option NetworkAddress
  /-- `none` means unknown, not fully capable. -/
  capabilities : Option DeviceCapabilities
  deriving Repr, DecidableEq

/-- `BacnetTarget::new`. -/
def BacnetTarget.new (address : SocketAddr) : BacnetTarget := ⟨address, none, none⟩

/-- An operating-system error, by its code. -/
structure IoError where
  code : Nat
  deriving Repr, DecidableEq

/-- Errors the client reports for a request. -/
inductive ClientError where
  | io (error : IoError)
  | timeout
  | noResponse
  | endpointClosed
  | tooManyTransactions
  | rejected (reason : RejectReason)
  | abort (reason : AbortReason)
  | propertyError (errorClass : ErrorClass) (code : ErrorCode)
  | writeFailedAt (errorClass : ErrorClass) (code : ErrorCode)
      (firstFailed : ObjectPropertyReference)
  deriving Repr, DecidableEq

/-- `ClientError::refused`: the error an Error PDU carries. -/
def ClientError.refused (errorClass code : UInt32)
    (firstFailedWrite : Option ObjectPropertyReference) : ClientError :=
  match firstFailedWrite with
  | some firstFailed => .writeFailedAt ⟨errorClass⟩ ⟨code⟩ firstFailed
  | none => .propertyError ⟨errorClass⟩ ⟨code⟩

/-! ## §2. Reading frames -/

/-- A decoded BACnet/IP frame. -/
structure DecodedBacnetIpFrame where
  source : SocketAddr
  npdu : Npdu
  payload : Bytes
  deriving Repr, DecidableEq

/-- `decode_bacnet_ip_frame`; its `None` is the error `()`. -/
def decodeBacnetIpFrame (data : Bytes) (udpSource : SocketAddr) :
    Checked Unit DecodedBacnetIpFrame := do
  if data.length < 6 then Checked.fail ()
  let first ← Octets.index data 0
  if first ≠ 0x81 then Checked.fail ()
  let bvlcLength ← Octets.natAt data 2 2
  if data.length ≠ bvlcLength then Checked.fail ()
  let function ← Octets.index data 1
  -- Forwarded-NPDU carries the original source between the BVLC header and the
  -- NPDU; other NPDU-bearing functions start at octet 4.
  let (npduStart, source) ←
    if function = 0x04 then do
      if data.length < 12 then Checked.fail ()
      let ip ← Octets.natAt data 4 4
      let port ← Octets.natAt data 8 2
      pure (10, SocketAddr.v4 (UInt32.ofNat ip) (UInt16.ofNat port))
    else pure (4, udpSource)
  let rest ← Octets.dropFrom data npduStart
  let (npdu, npduLength) ← (Npdu.decode rest).mapErr (fun _ => ())
  if npduStart + npduLength > data.length then Checked.fail ()
  let payload ← Octets.dropFrom data (npduStart + npduLength)
  return ⟨source, npdu, payload⟩

/-- The frame behind its envelope: the NPDU from `npduStart` on, and what it carries. -/
def frameFrom (data : Bytes) (npduStart : Nat) (source : SocketAddr) :
    Checked Unit DecodedBacnetIpFrame := do
  let rest ← Octets.dropFrom data npduStart
  let (npdu, npduLength) ← (Npdu.decode rest).mapErr (fun _ => ())
  if npduStart + npduLength > data.length then Checked.fail ()
  let payload ← Octets.dropFrom data (npduStart + npduLength)
  return ⟨source, npdu, payload⟩

/-- What a discovery learned about a device. -/
structure DeviceInfo where
  deviceId : UInt32
  address : SocketAddr
  route : Option NetworkAddress
  vendorId : UInt16
  maxApdu : UInt32
  segmentation : Segmentation
  deriving Repr, DecidableEq

/-- What a discovery learned about a router. -/
structure DiscoveredRouter where
  address : SocketAddr
  networks : List UInt16
  deriving Repr, DecidableEq

/-- `parse_iam_response`; its `None` is the error `()`. -/
def parseIamResponse (data : Bytes) (source : SocketAddr) : Checked Unit DeviceInfo := do
  let frame ← decodeBacnetIpFrame data source
  match frame.payload with
  | pduType :: choice :: serviceData =>
      if pduType ≠ 0x10 ∨ choice ≠ UnconfirmedServiceChoice.iAm.toByte then Checked.fail ()
      let iam ← (IAmRequest.decode serviceData).mapErr (fun _ => ())
      return ⟨iam.deviceIdentifier.instanceNumber, frame.source, frame.npdu.source,
        iam.vendorIdentifier, iam.maxApduLengthAccepted, iam.segmentationSupported⟩
  | _ => Checked.fail ()

/-- `parse_i_am_router_response`; its `None` is the error `()`. -/
def parseIAmRouterResponse (data : Bytes) (source : SocketAddr) :
    Checked Unit DiscoveredRouter := do
  let frame ← decodeBacnetIpFrame data source
  if !frame.npdu.isNetworkMessage then Checked.fail ()
  let (messageType, octets) ←
    (Checked.ofExcept (decodeNetworkLayerMessage frame.payload)).mapErr (fun _ => ())
  if messageType ≠ iAmRouterToNetwork then Checked.fail ()
  if octets.length % 2 ≠ 0 then Checked.fail ()
  let networks := (Octets.chunks 2 octets).map (fun pair => UInt16.ofNat (Octets.beNat pair))
  let sorted := networks.mergeSort (fun a b => decide (a ≤ b))
  return ⟨frame.source, sorted.destutter (· ≠ ·)⟩

/-! ## §3. Building frames -/

/-- The BVLC function of a unicast frame. -/
def bvlcOriginalUnicast : UInt8 := 0x0A

/-- `wrap_unicast`: an NPDU and an APDU in a unicast BACnet/IP header. -/
def wrapUnicast (npdu : Npdu) (apdu : Apdu) : Bytes :=
  let payload := npdu.encode ++ apdu.encode
  let totalLength := payload.length + 4
  [0x81, bvlcOriginalUnicast, UInt8.ofNat (totalLength >>> 8), UInt8.ofNat totalLength] ++ payload

/-- An NPDU addressed to `route`, when the peer is behind a router. -/
def routed (npdu : Npdu) (route : Option NetworkAddress) : Npdu :=
  match route with
  | some address => { npdu.setDestination address with hopCount := some 255 }
  | none => npdu

/-- `wrap_request`: a request APDU, routed if the target is behind a router. -/
def wrapRequest (target : BacnetTarget) (apdu : Apdu) : Bytes :=
  let npdu := { Npdu.new with control := { Npdu.new.control with expectingReply := true } }
  wrapUnicast (routed npdu target.route) apdu

/-- `build_response_frame`: a reply addressed back at `route`. -/
def buildResponseFrame (apdu : Apdu) (route : Option NetworkAddress) : Bytes :=
  wrapUnicast (routed Npdu.new route) apdu

/-- The window granted to a device sending segments. -/
def grantedWindow : UInt8 := 1

/-- `segment_ack_frame`: acknowledge a segment, or ask for one again. -/
def segmentAckFrame (invokeId sequenceNumber : UInt8) (negative : Bool)
    (route : Option NetworkAddress) : Bytes :=
  buildResponseFrame (.segmentAck negative false invokeId sequenceNumber grantedWindow) route

/-- `abort_frame`: tell a peer to stop a transfer this client will not finish. -/
def abortFrame (invokeId : UInt8) (abortReason : AbortReason) (route : Option NetworkAddress) :
    Bytes :=
  buildResponseFrame (.abort false invokeId abortReason) route

/-- A built frame is never empty. -/
theorem wrapUnicast_ne_nil (npdu : Npdu) (apdu : Apdu) : wrapUnicast npdu apdu ≠ [] := by
  simp [wrapUnicast]

end BacnetRs.Client
