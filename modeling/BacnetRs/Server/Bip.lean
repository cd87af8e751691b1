/-
  BacnetRs.Server.Bip — one device on a BACnet/IP socket (`server/bip.rs`).

  A datagram that carries an NPDU is unwrapped, its APDU given to the device's
  dispatcher, and the response wrapped and sent.  A Forwarded-NPDU names who
  really sent it; the response goes there.

    * `decodeBacnetIpFrame_eq_some` — which datagrams are unwrapped, and to what.
-/
import BacnetRs.Network.Bvlc
import BacnetRs.Server.Dispatcher

namespace BacnetRs.Server

open BacnetRs.Encoding BacnetRs.Object BacnetRs.Service BacnetRs.Network BacnetRs.App

/-! ## §1. Frames -/

/-- The originating address in a Forwarded-NPDU. -/
def originOf (data : Bytes) : SocketAddr :=
  .v4 (UInt32.ofNat (Octets.beNat ((data.drop 4).take 4)))
    (UInt16.ofNat (Octets.beNat ((data.drop 8).take 2)))

/-- Where the NPDU of a frame starts, and who is named as its origin. -/
def npduStart (data : Bytes) : Option (Nat × Option SocketAddr) :=
  match BvlcHeader.decode data with
  | .error _ => none
  | .ok header =>
      if header.length.toNat ≠ data.length then none
      else
        match header.function with
        | .originalUnicastNpdu | .originalBroadcastNpdu => some (4, none)
        -- The origin's six octets stand before a forwarded NPDU.
        | .forwardedNpdu => if data.length > 10 then some (10, some (originOf data)) else none
        | _ => none

/-- `decode_bacnet_ip_frame`: the NPDU's header, what follows it, and who is named as its
origin. -/
def decodeBacnetIpFrame (data : Bytes) : Option (Npdu × Bytes × Option SocketAddr) := do
  let (start, destination) ← npduStart data
  let (npdu, npduLength) ← (Npdu.decode (data.drop start)).okPart
  return (npdu, data.drop (start + npduLength), destination)

/-- `encode_response`. -/
def encodeResponse (response : ServerResponse) : Bytes :=
  wrapBvlcParts .originalUnicastNpdu [response.npdu.encode, response.apdu.encode]

/-- `response_for_undecodable_apdu`: a confirmed request that cannot be read is still
rejected. -/
def responseForUndecodableApdu (requestNpdu : Npdu) (data : Bytes) : Option ServerResponse :=
  match data with
  | first :: _ :: invokeId :: rest =>
      -- Nothing but a confirmed request has an id to answer.
      if first >>> 4 ≠ 0 then none
      else
        let apdu :=
          if first &&& 0x08 ≠ 0 then .abort true invokeId .segmentationNotSupported
          else
            .reject invokeId
              (match rest with
              | service :: _ =>
                  match ConfirmedServiceChoice.tryFrom service with
                  | none => .unrecognizedService
                  | some _ => .invalidTag
              | [] => .invalidTag)
        some (respond requestNpdu apdu)
  | _ => none

/-- What cannot be read is answered with an abort or a reject. -/
theorem responseForUndecodableApdu_eq_some {requestNpdu : Npdu} {data : Bytes}
    {response : ServerResponse} (h : responseForUndecodableApdu requestNpdu data = some response) :
    ∃ apdu, response = respond requestNpdu apdu
      ∧ ((∃ invokeId reason, apdu = .abort true invokeId reason)
        ∨ ∃ invokeId reason, apdu = .reject invokeId reason) := by
  unfold responseForUndecodableApdu at h
  split at h
  · split at h
    · cases h
    · simp only at h
      cases h
      refine ⟨_, rfl, ?_⟩
      split
      · exact .inl ⟨_, _, rfl⟩
      · exact .inr ⟨_, _, rfl⟩
  · cases h

/-! ## §2. Serving a datagram -/

/-- A device's dispatcher, over the state of what it serves: `Dispatch::dispatch`. -/
abbrev Dispatch (σ : Type) :=
  σ → Npdu → Apdu → Option SocketAddr → σ × Checked ServerError (Option ServerResponse)

variable {σ : Type}

/-- `answer`: one request to one device; `request` is the APDU, or its octets where it does not
decode. -/
def answer (dispatch : Dispatch σ) (state : σ) (requestNpdu : Npdu) (request : Except Bytes Apdu)
    (source : Option SocketAddr) : σ × Checked ServerError (Option ServerResponse) :=
  match request with
  | .ok request => dispatch state requestNpdu request source
  | .error data => (state, .ok (responseForUndecodableApdu requestNpdu data))

/-- `Apdu::decode`, or the octets that do not decode. -/
def requestOf (apduData : Bytes) : Except Bytes Apdu :=
  match (Apdu.decode apduData).okPart with
  | some apdu => .ok apdu
  | none => .error apduData

/-- A frame to send, and who is named as the origin of what it answers. -/
structure DatagramResponse where
  frame : Bytes
  destination : Option SocketAddr
  deriving Repr, DecidableEq

/-- `process_datagram`. -/
def processDatagram (dispatch : Dispatch σ) (state : σ) (data : Bytes)
    (source : Option SocketAddr) : σ × Checked ServerError (Option DatagramResponse) :=
  match decodeBacnetIpFrame data with
  | none => (state, .ok none)
  | some (requestNpdu, apduData, destination) =>
      if requestNpdu.isNetworkMessage then (state, .ok none)
      else
        let (after, response) := answer dispatch state requestNpdu (requestOf apduData) source
        (after, response.map (fun response =>
          response.map (fun response => ⟨encodeResponse response, destination⟩)))

/-- `serve_once`, when `data` arrives from `source`: the frames it sends, and where to. -/
def serveOnce (dispatch : Dispatch σ) (state : σ) (data : Bytes) (source : SocketAddr) :
    σ × Checked ServerError (List (Bytes × SocketAddr)) :=
  let (after, response) := processDatagram dispatch state data (some source)
  (after, response.map (fun response =>
    (response.map (fun response =>
      (response.frame, response.destination.getD source))).toList))

/-! ## §3. Which datagrams are unwrapped -/

theorem decodeBacnetIpFrame_eq_some {data : Bytes} {npdu : Npdu} {payload : Bytes}
    {origin : Option SocketAddr} :
    decodeBacnetIpFrame data = some (npdu, payload, origin)
      ↔ ∃ start consumed, npduStart data = some (start, origin)
        ∧ Npdu.decode (data.drop start) = .ok (npdu, consumed)
        ∧ payload = data.drop (start + consumed) := by
  unfold decodeBacnetIpFrame
  cases hstart : npduStart data with
  | none => simp
  | some found =>
      obtain ⟨start, destination⟩ := found
      cases hdecode : Npdu.decode (data.drop start) with
      | error fault =>
          simp only [Option.bind_eq_bind, Option.bind_some, hdecode, Checked.okPart,
            Option.bind_none]
          constructor
          · intro h
            cases h
          · rintro ⟨_, _, hsame, hdecoded, _⟩
            cases hsame
            rw [hdecode] at hdecoded
            cases hdecoded
      | ok decoded =>
          obtain ⟨header, consumed⟩ := decoded
          simp only [Option.bind_eq_bind, Option.bind_some, hdecode, Checked.okPart]
          constructor
          · intro h
            cases h
            exact ⟨start, consumed, rfl, hdecode, rfl⟩
          · rintro ⟨_, _, hsame, hdecoded, hpayload⟩
            cases hsame
            rw [hdecode] at hdecoded
            cases hdecoded
            rw [hpayload]
            rfl

/-- What is unwrapped has a header. -/
theorem header_of_frame {data : Bytes} {npdu : Npdu} {payload : Bytes}
    {origin : Option SocketAddr} (h : decodeBacnetIpFrame data = some (npdu, payload, origin)) :
    ∃ header, BvlcHeader.decode data = .ok header := by
  obtain ⟨start, consumed, hstart, _, _⟩ := decodeBacnetIpFrame_eq_some.mp h
  unfold npduStart at hstart
  cases hdecode : BvlcHeader.decode data with
  | error e =>
      rw [hdecode] at hstart
      cases hstart
  | ok header => exact ⟨header, rfl⟩

end BacnetRs.Server
