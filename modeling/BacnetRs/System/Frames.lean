/-
  BacnetRs.System.Frames — what one side writes the other reads
  (`client/async_client.rs`, `client/mod.rs`, `server/bip.rs`).

  Client and server build and read their BACnet/IP frames with code of their
  own.  An NPDU and what follows it, in an envelope whose length octets can say
  how long it is, is read on either side as it was written.

    * `server_reads` — the server's `decode_bacnet_ip_frame`.
    * `client_reads` — the client's.
    * `wrapUnicast_eq` — the client's `wrap_unicast` is the server's envelope.
-/
import BacnetRs.Client.Sending
import BacnetRs.Device.Receivers
import BacnetRs.Library.Words
import BacnetRs.Network.NpduCodec
import BacnetRs.Server.Bip
import BacnetRs.Server.Serving

namespace BacnetRs.System

open BacnetRs.Encoding BacnetRs.Object BacnetRs.Service BacnetRs.Network BacnetRs.App
open BacnetRs.Client (Routable)

/-! ## §1. An envelope -/

/-- An NPDU and what follows it, in a BACnet/IP envelope. -/
def enveloped (function : BvlcFunction) (npdu : Npdu) (payload : Bytes) : Bytes :=
  wrapBvlcParts function [npdu.encode, payload]

/-- The length octets of an envelope can say how long it is. -/
def Fits (npdu : Npdu) (payload : Bytes) : Prop := 4 + (npdu.encode ++ payload).length < 65536

/-- The functions whose NPDU follows the header at once. -/
def Direct (function : BvlcFunction) : Prop :=
  function = .originalUnicastNpdu ∨ function = .originalBroadcastNpdu

/-- How long an envelope says it is. -/
def lengthWord (npdu : Npdu) (payload : Bytes) : UInt16 :=
  UInt16.ofNat (4 + (npdu.encode ++ payload).length)

variable {function : BvlcFunction} {npdu : Npdu} {payload : Bytes}

theorem enveloped_eq (function : BvlcFunction) (npdu : Npdu) (payload : Bytes) :
    enveloped function npdu payload
      = [0x81, function.toByte, Octets.highOctet (lengthWord npdu payload),
          Octets.lowOctet (lengthWord npdu payload)] ++ (npdu.encode ++ payload) := by
  show (BvlcHeader.new function
    (UInt16.ofNat (4 + [npdu.encode, payload].flatten.length))).encode
      ++ [npdu.encode, payload].flatten = _
  rw [List.flatten_cons, List.flatten_cons, List.flatten_nil, List.append_nil]
  rfl

theorem length_enveloped (function : BvlcFunction) (npdu : Npdu) (payload : Bytes) :
    (enveloped function npdu payload).length = 4 + (npdu.encode ++ payload).length := by
  rw [enveloped_eq, List.length_append]
  rfl

theorem toNat_lengthWord (h : Fits npdu payload) :
    (lengthWord npdu payload).toNat = 4 + (npdu.encode ++ payload).length :=
  UInt16.toNat_ofNat_of_lt' h

theorem drop_enveloped (function : BvlcFunction) (npdu : Npdu) (payload : Bytes) :
    (enveloped function npdu payload).drop 4 = npdu.encode ++ payload := by
  rw [enveloped_eq]
  rfl

/-- An envelope is as long as it says. -/
theorem framed_enveloped (function : BvlcFunction) (hfits : Fits npdu payload) :
    Receivers.Framed function.toByte (enveloped function npdu payload) := by
  refine ⟨_, _, npdu.encode ++ payload, enveloped_eq function npdu payload, ?_⟩
  rw [← Octets.toNat_wordOf_eq_beNat, Octets.wordOf_octets, toNat_lengthWord hfits,
    length_enveloped]

/-! ## §2. Read on either side -/

/-- The header and the payload of an envelope, from its fifth octet on. -/
theorem decode_enveloped (function : BvlcFunction) (hnpdu : npdu.Consistent) (payload : Bytes) :
    Npdu.decode ((enveloped function npdu payload).drop 4)
        = .ok (npdu.carried, npdu.encode.length)
      ∧ payload = (enveloped function npdu payload).drop (4 + npdu.encode.length) := by
  rw [← List.drop_drop, drop_enveloped, List.drop_left]
  exact ⟨Npdu.decode_encode hnpdu payload, rfl⟩

/-- **The server reads what was written.** -/
theorem server_reads (hfunction : Direct function) (hnpdu : npdu.Consistent)
    (hfits : Fits npdu payload) :
    Server.decodeBacnetIpFrame (enveloped function npdu payload)
      = some (npdu.carried, payload, none) := by
  obtain ⟨hdecode, hpayload⟩ := decode_enveloped function hnpdu payload
  refine Server.decodeBacnetIpFrame_eq_some.mpr ⟨4, _, ?_, hdecode, hpayload⟩
  refine Receivers.npduStart_eq_some.mpr
    ⟨function, ?_, framed_enveloped function hfits, ?_, ?_⟩ <;>
  · rcases hfunction with rfl | rfl <;> simp [Receivers.startOf]

/-- **The client reads what was written.** -/
theorem client_reads (hfunction : Direct function) (hnpdu : npdu.Consistent)
    (hfits : Fits npdu payload) (source : SocketAddr) :
    Client.decodeBacnetIpFrame (enveloped function npdu payload) source
      = .ok ⟨source, npdu.carried, payload⟩ := by
  obtain ⟨hdecode, hpayload⟩ := decode_enveloped function hnpdu payload
  have hstart : Receivers.clientStart function.toByte = 4 := by
    rcases hfunction with rfl | rfl <;> rfl
  have hframed := framed_enveloped function hfits
  refine Receivers.client_decode_eq_ok.mpr ⟨function.toByte, npdu.encode.length, hframed, ?_, ?_, ?_⟩
  · rw [hstart]
    exact hdecode
  · rw [hstart]
    exact hpayload
  · rw [hframed.attributed_ite, if_neg]
    rcases hfunction with rfl | rfl <;> decide

/-! ## §3. The frames of both sides -/

/-- **The client's `wrap_unicast` is the server's envelope.** -/
theorem wrapUnicast_eq (npdu : Npdu) (apdu : Apdu) (hfits : Fits npdu apdu.encode) :
    Client.wrapUnicast npdu apdu = enveloped .originalUnicastNpdu npdu apdu.encode := by
  have hword := toNat_lengthWord hfits
  have hlength : (npdu.encode ++ apdu.encode).length + 4 = (lengthWord npdu apdu.encode).toNat := by
    omega
  rw [enveloped_eq]
  show [0x81, Client.bvlcOriginalUnicast, UInt8.ofNat (((npdu.encode ++ apdu.encode).length + 4) >>> 8),
    UInt8.ofNat ((npdu.encode ++ apdu.encode).length + 4)] ++ _ = _
  have hhigh : UInt8.ofNat (((npdu.encode ++ apdu.encode).length + 4) >>> 8)
      = Octets.highOctet (lengthWord npdu apdu.encode) := by
    rw [← UInt8.toNat_inj, Octets.toNat_highOctet, hlength, Nat.shiftRight_eq_div_pow,
      UInt8.toNat_ofNat_of_lt']
    show _ < 256
    have hbound := (lengthWord npdu apdu.encode).toNat_lt
    omega
  have hlow : UInt8.ofNat ((npdu.encode ++ apdu.encode).length + 4)
      = Octets.lowOctet (lengthWord npdu apdu.encode) := by
    rw [← UInt8.toNat_inj, Octets.toNat_lowOctet, hlength, UInt8.toNat_ofNat']
  rw [hhigh, hlow]
  rfl

/-- The server's `encode_response` is an envelope. -/
theorem encodeResponse_eq (response : Server.ServerResponse) :
    Server.encodeResponse response
      = enveloped .originalUnicastNpdu response.npdu response.apdu.encode := rfl

/-- The header of a request. -/
def requestNpdu (route : Option NetworkAddress) : Npdu :=
  Client.routed { Npdu.new with control := { Npdu.new.control with expectingReply := true } } route

theorem routed_consistent {npdu : Npdu} (h : npdu.Consistent) {route : Option NetworkAddress}
    (hroute : Routable route) : (Client.routed npdu route).Consistent := by
  cases route with
  | none => exact h
  | some address =>
      exact ⟨h.version, h.priority, rfl, h.source,
        fun other hother => by cases hother; exact hroute address rfl, h.sourceFits⟩

/-- A header addressed to a peer is carried as it is. -/
theorem carried_routed {npdu : Npdu} (hdestination : npdu.destination = none)
    (hhops : npdu.hopCount = none) (route : Option NetworkAddress) :
    (Client.routed npdu route).carried = Client.routed npdu route := by
  cases route with
  | none =>
      obtain ⟨version, control, destination, source, hopCount⟩ := npdu
      cases hdestination
      cases hhops
      rfl
  | some address => rfl

theorem requestNpdu_consistent {route : Option NetworkAddress} (hroute : Routable route) :
    (requestNpdu route).Consistent :=
  routed_consistent (Npdu.Built.flags false true .new).consistent hroute

theorem carried_requestNpdu (route : Option NetworkAddress) :
    (requestNpdu route).carried = requestNpdu route :=
  carried_routed rfl rfl route

theorem respond_npdu (npdu : Npdu) (apdu : Apdu) :
    (Server.respond npdu apdu).npdu = Client.routed Npdu.new npdu.source := by
  unfold Server.respond
  cases npdu.source <;> rfl

/-- How many octets a header to `route` takes. -/
theorem length_encode_routed (npdu : Npdu) (hsource : npdu.source = none)
    (hdestination : npdu.destination = none) {route : Option NetworkAddress}
    (hroute : Routable route) : (Client.routed npdu route).encode.length ≤ 261 := by
  cases route with
  | none =>
      show (_ :: _ :: (npdu.destination.elim [] Npdu.encodeAddress
        ++ npdu.source.elim [] Npdu.encodeAddress
        ++ if npdu.destination.isSome then _ else []) : Bytes).length ≤ 261
      rw [hsource, hdestination]
      simp
  | some address =>
      have haddress := Npdu.length_encodeAddress address
      have hfits := hroute address rfl
      show (_ :: _ :: (Npdu.encodeAddress address ++ npdu.source.elim [] Npdu.encodeAddress
        ++ [(255 : UInt8)]) : Bytes).length ≤ 261
      rw [hsource]
      simp only [List.length_cons, List.length_append, Option.elim, List.length_nil]
      omega

/-- An APDU of a size that is announced fits, wherever it is sent. -/
theorem fits_routed (npdu : Npdu) (hsource : npdu.source = none)
    (hdestination : npdu.destination = none) {route : Option NetworkAddress}
    (hroute : Routable route) {payload : Bytes} (hpayload : payload.length ≤ 65000) :
    Fits (Client.routed npdu route) payload := by
  have hheader := length_encode_routed npdu hsource hdestination hroute
  unfold Fits
  rw [List.length_append]
  omega

end BacnetRs.System
