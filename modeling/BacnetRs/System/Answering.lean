/-
  BacnetRs.System.Answering — what a device answers can be read
  (`server/dispatcher.rs`, `server/object_service.rs`, `server/bip.rs`).

  An answer of the object services is one the APDU decoder returns as it was
  encoded, is never one of several segments, and fits an envelope: whoever
  reads the frame it is sent in has the answer the dispatcher gave.

    * `dispatch_answer`  — what the dispatcher answers a confirmed request with.
    * `packetApdu_answer` — the client reads that answer in the server's frame.
-/
import BacnetRs.System.Frames

namespace BacnetRs.System

open BacnetRs.Encoding BacnetRs.Object BacnetRs.Property BacnetRs.Service BacnetRs.Network
  BacnetRs.App BacnetRs.Server
open BacnetRs.Server.ObjectService (Answers Served changeAnswer changeAnswerMultiple
  enforceMaxApdu_answers)
open Checked

/-! ## §1. The answers of the services -/

/-- An answer to the request of an id for a service that is read back as it was written, and is
sent whole. -/
structure Plain (invokeId : UInt8) (choice : ConfirmedServiceChoice) (apdu : Apdu) : Prop where
  answers : Answers invokeId choice apdu
  canonical : apdu.Canonical
  whole : ∀ ack, apdu = .complexAck ack → ack.segmented = false

variable {self : ObjectService} {invokeId : UInt8} {choice : ConfirmedServiceChoice} {data : Bytes}
  {source : Option SocketAddr} {apdu : Apdu}

theorem plain_complexAck (invokeId : UInt8) (choice : ConfirmedServiceChoice) (encoded : Bytes) :
    Plain invokeId choice (complexAck invokeId choice encoded) := by
  refine ⟨⟨rfl, rfl⟩, ⟨rfl, rfl⟩, ?_⟩
  rintro ack ⟨⟩
  rfl

theorem plain_simpleAck (invokeId : UInt8) (choice : ConfirmedServiceChoice) :
    Plain invokeId choice (.simpleAck invokeId choice.toByte) :=
  ⟨⟨rfl, rfl⟩, trivial, by rintro ack ⟨⟩⟩

theorem plain_error (invokeId : UInt8) (choice : ConfirmedServiceChoice) (error : ObjectError) :
    Plain invokeId choice (objectErrorApdu invokeId choice error) :=
  ⟨⟨rfl, rfl⟩, trivial, by rintro ack ⟨⟩⟩

theorem plain_reject (invokeId : UInt8) (choice : ConfirmedServiceChoice) (reason : RejectReason) :
    Plain invokeId choice (Server.reject invokeId reason) :=
  ⟨rfl, trivial, by rintro ack ⟨⟩⟩

theorem plain_abort (invokeId : UInt8) (choice : ConfirmedServiceChoice) (reason : AbortReason) :
    Plain invokeId choice (Server.abort invokeId reason) :=
  ⟨rfl, trivial, by rintro ack ⟨⟩⟩

theorem plain_readAnswer {response : Except ObjectError (Except EncodingError Bytes)}
    (h : (self.readAnswer invokeId choice response).2 = .ok apdu) :
    Plain invokeId choice apdu := by
  cases response with
  | error error =>
      cases h
      exact plain_error invokeId choice error
  | ok encoded =>
      cases encoded with
      | error error => cases h
      | ok octets =>
          cases h
          exact plain_complexAck invokeId choice octets

theorem plain_changeAnswer {attempt : Attempt ObjectError ObjectService}
    (h : (changeAnswer invokeId choice attempt).2 = .ok apdu) : Plain invokeId choice apdu := by
  obtain ⟨after, result⟩ := attempt
  cases result with
  | ok u =>
      cases h
      exact plain_simpleAck invokeId choice
  | error error =>
      cases h
      exact plain_error invokeId choice error

/-- A request that does not decode is rejected. -/
theorem plain_serve {α : Type} {decoded : Decoded α} {perform : α → Served}
    (h : (self.serve invokeId decoded perform).2 = .ok apdu)
    (hperform : ∀ request, decoded = .ok request → (perform request).2 = .ok apdu →
      Plain invokeId choice apdu) : Plain invokeId choice apdu := by
  cases decoded with
  | ok request => exact hperform request rfl h
  | error fault =>
      cases fault with
      | panic => cases h
      | error error =>
          cases h
          exact plain_reject invokeId choice .invalidTag

/-- The objects that a decoded WritePropertyMultiple writes to can be encoded again. -/
theorem writes_fit {request : WritePropertyMultipleRequest}
    (h : WritePropertyMultipleRequest.decode data = .ok request) :
    ∀ write ∈ request.writes, write.objectIdentifier.fits = true := by
  have hone : ∀ rest, Ensures (WriteAccessSpecification.decode rest)
      (fun decoded => decoded.1.objectIdentifier.fits = true) := by
    intro rest
    refine (decodeContextObjectId_fits rest 0).bind (fun decoded hfits => ?_)
    refine ensures_bind (fun opened => ensures_bind (fun writes => ?_))
    exact ensures_bind (fun closed => ensures_guard (ensures_ok hfits))
  have hall : Ensures (WritePropertyMultipleRequest.decode data)
      (fun request => ∀ specification ∈ request.writeAccessSpecifications,
        specification.objectIdentifier.fits = true) := by
    refine (readAll_meets_all
      (P := fun specification => specification.objectIdentifier.fits = true)
      WriteAccessSpecification.decode_takes hone data).ensures.bind (fun decoded hdecoded => ?_)
    exact ensures_guard (ensures_ok hdecoded.2)
  intro write hwrite
  obtain ⟨specification, hspecification, hmem⟩ := List.mem_flatMap.mp hwrite
  obtain ⟨property, _, rfl⟩ := List.mem_map.mp hmem
  exact hall request h specification hspecification

/-- A write that fails is named with the object it was for, which can be encoded. -/
theorem plain_changeAnswerMultiple {request : WritePropertyMultipleRequest}
    (hrequest : WritePropertyMultipleRequest.decode data = .ok request)
    (h : (changeAnswerMultiple invokeId .writePropertyMultiple
      (self.writePropertyMultiple source request)).2 = .ok apdu) :
    Plain invokeId .writePropertyMultiple apdu := by
  rcases hrun : self.writePropertyMultiple source request with ⟨after, result⟩
  rw [hrun] at h
  cases result with
  | ok u =>
      cases h
      exact plain_simpleAck invokeId _
  | error failed =>
      obtain ⟨error, reference⟩ := failed
      cases h
      obtain ⟨before, write, rest, reached, hwrites, _, _, href⟩ :=
        ObjectService.writePropertyMultiple_eq_error hrun
      refine ⟨⟨rfl, rfl⟩, ⟨rfl, ?_⟩, by rintro ack ⟨⟩⟩
      rw [href]
      refine writes_fit hrequest write ?_
      rw [hwrites]
      exact List.mem_append_right _ List.mem_cons_self

/-- **Whatever a service answers** is read back as it was written, and is sent whole. -/
theorem plain_dispatchConfirmed
    (h : (self.dispatchConfirmed invokeId choice data source).2 = .ok apdu) :
    Plain invokeId choice apdu := by
  unfold ObjectService.dispatchConfirmed at h
  by_cases hsupports : self.supportsConfirmedService choice = false
  · rw [if_pos hsupports] at h
    cases h
    exact plain_reject invokeId choice _
  rw [if_neg hsupports] at h
  cases choice with
  | readProperty => exact plain_serve h (fun _ _ hok => plain_readAnswer hok)
  | readPropertyMultiple => exact plain_serve h (fun _ _ hok => plain_readAnswer hok)
  | subscribeCov => exact plain_serve h (fun _ _ hok => plain_changeAnswer hok)
  | subscribeCovProperty => exact plain_serve h (fun _ _ hok => plain_changeAnswer hok)
  | acknowledgeAlarm => exact plain_serve h (fun _ _ hok => plain_changeAnswer hok)
  | writeProperty => exact plain_serve h (fun _ _ hok => plain_changeAnswer hok)
  | writePropertyMultiple =>
      exact plain_serve h (fun _ hrequest hok => plain_changeAnswerMultiple hrequest hok)
  | _ =>
      cases h
      exact plain_reject invokeId _ _

/-! ## §2. The answer of the dispatcher -/

theorem plain_enforceMaxApdu (h : Plain invokeId choice apdu) (limit : Nat) (accepted : Bool) :
    Plain invokeId choice (enforceMaxApdu invokeId apdu limit accepted) := by
  unfold enforceMaxApdu
  split
  · exact h
  · exact plain_abort invokeId choice _

/-- What the services answered a request that is whole, held to the size both sides take. -/
theorem dispatch_served {server : ServerDispatcher ObjectService} {npdu : Npdu}
    {request : ConfirmedRequest} {response : ServerResponse} (hwhole : request.segmented = false)
    (h : (server.dispatch ObjectService.services npdu (.confirmedRequest request) source).2
      = .ok (some response)) :
    ∃ served limit, (server.objects.dispatchConfirmed request.invokeId request.serviceChoice
        request.serviceData source).2 = .ok served
      ∧ limit ≤ request.maxResponseSize.size
      ∧ response = respond npdu
          (enforceMaxApdu request.invokeId served limit request.segmentedResponseAccepted) := by
  unfold ServerDispatcher.dispatch at h
  split at h
  · cases h
  · simp only at h
    rw [hwhole, if_neg Bool.false_ne_true] at h
    have hmapped : (((server.objects.dispatchConfirmed request.invokeId request.serviceChoice
        request.serviceData source).2.map _).map _) = Except.ok (some response) := h
    cases hok : (server.objects.dispatchConfirmed request.invokeId request.serviceChoice
        request.serviceData source).2 with
    | error fault =>
        rw [hok] at hmapped
        cases hmapped
    | ok served =>
        rw [hok] at hmapped
        cases hmapped
        exact ⟨served, _, rfl, Nat.min_le_left _ _, rfl⟩

/-- A request in segments is answered with an Abort. -/
theorem dispatch_segmented {server : ServerDispatcher ObjectService} {npdu : Npdu}
    {request : ConfirmedRequest} {response : ServerResponse} (hsegmented : request.segmented = true)
    (h : (server.dispatch ObjectService.services npdu (.confirmedRequest request) source).2
      = .ok (some response)) :
    response = respond npdu (Server.abort request.invokeId .segmentationNotSupported) := by
  unfold ServerDispatcher.dispatch at h
  split at h
  · cases h
  · simp only at h
    rw [hsegmented, if_pos rfl] at h
    cases h
    rfl

/-- **What the dispatcher answers a confirmed request with**: an APDU that is read back as it was
written, of at most 1476 octets, addressed to where the request came from. -/
theorem dispatch_answer {server : ServerDispatcher ObjectService} {npdu : Npdu}
    {request : ConfirmedRequest} {response : ServerResponse}
    (h : (server.dispatch ObjectService.services npdu (.confirmedRequest request) source).2
      = .ok (some response)) :
    Plain request.invokeId request.serviceChoice response.apdu
      ∧ response.apdu.encode.length ≤ 1476
      ∧ response.npdu = Client.routed Npdu.new npdu.source := by
  have hlimit : request.maxResponseSize.size ≤ 1476 := by
    cases request.maxResponseSize <;> decide
  cases hsegmented : request.segmented with
  | true =>
      rw [dispatch_segmented hsegmented h]
      exact ⟨plain_abort _ _ _, by show (3 : Nat) ≤ 1476; decide, respond_npdu npdu _⟩
  | false =>
      obtain ⟨served, limit, hok, hle, rfl⟩ := dispatch_served hsegmented h
      have hplain := plain_dispatchConfirmed hok
      refine ⟨plain_enforceMaxApdu hplain _ _, ?_, respond_npdu npdu _⟩
      have hlength := (enforceMaxApdu_answers hplain.answers limit
        request.segmentedResponseAccepted).2
      show (enforceMaxApdu _ _ _ _).encode.length ≤ 1476
      omega

/-! ## §3. An announcement -/

theorem length_encodeUnsigned_le (value : UInt32) : (encodeUnsigned value).length ≤ 5 := by
  have hsame : (encodeUnsigned value).length = (encodeEnumerated value).length := by
    unfold encodeUnsigned encodeEnumerated encodeApplicationTag
    split <;> simp only [List.length_append, List.length_cons, List.length_nil]
  rw [hsame, length_encodeEnumerated]
  unfold encodedEnumeratedLen
  split
  · omega
  · split
    · omega
    · split <;> omega

/-- An I-Am is short. -/
theorem length_iAm {announced : IAmRequest} {encoded : Bytes}
    (h : announced.encode = .ok encoded) : encoded.length ≤ 20 := by
  obtain ⟨device, maxApdu, segmentation, vendor⟩ := announced
  simp only [IAmRequest.encode, bind_eq_ok, pure_eq_ok] at h
  obtain ⟨octets, hdevice, rfl⟩ := h
  have hfour : octets.length ≤ 5 := by
    simp only [encodeObjectIdentifier, bind_eq_ok, pure_eq_ok] at hdevice
    obtain ⟨value, _, rfl⟩ := hdevice
    rw [List.length_append, Octets.length_beOctets]
    exact Nat.le_refl 5
  have hmaxApdu := length_encodeUnsigned_le maxApdu
  have hvendor := length_encodeUnsigned_le vendor.toUInt32
  have hsegmentation : (encodeEnumerated segmentation.toUInt32).length ≤ 5 := by
    cases segmentation <;> decide
  simp only [List.length_append]
  omega

/-! ## §4. Read by the client -/

/-- Only an unconfirmed request starts with its octet. -/
theorem head?_encode_ne {apdu : Apdu}
    (h : ∀ serviceChoice serviceData, apdu ≠ .unconfirmedRequest serviceChoice serviceData) :
    apdu.encode.head? ≠ some 0x10 := by
  cases apdu with
  | confirmedRequest request =>
      simp only [Apdu.encode, List.head?_cons, ne_eq, Option.some.injEq]
      cases request.segmented <;> cases request.moreFollows <;>
        cases request.segmentedResponseAccepted <;> decide
  | unconfirmedRequest serviceChoice serviceData => exact absurd rfl (h serviceChoice serviceData)
  | simpleAck invokeId serviceChoice =>
      show some (pduType 2) ≠ some 0x10
      decide
  | complexAck ack =>
      simp only [Apdu.encode, List.head?_cons, ne_eq, Option.some.injEq]
      cases ack.segmented <;> cases ack.moreFollows <;> decide
  | segmentAck negative server invokeId sequenceNumber windowSize =>
      simp only [Apdu.encode, List.head?_cons, ne_eq, Option.some.injEq]
      cases negative <;> cases server <;> decide
  | error invokeId serviceChoice errorClass errorCode firstFailedWrite =>
      show some (pduType 5) ≠ some 0x10
      decide
  | reject invokeId rejectReason =>
      show some (pduType 6) ≠ some 0x10
      decide
  | abort server invokeId abortReason =>
      simp only [Apdu.encode, List.head?_cons, ne_eq, Option.some.injEq]
      cases server <;> decide

/-- An APDU in an envelope is what the client hands to its transactions. -/
theorem packetApdu_enveloped {npdu : Npdu} {apdu : Apdu} (hnpdu : npdu.Consistent)
    (hfits : Fits npdu apdu.encode) (hmessage : npdu.isNetworkMessage = false)
    (hcanonical : apdu.Canonical)
    (hrequest : ∀ serviceChoice serviceData, apdu ≠ .unconfirmedRequest serviceChoice serviceData)
    (address : SocketAddr) :
    Client.packetApdu (enveloped .originalUnicastNpdu npdu apdu.encode) address
      = some (apdu, npdu.source) := by
  have hcarried : npdu.carried.isNetworkMessage = false := hmessage
  refine Client.packetApdu_eq_some.mpr ⟨_, client_reads (.inl rfl) hnpdu hfits address, hcarried,
    head?_encode_ne hrequest, Apdu.decode_encode hcanonical, rfl⟩

/-- **The client reads the answer that the dispatcher gave.** -/
theorem packetApdu_answer {server : ServerDispatcher ObjectService} {npdu : Npdu}
    {request : ConfirmedRequest} {response : ServerResponse} (hsource : Client.Routable npdu.source)
    (h : (server.dispatch ObjectService.services npdu (.confirmedRequest request) source).2
      = .ok (some response)) (address : SocketAddr) :
    Client.packetApdu (encodeResponse response) address = some (response.apdu, none) := by
  obtain ⟨hplain, hlength, hnpdu⟩ := dispatch_answer h
  have hnone : response.npdu.source = none := by
    rw [hnpdu]
    cases npdu.source <;> rfl
  have hmessage : response.npdu.isNetworkMessage = false := by
    rw [hnpdu]
    cases npdu.source <;> rfl
  have hconsistent : response.npdu.Consistent := by
    rw [hnpdu]
    exact routed_consistent Npdu.Built.new.consistent hsource
  have hfits : Fits response.npdu response.apdu.encode := by
    rw [hnpdu]
    exact fits_routed Npdu.new rfl rfl hsource (by omega)
  have hanswers := hplain.answers
  rw [encodeResponse_eq, packetApdu_enveloped hconsistent hfits hmessage hplain.canonical ?_, hnone]
  intro serviceChoice serviceData heq
  rw [heq] at hanswers
  exact hanswers

end BacnetRs.System
