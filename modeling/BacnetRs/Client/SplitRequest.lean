/-
  BacnetRs.Client.SplitRequest — how a request goes out (`split_request` in
  `client/async_client.rs`).

  A request that fits one APDU goes out whole; one that does not is cut into at
  most sixty-four segments, if the peer takes segments at all.  The size test
  is made on the segmented header, two octets longer than the one an
  unsegmented request has, so the whole form is given up two octets early.

    * `splitRequest_outcome`  — the three outcomes, for every input.
    * `splitRequest_boundary` — a request that would fit is refused.
-/
import BacnetRs.Client.Frame

namespace BacnetRs.Client

open BacnetRs.Encoding BacnetRs.Object BacnetRs.Service BacnetRs.Network BacnetRs.App

/-! ## §1. The request builder -/

/-- Segments this client accepts in one reassembled response, as announced. -/
def maxSegmentsAccepted : MaxSegments := .sixtyFour

/-- The count behind `maxSegmentsAccepted`. -/
def maxSegments : Nat := 64

/-- The window proposed when this client is the sender. -/
def proposedWindow : UInt8 := 16

/-- PDU type, segments/size, invoke ID, sequence, window, service choice. -/
def segmentedRequestHeader : Nat := 6

/-- What a peer's capabilities mean for a request aimed at it. -/
structure PeerLimits where
  /-- The ceiling on one segment of a request to it. -/
  maxApdu : Nat
  sendsSegments : Bool
  acceptsSegments : Bool
  deriving Repr, DecidableEq

/-- `peer_limits`: the most capable peer when it has said nothing. -/
def peerLimits (target : BacnetTarget) (ours : MaxApduSize) : PeerLimits :=
  match target.capabilities with
  | some caps =>
      { maxApdu := min (MaxApduSize.atMost caps.maxApdu).size ours.size
        sendsSegments := caps.segmentation == .both || caps.segmentation == .transmit
        acceptsSegments := caps.segmentation == .both || caps.segmentation == .receive }
  | none => { maxApdu := ours.size, sendsSegments := true, acceptsSegments := true }

/-- `build_confirmed_frame`'s APDU: a request sent whole. -/
def confirmedApdu (target : BacnetTarget) (invokeId : UInt8)
    (serviceChoice : ConfirmedServiceChoice) (serviceData : Bytes) (acceptedApdu : MaxApduSize) :
    ConfirmedRequest where
  segmented := false
  moreFollows := false
  segmentedResponseAccepted := (peerLimits target acceptedApdu).sendsSegments
  maxSegments := maxSegmentsAccepted
  maxResponseSize := acceptedApdu
  invokeId := invokeId
  sequenceNumber := none
  proposedWindowSize := none
  serviceChoice := serviceChoice
  serviceData := serviceData

/-- `build_request_segment_frame`'s APDU: one segment of a request. -/
def requestSegmentApdu (target : BacnetTarget) (invokeId : UInt8)
    (serviceChoice : ConfirmedServiceChoice) (sequenceNumber : UInt8) (moreFollows : Bool)
    (chunk : Bytes) (acceptedApdu : MaxApduSize) : ConfirmedRequest where
  segmented := true
  moreFollows := moreFollows
  segmentedResponseAccepted := (peerLimits target acceptedApdu).sendsSegments
  maxSegments := maxSegmentsAccepted
  maxResponseSize := acceptedApdu
  invokeId := invokeId
  sequenceNumber := some sequenceNumber
  proposedWindowSize := some proposedWindow
  serviceChoice := serviceChoice
  serviceData := chunk

/-- How a request will go out. -/
inductive RequestFrames where
  /-- Fits one APDU. -/
  | whole (frame : Bytes)
  /-- Every segment, in order. -/
  | segmented (frames : List Bytes)
  deriving Repr, DecidableEq

/-- The frame of segment `index` of `count`. -/
def buildRequestSegmentFrame (target : BacnetTarget) (invokeId : UInt8)
    (serviceChoice : ConfirmedServiceChoice) (acceptedApdu : MaxApduSize) (count index : Nat)
    (chunk : Bytes) : Bytes :=
  wrapRequest target (.confirmedRequest
    (requestSegmentApdu target invokeId serviceChoice (UInt8.ofNat index)
      (index != count - 1) chunk acceptedApdu))

/-- The payload one segment carries. -/
def segmentPayload (limits : PeerLimits) : Nat :=
  max (limits.maxApdu - segmentedRequestHeader) 1

/-- `split_request`: decide whether a request needs segmenting, and build its
frames. -/
def splitRequest (target : BacnetTarget) (invokeId : UInt8)
    (serviceChoice : ConfirmedServiceChoice) (serviceData : Bytes) (acceptedApdu : MaxApduSize) :
    Except ClientError RequestFrames :=
  let limits := peerLimits target acceptedApdu
  -- Sized on the segmented header, two octets longer, to keep a request that
  -- only just fits off the boundary.
  if serviceData.length + segmentedRequestHeader ≤ limits.maxApdu then
    .ok (.whole (wrapRequest target
      (.confirmedRequest (confirmedApdu target invokeId serviceChoice serviceData acceptedApdu))))
  else if !limits.acceptsSegments then
    .error (.abort .segmentationNotSupported)
  else
    let chunks := Octets.chunks (segmentPayload limits) serviceData
    if chunks.length > maxSegments then .error (.abort .apduTooLong)
    else
      .ok (.segmented (chunks.mapIdx
        (buildRequestSegmentFrame target invokeId serviceChoice acceptedApdu chunks.length)))

/-! ## §2. Sizes -/

/-- The APDU limit of a request: the client's own, and the peer's when known. -/
def requestLimit (target : BacnetTarget) (acceptedApdu : MaxApduSize) : Nat :=
  match target.capabilities with
  | some caps => min acceptedApdu.size (MaxApduSize.atMost caps.maxApdu).size
  | none => acceptedApdu.size

theorem peerLimits_maxApdu (target : BacnetTarget) (acceptedApdu : MaxApduSize) :
    (peerLimits target acceptedApdu).maxApdu = requestLimit target acceptedApdu := by
  unfold peerLimits requestLimit
  cases target.capabilities with
  | none => rfl
  | some caps => exact Nat.min_comm _ _

/-- No limit is smaller than the smallest APDU. -/
theorem fifty_le_requestLimit (target : BacnetTarget) (acceptedApdu : MaxApduSize) :
    50 ≤ requestLimit target acceptedApdu := by
  unfold requestLimit
  cases target.capabilities with
  | none => exact acceptedApdu.fifty_le_size
  | some caps =>
      exact Nat.le_min.mpr
        ⟨acceptedApdu.fifty_le_size, (MaxApduSize.atMost caps.maxApdu).fifty_le_size⟩

theorem segmentPayload_eq (target : BacnetTarget) (acceptedApdu : MaxApduSize) :
    segmentPayload (peerLimits target acceptedApdu) = requestLimit target acceptedApdu - 6 := by
  have hlimit := fifty_le_requestLimit target acceptedApdu
  rw [segmentPayload, peerLimits_maxApdu]
  show max (requestLimit target acceptedApdu - 6) 1 = _
  omega

theorem confirmedApdu_encode_length (target : BacnetTarget) (invokeId : UInt8)
    (serviceChoice : ConfirmedServiceChoice) (serviceData : Bytes) (acceptedApdu : MaxApduSize) :
    (Apdu.confirmedRequest
      (confirmedApdu target invokeId serviceChoice serviceData acceptedApdu)).encode.length
      = serviceData.length + 4 := by
  simp [Apdu.encode, confirmedApdu, segmentOctets]

theorem requestSegmentApdu_encode_length (target : BacnetTarget) (invokeId : UInt8)
    (serviceChoice : ConfirmedServiceChoice) (sequenceNumber : UInt8) (moreFollows : Bool)
    (chunk : Bytes) (acceptedApdu : MaxApduSize) :
    (Apdu.confirmedRequest (requestSegmentApdu target invokeId serviceChoice sequenceNumber
      moreFollows chunk acceptedApdu)).encode.length = chunk.length + 6 := by
  simp [Apdu.encode, requestSegmentApdu, segmentOctets]

/-! ## §3. The three outcomes -/

/-- A request built for the given transaction that stays within `limit`. -/
structure FitsTransaction (limit : Nat) (invokeId : UInt8)
    (serviceChoice : ConfirmedServiceChoice) (request : ConfirmedRequest) : Prop where
  invokeId_eq : request.invokeId = invokeId
  serviceChoice_eq : request.serviceChoice = serviceChoice
  encode_le : (Apdu.confirmedRequest request).encode.length ≤ limit

/-- The segments of one request: numbered from zero without wrap, all but the
last announcing more, together carrying exactly `serviceData`. -/
structure SegmentsOf (serviceData : Bytes) (requests : List ConfirmedRequest) : Prop where
  nonempty : 0 < requests.length
  atMost : requests.length ≤ 64
  payload : (requests.map ConfirmedRequest.serviceData).flatten = serviceData
  segmented : ∀ request ∈ requests, request.segmented = true
  numbered : ∀ (i : Nat) (request : ConfirmedRequest), requests[i]? = some request →
    request.sequenceNumber.map UInt8.toNat = some i
  moreFollows : ∀ (i : Nat) (request : ConfirmedRequest), requests[i]? = some request →
    request.moreFollows = decide (i + 1 < requests.length)

/-- The segment requests whose frames `split_request` returns. -/
def segmentRequests (target : BacnetTarget) (invokeId : UInt8)
    (serviceChoice : ConfirmedServiceChoice) (acceptedApdu : MaxApduSize) (chunks : List Bytes) :
    List ConfirmedRequest :=
  chunks.mapIdx (fun index chunk =>
    requestSegmentApdu target invokeId serviceChoice (UInt8.ofNat index)
      (index != chunks.length - 1) chunk acceptedApdu)

theorem segmentRequests_getElem? (target : BacnetTarget) (invokeId : UInt8)
    (serviceChoice : ConfirmedServiceChoice) (acceptedApdu : MaxApduSize) (chunks : List Bytes)
    {i : Nat} {request : ConfirmedRequest}
    (h : (segmentRequests target invokeId serviceChoice acceptedApdu chunks)[i]? = some request) :
    i < chunks.length ∧ ∃ chunk ∈ chunks,
      request = requestSegmentApdu target invokeId serviceChoice (UInt8.ofNat i)
        (i != chunks.length - 1) chunk acceptedApdu := by
  rw [segmentRequests, List.getElem?_mapIdx, Option.map_eq_some_iff] at h
  obtain ⟨chunk, hchunk, rfl⟩ := h
  obtain ⟨hi, _⟩ := List.getElem?_eq_some_iff.mp hchunk
  exact ⟨hi, chunk, List.mem_of_getElem? hchunk, rfl⟩

theorem segmentRequests_segmentsOf (target : BacnetTarget) (invokeId : UInt8)
    (serviceChoice : ConfirmedServiceChoice) (acceptedApdu : MaxApduSize) (chunks : List Bytes)
    (hpos : 0 < chunks.length) (hle : chunks.length ≤ 64) :
    SegmentsOf chunks.flatten
      (segmentRequests target invokeId serviceChoice acceptedApdu chunks) where
  nonempty := by
    rw [segmentRequests, List.length_mapIdx]
    exact hpos
  atMost := by
    rw [segmentRequests, List.length_mapIdx]
    exact hle
  payload := by
    have hdata : (segmentRequests target invokeId serviceChoice acceptedApdu chunks).map
        ConfirmedRequest.serviceData = chunks := by
      refine List.ext_getElem? (fun i => ?_)
      rw [segmentRequests, List.getElem?_map, List.getElem?_mapIdx, Option.map_map]
      exact Option.map_id'
    rw [hdata]
  segmented := by
    intro request hrequest
    obtain ⟨i, hi⟩ := List.mem_iff_getElem?.mp hrequest
    obtain ⟨_, chunk, _, rfl⟩ := segmentRequests_getElem? _ _ _ _ _ hi
    rfl
  numbered := by
    intro i request hi
    obtain ⟨hlt, chunk, _, rfl⟩ := segmentRequests_getElem? _ _ _ _ _ hi
    show some (UInt8.ofNat i).toNat = some i
    -- Fewer than 256 segments, so the number fits its octet.
    rw [UInt8.toNat_ofNat_of_lt' (by show i < 256; omega)]
  moreFollows := by
    intro i request hi
    obtain ⟨hlt, chunk, _, rfl⟩ := segmentRequests_getElem? _ _ _ _ _ hi
    show (i != chunks.length - 1) = _
    rw [segmentRequests, List.length_mapIdx, Bool.eq_iff_iff, bne_iff_ne, decide_eq_true_eq]
    omega

/-- **`split_request` has three outcomes.**  A request within the limit goes out
whole and one beyond it in at most sixty-four segments, every APDU within the
limit; it is refused only when it does not fit together with the segmented
header, and the peer takes no segments or would need more than sixty-four. -/
theorem splitRequest_outcome (target : BacnetTarget) (invokeId : UInt8)
    (serviceChoice : ConfirmedServiceChoice) (serviceData : Bytes) (acceptedApdu : MaxApduSize) :
    match splitRequest target invokeId serviceChoice serviceData acceptedApdu with
    | .ok (.whole frame) =>
        ∃ request : ConfirmedRequest, frame = wrapRequest target (.confirmedRequest request)
          ∧ request.segmented = false ∧ request.serviceData = serviceData
          ∧ FitsTransaction (requestLimit target acceptedApdu) invokeId serviceChoice request
    | .ok (.segmented frames) =>
        ∃ requests : List ConfirmedRequest,
          frames = requests.map (fun request => wrapRequest target (.confirmedRequest request))
          ∧ SegmentsOf serviceData requests
          ∧ ∀ request ∈ requests,
              FitsTransaction (requestLimit target acceptedApdu) invokeId serviceChoice request
    | .error error =>
        requestLimit target acceptedApdu < serviceData.length + 6
          ∧ ((error = .abort .segmentationNotSupported
              ∧ (peerLimits target acceptedApdu).acceptsSegments = false)
            ∨ (error = .abort .apduTooLong
              ∧ 64 * (requestLimit target acceptedApdu - 6) < serviceData.length)) := by
  have hlimit := fifty_le_requestLimit target acceptedApdu
  have hpayload := segmentPayload_eq target acceptedApdu
  rw [splitRequest]
  simp only [peerLimits_maxApdu, segmentedRequestHeader, maxSegments]
  -- The code measures every request with the six octets of a segment's header.
  by_cases hfits : serviceData.length + 6 ≤ requestLimit target acceptedApdu
  · rw [if_pos hfits]
    refine ⟨_, rfl, rfl, rfl, rfl, rfl, ?_⟩
    rw [confirmedApdu_encode_length]
    omega
  · rw [if_neg hfits]
    -- A peer that takes no segments refuses it.
    cases haccepts : (peerLimits target acceptedApdu).acceptsSegments with
    | false =>
        refine ⟨by omega, Or.inl ⟨rfl, rfl⟩⟩
    | true =>
        have hlength := Octets.length_chunks (segmentPayload (peerLimits target acceptedApdu))
          (by omega) serviceData
        rw [hpayload] at hlength ⊢
        -- More than 64 segments are refused as too long.
        by_cases hmany :
            64 < (Octets.chunks (requestLimit target acceptedApdu - 6) serviceData).length
        · simp only [Bool.not_true, Bool.false_eq_true, if_false, hmany, if_true]
          refine ⟨by omega, Or.inr ⟨trivial, ?_⟩⟩
          rw [hlength] at hmany
          have hmul := (Nat.le_div_iff_mul_le (by omega)).mp (Nat.succ_le_of_lt hmany)
          omega
        · simp only [Bool.not_true, Bool.false_eq_true, if_false, hmany]
          have hpos :
              0 < (Octets.chunks (requestLimit target acceptedApdu - 6) serviceData).length := by
            rw [hlength]
            exact Nat.div_pos (by omega) (by omega)
          refine ⟨segmentRequests target invokeId serviceChoice acceptedApdu
            (Octets.chunks (requestLimit target acceptedApdu - 6) serviceData), ?_, ?_, ?_⟩
          · refine List.ext_getElem? (fun i => ?_)
            rw [segmentRequests, List.getElem?_map, List.getElem?_mapIdx, List.getElem?_mapIdx,
              Option.map_map]
            rfl
          -- Nothing is lost: the chunks put together are the data.
          · have hsegments := segmentRequests_segmentsOf target invokeId serviceChoice
              acceptedApdu (Octets.chunks (requestLimit target acceptedApdu - 6) serviceData)
              hpos (by omega)
            rw [Octets.flatten_chunks _ (by omega)] at hsegments
            exact hsegments
          -- Each chunk leaves room for the header within the limit.
          · intro request hrequest
            obtain ⟨i, hi⟩ := List.mem_iff_getElem?.mp hrequest
            obtain ⟨_, chunk, hchunk, rfl⟩ := segmentRequests_getElem? _ _ _ _ _ hi
            have hshort := Octets.length_le_of_mem_chunks hchunk
            refine ⟨rfl, rfl, ?_⟩
            rw [requestSegmentApdu_encode_length]
            omega

/-- The frames of a request going out in segments: at most sixty-four, none empty. -/
theorem splitRequest_segmented {target : BacnetTarget} {invokeId : UInt8}
    {serviceChoice : ConfirmedServiceChoice} {serviceData : Bytes} {acceptedApdu : MaxApduSize}
    {frames : List Bytes}
    (h : splitRequest target invokeId serviceChoice serviceData acceptedApdu
      = .ok (.segmented frames)) :
    frames.length ≤ 64 ∧ ∀ frame ∈ frames, frame ≠ [] := by
  unfold splitRequest at h
  simp only at h
  by_cases hfits : serviceData.length + segmentedRequestHeader
      ≤ (peerLimits target acceptedApdu).maxApdu
  · rw [if_pos hfits] at h
    cases h
  · rw [if_neg hfits] at h
    split at h
    · cases h
    · by_cases hmany : maxSegments
          < (Octets.chunks (segmentPayload (peerLimits target acceptedApdu)) serviceData).length
      · rw [if_pos hmany] at h
        cases h
      · rw [if_neg hmany] at h
        cases h
        refine ⟨?_, ?_⟩
        · rw [List.length_mapIdx]
          exact Nat.le_of_not_lt hmany
        · intro frame hframe
          obtain ⟨index, hlt, rfl⟩ := List.mem_mapIdx.mp hframe
          exact wrapUnicast_ne_nil _ _

/-- A request that goes out whole is not empty. -/
theorem splitRequest_whole {target : BacnetTarget} {invokeId : UInt8}
    {serviceChoice : ConfirmedServiceChoice} {serviceData frame : Bytes}
    {acceptedApdu : MaxApduSize}
    (h : splitRequest target invokeId serviceChoice serviceData acceptedApdu = .ok (.whole frame)) :
    frame ≠ [] := by
  simp only [splitRequest] at h
  split at h
  · cases h
    exact wrapUnicast_ne_nil _ _
  · split at h
    · cases h
    · split at h <;> cases h

/-- A peer that takes fifty octets and no segments. -/
def smallPeer : BacnetTarget where
  address := .v4 0 47808
  route := none
  capabilities := some { maxApdu := 50, segmentation := .noSegmentation }

/-- Forty-five octets make an APDU of forty-nine, within the fifty this peer
takes, and the request is refused all the same. -/
theorem splitRequest_boundary :
    splitRequest smallPeer 0 .readProperty (List.replicate 45 0) .up1476
        = .error (.abort .segmentationNotSupported)
      ∧ (Apdu.confirmedRequest
          (confirmedApdu smallPeer 0 .readProperty (List.replicate 45 0) .up1476)).encode.length
        ≤ requestLimit smallPeer .up1476
      ∧ requestLimit smallPeer .up1476 = 50 := by
  decide +kernel

end BacnetRs.Client
