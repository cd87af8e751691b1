/-
  BacnetRs.Client.Roles — a peer that speaks as a client.

  An Abort or a SegmentAck says in one flag which half of a transaction its
  sender is: `server` set answers a request of this device's, `server` clear
  belongs to a request of the peer's.  The two directions number their
  requests independently.  The endpoint matches on source and invoke id only.

    * `handleApdu_undisturbed_iff`
                        — such an APDU leaves the pending transactions alone
                          exactly when it names none that it could pass for an
                          answer to.
    * `handlePacket_undisturbed_iff`
                        — the same of the datagram that carries it.
-/
import BacnetRs.Client.Steps

namespace BacnetRs.Client

open BacnetRs.Service BacnetRs.Network BacnetRs.App

/-! ## §1. Roles -/

/-- An Abort or a SegmentAck whose sender speaks as the client of a transaction it
started. -/
def clientSpoken : Apdu → Bool
  | .abort server _ _ => !server
  | .segmentAck _ server _ _ _ => !server
  | .confirmedRequest _ => false
  | .unconfirmedRequest _ _ => false
  | .simpleAck _ _ => false
  | .complexAck _ => false
  | .error _ _ _ _ _ => false
  | .reject _ _ => false

namespace Endpoint

/-- No pending transaction is changed, and nothing is sent or answered for one. -/
structure Undisturbed (endpoint : Endpoint) (outcome : Endpoint × List Entry) : Prop where
  pending : ∀ key, outcome.1.pending.lookup key = endpoint.pending.lookup key
  quiet : ∀ entry ∈ outcome.2, entry.isTransactional = false

/-- No transaction is pending at `source` that a client-spoken APDU could be mistaken
for an answer to: for an Abort, none under its invoke id; for a SegmentAck, none under
its invoke id with a segment of that number still going out. -/
def Unmistakable (endpoint : Endpoint) (source : SocketAddr) : Apdu → Prop
  | .abort _ invokeId _ => endpoint.pending.lookup (source, invokeId) = none
  | .segmentAck _ _ invokeId sequenceNumber _ =>
      ∀ transaction outbound, endpoint.pending.lookup (source, invokeId) = some transaction →
        transaction.outbound = some outbound → outbound.frames.length ≤ sequenceNumber.toNat
  | .confirmedRequest _ => True
  | .unconfirmedRequest _ _ => True
  | .simpleAck _ _ => True
  | .complexAck _ => True
  | .error _ _ _ _ _ => True
  | .reject _ _ => True

theorem undisturbed_self (endpoint : Endpoint) : endpoint.Undisturbed (endpoint, []) :=
  ⟨fun _ => rfl, fun _ h => absurd h List.not_mem_nil⟩

/-! ## §2. What a client-spoken APDU does -/

theorem one_le_window (window : UInt8) : 1 ≤ (max window 1).toNat := by
  show 1 ≤ (if window ≤ 1 then 1 else window).toNat
  split
  · exact Nat.le_refl 1
  next hlt =>
    rw [UInt8.le_iff_toNat_le] at hlt
    exact Nat.le_of_lt (Nat.lt_of_not_le hlt)

/-- While segments remain, an acknowledgement opens a window that is not empty. -/
theorem windowFrames_ne_nil {outbound : OutboundSegments} {sequenceNumber : UInt8}
    {windowSize : UInt8} (key : TransactionKey)
    (hall : (outbound.acknowledge sequenceNumber windowSize).allAcked = false) :
    (outbound.acknowledge sequenceNumber windowSize).windowFrames key ≠ [] := by
  have hmore : ¬ outbound.frames.length ≤ sequenceNumber.toNat + 1 := of_decide_eq_false hall
  have hfirst : (sequenceNumber + 1).toNat ≤ sequenceNumber.toNat + 1 := by
    rw [UInt8.toNat_add]
    exact Nat.mod_le _ _
  have hwindow := one_le_window (max windowSize 1)
  intro hnil
  have hempty := List.map_eq_nil_iff.mp hnil
  have hlength : min ((sequenceNumber + 1).toNat + (max (max windowSize 1) 1).toNat)
      outbound.frames.length - (sequenceNumber + 1).toNat = 0 := by
    have hlength := congrArg List.length hempty
    rwa [OutboundSegments.windowAfterAck, List.length_range'] at hlength
  omega

/-- Sending something for a pending transaction shows: a frame goes out, or the caller
is told why not. -/
theorem sendAll_disturbs {earlier endpoint : Endpoint} {key : TransactionKey}
    (hpending : (endpoint.pending.lookup key).isSome = true) (host : Host)
    {parcels : List (Purpose × Bytes)} (hne : parcels ≠ [])
    (hpurposes : ∀ parcel ∈ parcels, ∃ index, parcel.1 = .segment key index) :
    ¬ earlier.Undisturbed (endpoint.sendAll host key parcels) := by
  intro hundisturbed
  obtain ⟨transaction, hlookup⟩ := Option.isSome_iff_exists.mp hpending
  obtain ⟨parcel, rest, rfl⟩ := List.exists_cons_of_ne_nil hne
  obtain ⟨index, hpurpose⟩ := hpurposes parcel List.mem_cons_self
  have hquiet := hundisturbed.quiet
  unfold sendAll sendOrFail at hquiet
  cases hsend : host.sendTo key.1 parcel.2 with
  | none =>
      rw [hsend] at hquiet
      have hsent := hquiet (host.entry (.sent parcel.1 key.1 parcel.2)) List.mem_cons_self
      rw [hpurpose] at hsent
      cases hsent
  | some error =>
      simp only [hsend, fail, hlookup] at hquiet
      cases hquiet _ List.mem_cons_self

/-- A SegmentAck naming a segment of a request going out is acted on. -/
theorem advanceOutbound_disturbs {endpoint : Endpoint} {key : TransactionKey}
    {transaction : PendingTransaction}
    (hlookup : endpoint.pending.lookup key = some transaction) (host : Host)
    {outbound : OutboundSegments} (houtbound : transaction.outbound = some outbound)
    {sequenceNumber : UInt8} (hlt : sequenceNumber.toNat < outbound.frames.length)
    (windowSize : UInt8) :
    ¬ endpoint.Undisturbed (endpoint.advanceOutbound host key sequenceNumber windowSize) := by
  intro hundisturbed
  unfold advanceOutbound at hundisturbed
  simp only [hlookup, houtbound, if_neg (Nat.not_le.mpr hlt)] at hundisturbed
  cases hall : (outbound.acknowledge sequenceNumber windowSize).allAcked with
  | true =>
      rw [hall, if_pos rfl] at hundisturbed
      have hkept := hundisturbed.pending key
      rw [insertPending_lookup, if_pos rfl, hlookup] at hkept
      have hcleared := congrArg PendingTransaction.outbound (Option.some.inj hkept)
      rw [houtbound] at hcleared
      cases hcleared
  | false =>
      rw [hall, if_neg Bool.false_ne_true] at hundisturbed
      refine sendAll_disturbs ?_ host (windowFrames_ne_nil key hall) ?_ hundisturbed
      · rw [insertPending_lookup, if_pos rfl]
        rfl
      · intro parcel hparcel
        obtain ⟨index, _, rfl⟩ := List.mem_map.mp hparcel
        exact ⟨index, rfl⟩

/-- The final answer of a pending transaction takes it away. -/
theorem finish_disturbs {endpoint : Endpoint} {key : TransactionKey}
    {transaction : PendingTransaction}
    (hlookup : endpoint.pending.lookup key = some transaction) (host : Host)
    (result : Except ClientError Bytes) :
    ¬ endpoint.Undisturbed (endpoint.finish host key result) := by
  intro hundisturbed
  obtain ⟨rtt, hfinish⟩ := finish_handled hlookup host result
  have hquiet := hundisturbed.quiet (host.entry (.answered transaction.response result))
    (by rw [hfinish]; exact List.mem_singleton.mpr rfl)
  cases hquiet

/-- **A client-spoken APDU disturbs what it can be mistaken for.**  The endpoint leaves
its pending transactions alone if and only if none fits. -/
theorem handleApdu_undisturbed_iff (endpoint : Endpoint) (host : Host) {apdu : Apdu}
    (hspoken : clientSpoken apdu = true) (source : SocketAddr) (route : Option NetworkAddress) :
    endpoint.Undisturbed (endpoint.handleApdu host apdu source route)
      ↔ endpoint.Unmistakable source apdu := by
  cases apdu with
  -- An abort ends whatever transaction it names.
  | abort server invokeId reason =>
      show endpoint.Undisturbed (endpoint.handleApdu host (.abort server invokeId reason) source
        route) ↔ endpoint.pending.lookup (source, invokeId) = none
      unfold handleApdu
      simp only [responseInvokeId]
      cases hlookup : endpoint.pending.lookup (source, invokeId) with
      | none => exact ⟨fun _ => rfl, fun _ => endpoint.undisturbed_self⟩
      | some transaction =>
          exact ⟨fun h => absurd h (finish_disturbs hlookup host _), fun h => by cases h⟩
  | segmentAck negative server invokeId sequenceNumber windowSize =>
      show endpoint.Undisturbed (endpoint.handleApdu host
          (.segmentAck negative server invokeId sequenceNumber windowSize) source route)
        ↔ ∀ transaction outbound, endpoint.pending.lookup (source, invokeId) = some transaction →
          transaction.outbound = some outbound → outbound.frames.length ≤ sequenceNumber.toNat
      unfold handleApdu
      simp only [responseInvokeId]
      cases hlookup : endpoint.pending.lookup (source, invokeId) with
      | none =>
          exact ⟨fun _ _ _ h => (by cases h), fun _ => endpoint.undisturbed_self⟩
      | some transaction =>
          show endpoint.Undisturbed
            (endpoint.advanceOutbound host (source, invokeId) sequenceNumber windowSize) ↔ _
          -- A segment acknowledgement counts only while frames are outbound and it names one of
          -- them.
          constructor
          · intro hundisturbed found outbound hfound houtbound
            rw [← Option.some.inj hfound] at houtbound
            by_contra hlt
            exact advanceOutbound_disturbs hlookup host houtbound (Nat.lt_of_not_le hlt)
              windowSize hundisturbed
          · intro hnone
            unfold advanceOutbound
            simp only [hlookup]
            cases houtbound : transaction.outbound with
            | none => exact endpoint.undisturbed_self
            | some outbound =>
                simp only [if_pos (hnone transaction outbound rfl houtbound)]
                exact endpoint.undisturbed_self
  -- A client says nothing else that a server may answer.
  | confirmedRequest request => cases hspoken
  | unconfirmedRequest choice serviceData => cases hspoken
  | simpleAck invokeId choice => cases hspoken
  | complexAck ack => cases hspoken
  | error invokeId choice errorClass errorCode firstFailed => cases hspoken
  | reject invokeId reason => cases hspoken

/-! ## §3. The datagram -/

/-- A datagram whose APDU is no confirmed request is handled as that APDU. -/
theorem handlePacket_of_packetApdu (endpoint : Endpoint) (host : Host) {data : Bytes}
    {source : SocketAddr} {apdu : Apdu} {route : Option NetworkAddress}
    (h : packetApdu data source = some (apdu, route))
    (hrequest : ∀ request, apdu ≠ .confirmedRequest request) :
    endpoint.handlePacket host data source
      = some (endpoint.handleApdu host apdu source route) := by
  unfold packetApdu at h
  unfold handlePacket
  cases hframe : decodeBacnetIpFrame data source with
  | error fault =>
      rw [hframe] at h
      cases h
  | ok frame =>
      rw [hframe] at h
      simp only [Option.ite_none_left_eq_some, Bool.or_eq_true, decide_eq_true_eq, not_or] at h
      obtain ⟨⟨hmessage, hunconfirmed⟩, hdecoded⟩ := h
      simp only [if_neg hmessage, if_neg hunconfirmed]
      cases hapdu : Apdu.decode frame.payload with
      | error fault =>
          rw [hapdu] at hdecoded
          cases hdecoded
      | ok decoded =>
          rw [hapdu] at hdecoded
          obtain ⟨rfl, rfl⟩ : decoded = apdu ∧ frame.npdu.source = route :=
            Prod.mk.inj (Option.some.inj hdecoded)
          cases decoded with
          | confirmedRequest request => exact absurd rfl (hrequest request)
          | _ => rfl

/-- **The same of the datagram that carries it.** -/
theorem handlePacket_undisturbed_iff (endpoint : Endpoint) (host : Host) {data : Bytes}
    {source : SocketAddr} {apdu : Apdu} {route : Option NetworkAddress}
    (h : packetApdu data source = some (apdu, route)) (hspoken : clientSpoken apdu = true) :
    (∃ outcome, endpoint.handlePacket host data source = some outcome
        ∧ endpoint.Undisturbed outcome)
      ↔ endpoint.Unmistakable source apdu := by
  have hrequest : ∀ request, apdu ≠ .confirmedRequest request := by
    rintro request rfl
    cases hspoken
  rw [endpoint.handlePacket_of_packetApdu host h hrequest,
    ← endpoint.handleApdu_undisturbed_iff host hspoken source route]
  refine ⟨?_, fun hundisturbed => ⟨_, rfl, hundisturbed⟩⟩
  rintro ⟨outcome, heq, hundisturbed⟩
  rw [Option.some.inj heq]
  exact hundisturbed

end Endpoint

end BacnetRs.Client
