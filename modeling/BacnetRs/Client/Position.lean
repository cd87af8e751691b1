/-
  BacnetRs.Client.Position — how far a request in segments has got
  (`OutboundSegments` in `client/async_client.rs`).

  A transfer keeps the last segment acknowledged, and a SegmentAck overwrites
  it: nothing says that a later one names a later segment.  A duplicate of an
  earlier SegmentAck takes the transfer back, and what is acknowledged already
  is sent again.

    * `acked_taken_back`   — a delayed duplicate does so.
    * `acked_never_back`   — in a run whose SegmentAcks name no segment before
                             the last acknowledged, the position only grows, and
                             nothing before it is sent again.
-/
import BacnetRs.Client.Outbound

namespace BacnetRs.Client

open BacnetRs.Service BacnetRs.Network BacnetRs.App

/-! ## §1. The position of a transfer -/

namespace OutboundSegments

/-- How many segments are acknowledged. -/
def position (outbound : OutboundSegments) : Nat :=
  outbound.acked.elim 0 (fun acked => acked.toNat + 1)

/-- What holds of every transfer: it has at most 64 segments, and acknowledged is one of them. -/
structure Sound (outbound : OutboundSegments) : Prop where
  few : outbound.frames.length ≤ 64
  filled : ∀ frame ∈ outbound.frames, frame ≠ []
  acked_lt : ∀ acked, outbound.acked = some acked → acked.toNat < outbound.frames.length

/-- The number of the next segment does not wrap. -/
theorem Sound.toNat_nextUnsent {outbound : OutboundSegments} (h : outbound.Sound) :
    outbound.nextUnsent.toNat = outbound.position := by
  unfold nextUnsent position
  cases hacked : outbound.acked with
  | none => rfl
  | some acked =>
      have hlt := h.acked_lt acked hacked
      have hfew := h.few
      show (acked + 1).toNat = acked.toNat + 1
      rw [UInt8.toNat_add]
      show (acked.toNat + 1) % 256 = _
      omega

theorem Sound.acknowledge {outbound : OutboundSegments} (h : outbound.Sound)
    {sequenceNumber : UInt8} (windowSize : UInt8)
    (hlt : sequenceNumber.toNat < outbound.frames.length) :
    (outbound.acknowledge sequenceNumber windowSize).Sound := by
  refine ⟨h.few, h.filled, ?_⟩
  intro acked hacked
  cases hacked
  exact hlt

/-- Nothing acknowledged is in the window. -/
theorem Sound.position_le_window {outbound : OutboundSegments} (h : outbound.Sound) {index : Nat}
    (hindex : index ∈ outbound.windowAfterAck) : outbound.position ≤ index := by
  rw [← h.toNat_nextUnsent]
  exact (windowAfterAck_consecutive outbound index hindex).1

end OutboundSegments

/-! ## §2. Every transfer is sound -/

namespace World

/-- Every transaction belongs to a caller, and what it sends in segments is sound. -/
def Transfers (world : World) : Prop :=
  ∀ key transaction, world.endpoint.pending.lookup key = some transaction →
    transaction.response ∈ world.issued
      ∧ ∀ outbound, transaction.outbound = some outbound → outbound.Sound

/-- A transfer just opened is sound. -/
theorem sound_of_opening {endpoint : Endpoint} {key : TransactionKey}
    {transaction : PendingTransaction} {indices : List Nat} {outbound : OutboundSegments}
    (hopening : Endpoint.Opening endpoint key transaction indices)
    (houtbound : transaction.outbound = some outbound) : outbound.Sound := by
  have hbounds := (Paced.opened hopening houtbound).1
  refine ⟨hbounds.1, hbounds.2, ?_⟩
  rcases hopening.outbound_eq with ⟨hnone, _⟩ | ⟨target, service, data, frames, _, hsome, _⟩
  · rw [hnone] at houtbound
    cases houtbound
  · rw [hsome] at houtbound
    cases houtbound
    exact nofun

/-- A sound transfer that survives a step is still sound. -/
theorem Evolves.sound {world : World} {key : TransactionKey}
    {transaction kept : PendingTransaction} {event : Event} {indices : List Nat}
    (h : Evolves world key transaction event kept indices)
    (hsound : ∀ outbound, transaction.outbound = some outbound → outbound.Sound) :
    ∀ outbound, kept.outbound = some outbound → outbound.Sound := by
  cases h with
  | idle => exact hsound
  | heard now sendTo data apdu route kept entries hpacket hid hkeeps =>
      cases hkeeps with
      | segment ack kept entries hsegmented hservice hsegment =>
          rw [hsegment.outbound_eq]
          exact hsound
      | advanced negative server invokeId sequenceNumber windowSize outbound frame houtbound hlt
          hall =>
          intro later hlater
          cases hlater
          exact (hsound outbound houtbound).acknowledge windowSize hlt
      | cleared negative server invokeId sequenceNumber windowSize outbound houtbound hlt hall =>
          exact nofun
  | attempted now sendTo visits kept indices hattempted =>
      rw [hattempted.outbound_eq]
      exact hsound

theorem step_transfers {world world' : World} {event : Event} (h : world.Transfers)
    (hstep : step world event = some world') : world'.Transfers := by
  intro key kept hkept
  rcases step_evolves hstep hkept with
    ⟨transaction, hbefore, hevolves⟩ | ⟨now, sendTo, command, rfl, hchannel, hopening⟩
  · obtain ⟨hissued, hsound⟩ := h key transaction hbefore
    rw [hevolves.response_eq]
    exact ⟨step_issued hstep hissued, hevolves.sound hsound⟩
  · exact ⟨(not_issued_of_command hstep hchannel).2, fun _ => sound_of_opening hopening⟩

theorem Reachable.transfers {timeout : Duration} {retries : UInt8} {acceptedApdu : MaxApduSize}
    {world : World} (h : Reachable timeout retries acceptedApdu world) : world.Transfers :=
  Machine.Reachable.invariant (fun _ _ _ => step_transfers) (fun _ _ hlookup => by cases hlookup) h

/-! ## §3. A position that only grows -/

/-- If the event acknowledges a segment, none after it is acknowledged already. -/
def RunsForward (key : TransactionKey) (world : World) (event : Event) : Prop :=
  ∀ sequenceNumber, world.acknowledged key event = some sequenceNumber →
    ∀ outbound, (world.endpoint.pending.lookup key).bind PendingTransaction.outbound
      = some outbound → outbound.position ≤ sequenceNumber.toNat + 1

instance RunsForward.decidable (key : TransactionKey) (world : World) (event : Event) :
    Decidable (RunsForward key world event) :=
  inferInstanceAs (Decidable (∀ sequenceNumber ∈ world.acknowledged key event,
    ∀ outbound ∈ (world.endpoint.pending.lookup key).bind PendingTransaction.outbound,
      outbound.position ≤ sequenceNumber.toNat + 1))

/-- A transaction is at `position` in `frames` or past it, and of the segments sent none is
before that. -/
structure Past (frames : List Bytes) (position : Nat) (transaction : PendingTransaction)
    (sent : List Nat) : Prop where
  ahead : ∀ outbound, transaction.outbound = some outbound →
    outbound.frames = frames ∧ position ≤ outbound.position
  sent : ∀ index ∈ sent, position ≤ index

/-- One step leaves a transaction past where it was, if it acknowledges nothing earlier. -/
theorem Evolves.past {world : World} {key : TransactionKey}
    {transaction kept : PendingTransaction} {event : Event} {indices sent : List Nat}
    {frames : List Bytes} {position : Nat}
    (h : Evolves world key transaction event kept indices)
    (hlookup : world.endpoint.pending.lookup key = some transaction)
    (hsound : ∀ outbound, transaction.outbound = some outbound → outbound.Sound)
    (hforward : RunsForward key world event) (hpast : Past frames position transaction sent) :
    Past frames position kept (sent ++ indices) := by
  cases h with
  | idle =>
      rw [List.append_nil]
      exact hpast
  | heard now sendTo data apdu route kept entries hpacket hid hkeeps =>
      cases hkeeps with
      | segment ack kept entries hsegmented hservice hsegment =>
          rw [hsegment.segmentsSent_eq_nil, List.append_nil]
          refine ⟨?_, hpast.sent⟩
          rw [hsegment.outbound_eq]
          exact hpast.ahead
      | advanced negative server invokeId sequenceNumber windowSize outbound frame houtbound hlt
          hall =>
          obtain ⟨hframes, hposition⟩ := hpast.ahead outbound houtbound
          have hkey : (key.1, invokeId) = key := by
            rw [Option.some.inj hid]
          have hacknowledged : world.acknowledged key (.packet now sendTo data key.1)
              = some sequenceNumber := by
            simp only [acknowledged, hpacket, hkey, hlookup, Option.bind_some, houtbound,
              Option.any_some, hlt, decide_true, and_self, if_true]
          have hnamed := hforward sequenceNumber hacknowledged outbound (by
            rw [hlookup]
            exact houtbound)
          -- The position is now the one after the segment named.
          have hlater : position ≤ (outbound.acknowledge sequenceNumber windowSize).position :=
            Nat.le_trans hposition hnamed
          refine ⟨?_, ?_⟩
          · intro later hsome
            cases hsome
            exact ⟨hframes, hlater⟩
          · intro index hindex
            rw [segmentsSent_windowFrames] at hindex
            rcases List.mem_append.mp hindex with hindex | hindex
            · exact hpast.sent index hindex
            · have hwindow := ((hsound outbound houtbound).acknowledge windowSize
                hlt).position_le_window hindex
              exact Nat.le_trans hlater hwindow
      | cleared negative server invokeId sequenceNumber windowSize outbound houtbound hlt hall =>
          refine ⟨?_, ?_⟩
          · intro later hsome
            cases hsome
          · intro index hindex
            rcases List.mem_append.mp hindex with hindex | hindex
            · exact hpast.sent index hindex
            · cases hindex
  | attempted now sendTo visits kept indices hattempted =>
      refine ⟨?_, ?_⟩
      · rw [hattempted.outbound_eq]
        exact hpast.ahead
      · intro index hindex
        rcases List.mem_append.mp hindex with hindex | hindex
        · exact hpast.sent index hindex
        · cases houtbound : transaction.outbound with
          | none =>
              rw [hattempted.none_sent houtbound] at hindex
              cases hindex
          | some outbound =>
              have hwithin := hsound outbound houtbound
              have hnext := (hattempted.consecutive outbound houtbound hwithin.filled index
                hindex).1
              rw [hwithin.toNat_nextUnsent] at hnext
              exact Nat.le_trans (hpast.ahead outbound houtbound).2 hnext

/-- The transfer whose caller waits on `response`, if it is still pending at `key`, is past
`position`, and so is all it sent since `origin`. -/
structure PastSince (origin : World) (key : TransactionKey) (response : Channel)
    (frames : List Bytes) (position : Nat) (world : World) : Prop where
  transfers : world.Transfers
  issued : response ∈ world.issued
  trace : origin.trace <+: world.trace
  past : ∀ transaction, world.endpoint.pending.lookup key = some transaction →
    transaction.response = response →
    Past frames position transaction (segmentsSent key (entriesSince origin world))

theorem step_pastSince {origin world world' : World} {key : TransactionKey} {response : Channel}
    {frames : List Bytes} {position : Nat} {event : Event}
    (hforward : RunsForward key world event)
    (h : PastSince origin key response frames position world)
    (hstep : step world event = some world') :
    PastSince origin key response frames position world' := by
  refine ⟨step_transfers h.transfers hstep, step_issued hstep h.issued,
    h.trace.trans (step_trace hstep), ?_⟩
  intro kept hkept hresponse
  rw [entriesSince_append h.trace (step_trace hstep), segmentsSent_append]
  rcases step_evolves hstep hkept with
    ⟨transaction, hbefore, hevolves⟩ | ⟨now, sendTo, command, rfl, hchannel, _⟩
  · have hpast := h.past transaction hbefore (hevolves.response_eq.symm.trans hresponse)
    exact hevolves.past hbefore (h.transfers key transaction hbefore).2 hforward hpast
  · -- The caller's channel is not one a command can bring.
    rw [hresponse] at hchannel
    exact absurd h.issued (not_issued_of_command hstep hchannel).1

/-- **The acknowledged position never moves back** in a run whose SegmentAcks name no segment
before the last acknowledged.  Nor is a segment sent again, or in the window, that was
acknowledged before. -/
theorem acked_never_back {timeout : Duration} {retries : UInt8} {acceptedApdu : MaxApduSize}
    {world later : World} {events : List Event} {key : TransactionKey}
    {transaction kept : PendingTransaction} {outbound : OutboundSegments}
    (hworld : Reachable timeout retries acceptedApdu world)
    (hlookup : world.endpoint.pending.lookup key = some transaction)
    (houtbound : transaction.outbound = some outbound)
    (hforward : Machine.Throughout step (RunsForward key) world events)
    (hrun : Machine.run step world events = some later)
    (hkept : later.endpoint.pending.lookup key = some kept)
    (hsame : kept.response = transaction.response) :
    (∀ outbound', kept.outbound = some outbound' →
        outbound'.frames = outbound.frames ∧ outbound.position ≤ outbound'.position
          ∧ ∀ index ∈ outbound'.windowAfterAck, outbound.position ≤ index)
      ∧ ∀ index ∈ segmentsSent key (entriesSince world later), outbound.position ≤ index := by
  -- At the start nothing has been sent, and the position is that of the transaction itself.
  have hstart : PastSince world key transaction.response outbound.frames outbound.position
      world := by
    refine ⟨hworld.transfers, (hworld.transfers key transaction hlookup).1, List.prefix_rfl, ?_⟩
    intro other hother _
    rw [hlookup] at hother
    cases hother
    refine ⟨?_, ?_⟩
    · intro here hhere
      rw [houtbound] at hhere
      cases hhere
      exact ⟨rfl, Nat.le_refl _⟩
    · have hnothing : entriesSince world world = [] := List.drop_length
      rw [hnothing]
      exact nofun
  have hend := Machine.run_invariant_throughout
    (fun _ _ _ hok h hstep => step_pastSince hok h hstep) hforward hstart hrun
  have hpast := hend.past kept hkept hsame
  refine ⟨?_, hpast.sent⟩
  intro outbound' houtbound'
  obtain ⟨hframes, hposition⟩ := hpast.ahead outbound' houtbound'
  refine ⟨hframes, hposition, ?_⟩
  intro index hindex
  -- A window begins no earlier than its position, which the run never set back.
  have hwindow := ((hend.transfers key kept hkept).2 outbound' houtbound').position_le_window hindex
  exact Nat.le_trans hposition hwindow

/-- With the first segment acknowledged, the second is acknowledged next, and neither the first
nor what comes before it goes out again. -/
theorem acked_never_back_inOrder :
    ∃ world later transaction,
      Machine.run step beforeRequest [hundredOctets, segmentAcked 1 0] = some world
        ∧ Machine.run step world [segmentAcked 2 1] = some later
        ∧ later.endpoint.pending.lookup requestKey = some transaction
        ∧ (∀ outbound, transaction.outbound = some outbound → 1 ≤ outbound.position)
        ∧ ∀ index ∈ segmentsSent requestKey (entriesSince world later), 1 ≤ index := by
  have hearlier : (Machine.run step beforeRequest [hundredOctets, segmentAcked 1 0]).isSome
      = true := by decide +kernel
  let world := (Machine.run step beforeRequest [hundredOctets, segmentAcked 1 0]).get hearlier
  have hlater : (Machine.run step world [segmentAcked 2 1]).isSome = true := by
    decide +kernel +revert
  let later := (Machine.run step world [segmentAcked 2 1]).get hlater
  have hpending : (world.endpoint.pending.lookup requestKey).isSome = true := by
    decide +kernel +revert
  let transaction := (world.endpoint.pending.lookup requestKey).get hpending
  have hsplit : transaction.outbound.isSome = true := by decide +kernel +revert
  have hstill : (later.endpoint.pending.lookup requestKey).isSome = true := by
    decide +kernel +revert
  let kept := (later.endpoint.pending.lookup requestKey).get hstill
  have hposition : (transaction.outbound.get hsplit).position = 1 := by decide +kernel +revert
  have hpast := acked_never_back
    (⟨[hundredOctets, segmentAcked 1 0], (Option.some_get hearlier).symm⟩
      : Reachable 3000000000 3 .up1476 world)
    (Option.some_get hpending).symm
    (Option.some_get hsplit).symm
    (by decide +kernel +revert
      : Machine.Throughout step (RunsForward requestKey) world [segmentAcked 2 1])
    (Option.some_get hlater).symm
    (Option.some_get hstill).symm
    (by decide +kernel +revert)
  rw [hposition] at hpast
  exact ⟨world, later, kept, (Option.some_get hearlier).symm, (Option.some_get hlater).symm,
    (Option.some_get hstill).symm, fun outbound houtbound => (hpast.1 outbound houtbound).2.1,
    hpast.2⟩

/-- **A delayed duplicate of the first SegmentAck takes the transfer back**, and segment 1 is
sent again after it was acknowledged. -/
theorem acked_taken_back :
    (Machine.run step beforeRequest [hundredOctets, segmentAcked 1 0, segmentAcked 2 1]).map
        (fun world => ((world.endpoint.pending.lookup requestKey).map
          (fun transaction => transaction.outbound.map OutboundSegments.acked),
          segmentsSent requestKey (entriesSince beforeRequest world)))
        = some (some (some (some 1)), [0, 1, 2])
      ∧ (Machine.run step beforeRequest
          [hundredOctets, segmentAcked 1 0, segmentAcked 2 1, segmentAcked 3 0]).map
        (fun world => ((world.endpoint.pending.lookup requestKey).map
          (fun transaction => transaction.outbound.map OutboundSegments.acked),
          segmentsSent requestKey (entriesSince beforeRequest world)))
        = some (some (some (some 0)), [0, 1, 2, 1]) := by
  decide +kernel

end World

end BacnetRs.Client
