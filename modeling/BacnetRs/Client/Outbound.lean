/-
  BacnetRs.Client.Outbound — a request going out in segments, over whole runs
  (`advance_outbound` in `client/async_client.rs`).

  The sender takes a SegmentAck at its word as soon as the segment it names
  exists: nothing compares the number with what was ever in flight.  So

    * `acknowledged_ahead`     — one SegmentAck for the last segment, right
                                 after the first went out, clears the transfer
                                 with the rest never sent;
    * `cleared_after_all_sent` — in a run whose SegmentAcks each name a segment
                                 already sent, no segment is skipped and the
                                 transfer is cleared only with every segment
                                 sent.
-/
import BacnetRs.Client.Steps

namespace BacnetRs.Client

open BacnetRs.Service BacnetRs.Network BacnetRs.App

/-! ## §1. What an acknowledgement means -/

/-- The segment an event acknowledges: the number in a SegmentAck from `key`'s peer,
when the transaction there is mid-send and has such a segment. -/
def World.acknowledged (world : World) (key : TransactionKey) : Event → Option UInt8
  | .packet _ _ data source =>
      match packetApdu data source with
      | some (.segmentAck _ _ invokeId sequenceNumber _, _) =>
          if (source, invokeId) = key
              ∧ ((world.endpoint.pending.lookup key).bind PendingTransaction.outbound).any
                (fun outbound => decide (sequenceNumber.toNat < outbound.frames.length)) then
            some sequenceNumber
          else none
      | _ => none
  | _ => none

/-- If the event acknowledges a segment, that segment has been sent since `origin`. -/
def World.AcknowledgesSent (origin : World) (key : TransactionKey) (world : World)
    (event : Event) : Prop :=
  ∀ sequenceNumber, world.acknowledged key event = some sequenceNumber →
    sequenceNumber.toNat ∈ segmentsSent key (World.entriesSince origin world)

instance World.AcknowledgesSent.decidable (origin : World) (key : TransactionKey) (world : World)
    (event : Event) : Decidable (AcknowledgesSent origin key world event) :=
  inferInstanceAs (Decidable (∀ sequenceNumber ∈ world.acknowledged key event,
    sequenceNumber.toNat ∈ segmentsSent key (World.entriesSince origin world)))

/-- Every segment below a sent one has been sent. -/
def NoneSkipped (indices : List Nat) : Prop := ∀ j ∈ indices, ∀ i ≤ j, i ∈ indices

/-- Going on from where everything below is sent skips nothing. -/
theorem NoneSkipped.append {sent indices : List Nat} {start : Nat} (hsent : NoneSkipped sent)
    (hbelow : ∀ i < start, i ∈ sent) (hindices : Consecutive start indices) :
    NoneSkipped (sent ++ indices) := by
  intro j hj i hij
  rcases List.mem_append.mp hj with hj | hj
  · exact List.mem_append_left _ (hsent j hj i hij)
  · by_cases hlt : i < start
    · exact List.mem_append_left _ (hbelow i hlt)
    · exact List.mem_append_right _ ((hindices j hj).2 i (Nat.le_of_not_lt hlt) hij)

theorem NoneSkipped.append_nil {sent : List Nat} (hsent : NoneSkipped sent) :
    NoneSkipped (sent ++ []) := by
  rw [List.append_nil]
  exact hsent

/-! ## §2. The invariant of a transfer -/

/-- What holds of a transaction whose request of `frames` goes out in segments, when
`sent` are the segments sent so far. -/
structure Paced (frames : List Bytes) (transaction : PendingTransaction) (sent : List Nat) :
    Prop where
  noneSkipped : NoneSkipped sent
  cleared : transaction.outbound = none → ∀ i < frames.length, i ∈ sent
  frames_eq : ∀ outbound, transaction.outbound = some outbound → outbound.frames = frames
  acked : ∀ outbound, transaction.outbound = some outbound →
    ∀ i < outbound.nextUnsent.toNat, i ∈ sent

/-- An acknowledgement of a sent segment keeps the transfer paced. -/
theorem Paced.heard {frames : List Bytes} {transaction kept : PendingTransaction}
    {sent : List Nat} {endpoint : Endpoint} {host : Host} {key : TransactionKey} {apdu : Apdu}
    {entries : List Entry} (hpaced : Paced frames transaction sent) (hframes : frames.length ≤ 64)
    (hkeeps : Endpoint.ResponseKeeps endpoint host key transaction apdu kept entries)
    (hsent : ∀ negative server invokeId sequenceNumber windowSize outbound,
      apdu = .segmentAck negative server invokeId sequenceNumber windowSize →
      transaction.outbound = some outbound → sequenceNumber.toNat < outbound.frames.length →
      sequenceNumber.toNat ∈ sent) :
    Paced frames kept (sent ++ segmentsSent key entries) := by
  cases hkeeps with
  -- A segment of the answer leaves what is outbound alone.
  | segment ack kept entries hsegmented hservice hsegment =>
      have houtbound := hsegment.outbound_eq
      rw [hsegment.segmentsSent_eq_nil, List.append_nil]
      refine ⟨hpaced.noneSkipped, ?_, ?_, ?_⟩
      · rw [houtbound]
        exact hpaced.cleared
      · rw [houtbound]
        exact hpaced.frames_eq
      · rw [houtbound]
        exact hpaced.acked
  | advanced negative server invokeId sequenceNumber windowSize outbound frame houtbound hlt hall =>
      have hnamed := hsent _ _ _ _ _ outbound rfl houtbound hlt
      have hnext := OutboundSegments.nextUnsent_acknowledge windowSize
        (by rw [hpaced.frames_eq outbound houtbound]; exact hframes) hlt
      -- The frames up to the one acknowledged were sent, and the next window begins behind them.
      have hbelow : ∀ i < (outbound.acknowledge sequenceNumber windowSize).nextUnsent.toNat,
          i ∈ sent := by
        intro i hi
        rw [hnext] at hi
        exact hpaced.noneSkipped _ hnamed i (Nat.le_of_lt_succ hi)
      rw [segmentsSent_windowFrames]
      refine ⟨hpaced.noneSkipped.append hbelow (windowAfterAck_consecutive _),
        nofun, ?_, ?_⟩
      · intro later hlater
        cases hlater
        exact hpaced.frames_eq outbound houtbound
      · intro later hlater i hi
        cases hlater
        exact List.mem_append_left _ (hbelow i hi)
  | cleared negative server invokeId sequenceNumber windowSize outbound houtbound hlt hall =>
      have hnamed := hsent _ _ _ _ _ outbound rfl houtbound hlt
      -- The last frame is acknowledged, so every frame was sent.
      have hlast : outbound.frames.length ≤ sequenceNumber.toNat + 1 := of_decide_eq_true hall
      have hnone : segmentsSent key ([] : List Entry) = [] := rfl
      rw [hnone, List.append_nil]
      refine ⟨hpaced.noneSkipped, ?_, nofun, nofun⟩
      intro _ i hi
      rw [← hpaced.frames_eq outbound houtbound] at hi
      exact hpaced.noneSkipped _ hnamed i (by omega)

/-- A timeout sends the window again, and keeps the transfer paced. -/
theorem Paced.attempted {frames : List Bytes} {transaction kept : PendingTransaction}
    {sent indices : List Nat} {key : TransactionKey} (hpaced : Paced frames transaction sent)
    (hframes : ∀ frame ∈ frames, frame ≠ [])
    (hattempted : Attempted key transaction kept indices) :
    Paced frames kept (sent ++ indices) := by
  refine ⟨?_, ?_, ?_, ?_⟩
  · cases houtbound : transaction.outbound with
    | none =>
        rw [hattempted.none_sent houtbound]
        exact hpaced.noneSkipped.append_nil
    | some outbound =>
        refine hpaced.noneSkipped.append (hpaced.acked outbound houtbound)
          (hattempted.consecutive outbound houtbound ?_)
        rw [hpaced.frames_eq outbound houtbound]
        exact hframes
  · intro hnone i hi
    rw [hattempted.outbound_eq] at hnone
    exact List.mem_append_left _ (hpaced.cleared hnone i hi)
  · intro outbound houtbound
    rw [hattempted.outbound_eq] at houtbound
    exact hpaced.frames_eq outbound houtbound
  · intro outbound houtbound i hi
    rw [hattempted.outbound_eq] at houtbound
    exact List.mem_append_left _ (hpaced.acked outbound houtbound i hi)

/-- A transfer just opened, its first segment sent, is paced. -/
theorem Paced.opened {endpoint : Endpoint} {key : TransactionKey}
    {transaction : PendingTransaction} {indices : List Nat} {outbound : OutboundSegments}
    (hopening : Endpoint.Opening endpoint key transaction indices)
    (houtbound : transaction.outbound = some outbound) :
    (outbound.frames.length ≤ 64 ∧ ∀ frame ∈ outbound.frames, frame ≠ [])
      ∧ Paced outbound.frames transaction indices := by
  rcases hopening.outbound_eq with
    ⟨hnone, _⟩ | ⟨target, serviceChoice, serviceData, frames, hsplit, hsome, hindices⟩
  · rw [hnone] at houtbound
    cases houtbound
  · rw [hsome] at houtbound
    cases houtbound
    refine ⟨splitRequest_segmented hsplit, ?_⟩
    rw [hindices]
    refine ⟨?_, ?_, ?_, ?_⟩
    · intro j hj i hij
      rw [List.mem_singleton.mp hj] at hij
      rw [Nat.le_zero.mp hij]
      exact List.mem_singleton.mpr rfl
    · intro hnone
      rw [hsome] at hnone
      cases hnone
    · intro later hlater
      rw [hsome] at hlater
      cases hlater
      rfl
    · intro later hlater i hi
      rw [hsome] at hlater
      cases hlater
      exact absurd hi (Nat.not_lt_zero i)

/-! ## §3. Over a run -/

namespace World

/-- The transfer whose caller waits on `response`, if it is still pending at `key`, is
paced by what was sent since `origin`. -/
structure PacedSince (origin : World) (key : TransactionKey) (response : Channel)
    (frames : List Bytes) (world : World) : Prop where
  issued : response ∈ world.issued
  trace : origin.trace <+: world.trace
  paced : ∀ transaction, world.endpoint.pending.lookup key = some transaction →
    transaction.response = response →
    Paced frames transaction (segmentsSent key (entriesSince origin world))

/-- One step keeps a transfer paced, if it acknowledges only what was sent. -/
theorem step_pacedSince {origin world world' : World} {key : TransactionKey}
    {response : Channel} {frames : List Bytes} {event : Event}
    (hframes : frames.length ≤ 64 ∧ ∀ frame ∈ frames, frame ≠ [])
    (hacks : AcknowledgesSent origin key world event)
    (h : PacedSince origin key response frames world) (hstep : step world event = some world') :
    PacedSince origin key response frames world' := by
  refine ⟨step_issued hstep h.issued, h.trace.trans (step_trace hstep), ?_⟩
  intro kept hkept hresponse
  rw [entriesSince_append h.trace (step_trace hstep), segmentsSent_append]
  rcases step_evolves hstep hkept with
    ⟨transaction, hbefore, hevolves⟩ | ⟨now, sendTo, command, rfl, hchannel, _⟩
  · have hpaced := h.paced transaction hbefore (hevolves.response_eq.symm.trans hresponse)
    generalize hindices : segmentsSent key (entriesSince world world') = indices at hevolves ⊢
    cases hevolves with
    | idle =>
        rw [List.append_nil]
        exact hpaced
    | heard now sendTo data apdu route kept entries hpacket hid hkeeps =>
        refine hpaced.heard hframes.1 hkeeps ?_
        intro negative server invokeId sequenceNumber windowSize outbound hapdu houtbound hlt
        subst hapdu
        -- The event is then one that acknowledges this segment.
        refine hacks sequenceNumber ?_
        have hkey : (key.1, invokeId) = key := by
          rw [Option.some.inj hid]
        simp only [acknowledged, hpacket, hkey, hbefore, Option.bind_some, houtbound,
          Option.any_some, hlt, decide_true, and_self, if_true]
    | attempted now sendTo visits kept indices hattempted =>
        exact hpaced.attempted hframes.2 hattempted
  · rw [hresponse] at hchannel
    exact absurd h.issued (not_issued_of_command hstep hchannel).1

/-- **Cleared only after every segment was sent.**  In a run whose SegmentAcks each
name a segment sent since the request was opened, the segments sent never leave
one out, and once the transfer is cleared every segment of the request is among
them. -/
theorem cleared_after_all_sent {origin opened world : World} {event : Event}
    {events : List Event} {key : TransactionKey} {first transaction : PendingTransaction}
    {outbound : OutboundSegments} (hopen : step origin event = some opened)
    (hfirst : opened.endpoint.pending.lookup key = some first)
    (hnew : ∀ earlier, origin.endpoint.pending.lookup key = some earlier →
      earlier.response ≠ first.response)
    (houtbound : first.outbound = some outbound)
    (hacks : Machine.Throughout step (AcknowledgesSent origin key) opened events)
    (hrun : Machine.run step opened events = some world)
    (htransaction : world.endpoint.pending.lookup key = some transaction)
    (hsame : transaction.response = first.response) :
    NoneSkipped (segmentsSent key (entriesSince origin world))
      ∧ (transaction.outbound = none →
        ∀ i < outbound.frames.length, i ∈ segmentsSent key (entriesSince origin world)) := by
  rcases step_evolves hopen hfirst with
    ⟨earlier, hearlier, hevolves⟩ | ⟨now, sendTo, command, rfl, hchannel, hopening⟩
  · exact absurd hevolves.response_eq.symm (hnew earlier hearlier)
  · obtain ⟨hframes, hpaced⟩ := Paced.opened hopening houtbound
    have hstart : PacedSince origin key first.response outbound.frames opened := by
      refine ⟨(not_issued_of_command hopen hchannel).2, step_trace hopen, ?_⟩
      intro other hother _
      rw [hfirst] at hother
      cases hother
      exact hpaced
    have hend := Machine.run_invariant_throughout
      (fun _ _ _ hack h hstep => step_pacedSince hframes hack h hstep) hacks hstart hrun
    have hfinal := hend.paced transaction htransaction hsame
    exact ⟨hfinal.noneSkipped, hfinal.cleared⟩

/-! ## §4. A peer that acknowledges ahead -/

/-- The peer's SegmentAck at `now` for segment `sequenceNumber` of that request. -/
def segmentAcked (now : Instant) (sequenceNumber : UInt8) : Event :=
  .packet now takesAll
    (wrapUnicast Npdu.new (.segmentAck false true 0 sequenceNumber 1)) segmentingPeer.address

/-- **One SegmentAck for the last segment clears the transfer.**  Only the first of
the three segments has been sent. -/
theorem acknowledged_ahead :
    (Machine.run step beforeRequest [hundredOctets, segmentAcked 1 2]).map
        (fun world => ((world.endpoint.pending.lookup requestKey).map PendingTransaction.outbound,
          segmentsSent requestKey (entriesSince beforeRequest world)))
        = some (some none, [0])
      ∧ (Machine.run step beforeRequest [hundredOctets]).map
          (fun world => (world.endpoint.pending.lookup requestKey).map
            (fun transaction => transaction.outbound.map
              (fun outbound => outbound.frames.length)))
        = some (some (some 3)) := by
  decide +kernel

/-- Each segment acknowledged once it has gone out: all three are sent, and the
transfer is cleared. -/
theorem cleared_after_all_sent_inOrder :
    ∃ world transaction,
      Machine.run step afterRequest [segmentAcked 1 0, segmentAcked 2 1, segmentAcked 3 2] = some world
        ∧ world.endpoint.pending.lookup requestKey = some transaction
        ∧ transaction.outbound = none
        ∧ ∀ i < 3, i ∈ segmentsSent requestKey (entriesSince beforeRequest world) := by
  let events := [segmentAcked 1 0, segmentAcked 2 1, segmentAcked 3 2]
  have hruns : (Machine.run step afterRequest events).isSome = true := by decide +kernel
  let world := (Machine.run step afterRequest events).get hruns
  have hopened : (afterRequest.endpoint.pending.lookup requestKey).isSome = true := by
    decide +kernel
  let first := (afterRequest.endpoint.pending.lookup requestKey).get hopened
  have hsplit : first.outbound.isSome = true := by decide +kernel +revert
  have hpending : (world.endpoint.pending.lookup requestKey).isSome = true := by decide +kernel +revert
  let transaction := (world.endpoint.pending.lookup requestKey).get hpending
  have hcleared : transaction.outbound = none := by decide +kernel +revert
  have hcount : (first.outbound.get hsplit).frames.length = 3 := by decide +kernel +revert
  have hsent := cleared_after_all_sent
    step_hundredOctets
    (Option.some_get hopened).symm
    (fun earlier hearlier => by cases hearlier)
    (Option.some_get hsplit).symm
    (by decide +kernel : Machine.Throughout step (AcknowledgesSent beforeRequest requestKey)
      afterRequest events)
    (Option.some_get hruns).symm
    (Option.some_get hpending).symm
    (by decide +kernel +revert)
  rw [hcount] at hsent
  exact ⟨world, transaction, (Option.some_get hruns).symm, (Option.some_get hpending).symm,
    hcleared, hsent.2 hcleared⟩

end World

end BacnetRs.Client
