/-
  BacnetRs.Client.Progress — what restarts a transaction's clock
  (`accept_response_segment` and `advance_outbound` in
  `client/async_client.rs`).

  "Each segment is progress, so the clock restarts: a long transfer is bounded
  by MAX_SEGMENTS, not by the deadline."  The code restarts it for a gap and
  for a SegmentAck that acknowledges nothing new as well, so a peer repeating
  itself is not bounded by anything:

    * `restarted_without_progress` — seventy equal SegmentAcks restart the clock
                                     of a three-segment request seventy times;
    * `restarts_are_progress`      — in a run whose segments leave no gap and
                                     whose SegmentAcks each acknowledge more,
                                     every restart is progress, so there are at
                                     most sixty-four and one for each segment
                                     of the request, and the clock moves only
                                     so often before the transaction ends.
-/
import BacnetRs.Client.Outbound
import BacnetRs.Client.Reassembly

namespace BacnetRs.Client

open BacnetRs.Service BacnetRs.Network BacnetRs.App

/-! ## §1. Progress of one transaction -/

namespace PendingTransaction

/-- What a restart sets. -/
def clock (transaction : PendingTransaction) : UInt8 × Instant :=
  (transaction.retriesRemaining, transaction.deadline)

/-- How many segments the request goes out in, none if it goes out whole. -/
def segmentCount (transaction : PendingTransaction) : Nat :=
  match transaction.outbound with
  | some outbound => outbound.frames.length
  | none => 0

/-- One more than the highest acknowledged segment, of a request of `count`. -/
def acknowledged (count : Nat) (transaction : PendingTransaction) : Nat :=
  match transaction.outbound with
  | some outbound => outbound.nextUnsent.toNat
  | none => count

/-- Segments of the response accepted, and of the request acknowledged. -/
def progress (count : Nat) (transaction : PendingTransaction) : Nat :=
  transaction.transfer.segments + transaction.acknowledged count

/-- The APDU goes on from where the transaction is: as a segment of the response it
leaves no gap, as a SegmentAck it acknowledges a segment not yet acknowledged. -/
def goesOn (transaction : PendingTransaction) (apdu : Apdu) : Bool :=
  match apdu with
  | .segmentAck _ _ _ sequenceNumber _ =>
      match transaction.outbound with
      | some outbound =>
          decide (sequenceNumber.toNat < outbound.frames.length →
            outbound.nextUnsent.toNat ≤ sequenceNumber.toNat)
      | none => true
  | .complexAck ack =>
      !ack.segmented
        || !Endpoint.responseMatchesService (.complexAck ack) transaction.serviceChoice
        || match ack.sequenceNumber, transaction.transfer.lastInOrder with
          | some sequence, some last => sequence == last || sequence == last + 1
          | _, _ => true
  | _ => true

/-- What holds of a transaction whose request has `count` segments. -/
structure Bounded (count : Nat) (retries : UInt8) (transaction : PendingTransaction) : Prop where
  accepted_le : transaction.transfer.segments ≤ 64
  acknowledged_le : transaction.acknowledged count ≤ count
  frames_eq : ∀ outbound, transaction.outbound = some outbound →
    outbound.frames.length = count ∧ count ≤ 64
  retries_le : transaction.retriesRemaining ≤ retries

theorem Bounded.progress_le {count : Nat} {retries : UInt8} {transaction : PendingTransaction}
    (h : Bounded count retries transaction) : transaction.progress count ≤ 64 + count :=
  Nat.add_le_add h.accepted_le h.acknowledged_le

end PendingTransaction

/-- How the clock of a transaction can move in one step. -/
inductive Moved (count : Nat) (transaction kept : PendingTransaction) : Event → Prop where
  | still (event : Event) (hclock : kept.clock = transaction.clock)
      (hprogress : kept.progress count = transaction.progress count) :
      Moved count transaction kept event
  /-- A datagram made progress. -/
  | advanced (now : Instant) (sendTo : SocketAddr → Bytes → Option IoError) (data : Bytes)
      (source : SocketAddr)
      (hmore : transaction.transfer.segments < kept.transfer.segments
        ∨ transaction.acknowledged count < kept.acknowledged count)
      (hprogress : transaction.progress count < kept.progress count) :
      Moved count transaction kept (.packet now sendTo data source)
  /-- A deadline passed. -/
  | attempted (now : Instant) (sendTo : SocketAddr → Bytes → Option IoError)
      (visits : List (TransactionKey × Instant))
      (hprogress : kept.progress count = transaction.progress count)
      (hretries : kept.retriesRemaining < transaction.retriesRemaining) :
      Moved count transaction kept (.timeouts now sendTo visits)

/-- A segment that leaves no gap makes progress or changes nothing. -/
theorem segmentKeeps_moved {endpoint : Endpoint} {host : Host} {key : TransactionKey}
    {transaction kept : PendingTransaction} {ack : ComplexAck} {entries : List Entry} {count : Nat}
    (h : Endpoint.SegmentKeeps endpoint host key transaction ack kept entries)
    (hgap : ∀ sequence last, ack.sequenceNumber = some sequence →
      transaction.transfer.lastInOrder = some last → sequence = last ∨ sequence = last + 1)
    (hbounded : transaction.Bounded count endpoint.retries) :
    kept.Bounded count endpoint.retries
      ∧ ((kept.clock = transaction.clock ∧ kept.progress count = transaction.progress count)
        ∨ transaction.transfer.segments < kept.transfer.segments
          ∧ kept.acknowledged count = transaction.acknowledged count) := by
  cases h with
  | acknowledged sequence last negative transfer route hsequence haccept =>
      have haccepts := transaction.transfer.accept_accepts sequence ack.moreFollows ack.serviceData
      rw [haccept] at haccepts
      cases negative with
      | false =>
          cases haccepts with
          | accepted hawaited hroom hfollows =>
              exact ⟨⟨hroom, hbounded.acknowledged_le, hbounded.frames_eq, UInt8.le_refl _⟩,
                Or.inr ⟨Nat.lt_succ_self _, rfl⟩⟩
      | true =>
          cases haccepts with
          | gap _ hlast hne hnext =>
              rcases hgap sequence last hsequence hlast with hsame | hsame
              · exact absurd hsame hne
              · exact absurd hsame hnext
  | repeated sequence transfer parcels hsequence haccept hparcels =>
      have haccepts := transaction.transfer.accept_accepts sequence ack.moreFollows ack.serviceData
      rw [haccept] at haccepts
      cases haccepts with
      | repeated hlast =>
          exact ⟨⟨hbounded.accepted_le, hbounded.acknowledged_le, hbounded.frames_eq,
            hbounded.retries_le⟩, Or.inl ⟨rfl, rfl⟩⟩

/-- An APDU that goes on from where the transaction is makes progress or changes
nothing. -/
theorem responseKeeps_moved {endpoint : Endpoint} {host : Host} {key : TransactionKey}
    {transaction kept : PendingTransaction} {apdu : Apdu} {entries : List Entry} {count : Nat}
    (h : Endpoint.ResponseKeeps endpoint host key transaction apdu kept entries)
    (hgoes : transaction.goesOn apdu = true)
    (hbounded : transaction.Bounded count endpoint.retries) (now : Instant)
    (sendTo : SocketAddr → Bytes → Option IoError) (data : Bytes) (source : SocketAddr) :
    kept.Bounded count endpoint.retries
      ∧ Moved count transaction kept (.packet now sendTo data source) := by
  cases h with
  | segment ack kept entries hsegmented hservice hsegment =>
      -- Going on, the segment is the last one again or the next in order.
      have hgap : ∀ sequence last, ack.sequenceNumber = some sequence →
          transaction.transfer.lastInOrder = some last →
          sequence = last ∨ sequence = last + 1 := by
        intro sequence last hsequence hlast
        simp only [PendingTransaction.goesOn, hsegmented, hservice, hsequence, hlast] at hgoes
        simpa using hgoes
      obtain ⟨hkept, hstill | ⟨hmore, hsame⟩⟩ := segmentKeeps_moved hsegment hgap hbounded
      · exact ⟨hkept, .still _ hstill.1 hstill.2⟩
      · refine ⟨hkept, .advanced now sendTo data source (Or.inl hmore) ?_⟩
        unfold PendingTransaction.progress
        omega
  | advanced negative server invokeId sequenceNumber windowSize outbound frame houtbound hlt hall =>
      obtain ⟨hframes, hcount⟩ := hbounded.frames_eq outbound houtbound
      -- Going on, the acknowledgement does not fall behind what has been acknowledged.
      have hfurther : outbound.nextUnsent.toNat ≤ sequenceNumber.toNat := by
        simp only [PendingTransaction.goesOn, houtbound, decide_eq_true_eq] at hgoes
        exact hgoes hlt
      have hbefore : transaction.acknowledged count = outbound.nextUnsent.toNat := by
        unfold PendingTransaction.acknowledged
        rw [houtbound]
      have hafter : (outbound.acknowledge sequenceNumber windowSize).nextUnsent.toNat
          = sequenceNumber.toNat + 1 :=
        OutboundSegments.nextUnsent_acknowledge windowSize (by omega) hlt
      refine ⟨⟨hbounded.accepted_le, ?_, ?_, UInt8.le_refl _⟩,
        .advanced now sendTo data source (Or.inr ?_) ?_⟩
      · show (outbound.acknowledge sequenceNumber windowSize).nextUnsent.toNat ≤ count
        omega
      · intro later hlater
        cases hlater
        exact ⟨hframes, hcount⟩
      · show _ < (outbound.acknowledge sequenceNumber windowSize).nextUnsent.toNat
        omega
      · show transaction.transfer.segments + _
          < transaction.transfer.segments
            + (outbound.acknowledge sequenceNumber windowSize).nextUnsent.toNat
        omega
  -- The last frame is acknowledged: what was outbound counts as acknowledged in full.
  | cleared negative server invokeId sequenceNumber windowSize outbound houtbound hlt hall =>
      obtain ⟨hframes, hcount⟩ := hbounded.frames_eq outbound houtbound
      have hfurther : outbound.nextUnsent.toNat ≤ sequenceNumber.toNat := by
        simp only [PendingTransaction.goesOn, houtbound, decide_eq_true_eq] at hgoes
        exact hgoes hlt
      have hbefore : transaction.acknowledged count = outbound.nextUnsent.toNat := by
        unfold PendingTransaction.acknowledged
        rw [houtbound]
      refine ⟨⟨hbounded.accepted_le, Nat.le_refl count, nofun, UInt8.le_refl _⟩,
        .advanced now sendTo data source (Or.inr ?_) ?_⟩
      · show _ < count
        omega
      · show transaction.transfer.segments + _ < transaction.transfer.segments + count
        omega

/-- A passed deadline costs a retry or changes nothing. -/
theorem attempted_moved {key : TransactionKey} {transaction kept : PendingTransaction}
    {indices : List Nat} {count : Nat} {retries : UInt8}
    (h : Attempted key transaction kept indices) (hbounded : transaction.Bounded count retries)
    (now : Instant) (sendTo : SocketAddr → Bytes → Option IoError)
    (visits : List (TransactionKey × Instant)) :
    kept.Bounded count retries ∧ Moved count transaction kept (.timeouts now sendTo visits) := by
  have htransfer : kept.transfer = transaction.transfer := by
    unfold PendingTransaction.transfer
    rw [h.reassembly_eq]
  have hacknowledged : kept.acknowledged count = transaction.acknowledged count := by
    unfold PendingTransaction.acknowledged
    rw [h.outbound_eq]
  have hprogress : kept.progress count = transaction.progress count := by
    unfold PendingTransaction.progress
    rw [htransfer, hacknowledged]
  rcases h.retries with rfl | hless
  · exact ⟨hbounded, .still _ rfl rfl⟩
  · refine ⟨⟨?_, ?_, ?_, UInt8.le_of_lt (UInt8.lt_of_lt_of_le hless hbounded.retries_le)⟩,
      .attempted now sendTo visits hprogress hless⟩
    · rw [htransfer]
      exact hbounded.accepted_le
    · rw [hacknowledged]
      exact hbounded.acknowledged_le
    · rw [h.outbound_eq]
      exact hbounded.frames_eq

/-- A transaction just opened is bounded. -/
theorem opening_bounded {endpoint : Endpoint} {key : TransactionKey}
    {transaction : PendingTransaction} {indices : List Nat}
    (h : Endpoint.Opening endpoint key transaction indices) :
    transaction.Bounded transaction.segmentCount endpoint.retries := by
  have hempty : transaction.transfer = Reassembly.empty := by
    unfold PendingTransaction.transfer
    rw [h.reassembly_eq]
    rfl
  have hretries : transaction.retriesRemaining ≤ endpoint.retries := by
    rw [h.retries_eq]
    exact UInt8.le_refl _
  unfold PendingTransaction.segmentCount
  rcases h.outbound_eq with
    ⟨hnone, _⟩ | ⟨target, serviceChoice, serviceData, frames, hsplit, hsome, _⟩
  · refine ⟨?_, ?_, ?_, hretries⟩
    · rw [hempty]
      exact Nat.zero_le _
    · unfold PendingTransaction.acknowledged
      rw [hnone]
    · rw [hnone]
      nofun
  · refine ⟨?_, ?_, ?_, hretries⟩
    · rw [hempty]
      exact Nat.zero_le _
    · unfold PendingTransaction.acknowledged
      rw [hsome]
      exact Nat.zero_le _
    · intro outbound houtbound
      rw [houtbound] at hsome ⊢
      cases hsome
      exact ⟨rfl, (splitRequest_segmented hsplit).1⟩

/-! ## §2. Over a run -/

namespace World

/-- The transaction at `key` whose caller waits on `response`, while it is pending. -/
def waiting (world : World) (key : TransactionKey) (response : Channel) :
    Option PendingTransaction :=
  (world.endpoint.pending.lookup key).filter (fun transaction => transaction.response == response)

theorem waiting_eq_some {world : World} {key : TransactionKey} {response : Channel}
    {transaction : PendingTransaction} :
    world.waiting key response = some transaction
      ↔ world.endpoint.pending.lookup key = some transaction
        ∧ transaction.response = response := by
  rw [waiting, Option.filter_eq_some_iff, beq_iff_eq]

/-- A datagram about the transaction goes on from where the transaction is. -/
def GoesOn (key : TransactionKey) (response : Channel) (world : World) (event : Event) : Prop :=
  match event with
  | .packet _ _ data source =>
      match packetApdu data source, world.waiting key response with
      | some (apdu, _), some transaction =>
          (source = key.1 ∧ Endpoint.responseInvokeId apdu = some key.2) →
            transaction.goesOn apdu = true
      | _, _ => True
  | _ => True

instance GoesOn.decidable (key : TransactionKey) (response : Channel) (world : World)
    (event : Event) : Decidable (GoesOn key response world event) := by
  unfold GoesOn
  split
  · split <;> infer_instance
  · infer_instance

/-- The step restarts the transaction's clock for a datagram only when that raises the
segments of the response accepted in order or of the request acknowledged. -/
def RestartsOnProgress (count : Nat) (key : TransactionKey) (response : Channel) (world : World)
    (event : Event) : Prop :=
  ∀ world' transaction kept now sendTo data source, event = .packet now sendTo data source →
    step world event = some world' → world.waiting key response = some transaction →
    world'.waiting key response = some kept → kept.clock ≠ transaction.clock →
    transaction.transfer.segments < kept.transfer.segments
      ∨ transaction.acknowledged count < kept.acknowledged count

/-- One for a step that moves the transaction's clock. -/
def clockMoves (key : TransactionKey) (response : Channel) (world : World) (_event : Event)
    (world' : World) : Nat :=
  match world.waiting key response, world'.waiting key response with
  | some transaction, some kept => if kept.clock = transaction.clock then 0 else 1
  | _, _ => 0

/-- One for a datagram that moves the transaction's clock: a restart. -/
def restarts (key : TransactionKey) (response : Channel) (world : World) (event : Event)
    (world' : World) : Nat :=
  match event with
  | .packet _ _ _ _ => clockMoves key response world event world'
  | _ => 0

/-- A transaction that has ended has no clock to move. -/
theorem clockMoves_of_closed {key : TransactionKey} {response : Channel} {world' : World}
    (hclosed : world'.waiting key response = none) (world : World) (event : Event) :
    clockMoves key response world event world' = 0 := by
  unfold clockMoves
  rw [hclosed]
  cases world.waiting key response <;> rfl

theorem restarts_le_clockMoves (key : TransactionKey) (response : Channel)
    (world world' : World) (event : Event) :
    restarts key response world event world' ≤ clockMoves key response world event world' := by
  cases event with
  | packet => exact Nat.le_refl _
  | command | timeouts | drop | stop => exact Nat.zero_le _

/-- The transaction whose caller waits on `response`, while it is pending, is bounded. -/
structure Progressing (count : Nat) (retries : UInt8) (key : TransactionKey) (response : Channel)
    (world : World) : Prop where
  issued : response ∈ world.issued
  retries_eq : world.endpoint.retries = retries
  bounded : ∀ transaction, world.waiting key response = some transaction →
    transaction.Bounded count retries

/-- **One step** that goes on from where the transaction is moves its clock only by
progress, or by a passed deadline at the cost of a retry. -/
theorem step_moved {count : Nat} {retries : UInt8} {key : TransactionKey} {response : Channel}
    {world world' : World} {event : Event} (hgoes : GoesOn key response world event)
    (h : Progressing count retries key response world) (hstep : step world event = some world') :
    Progressing count retries key response world'
      ∧ ∀ kept, world'.waiting key response = some kept →
          ∃ transaction, world.waiting key response = some transaction
            ∧ Moved count transaction kept event := by
  have hsettings : world'.endpoint.retries = retries := by
    rw [← h.retries_eq]
    exact congrArg (fun settings => settings.2.1) (step_settings hstep)
  have hmoved : ∀ kept, world'.waiting key response = some kept →
      kept.Bounded count retries ∧ ∃ transaction,
        world.waiting key response = some transaction ∧ Moved count transaction kept event := by
    intro kept hkept
    obtain ⟨hlookup, hresponse⟩ := waiting_eq_some.mp hkept
    -- The transaction was there before the step, or a command opened it on a channel of its own.
    rcases step_evolves hstep hlookup with
      ⟨transaction, hbefore, hevolves⟩ | ⟨now, sendTo, command, rfl, hchannel, _⟩
    · have hwaiting : world.waiting key response = some transaction :=
        waiting_eq_some.mpr ⟨hbefore, hevolves.response_eq.symm.trans hresponse⟩
      have hbounded := h.bounded transaction hwaiting
      generalize segmentsSent key (entriesSince world world') = indices at hevolves
      cases hevolves with
      | idle => exact ⟨hbounded, kept, hwaiting, .still _ rfl rfl⟩
      | heard now sendTo data apdu route kept entries hpacket hid hkeeps =>
          simp only [GoesOn, hpacket, hwaiting] at hgoes
          rw [← h.retries_eq] at hbounded ⊢
          obtain ⟨hkept, hmoved⟩ := responseKeeps_moved hkeeps (hgoes ⟨trivial, hid⟩) hbounded now
            sendTo data key.1
          exact ⟨hkept, transaction, hwaiting, hmoved⟩
      | attempted now sendTo visits kept indices hattempted =>
          obtain ⟨hkept, hmoved⟩ := attempted_moved hattempted hbounded now sendTo visits
          exact ⟨hkept, transaction, hwaiting, hmoved⟩
    · rw [hresponse] at hchannel
      -- The channel has been issued already, so no command can bring it again.
      exact absurd h.issued (not_issued_of_command hstep hchannel).1
  exact ⟨⟨step_issued hstep h.issued, hsettings, fun kept hkept => (hmoved kept hkept).1⟩,
    fun kept hkept => (hmoved kept hkept).2⟩

/-- Progress still possible: what restarts are paid from. -/
def progressLeft (count : Nat) (key : TransactionKey) (response : Channel) (world : World) :
    Nat :=
  match world.waiting key response with
  | some transaction => 64 + count - transaction.progress count
  | none => 0

/-- Clock moves still possible: each restart gives back every retry. -/
def movesLeft (count : Nat) (retries : UInt8) (key : TransactionKey) (response : Channel)
    (world : World) : Nat :=
  match world.waiting key response with
  | some transaction =>
      (64 + count - transaction.progress count) * (retries.toNat + 1)
        + transaction.retriesRemaining.toNat
  | none => 0

theorem progressLeft_paid {count : Nat} {retries : UInt8} {key : TransactionKey}
    {response : Channel} {world world' : World} {event : Event}
    (hgoes : GoesOn key response world event)
    (h : Progressing count retries key response world) (hstep : step world event = some world') :
    progressLeft count key response world' + restarts key response world event world'
      ≤ progressLeft count key response world := by
  obtain ⟨hafter, hmoved⟩ := step_moved hgoes h hstep
  cases hkept : world'.waiting key response with
  | none =>
      have hfree := restarts_le_clockMoves key response world world' event
      rw [clockMoves_of_closed hkept] at hfree
      have hnone : progressLeft count key response world' = 0 := by
        unfold progressLeft
        rw [hkept]
      omega
  | some kept =>
      obtain ⟨transaction, hwaiting, hmove⟩ := hmoved kept hkept
      have hbound := (hafter.bounded kept hkept).progress_le
      unfold progressLeft restarts clockMoves
      rw [hkept, hwaiting]
      cases hmove with
      | still event hclock hprogress =>
          simp only [hclock, if_true, hprogress]
          split <;> omega
      | advanced now sendTo data source hmore hprogress =>
          simp only
          split <;> omega
      | attempted now sendTo visits hprogress hretries =>
          simp only
          omega

theorem movesLeft_paid {count : Nat} {retries : UInt8} {key : TransactionKey}
    {response : Channel} {world world' : World} {event : Event}
    (hgoes : GoesOn key response world event)
    (h : Progressing count retries key response world) (hstep : step world event = some world') :
    movesLeft count retries key response world' + clockMoves key response world event world'
      ≤ movesLeft count retries key response world := by
  obtain ⟨hafter, hmoved⟩ := step_moved hgoes h hstep
  cases hkept : world'.waiting key response with
  | none =>
      have hnone : movesLeft count retries key response world' = 0 := by
        unfold movesLeft
        rw [hkept]
      rw [clockMoves_of_closed hkept, hnone]
      exact Nat.zero_le _
  | some kept =>
      obtain ⟨transaction, hwaiting, hmove⟩ := hmoved kept hkept
      have hbound := (hafter.bounded kept hkept).progress_le
      have hretries := UInt8.le_iff_toNat_le.mp (hafter.bounded kept hkept).retries_le
      unfold movesLeft clockMoves
      rw [hkept, hwaiting]
      simp only
      cases hmove with
      | still event hclock hprogress =>
          have hsame : kept.retriesRemaining = transaction.retriesRemaining :=
            congrArg Prod.fst hclock
          rw [if_pos hclock, hprogress, hsame]
          exact Nat.le_refl _
      | advanced now sendTo data source hmore hprogress =>
          -- The progress pays for every retry given back, and for the restart.
          have hpaid : 64 + count - kept.progress count + 1
              ≤ 64 + count - transaction.progress count := by omega
          have hscaled := Nat.mul_le_mul_right (retries.toNat + 1) hpaid
          rw [Nat.add_mul, Nat.one_mul] at hscaled
          split <;> omega
      | attempted now sendTo visits hprogress hless =>
          have hless := UInt8.lt_iff_toNat_lt.mp hless
          rw [hprogress]
          split <;> omega

/-- **Every restart is progress**, in a run whose datagrams about the transaction go on
from where it is: there are at most sixty-four restarts and one for each segment of
its request, and restarts and passed deadlines together are bounded too. -/
theorem restarts_are_progress {origin opened world : World} {event : Event}
    {events : List Event} {key : TransactionKey} {first : PendingTransaction}
    (hopen : step origin event = some opened)
    (hfirst : opened.endpoint.pending.lookup key = some first)
    (hnew : ∀ earlier, origin.endpoint.pending.lookup key = some earlier →
      earlier.response ≠ first.response)
    (hgoes : Machine.Throughout step (GoesOn key first.response) opened events)
    (hrun : Machine.run step opened events = some world) :
    Machine.Throughout step (RestartsOnProgress first.segmentCount key first.response) opened events
      ∧ Machine.total step (restarts key first.response) opened events
          ≤ 64 + first.segmentCount
      ∧ Machine.total step (clockMoves key first.response) opened events
          ≤ (64 + first.segmentCount) * (origin.endpoint.retries.toNat + 1)
            + origin.endpoint.retries.toNat := by
  -- The channel is new, so the transaction was opened by this event and kept by none before.
  rcases step_evolves hopen hfirst with
    ⟨earlier, hearlier, hevolves⟩ | ⟨now, sendTo, command, rfl, hchannel, hopening⟩
  · exact absurd hevolves.response_eq.symm (hnew earlier hearlier)
  have hwaiting : opened.waiting key first.response = some first :=
    waiting_eq_some.mpr ⟨hfirst, rfl⟩
  have hstart : Progressing first.segmentCount origin.endpoint.retries key first.response
      opened := by
    refine ⟨(not_issued_of_command hopen hchannel).2,
      congrArg (fun settings => settings.2.1) (step_settings hopen), ?_⟩
    intro other hother
    rw [hwaiting] at hother
    cases hother
    exact opening_bounded hopening
  -- Every step that goes on keeps the bounds, which is what each of the three counts rests on.
  have hpreserved : ∀ current next current', GoesOn key first.response current next →
      Progressing first.segmentCount origin.endpoint.retries key first.response current →
      step current next = some current' →
      Progressing first.segmentCount origin.endpoint.retries key first.response current' :=
    fun _ _ _ hgo h hstep => (step_moved hgo h hstep).1
  refine ⟨Machine.Throughout.imp hpreserved ?_ hgoes hstart, ?_, ?_⟩
  · intro current next hgo h current' transaction kept _ _ _ _ hpacket hstep hbefore hafter hclock
    obtain ⟨other, hother, hmoved⟩ := (step_moved hgo h hstep).2 kept hafter
    rw [hbefore] at hother
    cases hother
    cases hmoved with
    -- A packet that moved the clock neither left the transaction still nor was a retry.
    | still _ hsame => exact absurd hsame hclock
    | advanced _ _ _ _ hmore => exact hmore
    | attempted => cases hpacket
  -- Restarts are paid from the progress still possible.
  · have hpays : ∀ current next current', GoesOn key first.response current next →
        Progressing first.segmentCount origin.endpoint.retries key first.response current →
        step current next = some current' →
        Progressing first.segmentCount origin.endpoint.retries key first.response current'
          ∧ progressLeft first.segmentCount key first.response current'
              + restarts key first.response current next current'
            ≤ progressLeft first.segmentCount key first.response current :=
      fun _ _ _ hgo h hstep => ⟨(step_moved hgo h hstep).1, progressLeft_paid hgo h hstep⟩
    have hpaid := Machine.run_total_le hpays hgoes hstart hrun
    have hleft : progressLeft first.segmentCount key first.response opened
        ≤ 64 + first.segmentCount := by
      unfold progressLeft
      rw [hwaiting]
      exact Nat.sub_le _ _
    omega
  -- Clock moves are paid from that progress times the retries each restart gives back.
  · have hpays : ∀ current next current', GoesOn key first.response current next →
        Progressing first.segmentCount origin.endpoint.retries key first.response current →
        step current next = some current' →
        Progressing first.segmentCount origin.endpoint.retries key first.response current'
          ∧ movesLeft first.segmentCount origin.endpoint.retries key first.response current'
              + clockMoves key first.response current next current'
            ≤ movesLeft first.segmentCount origin.endpoint.retries key first.response current :=
      fun _ _ _ hgo h hstep => ⟨(step_moved hgo h hstep).1, movesLeft_paid hgo h hstep⟩
    have hpaid := Machine.run_total_le hpays hgoes hstart hrun
    have hleft : movesLeft first.segmentCount origin.endpoint.retries key first.response opened
        ≤ (64 + first.segmentCount) * (origin.endpoint.retries.toNat + 1)
          + origin.endpoint.retries.toNat := by
      unfold movesLeft
      rw [hwaiting]
      simp only [hopening.retries_eq]
      exact Nat.add_le_add_right (Nat.mul_le_mul_right _ (Nat.sub_le _ _)) _
    omega

/-- Three acknowledgements, each of the next segment: three restarts, all progress. -/
theorem restarts_are_progress_inOrder :
    ∃ first world, afterRequest.endpoint.pending.lookup requestKey = some first
      ∧ first.segmentCount = 3
      ∧ Machine.run step afterRequest [segmentAcked 1 0, segmentAcked 2 1, segmentAcked 3 2]
          = some world
      ∧ Machine.Throughout step (RestartsOnProgress first.segmentCount requestKey first.response)
          afterRequest [segmentAcked 1 0, segmentAcked 2 1, segmentAcked 3 2] := by
  let events := [segmentAcked 1 0, segmentAcked 2 1, segmentAcked 3 2]
  have hruns : (Machine.run step afterRequest events).isSome = true := by decide +kernel
  have hopened : (afterRequest.endpoint.pending.lookup requestKey).isSome = true := by
    decide +kernel
  let first := (afterRequest.endpoint.pending.lookup requestKey).get hopened
  have hcount : first.segmentCount = 3 := by decide +kernel +revert
  have hprogress := restarts_are_progress
    step_hundredOctets
    (Option.some_get hopened).symm
    (fun earlier hearlier => by cases hearlier)
    (by decide +kernel +revert : Machine.Throughout step (GoesOn requestKey first.response)
      afterRequest events)
    (Option.some_get hruns).symm
  exact ⟨first, _, (Option.some_get hopened).symm, hcount, (Option.some_get hruns).symm,
    hprogress.1⟩

/-! ## §3. A peer that makes none -/

/-- **A peer that repeats itself restarts the clock for ever.**  Seventy SegmentAcks for
the first of three segments restart it seventy times, more than the sixty-seven that
progress could; and a segment that leaves a gap restarts it with nothing accepted. -/
theorem restarted_without_progress :
    Machine.total step (restarts requestKey 0) afterRequest
        ((List.range 70).map (fun i => segmentAcked (i + 1) 0)) = 70
      ∧ (afterRequest.waiting requestKey 0).map PendingTransaction.segmentCount = some 3
      ∧ (Machine.run step beforeRequest [oneOctet 0 takesAll 0,
          segmentArrived 1 takesAll 0 0, segmentArrived 2 takesAll 0 5]).map
          (fun world => (world.waiting requestKey 0).map
            (fun transaction => (transaction.transfer.segments, transaction.deadline)))
        = some (some (1, 3000000002)) := by
  decide +kernel

end World

end BacnetRs.Client
