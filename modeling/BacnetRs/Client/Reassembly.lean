/-
  BacnetRs.Client.Reassembly — a response arriving in segments
  (`accept_response_segment` in `client/async_client.rs`).

  With a granted window of one, the receiver keeps the last segment it took and
  waits for the next.  Against a sender whose segments always carry the same
  octets under the same number, whatever is lost, repeated or reordered on the
  way:

    * `accept_accepts`       — the six things an arriving segment can be;
    * `acceptArrival_step`   — each keeps what has been put together a prefix
                               of what the sender sends;
    * `response_reassembled` — so a response that completes is the sender's,
                               each segment once.
-/
import BacnetRs.Client.Moves

namespace BacnetRs.Client

open BacnetRs.Service BacnetRs.Network BacnetRs.App

/-! ## §1. One segment -/

namespace Reassembly

/-- The segment awaited. -/
def awaited (transfer : Reassembly) : UInt8 :=
  match transfer.lastInOrder with
  | some last => last + 1
  | none => 0

/-- The transfer with the awaited segment taken. -/
def taken (transfer : Reassembly) (serviceData : Bytes) : Reassembly :=
  { transfer with
    data := transfer.data ++ serviceData
    segments := transfer.segments + 1
    lastInOrder := some transfer.awaited }

/-- What an arriving segment can be. -/
inductive Accepts (transfer : Reassembly) (sequence : UInt8) (moreFollows : Bool)
    (serviceData : Bytes) : SegmentOutcome × Reassembly → Prop where
  | unstarted (hnone : transfer.lastInOrder = none) (hne : sequence ≠ 0) :
      Accepts transfer sequence moreFollows serviceData
        (.abandon .invalidApduInThisState, transfer)
  | repeated (hlast : transfer.lastInOrder = some sequence) :
      Accepts transfer sequence moreFollows serviceData (.repeat, transfer)
  | gap (last : UInt8) (hlast : transfer.lastInOrder = some last) (hne : sequence ≠ last)
      (hnext : sequence ≠ last + 1) :
      Accepts transfer sequence moreFollows serviceData (.missing last, transfer)
  | overflowed (hawaited : sequence = transfer.awaited) (hfull : 64 ≤ transfer.segments) :
      Accepts transfer sequence moreFollows serviceData (.abandon .bufferOverflow, transfer)
  | accepted (hawaited : sequence = transfer.awaited) (hroom : transfer.segments < 64)
      (hmore : moreFollows = true) :
      Accepts transfer sequence moreFollows serviceData
        (.accepted sequence, transfer.taken serviceData)
  | completed (hawaited : sequence = transfer.awaited) (hroom : transfer.segments < 64)
      (hmore : moreFollows = false) :
      Accepts transfer sequence moreFollows serviceData
        (.complete sequence (transfer.data ++ serviceData),
          { transfer.taken serviceData with data := [] })

theorem take_accepts (transfer : Reassembly) (moreFollows : Bool) (serviceData : Bytes) :
    Accepts transfer transfer.awaited moreFollows serviceData
      (transfer.take transfer.awaited moreFollows serviceData) := by
  unfold take
  by_cases hfull : maxSegments ≤ transfer.segments
  · rw [if_pos hfull]
    exact .overflowed rfl hfull
  · rw [if_neg hfull]
    cases moreFollows with
    | true => exact .accepted rfl (Nat.lt_of_not_le hfull) rfl
    | false => exact .completed rfl (Nat.lt_of_not_le hfull) rfl

/-- **A segment** cannot be followed, repeats, leaves a gap, or is the one awaited. -/
theorem accept_accepts (transfer : Reassembly) (sequence : UInt8) (moreFollows : Bool)
    (serviceData : Bytes) :
    Accepts transfer sequence moreFollows serviceData
      (transfer.accept sequence moreFollows serviceData) := by
  have htake := transfer.take_accepts moreFollows serviceData
  unfold accept
  cases hlast : transfer.lastInOrder with
  | none =>
      have hawaited : transfer.awaited = 0 := by
        unfold awaited
        rw [hlast]
      simp only
      by_cases hzero : sequence = 0
      · rw [if_neg (not_not_intro hzero), hzero, ← hawaited]
        exact htake
      · rw [if_pos hzero]
        exact .unstarted hlast hzero
  | some last =>
      have hawaited : transfer.awaited = last + 1 := by
        unfold awaited
        rw [hlast]
      simp only
      by_cases hsame : sequence = last
      · rw [if_pos hsame]
        exact .repeated (by rw [hlast, hsame])
      · rw [if_neg hsame]
        by_cases hnext : sequence = last + 1
        · rw [if_neg (not_not_intro hnext), hnext, ← hawaited]
          exact htake
        · rw [if_pos hnext]
          exact .gap last hlast hsame hnext

end Reassembly

/-! ## §2. A sender and what has been put together -/

/-- What a sender puts under each sequence number. -/
structure SegmentStream where
  payload : UInt8 → Bytes
  moreFollows : UInt8 → Bool

/-- The first `count` payloads, in order. -/
def SegmentStream.upTo (stream : SegmentStream) (count : Nat) : Bytes :=
  (List.range count).flatMap (fun index => stream.payload (UInt8.ofNat index))

theorem SegmentStream.upTo_succ (stream : SegmentStream) (count : Nat) :
    stream.upTo (count + 1) = stream.upTo count ++ stream.payload (UInt8.ofNat count) := by
  unfold upTo
  rw [List.range_succ, List.flatMap_append, List.flatMap_singleton]

/-- A transfer holds the sender's first `count` segments, all of which announced more:
the last of them is the last in order, and the one the last acknowledgement names. -/
structure Assembled (stream : SegmentStream) (key : TransactionKey) (transfer : Reassembly)
    (count : Nat) : Prop where
  segments_eq : transfer.segments = count
  atMost : count ≤ 64
  awaited_eq : transfer.awaited = UInt8.ofNat count
  data_eq : transfer.data = stream.upTo count
  moreFollows : ∀ index < count, stream.moreFollows (UInt8.ofNat index) = true
  lastAck_eq : ∀ last, transfer.lastInOrder = some last → count = last.toNat + 1
    ∧ ∃ negative route, transfer.lastAck = segmentAckFrame key.2 last negative route

theorem Assembled.empty (stream : SegmentStream) (key : TransactionKey) :
    Assembled stream key Reassembly.empty 0 :=
  ⟨rfl, Nat.zero_le _, rfl, rfl, fun _ h => absurd h (Nat.not_lt_zero _), nofun⟩

/-- The number of the awaited segment is its index. -/
theorem Assembled.awaited_toNat {stream : SegmentStream} {key : TransactionKey}
    {transfer : Reassembly} {count : Nat} (h : Assembled stream key transfer count) :
    transfer.awaited.toNat = count := by
  have hle := h.atMost
  rw [h.awaited_eq, UInt8.toNat_ofNat_of_lt' (by show count < 256; omega)]

/-- Taking the awaited segment and keeping its acknowledgement. -/
theorem Assembled.taken {stream : SegmentStream} {key : TransactionKey} {transfer : Reassembly}
    {count : Nat} (h : Assembled stream key transfer count) (hroom : transfer.segments < 64)
    (hmore : stream.moreFollows transfer.awaited = true) (negative : Bool)
    (route : Option NetworkAddress) :
    Assembled stream key
      { transfer.taken (stream.payload transfer.awaited) with
        lastAck := segmentAckFrame key.2 transfer.awaited negative route } (count + 1) := by
  have hcount := h.segments_eq
  refine ⟨by show transfer.segments + 1 = _; omega, by omega, ?_, ?_, ?_, ?_⟩
  · show transfer.awaited + 1 = _
    rw [h.awaited_eq, UInt8.ofNat_add]
    rfl
  · show transfer.data ++ stream.payload transfer.awaited = _
    rw [h.data_eq, h.awaited_eq, stream.upTo_succ]
  · intro index hindex
    rcases Nat.lt_succ_iff_lt_or_eq.mp hindex with hlt | rfl
    · exact h.moreFollows index hlt
    · rw [← h.awaited_eq]
      exact hmore
  · intro last hlast
    cases hlast
    exact ⟨by rw [h.awaited_toNat], negative, route, rfl⟩

/-- Keeping another acknowledgement of the last segment in order. -/
theorem Assembled.reacknowledged {stream : SegmentStream} {key : TransactionKey}
    {transfer : Reassembly} {count : Nat} (h : Assembled stream key transfer count) {last : UInt8}
    (hlast : transfer.lastInOrder = some last) (negative : Bool) (route : Option NetworkAddress) :
    Assembled stream key
      { transfer with lastAck := segmentAckFrame key.2 last negative route } count := by
  refine ⟨h.segments_eq, h.atMost, h.awaited_eq, h.data_eq, h.moreFollows, ?_⟩
  intro other hother
  have hsame : last = other := Option.some.inj (hlast.symm.trans hother)
  subst hsame
  exact ⟨(h.lastAck_eq last hlast).1, negative, route, rfl⟩

/-! ## §3. Segments arriving -/

/-- A segmented ComplexAck about the transaction, and what the handler reads with it. -/
structure Arrival where
  ack : ComplexAck
  route : Option NetworkAddress
  host : Host

/-- The segment is one of the sender's. -/
def Arrival.Carries (stream : SegmentStream) (arrival : Arrival) : Prop :=
  ∀ sequence, arrival.ack.sequenceNumber = some sequence →
    arrival.ack.moreFollows = stream.moreFollows sequence
      ∧ arrival.ack.serviceData = stream.payload sequence

namespace Endpoint

/-- `accept_response_segment` for one arrival. -/
def acceptArrival (endpoint : Endpoint) (key : TransactionKey) (arrival : Arrival) :
    Endpoint × List Entry :=
  endpoint.acceptResponseSegment arrival.host key arrival.ack.sequenceNumber
    arrival.ack.moreFollows arrival.ack.serviceData arrival.route

/-- The endpoint after the arrivals, in order. -/
def acceptArrivals (key : TransactionKey) : Endpoint → List Arrival → Endpoint
  | endpoint, [] => endpoint
  | endpoint, arrival :: arrivals =>
      acceptArrivals key (endpoint.acceptArrival key arrival).1 arrivals

/-- The transaction at `key`, if there is one, is the one whose caller waits on
`response`, with a prefix of the sender's segments put together. -/
def Assembling (stream : SegmentStream) (key : TransactionKey) (response : Channel)
    (endpoint : Endpoint) : Prop :=
  ∀ transaction, endpoint.pending.lookup key = some transaction →
    transaction.response = response ∧ ∃ count, Assembled stream key transaction.transfer count

/-- The segment the transaction at `key` waits for. -/
def awaitedAt (endpoint : Endpoint) (key : TransactionKey) : Option UInt8 :=
  (endpoint.pending.lookup key).map (fun transaction => transaction.transfer.awaited)

/-- What a segment makes the endpoint do: acknowledge the last segment in order, give
up, or answer the caller, with the whole response only when the segment is the
awaited one and announces no more. -/
inductive SegmentEffect (stream : SegmentStream) (key : TransactionKey) (response : Channel)
    (before : Endpoint) (ack : ComplexAck) (after : Endpoint) : Effect → Prop where
  | acknowledged (transaction : PendingTransaction) (last : UInt8) (negative : Bool)
      (route : Option NetworkAddress)
      (hpending : after.pending.lookup key = some transaction)
      (hlast : transaction.transfer.lastInOrder = some last) :
      SegmentEffect stream key response before ack after
        (.sent (.segmentAck key) key.1 (segmentAckFrame key.2 last negative route))
  | acknowledgedLast (last : UInt8) (route : Option NetworkAddress)
      (hlast : ack.sequenceNumber = some last) (hawaited : before.awaitedAt key = some last)
      (hmore : stream.moreFollows last = false)
      (hclosed : after.pending.lookup key = none) :
      SegmentEffect stream key response before ack after
        (.sent (.segmentAck key) key.1 (segmentAckFrame key.2 last false route))
  | aborted (reason : AbortReason) (route : Option NetworkAddress) :
      SegmentEffect stream key response before ack after
        (.sent (.abort key) key.1 (abortFrame key.2 reason route))
  | completed (last : UInt8) (hlast : ack.sequenceNumber = some last)
      (hawaited : before.awaitedAt key = some last)
      (hmore : stream.moreFollows last = false) (hroom : last.toNat < 64)
      (hearlier : ∀ index < last.toNat, stream.moreFollows (UInt8.ofNat index) = true)
      (hclosed : after.pending.lookup key = none) :
      SegmentEffect stream key response before ack after
        (.answered response (.ok (stream.upTo (last.toNat + 1))))
  | failed (error : ClientError) (hclosed : after.pending.lookup key = none) :
      SegmentEffect stream key response before ack after (.answered response (.error error))

theorem effect_of_sendIgnored {host : Host} {purpose : Purpose} {destination : SocketAddr}
    {frame : Bytes} {entry : Entry} (h : entry ∈ sendIgnored host purpose destination frame) :
    entry.effect = .sent purpose destination frame := by
  unfold sendIgnored at h
  split at h
  · rw [List.mem_singleton.mp h]
    rfl
  · exact absurd h List.not_mem_nil

theorem removePending_lookup (endpoint : Endpoint) (key : TransactionKey) :
    (endpoint.removePending key).pending.lookup key = none :=
  AList.lookup_erase _ _

/-- A segment that keeps the transaction keeps it assembled, and every frame sent names
the last segment in order. -/
theorem SegmentKeeps.assembled {stream : SegmentStream} {endpoint : Endpoint} {host : Host}
    {key : TransactionKey} {transaction kept : PendingTransaction} {ack : ComplexAck}
    {entries : List Entry} {count : Nat}
    (h : SegmentKeeps endpoint host key transaction ack kept entries)
    (hassembled : Assembled stream key transaction.transfer count)
    (hcarries : ∀ sequence, ack.sequenceNumber = some sequence →
      ack.moreFollows = stream.moreFollows sequence ∧ ack.serviceData = stream.payload sequence) :
    (∃ count, Assembled stream key kept.transfer count)
      ∧ ∀ entry ∈ entries, ∃ last negative route, kept.transfer.lastInOrder = some last
          ∧ entry.effect = .sent (.segmentAck key) key.1
              (segmentAckFrame key.2 last negative route) := by
  cases h with
  | acknowledged sequence last negative transfer route hsequence haccept =>
      obtain ⟨hmore, hdata⟩ := hcarries sequence hsequence
      have haccepts := transaction.transfer.accept_accepts sequence ack.moreFollows ack.serviceData
      rw [haccept] at haccepts
      refine ⟨?_, fun entry hentry => ?_⟩
      -- The segment was taken as the next in order, or a gap was told with the last one.
      · cases negative with
        | false =>
            cases haccepts with
            | accepted hawaited hroom hfollows =>
                subst hawaited
                rw [hdata]
                exact ⟨count + 1, hassembled.taken hroom (hmore.symm.trans hfollows) false route⟩
        | true =>
            cases haccepts with
            | gap _ hlast hne hnext =>
                exact ⟨count, hassembled.reacknowledged hlast true route⟩
      · rw [sendEntries, List.map_singleton, List.mem_singleton] at hentry
        refine ⟨last, negative, route, ?_, by rw [hentry]; rfl⟩
        cases negative with
        | false =>
            cases haccepts with
            | accepted hawaited hroom hfollows =>
                rw [hawaited]
                rfl
        | true =>
            cases haccepts with
            | gap _ hlast hne hnext => exact hlast
  -- A repeated segment changes nothing and is acknowledged as before.
  | repeated sequence transfer parcels hsequence haccept hparcels =>
      have haccepts := transaction.transfer.accept_accepts sequence ack.moreFollows ack.serviceData
      rw [haccept] at haccepts
      cases haccepts with
      | repeated hlast =>
          refine ⟨⟨count, hassembled⟩, fun entry hentry => ?_⟩
          obtain ⟨_, negative, route, hframe⟩ := hassembled.lastAck_eq sequence hlast
          obtain ⟨parcel, hparcel, rfl⟩ := List.mem_map.mp hentry
          refine ⟨sequence, negative, route, hlast, ?_⟩
          rw [hparcels parcel hparcel, ← hframe]
          rfl

/-- A segment that closes the transaction answers its caller, in full only with the
last of the sender's segments. -/
theorem SegmentCloses.effects {stream : SegmentStream} {host : Host} {key : TransactionKey}
    {transaction : PendingTransaction} {ack : ComplexAck} {result : Except ClientError Bytes}
    {sends : List Entry} {count : Nat} {before after : Endpoint}
    (hlookup : before.pending.lookup key = some transaction)
    (h : SegmentCloses host key transaction ack result sends)
    (hassembled : Assembled stream key transaction.transfer count)
    (hcarries : ∀ sequence, ack.sequenceNumber = some sequence →
      ack.moreFollows = stream.moreFollows sequence ∧ ack.serviceData = stream.payload sequence)
    (hclosed : after.pending.lookup key = none) :
    SegmentEffect stream key transaction.response before ack after
        (.answered transaction.response result)
      ∧ ∀ entry ∈ sends,
          SegmentEffect stream key transaction.response before ack after entry.effect := by
  cases h with
  | completed sequence last data transfer route hsequence haccept =>
      obtain ⟨hmore, hdata⟩ := hcarries sequence hsequence
      have haccepts := transaction.transfer.accept_accepts sequence ack.moreFollows ack.serviceData
      rw [haccept] at haccepts
      cases haccepts with
      | completed hawaited hroom hfollows =>
          subst hawaited
          have hlast := hmore.symm.trans hfollows
          -- The segment awaited is the next of the stream, and the last.
          have hnext : before.awaitedAt key = some transaction.transfer.awaited := by
            rw [awaitedAt, hlookup]
            rfl
          have hcount := hassembled.awaited_toNat
          -- With it the data is the whole stream up to it.
          have hwhole : transaction.transfer.data ++ ack.serviceData
              = stream.upTo (transaction.transfer.awaited.toNat + 1) := by
            rw [hdata, hassembled.data_eq, stream.upTo_succ, hcount, hassembled.awaited_eq]
          refine ⟨?_, fun entry hentry => ?_⟩
          · rw [hwhole]
            refine .completed _ hsequence hnext hlast ?_ ?_ hclosed
            · rw [hcount, ← hassembled.segments_eq]
              exact hroom
            · rw [hcount]
              exact hassembled.moreFollows
          · rw [effect_of_sendIgnored hentry]
            exact .acknowledgedLast _ route hsequence hnext hlast hclosed
  | abandoned reason route =>
      refine ⟨.failed _ hclosed, fun entry hentry => ?_⟩
      rw [effect_of_sendIgnored hentry]
      exact .aborted reason route
  | unacknowledged error =>
      exact ⟨.failed _ hclosed, fun _ hentry => absurd hentry List.not_mem_nil⟩

/-- **One segment** keeps what has been put together a prefix of what the sender sends,
and makes the endpoint do only what `SegmentEffect` lists. -/
theorem acceptArrival_step {stream : SegmentStream} {key : TransactionKey} {response : Channel}
    {endpoint : Endpoint} (h : Assembling stream key response endpoint) {arrival : Arrival}
    (hcarries : arrival.Carries stream) :
    Assembling stream key response (endpoint.acceptArrival key arrival).1
      ∧ ∀ entry ∈ (endpoint.acceptArrival key arrival).2,
          SegmentEffect stream key response endpoint arrival.ack
            (endpoint.acceptArrival key arrival).1 entry.effect := by
  cases hlookup : endpoint.pending.lookup key with
  | none =>
      -- Nobody waits: at most an Abort goes out.
      unfold acceptArrival acceptResponseSegment
      split
      · unfold abandon fail
        rw [hlookup]
        refine ⟨h, fun entry hentry => ?_⟩
        simp only [List.append_nil] at hentry
        rw [effect_of_sendIgnored hentry]
        exact .aborted _ _
      · rw [hlookup]
        exact ⟨h, fun _ hentry => absurd hentry List.not_mem_nil⟩
  | some transaction =>
      obtain ⟨rfl, count, hassembled⟩ := h transaction hlookup
      have hhandled := acceptResponseSegment_handled hlookup arrival.host arrival.ack arrival.route
      change Handled _ _ _ _ _ (endpoint.acceptArrival key arrival) at hhandled
      generalize endpoint.acceptArrival key arrival = outcome at hhandled ⊢
      cases hhandled with
      | ignored => exact ⟨h, fun _ hentry => absurd hentry List.not_mem_nil⟩
      | kept kept entries hkeeps =>
          obtain ⟨hkept, hframes⟩ := hkeeps.assembled hassembled hcarries
          refine ⟨?_, fun entry hentry => ?_⟩
          · intro other hother
            rw [insertPending_lookup, if_pos rfl] at hother
            cases hother
            exact ⟨hkeeps.response_eq, hkept⟩
          · obtain ⟨last, negative, route, hlast, heffect⟩ := hframes entry hentry
            rw [heffect]
            refine .acknowledged kept last negative route ?_ hlast
            rw [insertPending_lookup, if_pos rfl]
      | closed rtt sends time result hcloses =>
          have hclosed : ({ endpoint.removePending key with rtt := rtt } : Endpoint).pending.lookup
              key = none := removePending_lookup endpoint key
          refine ⟨fun other hother => ?_, fun entry hentry => ?_⟩
          · rw [hclosed] at hother
            cases hother
          · obtain ⟨hanswer, hsends⟩ := SegmentCloses.effects hlookup hcloses hassembled hcarries hclosed
            rcases List.mem_append.mp hentry with hentry | hentry
            · exact hsends entry hentry
            · rw [List.mem_singleton.mp hentry]
              exact hanswer

/-! ## §4. A whole response -/

/-- What has been put together stays a prefix of what the sender sends. -/
theorem acceptArrivals_assembling {stream : SegmentStream} {key : TransactionKey}
    {response : Channel} :
    ∀ (arrivals : List Arrival) (endpoint : Endpoint),
      Assembling stream key response endpoint →
      (∀ arrival ∈ arrivals, arrival.Carries stream) →
      Assembling stream key response (acceptArrivals key endpoint arrivals)
  | [], _, h, _ => h
  | arrival :: arrivals, _, h, hcarries =>
      acceptArrivals_assembling arrivals _ (acceptArrival_step h (hcarries arrival List.mem_cons_self)).1
        (fun other hother => hcarries other (List.mem_cons_of_mem _ hother))

/-- **A response put together from segments is the sender's.**  After any arrivals, what
a transaction still pending has accumulated is exactly the segments up to the last
in order, at most sixty-four; and whatever the next arrival makes the endpoint do is
to acknowledge the last segment in order, to give up, or to hand the caller every
payload from the first to that of the one segment that announces no more. -/
theorem response_reassembled (stream : SegmentStream) {endpoint : Endpoint}
    {key : TransactionKey} {transaction : PendingTransaction}
    (hpending : endpoint.pending.lookup key = some transaction)
    (hfresh : transaction.reassembly = none) (arrivals : List Arrival) (next : Arrival)
    (harrivals : ∀ arrival ∈ arrivals, arrival.Carries stream) (hnext : next.Carries stream) :
    (∀ current, (acceptArrivals key endpoint arrivals).pending.lookup key = some current →
      current.response = transaction.response
        ∧ (current.transfer.lastInOrder = none → current.transfer.data = [])
        ∧ (∀ last, current.transfer.lastInOrder = some last →
            current.transfer.data = stream.upTo (last.toNat + 1)
              ∧ current.transfer.segments = last.toNat + 1)
        ∧ current.transfer.segments ≤ 64)
      ∧ ∀ entry ∈ ((acceptArrivals key endpoint arrivals).acceptArrival key next).2,
          SegmentEffect stream key transaction.response (acceptArrivals key endpoint arrivals)
            next.ack ((acceptArrivals key endpoint arrivals).acceptArrival key next).1
            entry.effect := by
  -- Nothing has been reassembled when the transaction is fresh.
  have hstart : Assembling stream key transaction.response endpoint := by
    intro other hother
    rw [hpending] at hother
    cases hother
    refine ⟨rfl, 0, ?_⟩
    have hempty : transaction.transfer = Reassembly.empty := by
      unfold PendingTransaction.transfer
      rw [hfresh]
      rfl
    rw [hempty]
    exact Assembled.empty stream key
  have hassembling := acceptArrivals_assembling arrivals endpoint hstart harrivals
  refine ⟨?_, (acceptArrival_step hassembling hnext).2⟩
  intro current hcurrent
  obtain ⟨hresponse, count, hassembled⟩ := hassembling current hcurrent
  -- What each field says is read off the invariant at the segments counted so far.
  refine ⟨hresponse, fun hnone => ?_, fun last hlast => ?_, ?_⟩
  · have hcount := hassembled.awaited_toNat
    unfold Reassembly.awaited at hcount
    rw [hnone] at hcount
    rw [hassembled.data_eq, ← hcount]
    rfl
  · obtain ⟨hcount, _⟩ := hassembled.lastAck_eq last hlast
    rw [hassembled.data_eq, hassembled.segments_eq, hcount]
    exact ⟨rfl, rfl⟩
  · rw [hassembled.segments_eq]
    exact hassembled.atMost

/-- A sender of three segments. -/
def threeSegments : SegmentStream where
  payload sequence := [sequence]
  moreFollows sequence := decide (sequence < 2)

/-- A transaction that has received nothing. -/
def unanswered : PendingTransaction where
  serviceChoice := .readProperty
  frame := []
  retriesRemaining := 3
  deadline := 3000000000
  sentAt := 0
  retransmitted := false
  response := 7
  reassembly := none
  outbound := none

/-- Segment `sequence` of `threeSegments`. -/
def segmentOfThree (sequence : UInt8) : Arrival where
  ack :=
    { segmented := true, moreFollows := threeSegments.moreFollows sequence, invokeId := 0
      sequenceNumber := some sequence, proposedWindowSize := some 1
      serviceChoice := .readProperty, serviceData := threeSegments.payload sequence }
  route := none
  host := ⟨0, fun _ _ => none, []⟩

theorem segmentOfThree_carries (sequence : UInt8) :
    (segmentOfThree sequence).Carries threeSegments := by
  intro other hother
  cases hother
  exact ⟨rfl, rfl⟩

/-- The first segment twice, the third too early, then the second and the third: the
last arrival is acknowledged and the caller gets the three payloads. -/
theorem response_reassembled_outOfOrder :
    ∃ before after : Endpoint, ∃ first second : Entry,
      before.acceptArrival (.v4 0 47808, 0) (segmentOfThree 2) = (after, [first, second])
        ∧ SegmentEffect threeSegments (.v4 0 47808, 0) 7 before (segmentOfThree 2).ack after
            second.effect := by
  let key : TransactionKey := (.v4 0 47808, 0)
  let endpoint := (Endpoint.new 3000000000 3 .up1476).insertPending key unanswered
  let arrivals := [0, 0, 2, 1].map segmentOfThree
  have hsound := response_reassembled threeSegments
    (rfl : endpoint.pending.lookup key = some unanswered) rfl arrivals (segmentOfThree 2)
    (fun arrival harrival => by
      obtain ⟨sequence, _, rfl⟩ := List.mem_map.mp harrival
      exact segmentOfThree_carries sequence)
    (segmentOfThree_carries 2)
  exact ⟨acceptArrivals key endpoint arrivals, _, _, _, rfl,
    hsound.2 _ (List.mem_cons_of_mem _ List.mem_cons_self)⟩

end Endpoint

end BacnetRs.Client
