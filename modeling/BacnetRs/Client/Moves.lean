/-
  BacnetRs.Client.Moves — what a handler can do to a transaction.

  Every handler of a packet or a timeout works on one transaction, and what it
  can do to it is said once here; the invariants of the other files follow
  from these statements without looking into a handler again.

    * `Handled`               — ignored, kept in a new state, or closed with
                                one result for its caller.
    * `handleResponse_handled` — an APDU about the transaction, and the states
                                it can leave it in (`ResponseKeeps`).
    * `expireOne_expiry`      — an expired deadline.
-/
import BacnetRs.Client.World

namespace BacnetRs.Client

open BacnetRs.Service BacnetRs.Network BacnetRs.App

/-! ## §1. Entries -/

/-- The transaction a frame is sent for. -/
def Purpose.key? : Purpose → Option TransactionKey
  | .request key => some key
  | .segment key _ => some key
  | .segmentAck key => some key
  | .abort key => some key
  | .reply => none
  | .discovery => none

/-- The entry records a frame sent for the transaction at `key`. -/
def Entry.sendsFor (key : TransactionKey) (entry : Entry) : Prop :=
  ∃ purpose destination frame, entry.effect = .sent purpose destination frame
    ∧ purpose.key? = some key

/-- The entries of `parcels` that all went out. -/
def sendEntries (host : Host) (key : TransactionKey) (parcels : List (Purpose × Bytes)) :
    List Entry :=
  parcels.map (fun parcel => host.entry (.sent parcel.1 key.1 parcel.2))

theorem sendsFor_of_mem_sendEntries {host : Host} {key : TransactionKey}
    {parcels : List (Purpose × Bytes)} {entry : Entry}
    (hparcels : ∀ parcel ∈ parcels, parcel.1.key? = some key)
    (h : entry ∈ sendEntries host key parcels) : entry.sendsFor key := by
  obtain ⟨parcel, hparcel, rfl⟩ := List.mem_map.mp h
  exact ⟨parcel.1, key.1, parcel.2, rfl, hparcels parcel hparcel⟩

theorem sendsFor_of_mem_sendIgnored {host : Host} {purpose : Purpose} {destination : SocketAddr}
    {frame : Bytes} {key : TransactionKey} {entry : Entry} (hpurpose : purpose.key? = some key)
    (h : entry ∈ Endpoint.sendIgnored host purpose destination frame) : entry.sendsFor key := by
  unfold Endpoint.sendIgnored at h
  cases hsend : host.sendTo destination frame with
  | none =>
      rw [hsend] at h
      exact ⟨purpose, destination, frame, by rw [List.mem_singleton.mp h]; rfl, hpurpose⟩
  | some error =>
      rw [hsend] at h
      exact absurd h List.not_mem_nil

theorem key?_of_mem_windowFrames {outbound : OutboundSegments} {key : TransactionKey}
    {parcel : Purpose × Bytes} (h : parcel ∈ outbound.windowFrames key) :
    parcel.1.key? = some key := by
  obtain ⟨index, _, rfl⟩ := List.mem_map.mp h
  rfl

theorem key?_of_mem_retransmission {transaction : PendingTransaction} {key : TransactionKey}
    {parcel : Purpose × Bytes} (h : parcel ∈ transaction.retransmission key) :
    parcel.1.key? = some key := by
  unfold PendingTransaction.retransmission at h
  split at h
  · rw [List.mem_singleton.mp h]
    rfl
  · exact key?_of_mem_windowFrames h
  · rw [List.mem_singleton.mp h]
    rfl

namespace Endpoint

/-! ## §2. One transaction handled -/

/-- What a handler does to the transaction at `key`: nothing, leave it in a state
`keeps` allows, or close it with exactly one result, after sending what `closes`
allows. -/
inductive Handled (endpoint : Endpoint) (key : TransactionKey)
    (transaction : PendingTransaction) (keeps : PendingTransaction → List Entry → Prop)
    (closes : Except ClientError Bytes → List Entry → Prop) : Endpoint × List Entry → Prop where
  | ignored : Handled endpoint key transaction keeps closes (endpoint, [])
  | kept (kept : PendingTransaction) (entries : List Entry) (hkeeps : keeps kept entries) :
      Handled endpoint key transaction keeps closes (endpoint.insertPending key kept, entries)
  | closed (rtt : KeyedTable SocketAddr Rtt) (sends : List Entry) (time : Instant)
      (result : Except ClientError Bytes) (hcloses : closes result sends) :
      Handled endpoint key transaction keeps closes
        ({ endpoint.removePending key with rtt := rtt },
          sends ++ [⟨time, .answered transaction.response result⟩])

theorem Handled.mono {endpoint : Endpoint} {key : TransactionKey}
    {transaction : PendingTransaction} {keeps keeps' : PendingTransaction → List Entry → Prop}
    {closes closes' : Except ClientError Bytes → List Entry → Prop}
    {outcome : Endpoint × List Entry}
    (h : Handled endpoint key transaction keeps closes outcome)
    (hkeeps : ∀ kept entries, keeps kept entries → keeps' kept entries)
    (hcloses : ∀ result sends, closes result sends → closes' result sends) :
    Handled endpoint key transaction keeps' closes' outcome := by
  cases h with
  | ignored => exact .ignored
  | kept kept entries h => exact .kept kept entries (hkeeps kept entries h)
  | closed rtt sends time result h => exact .closed rtt sends time result (hcloses result sends h)

@[simp] theorem insertPending_lookup (endpoint : Endpoint) (key other : TransactionKey)
    (transaction : PendingTransaction) :
    (endpoint.insertPending key transaction).pending.lookup other
      = if other = key then some transaction else endpoint.pending.lookup other :=
  KeyedTable.lookup_insert_eq_ite _ _ _ _

theorem removePending_insertPending (endpoint : Endpoint) (key : TransactionKey)
    (transaction : PendingTransaction) :
    (endpoint.insertPending key transaction).removePending key = endpoint.removePending key := by
  show { endpoint with pending := (endpoint.pending.insert key transaction).erase key } = _
  rw [KeyedTable.erase_insert_self]
  rfl

/-- Failing a transaction closes it. -/
theorem fail_insertPending (endpoint : Endpoint) (host : Host) (key : TransactionKey)
    (stored : PendingTransaction) (error : ClientError) :
    (endpoint.insertPending key stored).fail host key error
      = (endpoint.removePending key,
          [host.entry (.answered stored.response (.error error))]) := by
  unfold fail
  rw [insertPending_lookup, if_pos rfl]
  show ((endpoint.insertPending key stored).removePending key, _) = _
  rw [removePending_insertPending]

/-- Sending a frame for a stored transaction either sends it or closes the
transaction. -/
theorem sendOrFail_insertPending (endpoint : Endpoint) (host : Host) (key : TransactionKey)
    (stored : PendingTransaction) (parcel : Purpose × Bytes) :
    (endpoint.insertPending key stored).sendOrFail host key parcel
        = (endpoint.insertPending key stored, sendEntries host key [parcel], true)
      ∨ ∃ error, (endpoint.insertPending key stored).sendOrFail host key parcel
          = (endpoint.removePending key,
              [host.entry (.answered stored.response (.error (.io error)))], false) := by
  unfold sendOrFail
  cases hsend : host.sendTo key.1 parcel.2 with
  | none => exact Or.inl rfl
  | some error =>
      right
      refine ⟨error, ?_⟩
      simp only [fail_insertPending]

/-- Sending frames for a stored transaction either sends them all or closes it with
some of them sent. -/
theorem sendAll_insertPending (endpoint : Endpoint) (host : Host) (key : TransactionKey)
    (stored : PendingTransaction) :
    ∀ parcels : List (Purpose × Bytes),
      (endpoint.insertPending key stored).sendAll host key parcels
          = (endpoint.insertPending key stored, sendEntries host key parcels)
        ∨ ∃ (count : Nat) (error : IoError),
          (endpoint.insertPending key stored).sendAll host key parcels
            = (endpoint.removePending key,
                sendEntries host key (parcels.take count)
                  ++ [host.entry (.answered stored.response (.error (.io error)))])
  | [] => Or.inl rfl
  | parcel :: parcels => by
      unfold sendAll
      rcases sendOrFail_insertPending endpoint host key stored parcel with
        hsent | ⟨error, hfailed⟩
      · rw [hsent]
        rcases sendAll_insertPending endpoint host key stored parcels with
          hall | ⟨count, error, hfailed⟩
        · left
          simp only [hall]
          rfl
        · right
          refine ⟨count + 1, error, ?_⟩
          simp only [hfailed]
          rfl
      · right
        refine ⟨0, error, ?_⟩
        rw [hfailed]
        rfl

theorem sendAll_handled (endpoint : Endpoint) (host : Host) (key : TransactionKey)
    (transaction stored : PendingTransaction) (parcels : List (Purpose × Bytes))
    {keeps : PendingTransaction → List Entry → Prop}
    {closes : Except ClientError Bytes → List Entry → Prop}
    (hresponse : stored.response = transaction.response)
    (hkeeps : keeps stored (sendEntries host key parcels))
    (hcloses : ∀ count error,
      closes (.error (.io error)) (sendEntries host key (parcels.take count))) :
    Handled endpoint key transaction keeps closes
      ((endpoint.insertPending key stored).sendAll host key parcels) := by
  rcases sendAll_insertPending endpoint host key stored parcels with
    hall | ⟨count, error, hfailed⟩
  · rw [hall]
    exact .kept stored _ hkeeps
  · rw [hfailed, hresponse]
    exact .closed endpoint.rtt _ host.now _ (hcloses count error)

theorem sendOrFail_handled (endpoint : Endpoint) (host : Host) (key : TransactionKey)
    (transaction stored : PendingTransaction) (parcel : Purpose × Bytes)
    {keeps : PendingTransaction → List Entry → Prop}
    {closes : Except ClientError Bytes → List Entry → Prop}
    (hresponse : stored.response = transaction.response)
    (hkeeps : keeps stored (sendEntries host key [parcel]))
    (hcloses : ∀ error, closes (.error (.io error)) []) :
    Handled endpoint key transaction keeps closes
      (((endpoint.insertPending key stored).sendOrFail host key parcel).1,
        ((endpoint.insertPending key stored).sendOrFail host key parcel).2.1) := by
  rcases sendOrFail_insertPending endpoint host key stored parcel with hsent | ⟨error, hfailed⟩
  · rw [hsent]
    exact .kept stored _ hkeeps
  · rw [hfailed, hresponse]
    exact .closed endpoint.rtt [] host.now _ (hcloses error)

/-- Abandoning a stored transaction closes it. -/
theorem abandon_handled {endpoint : Endpoint} {key : TransactionKey}
    {transaction stored : PendingTransaction} (host : Host) (reason : AbortReason)
    (route : Option NetworkAddress) {keeps : PendingTransaction → List Entry → Prop}
    {closes : Except ClientError Bytes → List Entry → Prop}
    (hresponse : stored.response = transaction.response)
    (hcloses : closes (.error (.abort reason))
      (sendIgnored host (.abort key) key.1 (abortFrame key.2 reason route))) :
    Handled endpoint key transaction keeps closes
      ((endpoint.insertPending key stored).abandon host key reason route) := by
  unfold abandon
  rw [fail_insertPending, hresponse]
  exact .closed endpoint.rtt _ host.now _ hcloses

/-- Finishing a transaction closes it. -/
theorem finish_handled {endpoint : Endpoint} {key : TransactionKey}
    {stored : PendingTransaction} (hstored : endpoint.pending.lookup key = some stored)
    (host : Host) (result : Except ClientError Bytes) :
    ∃ rtt, endpoint.finish host key result
      = ({ endpoint.removePending key with rtt := rtt },
          [host.entry (.answered stored.response result)]) := by
  unfold finish
  rw [hstored]
  simp only [settle]
  split
  · exact ⟨endpoint.rtt, rfl⟩
  · exact ⟨_, rfl⟩

/-! ## §3. What an APDU can do -/

/-- The states a segment of the response can leave its transaction in, and what is
sent. -/
inductive SegmentKeeps (endpoint : Endpoint) (host : Host) (key : TransactionKey)
    (transaction : PendingTransaction) (ack : ComplexAck) :
    PendingTransaction → List Entry → Prop where
  /-- A segment taken, or a gap: acknowledged, and the clock restarts. -/
  | acknowledged (sequence last : UInt8) (negative : Bool) (transfer : Reassembly)
      (route : Option NetworkAddress) (hsequence : ack.sequenceNumber = some sequence)
      (haccept : transaction.transfer.accept sequence ack.moreFollows ack.serviceData
        = (if negative then .missing last else .accepted last, transfer)) :
      SegmentKeeps endpoint host key transaction ack
        ({ transaction with
            reassembly := some
              { transfer with lastAck := segmentAckFrame key.2 last negative route } }.restart
          endpoint.retries (host.now + endpoint.timeout))
        (sendEntries host key [(.segmentAck key, segmentAckFrame key.2 last negative route)])
  /-- A segment repeated: the last acknowledgement goes out again. -/
  | repeated (sequence : UInt8) (transfer : Reassembly) (parcels : List (Purpose × Bytes))
      (hsequence : ack.sequenceNumber = some sequence)
      (haccept : transaction.transfer.accept sequence ack.moreFollows ack.serviceData
        = (.repeat, transfer))
      (hparcels : ∀ parcel ∈ parcels, parcel = (.segmentAck key, transaction.transfer.lastAck)) :
      SegmentKeeps endpoint host key transaction ack
        { transaction with reassembly := some transfer } (sendEntries host key parcels)

/-- The states an APDU about a transaction can leave it in, and what is sent. -/
inductive ResponseKeeps (endpoint : Endpoint) (host : Host) (key : TransactionKey)
    (transaction : PendingTransaction) : Apdu → PendingTransaction → List Entry → Prop where
  | segment (ack : ComplexAck) (kept : PendingTransaction) (entries : List Entry)
      (hsegmented : ack.segmented = true)
      (hservice : responseMatchesService (.complexAck ack) transaction.serviceChoice = true)
      (hkeeps : SegmentKeeps endpoint host key transaction ack kept entries) :
      ResponseKeeps endpoint host key transaction (.complexAck ack) kept entries
  /-- A segment of the request acknowledged: the next window goes out. -/
  | advanced (negative server : Bool) (invokeId sequenceNumber windowSize : UInt8)
      (outbound : OutboundSegments) (frame : Bytes)
      (houtbound : transaction.outbound = some outbound)
      (hlt : sequenceNumber.toNat < outbound.frames.length)
      (hall : (outbound.acknowledge sequenceNumber windowSize).allAcked = false) :
      ResponseKeeps endpoint host key transaction
        (.segmentAck negative server invokeId sequenceNumber windowSize)
        { transaction.restart endpoint.retries (host.now + endpoint.timeout) with
          outbound := some (outbound.acknowledge sequenceNumber windowSize), frame := frame }
        (sendEntries host key ((outbound.acknowledge sequenceNumber windowSize).windowFrames key))
  /-- Every segment of the request acknowledged. -/
  | cleared (negative server : Bool) (invokeId sequenceNumber windowSize : UInt8)
      (outbound : OutboundSegments) (houtbound : transaction.outbound = some outbound)
      (hlt : sequenceNumber.toNat < outbound.frames.length)
      (hall : (outbound.acknowledge sequenceNumber windowSize).allAcked = true) :
      ResponseKeeps endpoint host key transaction
        (.segmentAck negative server invokeId sequenceNumber windowSize)
        { transaction.restart endpoint.retries (host.now + endpoint.timeout) with
          outbound := none, frame := [] } []

/-- How a segment of the response can close a transaction: the result, and what is
sent before the caller is told. -/
inductive SegmentCloses (host : Host) (key : TransactionKey) (transaction : PendingTransaction)
    (ack : ComplexAck) : Except ClientError Bytes → List Entry → Prop where
  /-- The last segment: acknowledged, the caller gets the whole. -/
  | completed (sequence last : UInt8) (data : Bytes) (transfer : Reassembly)
      (route : Option NetworkAddress) (hsequence : ack.sequenceNumber = some sequence)
      (haccept : transaction.transfer.accept sequence ack.moreFollows ack.serviceData
        = (.complete last data, transfer)) :
      SegmentCloses host key transaction ack (.ok data)
        (sendIgnored host (.segmentAck key) key.1 (segmentAckFrame key.2 last false route))
  /-- A segment that cannot be followed. -/
  | abandoned (reason : AbortReason) (route : Option NetworkAddress) :
      SegmentCloses host key transaction ack (.error (.abort reason))
        (sendIgnored host (.abort key) key.1 (abortFrame key.2 reason route))
  /-- The socket refuses the acknowledgement. -/
  | unacknowledged (error : IoError) :
      SegmentCloses host key transaction ack (.error (.io error)) []

/-- How an APDU can close a transaction: about the service asked, unless it is a
SegmentAck, which answers nothing. -/
inductive ResponseCloses (host : Host) (key : TransactionKey) (transaction : PendingTransaction) :
    Apdu → Except ClientError Bytes → List Entry → Prop where
  /-- The final answer. -/
  | answered (apdu : Apdu)
      (hservice : responseMatchesService apdu transaction.serviceChoice = true) :
      ResponseCloses host key transaction apdu (responseResult apdu) []
  | segment (ack : ComplexAck) (result : Except ClientError Bytes) (sends : List Entry)
      (hservice : responseMatchesService (.complexAck ack) transaction.serviceChoice = true)
      (hcloses : SegmentCloses host key transaction ack result sends) :
      ResponseCloses host key transaction (.complexAck ack) result sends
  /-- The socket refuses a frame of the next window. -/
  | unpaced (negative server : Bool) (invokeId sequenceNumber windowSize : UInt8)
      (outbound : OutboundSegments) (houtbound : transaction.outbound = some outbound)
      (hlt : sequenceNumber.toNat < outbound.frames.length) (count : Nat) (error : IoError) :
      ResponseCloses host key transaction
        (.segmentAck negative server invokeId sequenceNumber windowSize) (.error (.io error))
        (sendEntries host key
          (((outbound.acknowledge sequenceNumber windowSize).windowFrames key).take count))

/-- A kept transaction still answers to the same caller. -/
theorem SegmentKeeps.response_eq {endpoint : Endpoint} {host : Host} {key : TransactionKey}
    {transaction kept : PendingTransaction} {ack : ComplexAck} {entries : List Entry}
    (h : SegmentKeeps endpoint host key transaction ack kept entries) :
    kept.response = transaction.response := by
  cases h <;> rfl

/-- A segment of the response says nothing about the request. -/
theorem SegmentKeeps.outbound_eq {endpoint : Endpoint} {host : Host} {key : TransactionKey}
    {transaction kept : PendingTransaction} {ack : ComplexAck} {entries : List Entry}
    (h : SegmentKeeps endpoint host key transaction ack kept entries) :
    kept.outbound = transaction.outbound := by
  cases h <;> rfl

theorem ResponseKeeps.response_eq {endpoint : Endpoint} {host : Host} {key : TransactionKey}
    {transaction kept : PendingTransaction} {apdu : Apdu} {entries : List Entry}
    (h : ResponseKeeps endpoint host key transaction apdu kept entries) :
    kept.response = transaction.response := by
  cases h with
  | segment ack kept entries hsegmented hservice hkeeps => exact hkeeps.response_eq
  | advanced | cleared => rfl

/-- All a segment of the response makes the endpoint send is acknowledgements. -/
theorem SegmentKeeps.entries_eq {endpoint : Endpoint} {host : Host} {key : TransactionKey}
    {transaction kept : PendingTransaction} {ack : ComplexAck} {entries : List Entry}
    (h : SegmentKeeps endpoint host key transaction ack kept entries) :
    ∃ parcels, entries = sendEntries host key parcels
      ∧ ∀ parcel ∈ parcels, parcel.1 = .segmentAck key := by
  cases h with
  | acknowledged =>
      refine ⟨_, rfl, fun parcel hparcel => ?_⟩
      rw [List.mem_singleton.mp hparcel]
  | repeated sequence transfer parcels hsequence haccept hparcels =>
      refine ⟨parcels, rfl, fun parcel hparcel => ?_⟩
      rw [hparcels parcel hparcel]

theorem ResponseKeeps.sendsFor {endpoint : Endpoint} {host : Host} {key : TransactionKey}
    {transaction kept : PendingTransaction} {apdu : Apdu} {entries : List Entry}
    (h : ResponseKeeps endpoint host key transaction apdu kept entries) :
    ∀ entry ∈ entries, entry.sendsFor key := by
  intro entry hentry
  cases h with
  | segment ack kept entries hsegmented hservice hkeeps =>
      obtain ⟨parcels, rfl, hparcels⟩ := hkeeps.entries_eq
      refine sendsFor_of_mem_sendEntries (fun parcel hparcel => ?_) hentry
      rw [hparcels parcel hparcel]
      rfl
  | advanced => exact sendsFor_of_mem_sendEntries (fun _ h => key?_of_mem_windowFrames h) hentry
  | cleared => exact absurd hentry List.not_mem_nil

theorem ResponseCloses.sendsFor {host : Host} {key : TransactionKey}
    {transaction : PendingTransaction} {apdu : Apdu} {result : Except ClientError Bytes}
    {sends : List Entry} (h : ResponseCloses host key transaction apdu result sends) :
    ∀ entry ∈ sends, entry.sendsFor key := by
  intro entry hentry
  cases h with
  | answered => exact absurd hentry List.not_mem_nil
  | segment ack result sends hservice hcloses =>
      cases hcloses with
      | completed => exact sendsFor_of_mem_sendIgnored rfl hentry
      | abandoned => exact sendsFor_of_mem_sendIgnored rfl hentry
      | unacknowledged => exact absurd hentry List.not_mem_nil
  | unpaced =>
      exact sendsFor_of_mem_sendEntries
        (fun _ h => key?_of_mem_windowFrames (List.mem_of_mem_take h)) hentry

/-! ## §4. A segment of the response -/

/-- Keeping an acknowledgement and sending it. -/
theorem acknowledgeSegment_handled (endpoint : Endpoint) (host : Host) (key : TransactionKey)
    (transaction : PendingTransaction) (ack : ComplexAck) (sequence last : UInt8) (negative : Bool)
    (transfer : Reassembly) (route : Option NetworkAddress)
    (hsequence : ack.sequenceNumber = some sequence)
    (haccept : transaction.transfer.accept sequence ack.moreFollows ack.serviceData
      = (if negative then .missing last else .accepted last, transfer)) :
    Handled endpoint key transaction (SegmentKeeps endpoint host key transaction ack)
      (SegmentCloses host key transaction ack)
      (endpoint.acknowledgeSegment host key { transaction with reassembly := some transfer }
        transfer (segmentAckFrame key.2 last negative route)) := by
  unfold acknowledgeSegment
  exact sendOrFail_handled endpoint host key transaction _ _ rfl
    (.acknowledged sequence last negative transfer route hsequence haccept) .unacknowledged

theorem acceptResponseSegment_handled {endpoint : Endpoint} {key : TransactionKey}
    {transaction : PendingTransaction} (h : endpoint.pending.lookup key = some transaction)
    (host : Host) (ack : ComplexAck) (route : Option NetworkAddress) :
    Handled endpoint key transaction (SegmentKeeps endpoint host key transaction ack)
      (SegmentCloses host key transaction ack)
      (endpoint.acceptResponseSegment host key ack.sequenceNumber ack.moreFollows ack.serviceData
        route) := by
  cases hsequence : ack.sequenceNumber with
  -- A segmented answer without a sequence number is abandoned.
  | none =>
      have hself : endpoint.fail host key (.abort .invalidApduInThisState)
          = (endpoint.removePending key, [host.entry (.answered transaction.response
              (.error (.abort .invalidApduInThisState)))]) := by
        unfold fail
        rw [h]
      show Handled endpoint key transaction _ _ (endpoint.abandon host key _ route)
      unfold abandon
      rw [hself]
      exact .closed endpoint.rtt _ host.now _ (.abandoned _ route)
  | some sequence =>
      unfold acceptResponseSegment
      simp only [h]
      rcases haccept : transaction.transfer.accept sequence ack.moreFollows ack.serviceData with
        ⟨outcome, transfer⟩
      cases outcome with
      | accepted last =>
          exact acknowledgeSegment_handled endpoint host key transaction ack sequence last false
            transfer route hsequence haccept
      | missing last =>
          exact acknowledgeSegment_handled endpoint host key transaction ack sequence last true
            transfer route hsequence haccept
      | «repeat» =>
          simp only
          split
          · exact .kept _ _ (.repeated sequence transfer [] hsequence haccept
              (fun _ hm => absurd hm List.not_mem_nil))
          · exact sendOrFail_handled endpoint host key transaction _ _ rfl
              (.repeated sequence transfer _ hsequence haccept
                (fun _ hm => List.mem_singleton.mp hm)) .unacknowledged
      -- The last segment is stored before the transaction is finished.
      | complete last data =>
          have hstored : (endpoint.insertPending key
              { transaction with reassembly := some transfer }).pending.lookup key
                = some { transaction with reassembly := some transfer } := by
            rw [insertPending_lookup, if_pos rfl]
          obtain ⟨rtt, hfinish⟩ := finish_handled hstored host (.ok data)
          simp only [hfinish, removePending_insertPending]
          exact .closed rtt _ host.now _
            (.completed sequence last data transfer route hsequence haccept)
      | abandon reason => exact abandon_handled host reason route rfl (.abandoned reason route)

/-! ## §5. An acknowledgement of the request -/

theorem advanceOutbound_handled {endpoint : Endpoint} {key : TransactionKey}
    {transaction : PendingTransaction} (h : endpoint.pending.lookup key = some transaction)
    (host : Host) (negative server : Bool) (invokeId sequenceNumber windowSize : UInt8) :
    Handled endpoint key transaction
      (ResponseKeeps endpoint host key transaction
        (.segmentAck negative server invokeId sequenceNumber windowSize))
      (ResponseCloses host key transaction
        (.segmentAck negative server invokeId sequenceNumber windowSize))
      (endpoint.advanceOutbound host key sequenceNumber windowSize) := by
  unfold advanceOutbound
  rw [h]
  cases houtbound : transaction.outbound with
  | none =>
      simp only [houtbound]
      exact .ignored
  | some outbound =>
      simp only [houtbound]
      -- Only a frame that is outbound can be acknowledged.
      by_cases hlt : outbound.frames.length ≤ sequenceNumber.toNat
      · rw [if_pos hlt]
        exact .ignored
      · rw [if_neg hlt]
        have hlt := Nat.lt_of_not_le hlt
        cases hall : (outbound.acknowledge sequenceNumber windowSize).allAcked with
        | true =>
            rw [if_pos rfl]
            exact .kept _ _ (.cleared negative server invokeId sequenceNumber windowSize outbound
              houtbound hlt hall)
        | false =>
            rw [if_neg (by simp)]
            exact sendAll_handled endpoint host key transaction _ _ rfl
              (.advanced negative server invokeId sequenceNumber windowSize outbound _ houtbound
                hlt hall)
              (.unpaced negative server invokeId sequenceNumber windowSize outbound houtbound hlt)

/-! ## §6. An APDU, and an expired deadline -/

/-- **An APDU about a transaction** leaves it alone, keeps it, or closes it. -/
theorem handleResponse_handled {endpoint : Endpoint} {key : TransactionKey}
    {transaction : PendingTransaction} (h : endpoint.pending.lookup key = some transaction)
    (host : Host) (apdu : Apdu) (route : Option NetworkAddress) :
    Handled endpoint key transaction (ResponseKeeps endpoint host key transaction apdu)
      (ResponseCloses host key transaction apdu)
      (endpoint.handleResponse host key transaction apdu route) := by
  -- Every APDU but a SegmentAck is heard only about the service asked for.
  have hheard : ∀ (apdu : Apdu) (outcome : Endpoint × List Entry),
      (responseMatchesService apdu transaction.serviceChoice = true →
        Handled endpoint key transaction (ResponseKeeps endpoint host key transaction apdu)
          (ResponseCloses host key transaction apdu) outcome) →
      Handled endpoint key transaction (ResponseKeeps endpoint host key transaction apdu)
        (ResponseCloses host key transaction apdu)
        (if !responseMatchesService apdu transaction.serviceChoice then (endpoint, [])
          else outcome) := by
    intro apdu outcome houtcome
    cases hservice : responseMatchesService apdu transaction.serviceChoice with
    | false => exact .ignored
    | true => exact houtcome hservice
  have hanswer : ∀ apdu : Apdu, responseMatchesService apdu transaction.serviceChoice = true →
      Handled endpoint key transaction (ResponseKeeps endpoint host key transaction apdu)
        (ResponseCloses host key transaction apdu)
        (endpoint.finish host key (responseResult apdu)) := by
    intro apdu hservice
    obtain ⟨rtt, hfinish⟩ := finish_handled h host (responseResult apdu)
    rw [hfinish]
    exact .closed rtt [] host.now _ (.answered apdu hservice)
  cases apdu with
  | segmentAck negative server invokeId sequenceNumber windowSize =>
      exact advanceOutbound_handled h host negative server invokeId sequenceNumber windowSize
  | complexAck ack =>
      refine hheard _ (if ack.segmented then _ else _) (fun hservice => ?_)
      cases hsegmented : ack.segmented with
      | true =>
          have hsegment := acceptResponseSegment_handled h host ack route
          exact hsegment.mono
            (fun kept entries hkeeps => .segment ack kept entries hsegmented hservice hkeeps)
            (fun result sends hcloses => .segment ack result sends hservice hcloses)
      | false => exact hanswer _ hservice
  | confirmedRequest request => exact .ignored
  | unconfirmedRequest serviceChoice serviceData => exact .ignored
  | simpleAck invokeId serviceChoice => exact hheard _ _ (hanswer _)
  | error invokeId serviceChoice errorClass errorCode firstFailedWrite =>
      exact hheard _ _ (hanswer _)
  | reject invokeId reason => exact hanswer _ rfl
  | abort server invokeId reason => exact hanswer _ rfl

/-- What the loop over the expired keys does to one of them. -/
inductive Expiry (endpoint : Endpoint) (host : Host) (key : TransactionKey)
    (transaction : PendingTransaction) : Endpoint × List Entry → Prop where
  /-- Its caller has gone. -/
  | cancelled (hdropped : host.isClosed transaction.response = true) :
      Expiry endpoint host key transaction (endpoint.removePending key, [])
  /-- No attempt is left: the caller is told and the id held back. -/
  | timedOut (hretries : transaction.retriesRemaining = 0) :
      Expiry endpoint host key transaction
        ({ endpoint.removePending key with
            quarantined := endpoint.quarantined.insert key
              (host.now + endpoint.transactionBudget key.1) },
          [host.entry (.answered transaction.response (.error .timeout))])
  /-- One more attempt goes out. -/
  | attempted (hretries : transaction.retriesRemaining ≠ 0) (deadline : Instant) :
      Expiry endpoint host key transaction
        (endpoint.insertPending key (transaction.retransmit deadline),
          sendEntries host key
            ((transaction.retransmission key).filter (fun parcel => !parcel.2.isEmpty)))
  /-- The socket refuses the attempt. -/
  | failed (count : Nat) (error : IoError) :
      Expiry endpoint host key transaction
        (endpoint.removePending key,
          sendEntries host key
              (((transaction.retransmission key).filter (fun parcel => !parcel.2.isEmpty)).take
                count)
            ++ [host.entry (.answered transaction.response (.error (.io error)))])

/-- **An expired deadline** removes the transaction, times it out or sends one more
attempt. -/
theorem expireOne_expiry {endpoint : Endpoint} {key : TransactionKey}
    {transaction : PendingTransaction} (h : endpoint.pending.lookup key = some transaction)
    (host : Host) :
    Expiry endpoint host key transaction (endpoint.expireOne host key) := by
  unfold expireOne
  rw [h]
  simp only
  cases hdropped : host.isClosed transaction.response with
  | true => exact .cancelled hdropped
  | false =>
      simp only [Bool.false_eq_true, if_false]
      by_cases hretries : transaction.retriesRemaining = 0
      · rw [if_pos hretries]
        exact .timedOut hretries
      · rw [if_neg hretries]
        rcases sendAll_insertPending endpoint host key
            (transaction.retransmit
              (host.now + endpoint.backoff key.1 transaction.retriesRemaining))
            ((transaction.retransmission key).filter (fun parcel => !parcel.2.isEmpty)) with
          hall | ⟨count, error, hfailed⟩
        · rw [hall]
          exact .attempted hretries _
        · rw [hfailed]
          exact .failed count error

end Endpoint

end BacnetRs.Client
