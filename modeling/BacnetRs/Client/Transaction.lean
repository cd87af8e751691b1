/-
  BacnetRs.Client.Transaction — one confirmed request in flight
  (`client/async_client.rs`).

  A transaction waits for its answer, may receive it in segments
  (`Reassembly`) and may itself be going out in segments
  (`OutboundSegments`).  This file has the data and the decisions that look at
  one transfer alone; the endpoint in `Client.Endpoint` sends, stores and
  times.
-/
import BacnetRs.Client.SplitRequest

namespace BacnetRs.Client

open BacnetRs.Service BacnetRs.Network BacnetRs.App

/-! ## §1. Round trips -/

/-- Least a derived timeout may be: 500 ms. -/
def minTimeout : Duration := 500000000

/-- Most a derived timeout may be, as a multiple of the configured one. -/
def timeoutCeiling : Nat := 4

/-- A peer's round-trip time, smoothed. -/
structure Rtt where
  smoothed : Duration
  deviation : Duration
  deriving Repr, DecidableEq

namespace Rtt

/-- `Rtt::first`. -/
def first (sample : Duration) : Rtt := ⟨sample, sample / 2⟩

/-- `Rtt::observe`: one quarter weight on the deviation, one eighth on the mean. -/
def observe (rtt : Rtt) (sample : Duration) : Rtt :=
  let error := if sample ≤ rtt.smoothed then rtt.smoothed - sample else sample - rtt.smoothed
  ⟨(rtt.smoothed * 7 + sample) / 8, (rtt.deviation * 3 + error) / 4⟩

/-- `Rtt::timeout`: the mean plus four deviations. -/
def timeout (rtt : Rtt) : Duration := rtt.smoothed + rtt.deviation * 4

end Rtt

/-! ## §2. A response arriving in pieces -/

/-- A response arriving in pieces. -/
structure Reassembly where
  data : Bytes
  /-- The last segment accepted in order, or `none` before any. -/
  lastInOrder : Option UInt8
  /-- Kept so a timeout can re-send it. -/
  lastAck : Bytes
  /-- Accepted so far, to enforce `maxSegments`. -/
  segments : Nat
  deriving Repr, DecidableEq

/-- What a transaction's first segment finds. -/
def Reassembly.empty : Reassembly := ⟨[], none, [], 0⟩

/-- What an arriving segment means for its transfer. -/
inductive SegmentOutcome where
  /-- Take it and ask for the next. -/
  | accepted (sequence : UInt8)
  /-- Already had it, so our acknowledgement was lost.  Repeat it. -/
  | «repeat»
  /-- A gap.  Name the last in-order segment so the peer resumes from there. -/
  | missing (last : UInt8)
  /-- The last segment: acknowledge it and hand over the whole response. -/
  | complete (sequence : UInt8) (data : Bytes)
  | abandon (reason : AbortReason)
  deriving Repr, DecidableEq

namespace Reassembly

/-- The segment awaited has arrived: take it, unless the transfer is too long. -/
def take (transfer : Reassembly) (sequence : UInt8) (moreFollows : Bool) (serviceData : Bytes) :
    SegmentOutcome × Reassembly :=
  if maxSegments ≤ transfer.segments then (.abandon .bufferOverflow, transfer)
  else
    let data := transfer.data ++ serviceData
    let taken := { transfer with
      data := data, segments := transfer.segments + 1, lastInOrder := some sequence }
    if moreFollows then (.accepted sequence, taken)
    -- The data goes to the caller and leaves the transaction.
    else (.complete sequence data, { taken with data := [] })

/-- The `match` on `last_in_order` in `accept_response_segment`. -/
def accept (transfer : Reassembly) (sequence : UInt8) (moreFollows : Bool) (serviceData : Bytes) :
    SegmentOutcome × Reassembly :=
  match transfer.lastInOrder with
  | none =>
      -- Guessing where a transfer started would be worse than saying we cannot
      -- follow it.
      if sequence ≠ 0 then (.abandon .invalidApduInThisState, transfer)
      else transfer.take sequence moreFollows serviceData
  | some last =>
      if sequence = last then (.repeat, transfer)
      else if sequence ≠ last + 1 then (.missing last, transfer)
      else transfer.take sequence moreFollows serviceData

end Reassembly

/-! ## §3. A request going out in pieces -/

/-- What one outstanding transaction is identified by: peer and invoke id. -/
abbrev TransactionKey := SocketAddr × UInt8

/-- What a frame is sent for. -/
inductive Purpose where
  /-- The request of a transaction, whole. -/
  | request (key : TransactionKey)
  /-- One segment of a transaction's request, by its index. -/
  | segment (key : TransactionKey) (index : Nat)
  /-- Acknowledging a segment of a transaction's response. -/
  | segmentAck (key : TransactionKey)
  /-- Giving up on a transaction. -/
  | abort (key : TransactionKey)
  /-- Answering a request of the peer's. -/
  | reply
  | discovery
  deriving Repr, DecidableEq

/-- A request being sent in pieces. -/
structure OutboundSegments where
  /-- Framed up front, so a retransmission re-sends octets. -/
  frames : List Bytes
  /-- Acknowledged up to and including this, or `none` before the peer speaks. -/
  acked : Option UInt8
  /-- From the peer's first SegmentAck; one until then. -/
  window : UInt8
  deriving Repr, DecidableEq

namespace OutboundSegments

/-- `next_unsent`. -/
def nextUnsent (outbound : OutboundSegments) : UInt8 :=
  match outbound.acked with
  | some acked => acked + 1
  | none => 0

/-- `window_after_ack`: what may be in flight now, everything after the last
acknowledged segment up to the peer's window. -/
def windowAfterAck (outbound : OutboundSegments) : List Nat :=
  let first := outbound.nextUnsent.toNat
  let last := min (first + (max outbound.window 1).toNat) outbound.frames.length
  List.range' first (last - first)

/-- `all_acked`: the peer now owes us the response. -/
def allAcked (outbound : OutboundSegments) : Bool :=
  outbound.acked.any (fun acked => decide (outbound.frames.length ≤ acked.toNat + 1))

/-- The transfer once a SegmentAck is taken at its word. -/
def acknowledge (outbound : OutboundSegments) (sequenceNumber windowSize : UInt8) :
    OutboundSegments :=
  { outbound with acked := some sequenceNumber, window := max windowSize 1 }

/-- The number after an acknowledged segment, which does not wrap. -/
theorem nextUnsent_acknowledge {outbound : OutboundSegments} {sequenceNumber : UInt8}
    (windowSize : UInt8) (hframes : outbound.frames.length ≤ 64)
    (hlt : sequenceNumber.toNat < outbound.frames.length) :
    (outbound.acknowledge sequenceNumber windowSize).nextUnsent.toNat
      = sequenceNumber.toNat + 1 := by
  show (sequenceNumber + 1).toNat = _
  rw [UInt8.toNat_add]
  show (sequenceNumber.toNat + 1) % 256 = _
  omega

/-- The frames of the window, each with the segment it is. -/
def windowFrames (outbound : OutboundSegments) (key : TransactionKey) : List (Purpose × Bytes) :=
  outbound.windowAfterAck.map (fun index => (.segment key index, outbound.frames.getD index []))

end OutboundSegments

/-! ## §4. The transaction -/

/-- A oneshot or unbounded channel, by its number. -/
abbrev Channel := Nat

/-- A confirmed request in flight. -/
structure PendingTransaction where
  serviceChoice : ConfirmedServiceChoice
  frame : Bytes
  retriesRemaining : UInt8
  deadline : Instant
  /-- When the request went out, for the round-trip sample. -/
  sentAt : Instant
  /-- A retransmitted request yields no usable sample. -/
  retransmitted : Bool
  /-- Where the caller waits for the result. -/
  response : Channel
  /-- Set when a device answers with a segmented ComplexAck. -/
  reassembly : Option Reassembly
  /-- Set while the request goes out in segments. -/
  outbound : Option OutboundSegments
  deriving Repr, DecidableEq

namespace PendingTransaction

/-- The transfer an arriving segment belongs to (`get_or_insert_with`). -/
def transfer (transaction : PendingTransaction) : Reassembly :=
  transaction.reassembly.getD Reassembly.empty

/-- Restart the clock: the transaction made progress. -/
def restart (transaction : PendingTransaction) (retries : UInt8) (deadline : Instant) :
    PendingTransaction :=
  { transaction with retriesRemaining := retries, deadline := deadline }

/-- One more attempt, to be waited for until `deadline`. -/
def retransmit (transaction : PendingTransaction) (deadline : Instant) : PendingTransaction :=
  { transaction with
    retriesRemaining := transaction.retriesRemaining - 1
    retransmitted := true
    deadline := deadline }

/-- What a retransmission sends: mid-reassembly the last acknowledgement,
mid-send the unacknowledged window, otherwise the request. -/
def retransmission (transaction : PendingTransaction) (key : TransactionKey) :
    List (Purpose × Bytes) :=
  match transaction.reassembly, transaction.outbound with
  | some transfer, _ => [(.segmentAck key, transfer.lastAck)]
  | none, some outbound => outbound.windowFrames key
  | none, none => [(.request key, transaction.frame)]

end PendingTransaction

end BacnetRs.Client
