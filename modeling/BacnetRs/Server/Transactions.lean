/-
  BacnetRs.Server.Transactions — confirmed requests a device has sent, waiting
  for their answer (`server/transactions.rs`).

  A request is registered when it goes out, answered by a reply from its peer
  under its invoke id, sent again when APDU_Timeout passes without one, and
  given up after Number_Of_APDU_Retries.  What has become of each is kept until
  the next poll collects it.

    * `answer_eq_self_iff`  — a reply changes the table exactly when the id it
                              names is in flight to the peer it comes from.
-/
import BacnetRs.Object.Database
import BacnetRs.Service.Choice
import BacnetRs.Network.Host

namespace BacnetRs.Server

open BacnetRs.Object BacnetRs.Property BacnetRs.Service BacnetRs.Network

/-! ## §1. The table -/

/-- What became of one confirmed request. -/
inductive Outcome where
  | acknowledged
  | refused
  /-- Sent again; `attempt` counts from 1. -/
  | retried (attempt : UInt8)
  | gaveUp
  deriving Repr, DecidableEq

/-- One request and its outcome. -/
structure Transaction where
  destination : SocketAddr
  invokeId : UInt8
  service : ConfirmedServiceChoice
  outcome : Outcome
  deriving Repr, DecidableEq

/-- A request waiting for its answer. -/
structure Pending where
  destination : SocketAddr
  invokeId : UInt8
  service : ConfirmedServiceChoice
  frame : Bytes
  sentAt : Instant
  retries : UInt8
  deriving Repr, DecidableEq

/-- What a pending request comes to when it has an outcome. -/
def Pending.report (pending : Pending) (outcome : Outcome) : Transaction :=
  ⟨pending.destination, pending.invokeId, pending.service, outcome⟩

/-- Whether a pending request is the one sent to `destination` under `invokeId`. -/
def Pending.isFor (destination : SocketAddr) (invokeId : UInt8) (pending : Pending) : Bool :=
  pending.destination == destination && pending.invokeId == invokeId

/-- The table behind `Transactions`. -/
structure Table where
  pending : List Pending
  /-- Answered since the last poll. -/
  answered : List Transaction
  deriving Repr, DecidableEq

/-- What to send again, and what to report. -/
structure Due where
  resend : List (Bytes × SocketAddr)
  transactions : List Transaction
  deriving Repr, DecidableEq

namespace Table

/-- The table before anything was sent. -/
def empty : Table := ⟨[], []⟩

/-- `outstanding`. -/
def outstanding (table : Table) : Nat := table.pending.length

/-- `pending_service`. -/
def pendingService (table : Table) (destination : SocketAddr) (invokeId : UInt8) :
    Option ConfirmedServiceChoice :=
  (table.pending.find? (Pending.isFor destination invokeId)).map Pending.service

/-- `in_flight`. -/
def inFlight (table : Table) (destination : SocketAddr) (invokeId : UInt8) : Bool :=
  table.pending.any (Pending.isFor destination invokeId)

/-- `register`. -/
def register (table : Table) (destination : SocketAddr) (invokeId : UInt8)
    (service : ConfirmedServiceChoice) (frame : Bytes) (now : Instant) : Table :=
  { table with pending := table.pending ++ [⟨destination, invokeId, service, frame, now, 0⟩] }

/-- `withdraw`: forget a request that never went out. -/
def withdraw (table : Table) (destination : SocketAddr) (invokeId : UInt8) : Table :=
  { table with
    pending := table.pending.filter (fun pending => !pending.isFor destination invokeId) }

/-- `answer`: a reply from `source` to `invokeId`. -/
def answer (table : Table) (source : SocketAddr) (invokeId : UInt8) (outcome : Outcome) : Table :=
  match table.pending.find? (Pending.isFor source invokeId) with
  | none => table
  | some pending =>
      { table with
        pending := table.pending.eraseP (Pending.isFor source invokeId)
        answered := table.answered ++ [pending.report outcome] }

end Table

/-! ## §2. Timeouts -/

/-- `policy`: APDU_Timeout and Number_Of_APDU_Retries, from the Device object. -/
def policy (database : DatabaseView) : Duration × UInt8 :=
  let unsigned (property : PropertyIdentifier) :=
    match database.getProperty database.deviceId property with
    | .ok (.unsigned value) => some value
    | _ => none
  let timeout := (unsigned .apduTimeout).getD 3000
  let retries := (unsigned .numberOfApduRetries).getD 3
  (Duration.fromMillis timeout, if retries ≤ 255 then retries.toUInt8 else 255)

/-- What `due` makes of one pending request. -/
structure Visit where
  /-- The request, if it goes on waiting. -/
  kept : Option Pending
  resend : Option (Bytes × SocketAddr)
  report : Option Transaction

/-- The closure `due` hands to `retain_mut`. -/
def Pending.visit (now : Instant) (timeout : Duration) (retries : UInt8) (pending : Pending) :
    Visit :=
  if now.saturatingDurationSince pending.sentAt < timeout then ⟨some pending, none, none⟩
  else if retries ≤ pending.retries then ⟨none, none, some (pending.report .gaveUp)⟩
  else
    let attempt := pending.retries + 1
    ⟨some { pending with retries := attempt, sentAt := now },
      some (pending.frame, pending.destination), some (pending.report (.retried attempt))⟩

/-- `due`: the table after the poll, what to send again and what to report. -/
def Table.due (table : Table) (database : DatabaseView) (now : Instant) : Table × Due :=
  let (timeout, retries) := policy database
  let visits := table.pending.map (Pending.visit now timeout retries)
  (⟨visits.filterMap Visit.kept, []⟩,
    ⟨visits.filterMap Visit.resend, table.answered ++ visits.filterMap Visit.report⟩)

/-! ## §3. What a reply changes -/

/-- What `due` does under the policy. -/
theorem due_eq {fixed : Duration × UInt8} {database : DatabaseView}
    (h : policy database = fixed) (table : Table) (now : Instant) :
    table.due database now
      = (⟨table.pending.filterMap (fun request => (request.visit now fixed.1 fixed.2).kept), []⟩,
        ⟨table.pending.filterMap (fun request => (request.visit now fixed.1 fixed.2).resend),
          table.answered
            ++ table.pending.filterMap (fun request =>
              (request.visit now fixed.1 fixed.2).report)⟩) := by
  unfold Table.due
  rw [h]
  simp only [List.filterMap_map]
  rfl

namespace Table

theorem answer_of_not_inFlight {table : Table} {source : SocketAddr} {invokeId : UInt8}
    (h : table.inFlight source invokeId = false) (outcome : Outcome) :
    table.answer source invokeId outcome = table := by
  have hnone : table.pending.find? (Pending.isFor source invokeId) = none := by
    rw [List.find?_eq_none]
    intro pending hpending
    exact List.any_eq_false.mp h pending hpending
  unfold answer
  rw [hnone]

/-- A reply to an id in flight is one more outcome to report. -/
theorem answered_length_of_inFlight {table : Table} {source : SocketAddr} {invokeId : UInt8}
    (h : table.inFlight source invokeId = true) (outcome : Outcome) :
    (table.answer source invokeId outcome).answered.length = table.answered.length + 1 := by
  obtain ⟨pending, hpending, hfor⟩ := List.any_eq_true.mp h
  have hsome : (table.pending.find? (Pending.isFor source invokeId)).isSome = true :=
    List.find?_isSome.mpr ⟨pending, hpending, hfor⟩
  obtain ⟨found, hfound⟩ := Option.isSome_iff_exists.mp hsome
  unfold answer
  rw [hfound]
  exact List.length_append

/-- **A reply changes the table exactly when its id is in flight to its peer.** -/
theorem answer_eq_self_iff (table : Table) (source : SocketAddr) (invokeId : UInt8)
    (outcome : Outcome) :
    table.answer source invokeId outcome = table ↔ table.inFlight source invokeId = false := by
  cases h : table.inFlight source invokeId with
  | false => exact ⟨fun _ => rfl, fun _ => answer_of_not_inFlight h outcome⟩
  | true =>
      refine ⟨fun heq => ?_, fun hfalse => by cases hfalse⟩
      have hlength := answered_length_of_inFlight h outcome
      rw [heq] at hlength
      omega

end Table

end BacnetRs.Server
