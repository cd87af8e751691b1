/-
  BacnetRs.Server.Polling — what a poll returns of what it took out of the
  table (`Notifier::poll`, `server/bip.rs`).

  A poll takes every outcome out of the table, then sends the requests again
  that are due, and returns the outcomes only if each of these was sent.  The
  ledger says which request an outcome is of; beside it stands what the polls
  returned, and what a poll took and did not return.

    * `sendEach_eq_ok_iff` — every frame is sent, or the poll fails.
    * `Followed.step_conserved`
                           — a request is waiting, answered, returned, lost or
                             withdrawn, and only one of these.
    * `outcomes_returned_iff`
                           — no outcome is lost exactly when no poll fails that
                             has an outcome to report.
-/
import BacnetRs.Server.Lifetimes

namespace BacnetRs.Server

open BacnetRs.Object BacnetRs.Service BacnetRs.Network

/-! ## §1. Sending again -/

/-- The loop of `poll`: what was sent, up to the first frame that could not be.  The `k`th
`send_to` of the poll returns `network k`. -/
def sendEach {ε : Type} (network : Nat → Except ε Unit) :
    List (Bytes × SocketAddr) → List (Bytes × SocketAddr) × Except ε Unit
  | [] => ([], .ok ())
  | frame :: rest =>
      match network 0 with
      | .error e => ([], .error e)
      | .ok _ =>
          let (sent, result) := sendEach (fun k => network (k + 1)) rest
          (frame :: sent, result)

/-- `Notifier::poll`: the table it leaves, what it sent, and what it returned. -/
def Table.poll {ε : Type} (table : Table) (database : DatabaseView) (now : Instant)
    (network : Nat → Except ε Unit) :
    Table × List (Bytes × SocketAddr) × Except ε (List Transaction) :=
  let (after, due) := table.due database now
  let (sent, result) := sendEach network due.resend
  (after, sent, result.map (fun _ => due.transactions))

/-- **Every frame is sent, or the poll fails.** -/
theorem sendEach_eq_ok_iff {ε : Type} (frames : List (Bytes × SocketAddr)) :
    ∀ network : Nat → Except ε Unit,
      (sendEach network frames).2 = .ok () ↔ ∀ k < frames.length, network k = .ok () := by
  induction frames with
  | nil =>
      intro network
      exact ⟨fun _ k hk => absurd hk (Nat.not_lt_zero k), fun _ => rfl⟩
  | cons frame rest ih =>
      intro network
      unfold sendEach
      cases hfirst : network 0 with
      | error e =>
          constructor
          · intro h
            cases h
          · intro h
            have hok := h 0 (Nat.succ_pos _)
            rw [hfirst] at hok
            cases hok
      | ok u =>
          show (sendEach (fun k => network (k + 1)) rest).2 = .ok () ↔ _
          rw [ih]
          constructor
          · intro h k hk
            cases k with
            | zero => exact hfirst
            | succ k => exact h k (Nat.lt_of_succ_lt_succ hk)
          · intro h k hk
            exact h (k + 1) (Nat.succ_lt_succ hk)

/-! ## §2. What polls return -/

/-- What notifiers, the dispatcher and the poller do. -/
inductive NotifierCall (ε : Type) where
  | register (destination : SocketAddr) (invokeId : UInt8) (service : ConfirmedServiceChoice)
      (frame : Bytes) (now : Instant)
  | withdraw (destination : SocketAddr) (invokeId : UInt8)
  | answer (source : SocketAddr) (invokeId : UInt8) (outcome : Outcome)
  | poll (database : DatabaseView) (now : Instant) (network : Nat → Except ε Unit)

/-- The table after a call, and what a poll that succeeded returned. -/
def Table.notified {ε : Type} (table : Table) : NotifierCall ε → Table × List Transaction
  | .register destination invokeId service frame now =>
      (table.register destination invokeId service frame now, [])
  | .withdraw destination invokeId => (table.withdraw destination invokeId, [])
  | .answer source invokeId outcome => (table.answer source invokeId outcome, [])
  | .poll database now network =>
      let (after, _, result) := table.poll database now network
      (after, result.toOption.getD [])

/-- The table after the calls, and what the polls among them returned. -/
def Table.notifiedAll {ε : Type} : Table → List (NotifierCall ε) → Table × List Transaction
  | table, [] => (table, [])
  | table, call :: rest =>
      let (after, returned) := table.notified call
      let (final, more) := after.notifiedAll rest
      (final, returned ++ more)

/-- The requests, and what became of the outcomes taken out of the table. -/
structure Followed where
  ledger : Ledger
  /-- Returned by a poll. -/
  returned : Tagged Transaction
  /-- Taken by a poll that failed. -/
  lost : Tagged Transaction
  deriving Repr, DecidableEq

/-- What a poll takes out of the table, with the numbers of the requests. -/
def Ledger.taken (self : Ledger) (fixed : Duration × UInt8) (now : Instant) :
    Tagged Transaction :=
  self.answered
    ++ Tagged.expand (fun request : Pending => (request.visit now fixed.1 fixed.2).report.toList)
      self.pending

namespace Followed

def empty : Followed := ⟨.empty, [], []⟩

/-- A call; the dispatcher records a reply as an acknowledgement or a refusal. -/
def step {ε : Type} (self : Followed) : NotifierCall ε → Option Followed
  | .register destination invokeId service frame now =>
      some { self with
        ledger := self.ledger.register ⟨destination, invokeId, service, frame, now, 0⟩ }
  | .withdraw destination invokeId =>
      some { self with ledger := self.ledger.withdraw destination invokeId }
  | .answer source invokeId outcome =>
      if outcome = .acknowledged ∨ outcome = .refused then
        some { self with ledger := self.ledger.answer source invokeId outcome }
      else none
  | .poll database now network =>
      let taken := self.ledger.taken (policy database) now
      let after := self.ledger.due (policy database) now
      match (self.ledger.table.poll database now network).2.2 with
      | .ok _ => some ⟨after, self.returned ++ taken, self.lost⟩
      | .error _ => some ⟨after, self.returned, self.lost ++ taken⟩

theorem step_answer {ε : Type} {self after : Followed} {source : SocketAddr} {invokeId : UInt8}
    {outcome : Outcome} (h : self.step (.answer source invokeId outcome : NotifierCall ε)
      = some after) :
    (outcome = .acknowledged ∨ outcome = .refused)
      ∧ after = { self with ledger := self.ledger.answer source invokeId outcome } := by
  change (if outcome = .acknowledged ∨ outcome = .refused then
      some { self with ledger := self.ledger.answer source invokeId outcome } else none)
    = some after at h
  split at h
  · next houtcome =>
      cases h
      exact ⟨houtcome, rfl⟩
  · cases h

/-- A poll that sends everything returns what it takes; one that does not loses it. -/
theorem step_poll {ε : Type} {self after : Followed} {database : DatabaseView} {now : Instant}
    {network : Nat → Except ε Unit} (h : self.step (.poll database now network) = some after) :
    after.ledger = self.ledger.due (policy database) now
      ∧ ((sendEach network (self.ledger.table.due database now).2.resend).2 = .ok ()
          ∧ after.returned = self.returned ++ self.ledger.taken (policy database) now
          ∧ after.lost = self.lost
        ∨ (∃ e, (sendEach network (self.ledger.table.due database now).2.resend).2 = .error e)
          ∧ after.returned = self.returned
          ∧ after.lost = self.lost ++ self.ledger.taken (policy database) now) := by
  change (match ((sendEach network (self.ledger.table.due database now).2.resend).2.map
      (fun _ => (self.ledger.table.due database now).2.transactions)) with
    | .ok _ => some (Followed.mk (self.ledger.due (policy database) now)
        (self.returned ++ self.ledger.taken (policy database) now) self.lost)
    | .error _ => some ⟨self.ledger.due (policy database) now, self.returned,
        self.lost ++ self.ledger.taken (policy database) now⟩) = some after at h
  cases hsent : (sendEach network (self.ledger.table.due database now).2.resend).2 with
  | error e =>
      rw [hsent] at h
      cases h
      exact ⟨rfl, .inr ⟨⟨e, rfl⟩, rfl, rfl⟩⟩
  | ok u =>
      rw [hsent] at h
      cases h
      exact ⟨rfl, .inl ⟨rfl, rfl, rfl⟩⟩

theorem untag_taken (self : Ledger) (database : DatabaseView) (now : Instant) :
    Tagged.untag (self.taken (policy database) now)
      = (self.table.due database now).2.transactions := by
  unfold Ledger.taken
  rw [due_eq rfl, Tagged.untag_append, Tagged.untag_expand, Ledger.flatMap_toList]
  rfl

/-- **The ledger is the table, and what is returned is what the polls returned.** -/
theorem step_notified {ε : Type} {self after : Followed} {call : NotifierCall ε}
    (h : self.step call = some after) :
    after.ledger.table = (self.ledger.table.notified call).1
      ∧ Tagged.untag after.returned
        = Tagged.untag self.returned ++ (self.ledger.table.notified call).2 := by
  cases call with
  | register destination invokeId service frame now =>
      cases h
      exact ⟨Ledger.register_table self.ledger _, (List.append_nil _).symm⟩
  | withdraw destination invokeId =>
      cases h
      exact ⟨Ledger.withdraw_table self.ledger destination invokeId, (List.append_nil _).symm⟩
  | answer source invokeId outcome =>
      obtain ⟨_, rfl⟩ := step_answer h
      exact ⟨Ledger.answer_table self.ledger source invokeId outcome, (List.append_nil _).symm⟩
  | poll database now network =>
      have htable : (self.ledger.due (policy database) now).table
          = (self.ledger.table.due database now).1 := Ledger.due_table rfl self.ledger now
      have htaken := untag_taken self.ledger database now
      obtain ⟨hledger, hpolled⟩ := step_poll h
      refine ⟨by rw [hledger]; exact htable, ?_⟩
      show _ = _ ++ ((sendEach network (self.ledger.table.due database now).2.resend).2.map
        (fun _ => (self.ledger.table.due database now).2.transactions)).toOption.getD []
      rcases hpolled with ⟨hsent, hreturned, _⟩ | ⟨⟨e, hfailed⟩, hreturned, _⟩
      · rw [hsent, hreturned, Tagged.untag_append, htaken]
        rfl
      · rw [hfailed, hreturned]
        exact (List.append_nil _).symm

theorem run_notified {ε : Type} {self after : Followed} {calls : List (NotifierCall ε)}
    (h : Machine.run step self calls = some after) :
    after.ledger.table = (self.ledger.table.notifiedAll calls).1
      ∧ Tagged.untag after.returned
        = Tagged.untag self.returned ++ (self.ledger.table.notifiedAll calls).2 := by
  induction calls generalizing self with
  | nil =>
      cases h
      exact ⟨rfl, (List.append_nil _).symm⟩
  | cons call rest ih =>
      obtain ⟨next, hnext, hrest⟩ := Machine.run_cons_eq_some.mp h
      obtain ⟨htable, hreturned⟩ := step_notified hnext
      obtain ⟨hfinal, hall⟩ := ih hrest
      rw [htable] at hfinal hall
      rw [hreturned, List.append_assoc] at hall
      exact ⟨hfinal, hall⟩

end Followed

/-! ## §3. Every request is in one place -/

/-- APDU_Timeout has passed without a reply. -/
def Pending.overdue (now : Instant) (timeout : Duration) (request : Pending) : Bool :=
  !decide (now.saturatingDurationSince request.sentAt < timeout)

/-- The requests APDU_Timeout has passed for. -/
def Table.overdue (table : Table) (database : DatabaseView) (now : Instant) : List Pending :=
  table.pending.filter (Pending.overdue now (policy database).1)

/-- An outcome that ends its request. -/
def Outcome.isTerminal : Outcome → Bool
  | .retried _ => false
  | _ => true

/-- How many of the outcomes end their request. -/
def endings (transactions : List Transaction) : Nat :=
  transactions.countP (fun transaction => transaction.outcome.isTerminal)

/-- How often a request was withdrawn. -/
def withdrawals (history : List Entry) : Nat := history.countP (· == .withdrawn)

namespace Followed

/-- In how many places the request `n` is. -/
def places (self : Followed) (n : Nat) : Nat :=
  (Tagged.about n self.ledger.pending).length + (Tagged.about n self.ledger.answered).length
    + endings (Tagged.about n self.returned) + endings (Tagged.about n self.lost)
    + withdrawals (self.ledger.history n)

/-- Each request there has been is in one place, and what answers ends its request. -/
structure Conserved (followed : Followed) : Prop where
  places : ∀ n, followed.places n = if n < followed.ledger.next then 1 else 0
  answered : ∀ n, ∀ transaction ∈ Tagged.about n followed.ledger.answered,
    transaction.outcome.isTerminal = true

theorem empty_conserved : empty.Conserved :=
  ⟨fun _ => rfl, fun _ _ h => by cases h⟩

/-- A visit keeps a request, or reports its end. -/
theorem kept_or_ended (request : Pending) (now : Instant) (timeout : Duration)
    (retries : UInt8) :
    (request.visit now timeout retries).kept.toList.length
      + endings (request.visit now timeout retries).report.toList = 1 := by
  unfold Pending.visit
  by_cases hearly : now.saturatingDurationSince request.sentAt < timeout
  · rw [if_pos hearly]
    rfl
  · rw [if_neg hearly]
    by_cases hlast : retries ≤ request.retries
    · rw [if_pos hlast]
      rfl
    · rw [if_neg hlast]
      rfl

theorem endings_append (transactions more : List Transaction) :
    endings (transactions ++ more) = endings transactions + endings more :=
  List.countP_append

theorem withdrawals_append (history more : List Entry) :
    withdrawals (history ++ more) = withdrawals history + withdrawals more :=
  List.countP_append

/-- What a poll takes of a request, and whether it keeps it: one end of each. -/
theorem kept_and_taken (requests : List Pending) (now : Instant) (timeout : Duration)
    (retries : UInt8) :
    (requests.flatMap (fun request => (request.visit now timeout retries).kept.toList)).length
      + endings (requests.flatMap (fun request =>
          (request.visit now timeout retries).report.toList)) = requests.length := by
  induction requests with
  | nil => rfl
  | cons request rest ih =>
      have hone := kept_or_ended request now timeout retries
      rw [List.flatMap_cons, List.flatMap_cons, List.length_append, endings_append,
        List.length_cons]
      omega

/-- A withdrawal takes a request out and says so. -/
theorem kept_and_withdrawn (requests : List Pending) (destination : SocketAddr)
    (invokeId : UInt8) :
    (requests.filter (fun request => !request.isFor destination invokeId)).length
      + withdrawals (requests.flatMap (Ledger.withdrawal destination invokeId))
      = requests.length := by
  induction requests with
  | nil => rfl
  | cons request rest ih =>
      rw [List.flatMap_cons, withdrawals_append, List.length_cons]
      unfold Ledger.withdrawal
      by_cases hfor : request.isFor destination invokeId = true
      · rw [List.filter_cons, if_neg (by simp [hfor]), if_pos hfor]
        show _ + (1 + _) = _
        unfold Ledger.withdrawal at ih
        omega
      · rw [List.filter_cons, if_pos (by simp [hfor]), if_neg hfor, List.length_cons]
        show _ + (0 + _) = _
        unfold Ledger.withdrawal at ih
        omega

/-- Nothing a visit says is a withdrawal. -/
theorem withdrawals_visited (requests : List Pending) (visit : Pending → Visit) :
    withdrawals (requests.flatMap (fun request => Ledger.visited (visit request))) = 0 := by
  unfold withdrawals
  rw [List.countP_eq_zero]
  intro entry hentry
  obtain ⟨request, _, hentry⟩ := List.mem_flatMap.mp hentry
  rcases List.mem_append.mp hentry with hsent | htold
  · obtain ⟨frame, _, rfl⟩ := Option.map_eq_some_iff.mp (Option.mem_toList.mp hsent)
    simp
  · obtain ⟨transaction, _, rfl⟩ := Option.map_eq_some_iff.mp (Option.mem_toList.mp htold)
    simp

theorem endings_answered {transactions : List Transaction}
    (h : ∀ transaction ∈ transactions, transaction.outcome.isTerminal = true) :
    endings transactions = transactions.length :=
  List.countP_eq_length.mpr h

variable {self after : Followed}

theorem Conserved.register (h : self.Conserved) (request : Pending) :
    ({ self with ledger := self.ledger.register request } : Followed).Conserved := by
  refine ⟨fun n => ?_, h.answered⟩
  have hplaces := h.places n
  have hpending : Tagged.about n (self.ledger.register request).pending
      = Tagged.about n self.ledger.pending ++ if self.ledger.next = n then [request] else [] := by
    show Tagged.about n (self.ledger.pending ++ [(self.ledger.next, request)]) = _
    rw [Tagged.about_append, Tagged.about_cons]
    simp
  have hhistory : withdrawals ((self.ledger.register request).history n)
      = withdrawals (self.ledger.history n) := by
    show withdrawals (Tagged.about n
      (self.ledger.log ++ [(self.ledger.next, Entry.registered request)])) = _
    rw [Tagged.about_append, Tagged.about_cons, withdrawals_append]
    by_cases hn : self.ledger.next = n
    · rw [if_pos hn]
      rfl
    · rw [if_neg hn]
      rfl
  unfold Followed.places at hplaces ⊢
  rw [hpending, hhistory, List.length_append]
  show _ + (Tagged.about n self.ledger.answered).length + endings (Tagged.about n self.returned)
    + endings (Tagged.about n self.lost) + _ = if n < self.ledger.next + 1 then 1 else 0
  -- Only the number handed out now changes place: from none to pending.
  by_cases hn : self.ledger.next = n
  · rw [if_neg (by omega)] at hplaces
    rw [if_pos hn, if_pos (by omega), List.length_singleton]
    omega
  · rw [if_neg hn, List.length_nil]
    by_cases hlt : n < self.ledger.next
    · rw [if_pos hlt] at hplaces
      rw [if_pos (by omega)]
      omega
    · rw [if_neg hlt] at hplaces
      rw [if_neg (by omega)]
      omega

theorem Conserved.withdraw (h : self.Conserved) (destination : SocketAddr) (invokeId : UInt8) :
    ({ self with ledger := self.ledger.withdraw destination invokeId } : Followed).Conserved := by
  refine ⟨fun n => ?_, h.answered⟩
  have hplaces := h.places n
  have hpending : Tagged.about n (self.ledger.withdraw destination invokeId).pending
      = (Tagged.about n self.ledger.pending).filter
          (fun request => !request.isFor destination invokeId) :=
    Tagged.about_filter n (fun request : Pending => !request.isFor destination invokeId) _
  have hhistory : (self.ledger.withdraw destination invokeId).history n
      = self.ledger.history n ++ (Tagged.about n self.ledger.pending).flatMap
          (Ledger.withdrawal destination invokeId) := by
    show Tagged.about n (self.ledger.log ++ Tagged.expand _ self.ledger.pending) = _
    rw [Tagged.about_append, Tagged.about_expand]
    rfl
  have htotal := kept_and_withdrawn (Tagged.about n self.ledger.pending) destination invokeId
  unfold Followed.places at hplaces ⊢
  rw [hpending, hhistory, withdrawals_append]
  show _ + (Tagged.about n self.ledger.answered).length + endings (Tagged.about n self.returned)
    + endings (Tagged.about n self.lost) + _ = if n < self.ledger.next then 1 else 0
  omega

theorem Conserved.answer (h : self.Conserved) (source : SocketAddr) (invokeId : UInt8)
    {outcome : Outcome} (houtcome : outcome = .acknowledged ∨ outcome = .refused) :
    ({ self with ledger := self.ledger.answer source invokeId outcome } : Followed).Conserved := by
  unfold Ledger.answer
  cases hfound : self.ledger.pending.find? (fun entry => entry.2.isFor source invokeId) with
  | none => exact h
  | some entry =>
      obtain ⟨m, request⟩ := entry
      have herased := Tagged.about_eraseP (p := Pending.isFor source invokeId) hfound
      have hmem : request ∈ Tagged.about m self.ledger.pending :=
        Tagged.mem_about.mpr (List.mem_of_find?_eq_some hfound)
      have hfor : request.isFor source invokeId = true := by
        have hsome := List.find?_some hfound
        exact hsome
      have hanswered (n : Nat) :
          Tagged.about n (self.ledger.answered ++ [(m, request.report outcome)])
            = Tagged.about n self.ledger.answered
              ++ if m = n then [request.report outcome] else [] := by
        rw [Tagged.about_append, Tagged.about_cons]
        simp
      constructor
      · intro n
        have hplaces := h.places n
        have hhistory : withdrawals (Tagged.about n (self.ledger.log ++ [(m, .answered outcome)]))
            = withdrawals (self.ledger.history n) := by
          rw [Tagged.about_append, Tagged.about_cons, withdrawals_append]
          by_cases hn : m = n
          · rw [if_pos hn]
            rfl
          · rw [if_neg hn]
            rfl
        unfold Followed.places at hplaces ⊢
        show (Tagged.about n (self.ledger.pending.eraseP _)).length
          + (Tagged.about n (self.ledger.answered ++ [(m, request.report outcome)])).length
          + endings (Tagged.about n self.returned) + endings (Tagged.about n self.lost)
          + withdrawals (Tagged.about n (self.ledger.log ++ [(m, .answered outcome)]))
          = if n < self.ledger.next then 1 else 0
        rw [herased, hanswered, hhistory, List.length_append]
        by_cases hn : n = m
        · -- The request goes from those that wait to those that are answered.
          subst hn
          have hlength := List.length_eraseP_of_mem hmem hfor
          have hpos := List.length_pos_of_mem hmem
          rw [if_pos rfl, if_pos rfl, hlength, List.length_singleton]
          omega
        · rw [if_neg hn, if_neg (Ne.symm hn), List.length_nil]
          exact hplaces
      · intro n transaction hmember
        change transaction ∈ Tagged.about n
          (self.ledger.answered ++ [(m, request.report outcome)]) at hmember
        rw [hanswered, List.mem_append] at hmember
        rcases hmember with hold | hnew
        · exact h.answered n transaction hold
        · split at hnew
          · rw [List.mem_singleton.mp hnew]
            rcases houtcome with rfl | rfl <;> rfl
          · cases hnew

/-- What a poll takes out of the table ends as many requests as the table has fewer. -/
theorem Conserved.taken (h : self.Conserved) (fixed : Duration × UInt8) (now : Instant) (n : Nat) :
    (Tagged.about n (self.ledger.due fixed now).pending).length
        + endings (Tagged.about n (self.ledger.taken fixed now))
      = (Tagged.about n self.ledger.pending).length
        + (Tagged.about n self.ledger.answered).length := by
  have htotal := kept_and_taken (Tagged.about n self.ledger.pending) now fixed.1 fixed.2
  have hanswered := endings_answered (h.answered n)
  unfold Ledger.due Ledger.taken
  rw [Tagged.about_expand, Tagged.about_append, Tagged.about_expand, endings_append]
  omega

theorem withdrawals_due (self : Ledger) (fixed : Duration × UInt8) (now : Instant) (n : Nat) :
    withdrawals ((self.due fixed now).history n) = withdrawals (self.history n) := by
  have hvisited := withdrawals_visited (Tagged.about n self.pending)
    (fun request => request.visit now fixed.1 fixed.2)
  have hreported : withdrawals ((Tagged.about n self.answered).flatMap
      (fun transaction => [Entry.reported transaction])) = 0 := by
    unfold withdrawals
    rw [List.countP_eq_zero]
    intro entry hentry
    obtain ⟨transaction, _, hentry⟩ := List.mem_flatMap.mp hentry
    rw [List.mem_singleton.mp hentry]
    simp
  show withdrawals (Tagged.about n (self.log ++ Tagged.expand _ self.answered
    ++ Tagged.expand _ self.pending)) = _
  rw [Tagged.about_append, Tagged.about_append, Tagged.about_expand, Tagged.about_expand,
    withdrawals_append, withdrawals_append, hvisited, hreported]
  rfl

theorem Conserved.polled (h : self.Conserved) (fixed : Duration × UInt8) (now : Instant)
    (hledger : after.ledger = self.ledger.due fixed now)
    (hended : ∀ n, endings (Tagged.about n after.returned) + endings (Tagged.about n after.lost)
      = endings (Tagged.about n self.returned) + endings (Tagged.about n self.lost)
        + endings (Tagged.about n (self.ledger.taken fixed now))) : after.Conserved := by
  constructor
  · intro n
    have hplaces := h.places n
    have htaken := h.taken fixed now n
    have hboth := hended n
    have hwithdrawn := withdrawals_due self.ledger fixed now n
    unfold Followed.places at hplaces ⊢
    rw [hledger, hwithdrawn]
    show _ + (Tagged.about n ([] : Tagged Transaction)).length + _ + _ + _
      = if n < self.ledger.next then 1 else 0
    rw [Tagged.about_nil, List.length_nil]
    omega
  · intro n transaction hmember
    rw [hledger] at hmember
    cases hmember

/-- **Each call leaves every request in one place.** -/
theorem step_conserved {ε : Type} {call : NotifierCall ε} (h : self.Conserved)
    (hstep : self.step call = some after) : after.Conserved := by
  cases call with
  | register destination invokeId service frame now =>
      cases hstep
      exact h.register _
  | withdraw destination invokeId =>
      cases hstep
      exact h.withdraw destination invokeId
  | answer source invokeId outcome =>
      obtain ⟨houtcome, rfl⟩ := step_answer hstep
      exact h.answer source invokeId houtcome
  | poll database now network =>
      obtain ⟨hledger, hpolled⟩ := step_poll hstep
      apply h.polled (policy database) now hledger
      intro n
      rcases hpolled with ⟨_, hreturned, hlost⟩ | ⟨_, hreturned, hlost⟩
      · rw [hreturned, hlost, Tagged.about_append, endings_append]
        omega
      · rw [hreturned, hlost, Tagged.about_append, endings_append]
        omega

/-! ## §4. Polls that lose nothing -/

/-- Every request that is to go out again does, or the poll has no outcome to report: nothing
was answered since the last one, and no request has run out of retries. -/
def Keeps {ε : Type} (self : Followed) : NotifierCall ε → Prop
  | .poll database now network =>
      (∀ k < (self.ledger.table.overdue database now).countP (fun request =>
          request.retries < (policy database).2), network k = .ok ())
        ∨ self.ledger.table.answered = []
          ∧ ∀ request ∈ self.ledger.table.overdue database now, request.retries < (policy database).2
  | _ => True

instance {ε : Type} [DecidableEq ε] (self : Followed) :
    ∀ call : NotifierCall ε, Decidable (self.Keeps call)
  | .register .. => .isTrue trivial
  | .withdraw .. => .isTrue trivial
  | .answer .. => .isTrue trivial
  | .poll database now network =>
      inferInstanceAs (Decidable
        ((∀ k < (self.ledger.table.overdue database now).countP (fun request =>
            request.retries < (policy database).2), network k = .ok ())
          ∨ self.ledger.table.answered = []
            ∧ ∀ request ∈ self.ledger.table.overdue database now,
              request.retries < (policy database).2))

theorem visit_resend (request : Pending) (now : Instant) (timeout : Duration)
    (retries : UInt8) :
    (request.visit now timeout retries).resend.isSome
      = (decide (request.retries < retries) && request.overdue now timeout) := by
  unfold Pending.visit Pending.overdue
  by_cases hearly : now.saturatingDurationSince request.sentAt < timeout
  · simp [hearly]
  · by_cases hlast : retries ≤ request.retries
    · simp [hearly, hlast, UInt8.not_lt.mpr hlast]
    · simp [hearly, hlast, UInt8.not_le.mp hlast]

theorem visit_ended (request : Pending) (now : Instant) (timeout : Duration) (retries : UInt8) :
    endings (request.visit now timeout retries).report.toList = 0
      ↔ (request.overdue now timeout = true → request.retries < retries) := by
  unfold Pending.visit Pending.overdue
  by_cases hearly : now.saturatingDurationSince request.sentAt < timeout
  · simp [hearly, endings]
  · by_cases hlast : retries ≤ request.retries
    · simp [hearly, hlast, UInt8.not_lt.mpr hlast, endings, Pending.report, Outcome.isTerminal]
    · simp [hearly, hlast, UInt8.not_le.mp hlast, endings, Pending.report, Outcome.isTerminal]

/-- A poll sends again what is overdue and has retries left. -/
theorem length_resend (table : Table) (database : DatabaseView) (now : Instant) :
    (table.due database now).2.resend.length
      = (table.overdue database now).countP
          (fun request => request.retries < (policy database).2) := by
  unfold Table.overdue
  rw [due_eq rfl, List.countP_filter]
  show (table.pending.filterMap _).length = _
  rw [List.length_filterMap_eq_countP]
  congr 1
  funext request
  exact visit_resend request now _ _

theorem endings_flatMap {α : Type} (f : α → List Transaction) (xs : List α) :
    endings (xs.flatMap f) = 0 ↔ ∀ x ∈ xs, endings (f x) = 0 := by
  induction xs with
  | nil => simp [endings]
  | cons x rest ih =>
      rw [List.flatMap_cons, endings_append, Nat.add_eq_zero_iff, ih]
      simp

theorem endings_untag (xs : Tagged Transaction) :
    endings (Tagged.untag xs) = 0 ↔ ∀ n, endings (Tagged.about n xs) = 0 := by
  unfold endings
  simp only [List.countP_eq_zero]
  constructor
  · intro h n transaction hmem
    exact h transaction (List.mem_map.mpr ⟨(n, transaction), Tagged.mem_about.mp hmem, rfl⟩)
  · intro h transaction hmem
    obtain ⟨⟨n, found⟩, hfound, rfl⟩ := List.mem_map.mp hmem
    exact h n found (Tagged.mem_about.mpr hfound)

/-- What a poll takes ends no request exactly when nothing was answered and no request has run
out of retries. -/
theorem Conserved.taken_eq_zero_iff (h : self.Conserved) (database : DatabaseView)
    (now : Instant) :
    endings (Tagged.untag (self.ledger.taken (policy database) now)) = 0
      ↔ self.ledger.table.answered = []
        ∧ ∀ request ∈ self.ledger.table.overdue database now,
          request.retries < (policy database).2 := by
  have hanswered : endings (Tagged.untag self.ledger.answered) = 0
      ↔ Tagged.untag self.ledger.answered = [] := by
    constructor
    · intro hnone
      unfold endings at hnone
      rw [List.countP_eq_zero] at hnone
      apply List.eq_nil_iff_forall_not_mem.mpr
      intro transaction hmem
      obtain ⟨⟨n, found⟩, hfound, rfl⟩ := List.mem_map.mp hmem
      exact hnone found hmem (h.answered n found (Tagged.mem_about.mpr hfound))
    · intro hnil
      rw [hnil]
      rfl
  unfold Ledger.taken Table.overdue
  rw [Tagged.untag_append, Tagged.untag_expand, endings_append, Nat.add_eq_zero_iff, hanswered,
    endings_flatMap]
  simp only [visit_ended, List.mem_filter, and_imp]
  rfl

/-- **A poll loses an outcome exactly when it does not keep to that.** -/
theorem keeps_iff {ε : Type} {call : NotifierCall ε} (h : self.Conserved)
    (hstep : self.step call = some after) :
    self.Keeps call
      ↔ endings (Tagged.untag after.lost) = endings (Tagged.untag self.lost) := by
  cases call with
  | register destination invokeId service frame now =>
      cases hstep
      exact ⟨fun _ => rfl, fun _ => trivial⟩
  | withdraw destination invokeId =>
      cases hstep
      exact ⟨fun _ => rfl, fun _ => trivial⟩
  | answer source invokeId outcome =>
      obtain ⟨_, rfl⟩ := step_answer hstep
      exact ⟨fun _ => rfl, fun _ => trivial⟩
  | poll database now network =>
      have hcount := length_resend self.ledger.table database now
      have hsends := sendEach_eq_ok_iff (self.ledger.table.due database now).2.resend network
      rw [hcount] at hsends
      have hnothing := h.taken_eq_zero_iff database now
      unfold Keeps
      simp only
      rw [← hsends]
      obtain ⟨_, hpolled⟩ := step_poll hstep
      -- A poll that fails on the way drops what it had taken.
      rcases hpolled with ⟨hsent, _, hlost⟩ | ⟨⟨e, hfailed⟩, _, hlost⟩
      · rw [hlost]
        exact ⟨fun _ => rfl, fun _ => .inl hsent⟩
      · rw [hlost, Tagged.untag_append, endings_append, hfailed]
        constructor
        · rintro (hsent | hquiet)
          · cases hsent
          · rw [hnothing.mpr hquiet]
            rfl
        · intro hsame
          exact .inr (hnothing.mp (by omega))

theorem step_lost {ε : Type} {call : NotifierCall ε} (hstep : self.step call = some after) :
    endings (Tagged.untag self.lost) ≤ endings (Tagged.untag after.lost) := by
  cases call with
  | register destination invokeId service frame now =>
      cases hstep
      exact Nat.le_refl _
  | withdraw destination invokeId =>
      cases hstep
      exact Nat.le_refl _
  | answer source invokeId outcome =>
      obtain ⟨_, rfl⟩ := step_answer hstep
      exact Nat.le_refl _
  | poll database now network =>
      obtain ⟨_, hpolled⟩ := step_poll hstep
      rcases hpolled with ⟨_, _, hlost⟩ | ⟨_, _, hlost⟩
      · rw [hlost]
      · rw [hlost, Tagged.untag_append, endings_append]
        omega

theorem run_lost {ε : Type} {calls : List (NotifierCall ε)}
    (h : Machine.run step self calls = some after) :
    endings (Tagged.untag self.lost) ≤ endings (Tagged.untag after.lost) :=
  Machine.run_relates (R := fun a b : Followed =>
      endings (Tagged.untag a.lost) ≤ endings (Tagged.untag b.lost))
    (fun _ => Nat.le_refl _) (fun _ _ _ => Nat.le_trans) (fun _ _ _ hstep => step_lost hstep) h

/-- What is lost stays lost, so the polls of a run all keep to it when nothing is. -/
theorem run_keeps_iff {ε : Type} {calls : List (NotifierCall ε)} (h : self.Conserved)
    (hrun : Machine.run step self calls = some after) :
    Machine.Throughout step Keeps self calls
      ↔ endings (Tagged.untag after.lost) = endings (Tagged.untag self.lost) := by
  induction calls generalizing self with
  | nil =>
      cases hrun
      exact ⟨fun _ => rfl, fun _ => trivial⟩
  | cons call rest ih =>
      obtain ⟨next, hnext, hrest⟩ := Machine.run_cons_eq_some.mp hrun
      have hfirst := keeps_iff h hnext
      have htail := ih (step_conserved h hnext) hrest
      have hgrows := step_lost hnext
      have hgrowsOn := run_lost hrest
      show self.Keeps call ∧ (∀ s', self.step call = some s' → _) ↔ _
      constructor
      · rintro ⟨hkeeps, hon⟩
        rw [htail.mp (hon next hnext), hfirst.mp hkeeps]
      · intro hsame
        refine ⟨hfirst.mpr (by omega), ?_⟩
        intro s' hs'
        rw [hnext] at hs'
        cases hs'
        exact htail.mpr (by omega)

/-! ## §5. Every run -/

/-- In how many places the outcome of the request `n` still is: the request waits for it, the
next poll has it to return, or a poll that succeeded returned it. -/
def accounted (self : Followed) (n : Nat) : Nat :=
  (Tagged.about n self.ledger.pending).length + (Tagged.about n self.ledger.answered).length
    + endings (Tagged.about n self.returned)

theorem withdrawals_eq_zero_iff (history : List Entry) :
    withdrawals history = 0 ↔ Entry.withdrawn ∉ history := by
  unfold withdrawals
  rw [List.countP_eq_zero]
  constructor
  · intro h hmem
    exact h _ hmem (by simp)
  · intro h entry hentry heq
    rw [beq_iff_eq] at heq
    exact h (heq ▸ hentry)

theorem Conserved.accounted_iff (h : self.Conserved) :
    (∀ n < self.ledger.next, Entry.withdrawn ∉ self.ledger.history n → self.accounted n = 1)
      ↔ ∀ n, endings (Tagged.about n self.lost) = 0 := by
  constructor
  · intro haccounted n
    have hplaces := h.places n
    unfold Followed.places at hplaces
    by_cases hn : n < self.ledger.next
    · rw [if_pos hn] at hplaces
      by_cases hwithdrawn : withdrawals (self.ledger.history n) = 0
      · have hone := haccounted n hn ((withdrawals_eq_zero_iff _).mp hwithdrawn)
        unfold accounted at hone
        omega
      · omega
    · rw [if_neg hn] at hplaces
      omega
  · intro hlost n hn hwithdrawn
    have hplaces := h.places n
    have hzero := (withdrawals_eq_zero_iff _).mpr hwithdrawn
    have hnone := hlost n
    unfold Followed.places at hplaces
    rw [if_pos hn] at hplaces
    unfold accounted
    omega

/-- **Every outcome is returned once, exactly when no poll fails that has one to report.**  The
run is the table's, and what is returned is what the polls returned that succeeded. -/
theorem outcomes_returned_iff {ε : Type} {calls : List (NotifierCall ε)} {followed : Followed}
    (h : Machine.run step empty calls = some followed) :
    followed.ledger.table = (Table.empty.notifiedAll calls).1
      ∧ Tagged.untag followed.returned = (Table.empty.notifiedAll calls).2
      ∧ ((∀ n < followed.ledger.next, Entry.withdrawn ∉ followed.ledger.history n →
            followed.accounted n = 1)
          ↔ Machine.Throughout step Keeps empty calls) := by
  obtain ⟨htable, hreturned⟩ := run_notified h
  have hconserved : followed.Conserved :=
    Machine.run_invariant (fun _ _ _ hself hstep => step_conserved hself hstep)
      empty_conserved h
  refine ⟨htable, hreturned, ?_⟩
  rw [hconserved.accounted_iff, ← endings_untag, run_keeps_iff empty_conserved h]
  rfl

/-- A request whose second attempt could not be sent, and which was answered after all. -/
theorem outcomes_returned_retried :
    let database : DatabaseView := ⟨⟨.device, 1⟩, fun _ _ => .error .unknownProperty⟩
    let peer : SocketAddr := .v4 0x0A000002 47808
    let calls : List (NotifierCall Unit) :=
      [.register peer 7 .confirmedCovNotification [1, 2] 0,
        .poll database 4000000000 (fun _ => .error ()),
        .answer peer 7 .acknowledged, .poll database 5000000000 (fun _ => .ok ())]
    ∃ followed, Machine.run step empty calls = some followed ∧ followed.accounted 0 = 1
      ∧ followed.returned = [(0, ⟨peer, 7, .confirmedCovNotification, .acknowledged⟩)] := by
  intro database peer calls
  have hrun : (Machine.run step empty calls).isSome = true := by decide +kernel
  obtain ⟨followed, hfollowed⟩ := Option.isSome_iff_exists.mp hrun
  have hseen : (Machine.run step empty calls).map (fun followed =>
      (followed.ledger.next, decide (.withdrawn ∈ followed.ledger.history 0), followed.returned))
      = some (1, false, [(0, ⟨peer, 7, .confirmedCovNotification, .acknowledged⟩)]) := by
    decide +kernel
  simp only [hfollowed, Option.map_some, Option.some.injEq, Prod.mk.injEq,
    decide_eq_false_iff_not] at hseen
  obtain ⟨hnext, hkept, hreturned⟩ := hseen
  have hkeeps : Machine.Throughout step Keeps empty calls := by decide +kernel
  have hall := (outcomes_returned_iff hfollowed).2.2.mpr hkeeps
  exact ⟨followed, hfollowed, hall 0 (by omega) hkept, hreturned⟩

/-- One request was answered, and another could not be sent again: the answer is gone. -/
theorem outcome_lost :
    let database : DatabaseView := ⟨⟨.device, 1⟩, fun _ _ => .error .unknownProperty⟩
    let peer : SocketAddr := .v4 0x0A000002 47808
    let other : SocketAddr := .v4 0x0A000003 47808
    let calls : List (NotifierCall Unit) :=
      [.register peer 7 .confirmedCovNotification [1, 2] 0,
        .register other 8 .confirmedCovNotification [3] 0,
        .answer peer 7 .acknowledged, .poll database 4000000000 (fun _ => .error ())]
    ∃ followed, Machine.run step empty calls = some followed ∧ 0 < followed.ledger.next
      ∧ Entry.withdrawn ∉ followed.ledger.history 0 ∧ followed.accounted 0 = 0 := by
  intro database peer other calls
  have hrun : (Machine.run step empty calls).isSome = true := by decide +kernel
  obtain ⟨followed, hfollowed⟩ := Option.isSome_iff_exists.mp hrun
  have hseen : (Machine.run step empty calls).map (fun followed =>
      (followed.ledger.next, decide (.withdrawn ∈ followed.ledger.history 0),
        followed.accounted 0)) = some (2, false, 0) := by decide +kernel
  simp only [hfollowed, Option.map_some, Option.some.injEq, Prod.mk.injEq,
    decide_eq_false_iff_not] at hseen
  obtain ⟨hnext, hkept, hnowhere⟩ := hseen
  exact ⟨followed, hfollowed, by omega, hkept, hnowhere⟩

end Followed

end BacnetRs.Server
