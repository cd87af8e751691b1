/-
  BacnetRs.Server.Lifetimes — what becomes of each confirmed request
  (`server/transactions.rs`).

  The notifier registers and withdraws requests, the dispatcher answers them and
  the poller collects what is due, in any order.  An invoke id is used again
  once its request is over, so the table does not say which request a report is
  of; the ledger numbers the requests and keeps, beside the table, what has
  happened to each.

    * `Ledger.step_table`, `step_dues` — the ledger is the table, and what is
                          sent again and reported is what it logs.
    * `Story`             — the lives a request can have: attempts 1, 2, 3, …,
                          then one end.
    * `Ledger.step_told`  — each step carries each request's story on.
    * `request_lifetimes` — so every request has one of these lives.
-/
import BacnetRs.Library.Machine
import BacnetRs.Library.Tagged
import BacnetRs.Server.Transactions

namespace BacnetRs.Server

open BacnetRs.Object BacnetRs.Service BacnetRs.Network

/-! ## §1. The table, call by call -/

/-- A call on the table. -/
inductive TableCall where
  | register (destination : SocketAddr) (invokeId : UInt8) (service : ConfirmedServiceChoice)
      (frame : Bytes) (now : Instant)
  | withdraw (destination : SocketAddr) (invokeId : UInt8)
  | answer (source : SocketAddr) (invokeId : UInt8) (outcome : Outcome)
  | due (database : DatabaseView) (now : Instant)

/-- What the callers see to: an id that is registered is not in flight, and a reply is
recorded as an acknowledgement or a refusal.  The policy is fixed. -/
def TableCall.Permitted (fixed : Duration × UInt8) (table : Table) : TableCall → Prop
  | .register destination invokeId _ _ _ => table.inFlight destination invokeId = false
  | .withdraw _ _ => True
  | .answer _ _ outcome => outcome = .acknowledged ∨ outcome = .refused
  | .due database _ => policy database = fixed

instance (fixed : Duration × UInt8) (table : Table) :
    ∀ call : TableCall, Decidable (call.Permitted fixed table)
  | .register destination invokeId _ _ _ =>
      inferInstanceAs (Decidable (table.inFlight destination invokeId = false))
  | .withdraw _ _ => .isTrue trivial
  | .answer _ _ outcome => inferInstanceAs (Decidable (outcome = .acknowledged ∨ outcome = .refused))
  | .due database _ => inferInstanceAs (Decidable (policy database = fixed))

/-- The table after a call, and what the call returned. -/
def Table.call (table : Table) : TableCall → Table × Option Due
  | .register destination invokeId service frame now =>
      (table.register destination invokeId service frame now, none)
  | .withdraw destination invokeId => (table.withdraw destination invokeId, none)
  | .answer source invokeId outcome => (table.answer source invokeId outcome, none)
  | .due database now => ((table.due database now).1, some (table.due database now).2)

/-! ## §2. The ledger -/

/-- What happens to a request. -/
inductive Entry where
  | registered (request : Pending)
  | resent (frame : Bytes) (destination : SocketAddr)
  /-- Handed to whoever polls. -/
  | reported (transaction : Transaction)
  | answered (outcome : Outcome)
  | withdrawn
  deriving Repr, DecidableEq

/-- The table with its requests numbered, and what has happened to each. -/
structure Ledger where
  pending : Tagged Pending
  answered : Tagged Transaction
  /-- The number of the next request. -/
  next : Nat
  log : Tagged Entry
  /-- What the polls returned, oldest first. -/
  dues : List Due
  deriving Repr, DecidableEq

namespace Ledger

def empty : Ledger := ⟨[], [], 0, [], []⟩

/-- The table. -/
def table (self : Ledger) : Table := ⟨Tagged.untag self.pending, Tagged.untag self.answered⟩

/-- What has happened to the request `n`. -/
def history (self : Ledger) (n : Nat) : List Entry := Tagged.about n self.log

def register (self : Ledger) (request : Pending) : Ledger :=
  { self with
    pending := self.pending ++ [(self.next, request)]
    next := self.next + 1
    log := self.log ++ [(self.next, .registered request)] }

/-- What a withdrawal says of a request. -/
def withdrawal (destination : SocketAddr) (invokeId : UInt8) (pending : Pending) : List Entry :=
  if pending.isFor destination invokeId then [.withdrawn] else []

def withdraw (self : Ledger) (destination : SocketAddr) (invokeId : UInt8) : Ledger :=
  { self with
    pending := self.pending.filter (fun entry => !entry.2.isFor destination invokeId)
    log := self.log ++ Tagged.expand (withdrawal destination invokeId) self.pending }

def answer (self : Ledger) (source : SocketAddr) (invokeId : UInt8) (outcome : Outcome) : Ledger :=
  match self.pending.find? (fun entry => entry.2.isFor source invokeId) with
  | none => self
  | some (n, request) =>
      { self with
        pending := self.pending.eraseP (fun entry => entry.2.isFor source invokeId)
        answered := self.answered ++ [(n, request.report outcome)]
        log := self.log ++ [(n, .answered outcome)] }

/-- What a visit says of a request. -/
def visited (visit : Visit) : List Entry :=
  (visit.resend.map (fun sent => Entry.resent sent.1 sent.2)).toList
    ++ (visit.report.map Entry.reported).toList

def due (self : Ledger) (fixed : Duration × UInt8) (now : Instant) : Ledger :=
  { self with
    pending := Tagged.expand (fun request => (request.visit now fixed.1 fixed.2).kept.toList)
      self.pending
    answered := []
    log := self.log ++ Tagged.expand (fun transaction => [.reported transaction]) self.answered
      ++ Tagged.expand (fun request => visited (request.visit now fixed.1 fixed.2)) self.pending }

/-- A call on the ledger. -/
def act (fixed : Duration × UInt8) (self : Ledger) : TableCall → Ledger
  | .register destination invokeId service frame now =>
      self.register ⟨destination, invokeId, service, frame, now, 0⟩
  | .withdraw destination invokeId => self.withdraw destination invokeId
  | .answer source invokeId outcome => self.answer source invokeId outcome
  | .due database now =>
      { self.due fixed now with dues := self.dues ++ [(self.table.due database now).2] }

/-- A call that is permitted. -/
def step (fixed : Duration × UInt8) (self : Ledger) (call : TableCall) : Option Ledger :=
  if call.Permitted fixed self.table then some (self.act fixed call) else none

theorem step_eq_some {fixed : Duration × UInt8} {self after : Ledger} {call : TableCall} :
    self.step fixed call = some after
      ↔ call.Permitted fixed self.table ∧ after = self.act fixed call := by
  unfold step
  split
  · next h => simp [h, eq_comm]
  · next h => simp [h]

/-! ## §3. The ledger is the table -/

theorem flatMap_toList {α β : Type} (f : α → Option β) (xs : List α) :
    xs.flatMap (fun x => (f x).toList) = xs.filterMap f := by
  induction xs with
  | nil => rfl
  | cons x xs ih =>
      rw [List.flatMap_cons, List.filterMap_cons, ih]
      cases f x <;> rfl

theorem register_table (self : Ledger) (request : Pending) :
    (self.register request).table
      = { self.table with pending := self.table.pending ++ [request] } := by
  show Table.mk (Tagged.untag (self.pending ++ _)) _ = _
  rw [Tagged.untag_append]
  rfl

theorem withdraw_table (self : Ledger) (destination : SocketAddr) (invokeId : UInt8) :
    (self.withdraw destination invokeId).table = self.table.withdraw destination invokeId := by
  show Table.mk (Tagged.untag (self.pending.filter _)) (Tagged.untag self.answered) = _
  rw [Tagged.untag_filter (fun pending : Pending => !pending.isFor destination invokeId)]
  rfl

theorem answer_table (self : Ledger) (source : SocketAddr) (invokeId : UInt8)
    (outcome : Outcome) :
    (self.answer source invokeId outcome).table = self.table.answer source invokeId outcome := by
  have hfind := Tagged.find?_untag (Pending.isFor source invokeId) self.pending
  unfold answer Table.answer
  cases hfound : self.pending.find? (fun entry => entry.2.isFor source invokeId) with
  | none =>
      rw [hfound] at hfind
      simp only [table, hfind, Option.map_none]
  | some entry =>
      rw [hfound] at hfind
      simp only [table, hfind, Option.map_some, Tagged.untag_append,
        Tagged.untag_eraseP (Pending.isFor source invokeId)]
      rfl

theorem due_table {fixed : Duration × UInt8} {database : DatabaseView}
    (h : policy database = fixed) (self : Ledger) (now : Instant) :
    (self.due fixed now).table = (self.table.due database now).1 := by
  have hkept : Tagged.untag (self.due fixed now).pending
      = self.table.pending.filterMap (fun request =>
          (request.visit now fixed.1 fixed.2).kept) := by
    unfold due
    rw [Tagged.untag_expand, flatMap_toList]
    rfl
  show Table.mk (Tagged.untag (self.due fixed now).pending) []
    = (self.table.due database now).1
  rw [due_eq h, hkept]

/-- **The ledger makes of a call what the table makes of it.** -/
theorem step_table {fixed : Duration × UInt8} {self after : Ledger} {call : TableCall}
    (h : self.step fixed call = some after) : after.table = (self.table.call call).1 := by
  obtain ⟨hpermitted, rfl⟩ := step_eq_some.mp h
  cases call with
  | register destination invokeId service frame now =>
      exact register_table self ⟨destination, invokeId, service, frame, now, 0⟩
  | withdraw destination invokeId => exact withdraw_table self destination invokeId
  | answer source invokeId outcome => exact answer_table self source invokeId outcome
  | due database now => exact due_table hpermitted self now

/-- The frames a log sends again. -/
def resends (log : Tagged Entry) : List (Bytes × SocketAddr) :=
  (Tagged.untag log).filterMap (fun entry =>
    match entry with
    | .resent frame destination => some (frame, destination)
    | _ => none)

/-- The outcomes a log reports. -/
def reports (log : Tagged Entry) : List Transaction :=
  (Tagged.untag log).filterMap (fun entry =>
    match entry with
    | .reported transaction => some transaction
    | _ => none)

theorem resends_append (log more : Tagged Entry) :
    resends (log ++ more) = resends log ++ resends more := by
  unfold resends
  rw [Tagged.untag_append, List.filterMap_append]

theorem reports_append (log more : Tagged Entry) :
    reports (log ++ more) = reports log ++ reports more := by
  unfold reports
  rw [Tagged.untag_append, List.filterMap_append]

/-- **What the log sends again and reports is what the polls returned.** -/
def Faithful (self : Ledger) : Prop :=
  self.dues.flatMap Due.resend = resends self.log
    ∧ self.dues.flatMap Due.transactions = reports self.log

theorem resends_expand {α : Type} {f : α → List Entry} (g : α → Option (Bytes × SocketAddr))
    (h : ∀ a, (f a).filterMap (fun entry =>
      match entry with
      | .resent frame destination => some (frame, destination)
      | _ => none) = (g a).toList) (xs : Tagged α) :
    resends (Tagged.expand f xs) = (Tagged.untag xs).filterMap g := by
  unfold resends
  rw [Tagged.untag_expand, List.filterMap_flatMap, ← flatMap_toList]
  congr 1
  funext a
  exact h a

theorem reports_expand {α : Type} {f : α → List Entry} (g : α → Option Transaction)
    (h : ∀ a, (f a).filterMap (fun entry =>
      match entry with
      | .reported transaction => some transaction
      | _ => none) = (g a).toList) (xs : Tagged α) :
    reports (Tagged.expand f xs) = (Tagged.untag xs).filterMap g := by
  unfold reports
  rw [Tagged.untag_expand, List.filterMap_flatMap, ← flatMap_toList]
  congr 1
  funext a
  exact h a

theorem step_faithful {fixed : Duration × UInt8} {self after : Ledger} {call : TableCall}
    (hself : self.Faithful) (h : self.step fixed call = some after) : after.Faithful := by
  obtain ⟨hresend, hreport⟩ := hself
  obtain ⟨hpermitted, rfl⟩ := step_eq_some.mp h
  cases call with
  -- A registration is logged as neither a resend nor a report.
  | register destination invokeId service frame now =>
      constructor
      · show _ = resends (self.log ++ _)
        rw [resends_append, ← hresend]
        exact (List.append_nil _).symm
      · show _ = reports (self.log ++ _)
        rw [reports_append, ← hreport]
        exact (List.append_nil _).symm
  -- Nor is a withdrawal, whichever requests it takes out.
  | withdraw destination invokeId =>
      constructor
      · show _ = resends (self.log ++ _)
        rw [resends_append, ← hresend, resends_expand (fun _ => none)]
        · simp [act, withdraw]
        · intro request
          unfold withdrawal
          split <;> rfl
      · show _ = reports (self.log ++ _)
        rw [reports_append, ← hreport, reports_expand (fun _ => none)]
        · simp [act, withdraw]
        · intro request
          unfold withdrawal
          split <;> rfl
  | answer source invokeId outcome =>
      show (self.answer source invokeId outcome).Faithful
      unfold answer
      split
      · exact ⟨hresend, hreport⟩
      · constructor
        · show _ = resends (self.log ++ _)
          rw [resends_append, ← hresend]
          exact (List.append_nil _).symm
        · show _ = reports (self.log ++ _)
          rw [reports_append, ← hreport]
          exact (List.append_nil _).symm
  -- A visit logs exactly what it resends and what it reports.
  | due database now =>
      constructor
      · show (self.dues ++ [_]).flatMap Due.resend = resends (self.log ++ _ ++ _)
        rw [resends_append, resends_append, ← hresend, List.flatMap_append,
          resends_expand (fun _ => none) (fun _ => rfl),
          resends_expand (fun request : Pending => (request.visit now fixed.1 fixed.2).resend)]
        · simp [due_eq hpermitted, table]
        · intro request
          unfold visited
          cases (request.visit now fixed.1 fixed.2).resend <;>
            cases (request.visit now fixed.1 fixed.2).report <;> rfl
      · show (self.dues ++ [_]).flatMap Due.transactions = reports (self.log ++ _ ++ _)
        rw [reports_append, reports_append, ← hreport, List.flatMap_append,
          reports_expand some (fun _ => rfl),
          reports_expand (fun request : Pending => (request.visit now fixed.1 fixed.2).report)]
        · simp [due_eq hpermitted, table]
        · intro request
          unfold visited
          cases (request.visit now fixed.1 fixed.2).resend <;>
            cases (request.visit now fixed.1 fixed.2).report <;> rfl

/-! ## §4. One request's story -/

/-- A request that has been sent again `k` times, each time with its own frame, and each
time reported as the attempt it was. -/
def attempts (request : Pending) : Nat → List Entry
  | 0 => [.registered request]
  | k + 1 =>
      attempts request k
        ++ [.resent request.frame request.destination,
          .reported (request.report (.retried (.ofNat (k + 1))))]

/-- What is pending, what is answered and what has happened, of one request. -/
inductive Story (retries : UInt8) : List Pending → List Transaction → List Entry → Prop
  | unseen : Story retries [] [] []
  | waiting (request : Pending) (k : Nat) (hk : k ≤ retries.toNat) (sentAt : Instant) :
      Story retries [{ request with retries := .ofNat k, sentAt := sentAt }] []
        (attempts request k)
  | answered (request : Pending) (k : Nat) (hk : k ≤ retries.toNat) {outcome : Outcome}
      (houtcome : outcome = .acknowledged ∨ outcome = .refused) :
      Story retries [] [request.report outcome] (attempts request k ++ [.answered outcome])
  | told (request : Pending) (k : Nat) (hk : k ≤ retries.toNat) {outcome : Outcome}
      (houtcome : outcome = .acknowledged ∨ outcome = .refused) :
      Story retries [] []
        (attempts request k ++ [.answered outcome, .reported (request.report outcome)])
  | gaveUp (request : Pending) :
      Story retries [] []
        (attempts request retries.toNat ++ [.reported (request.report .gaveUp)])
  | withdrawn (request : Pending) (k : Nat) (hk : k ≤ retries.toNat) :
      Story retries [] [] (attempts request k ++ [.withdrawn])

/-- Every request has a story, and those not yet registered none. -/
structure Told (retries : UInt8) (ledger : Ledger) : Prop where
  story : ∀ n, Story retries (Tagged.about n ledger.pending) (Tagged.about n ledger.answered)
    (ledger.history n)
  unseen : ∀ n, ledger.next ≤ n → Tagged.about n ledger.pending = []
    ∧ Tagged.about n ledger.answered = [] ∧ ledger.history n = []

theorem empty_told (retries : UInt8) : Told retries empty :=
  ⟨fun _ => .unseen, fun _ _ => ⟨rfl, rfl, rfl⟩⟩

variable {fixed : Duration × UInt8} {self : Ledger}

theorem register_told {request : Pending} (hretries : request.retries = 0)
    (h : Told fixed.2 self) : Told fixed.2 (self.register request) := by
  have hpending : ∀ n, Tagged.about n (self.register request).pending
      = Tagged.about n self.pending ++ if self.next = n then [request] else [] := by
    intro n
    show Tagged.about n (self.pending ++ [(self.next, request)]) = _
    rw [Tagged.about_append, Tagged.about_cons]
    simp
  have hhistory : ∀ n, (self.register request).history n
      = self.history n ++ if self.next = n then [.registered request] else [] := by
    intro n
    show Tagged.about n (self.log ++ [(self.next, Entry.registered request)]) = _
    rw [Tagged.about_append, Tagged.about_cons]
    simp [history]
  constructor
  · intro n
    rw [hpending, hhistory]
    by_cases hn : self.next = n
    · obtain ⟨hnone, hunanswered, hquiet⟩ := h.unseen n (Nat.le_of_eq hn)
      rw [hnone, hquiet, if_pos hn, if_pos hn]
      show Story _ _ (Tagged.about n self.answered) _
      rw [hunanswered]
      have hwaiting : Story fixed.2
          [{ request with retries := .ofNat 0, sentAt := request.sentAt }] []
          (attempts request 0) :=
        Story.waiting request 0 (Nat.zero_le _) request.sentAt
      have hsame : { request with retries := .ofNat 0, sentAt := request.sentAt } = request := by
        rw [show UInt8.ofNat 0 = request.retries from hretries.symm]
      rw [hsame] at hwaiting
      exact hwaiting
    · rw [if_neg hn, if_neg hn, List.append_nil, List.append_nil]
      exact h.story n
  · intro n hn
    have hlt : self.next < n := hn
    rw [hpending, hhistory, if_neg (Nat.ne_of_lt hlt), if_neg (Nat.ne_of_lt hlt),
      List.append_nil, List.append_nil]
    exact h.unseen n (Nat.le_of_lt hlt)

theorem withdraw_told {destination : SocketAddr} {invokeId : UInt8} (h : Told fixed.2 self) :
    Told fixed.2 (self.withdraw destination invokeId) := by
  have hpending : ∀ n, Tagged.about n (self.withdraw destination invokeId).pending
      = (Tagged.about n self.pending).filter
          (fun request => !request.isFor destination invokeId) := by
    intro n
    exact Tagged.about_filter n (fun request : Pending => !request.isFor destination invokeId) _
  have hhistory : ∀ n, (self.withdraw destination invokeId).history n
      = self.history n
        ++ (Tagged.about n self.pending).flatMap (withdrawal destination invokeId) := by
    intro n
    show Tagged.about n (self.log ++ Tagged.expand _ self.pending) = _
    rw [Tagged.about_append, Tagged.about_expand]
    rfl
  constructor
  · intro n
    rw [hpending, hhistory]
    show Story _ _ (Tagged.about n self.answered) _
    have hstory := h.story n
    generalize Tagged.about n self.pending = pending at *
    generalize Tagged.about n self.answered = answered at *
    generalize self.history n = history at *
    -- The story of each request ends here if the withdrawal is about it.
    cases hstory with
    | waiting request k hk sentAt =>
        have hsame : Pending.isFor destination invokeId
            { request with retries := .ofNat k, sentAt := sentAt }
              = Pending.isFor destination invokeId request := rfl
        by_cases hfor : Pending.isFor destination invokeId request = true
        · simp only [List.filter_cons, List.flatMap_cons, List.flatMap_nil, withdrawal, hsame, hfor]
          exact .withdrawn request k hk
        · simp only [List.filter_cons, List.flatMap_cons, List.flatMap_nil, withdrawal, hsame, hfor]
          simpa using Story.waiting request k hk sentAt
    | unseen => exact .unseen
    | answered request k hk houtcome => simpa using Story.answered request k hk houtcome
    | told request k hk houtcome => simpa using Story.told request k hk houtcome
    | gaveUp request => simpa using Story.gaveUp request
    | withdrawn request k hk => simpa using Story.withdrawn request k hk
  · intro n hn
    obtain ⟨hnone, hunanswered, hquiet⟩ := h.unseen n hn
    rw [hpending, hhistory, hnone, hquiet]
    exact ⟨rfl, hunanswered, rfl⟩

theorem answer_told {source : SocketAddr} {invokeId : UInt8} {outcome : Outcome}
    (houtcome : outcome = .acknowledged ∨ outcome = .refused) (h : Told fixed.2 self) :
    Told fixed.2 (self.answer source invokeId outcome) := by
  unfold answer
  split
  · exact h
  · next m found hfound =>
      -- The request that is answered is the one that waits under its number.
      have hfor : found.isFor source invokeId = true :=
        @List.find?_some _ (fun entry : Nat × Pending => entry.2.isFor source invokeId) _ _ hfound
      have hmem : found ∈ Tagged.about m self.pending :=
        Tagged.mem_about.mpr (List.mem_of_find?_eq_some hfound)
      have hpending := Tagged.about_eraseP (p := Pending.isFor source invokeId) hfound
      have hother : ∀ (α : Type) (xs : Tagged α) (a : α) (n : Nat), n ≠ m →
          Tagged.about n (xs ++ [(m, a)]) = Tagged.about n xs := by
        intro α xs a n hn
        rw [Tagged.about_append, Tagged.about_cons, if_neg (Ne.symm hn)]
        simp
      have hown : ∀ (α : Type) (xs : Tagged α) (a : α),
          Tagged.about m (xs ++ [(m, a)]) = Tagged.about m xs ++ [a] := by
        intro α xs a
        rw [Tagged.about_append, Tagged.about_cons, if_pos rfl]
        simp
      constructor
      · intro n
        show Story _ (Tagged.about n (self.pending.eraseP _))
          (Tagged.about n (self.answered ++ [(m, found.report outcome)]))
          (Tagged.about n (self.log ++ [(m, .answered outcome)]))
        rw [hpending]
        by_cases hn : n = m
        · subst hn
          rw [if_pos rfl, hown, hown]
          have hstory := h.story n
          show Story _ _ _ (self.history n ++ [.answered outcome])
          generalize Tagged.about n self.pending = pending at *
          generalize Tagged.about n self.answered = answered at *
          generalize self.history n = history at *
          cases hstory with
          | waiting request k hk sentAt =>
              rw [List.mem_singleton] at hmem
              subst hmem
              rw [List.eraseP_cons_of_pos hfor]
              exact .answered request k hk houtcome
          | _ => cases hmem
        · rw [if_neg hn, hother _ _ _ _ hn, hother _ _ _ _ hn]
          exact h.story n
      · intro n hn
        have hne : n ≠ m := by
          rintro rfl
          rw [(h.unseen n hn).1] at hmem
          cases hmem
        show Tagged.about n (self.pending.eraseP _) = [] ∧ Tagged.about n (self.answered ++ _) = []
          ∧ Tagged.about n (self.log ++ _) = []
        rw [hpending, if_neg hne, hother _ _ _ _ hne, hother _ _ _ _ hne]
        exact h.unseen n hn

/-- What a poll makes of a request that was sent again `k` times. -/
theorem visit_cases (request : Pending) {k : Nat} {retries : UInt8} (hk : k ≤ retries.toNat)
    (sentAt now : Instant) (timeout : Duration) :
    let visit := Pending.visit now timeout retries
      { request with retries := .ofNat k, sentAt := sentAt }
    (visit.kept = some { request with retries := .ofNat k, sentAt := sentAt } ∧ visited visit = [])
      ∨ (k = retries.toNat ∧ visit.kept = none
          ∧ visited visit = [.reported (request.report .gaveUp)])
      ∨ (k + 1 ≤ retries.toNat
          ∧ visit.kept = some { request with retries := .ofNat (k + 1), sentAt := now }
          ∧ visited visit = [.resent request.frame request.destination,
              .reported (request.report (.retried (.ofNat (k + 1))))]) := by
  intro visit
  -- The count is kept in an octet, and has not reached its end.
  have hlt : k < 256 := Nat.lt_of_le_of_lt hk retries.toNat_lt
  have hcount : (UInt8.ofNat k).toNat = k := UInt8.toNat_ofNat_of_lt hlt
  have hvisit : visit = Pending.visit now timeout retries
      { request with retries := .ofNat k, sentAt := sentAt } := rfl
  unfold Pending.visit at hvisit
  split at hvisit
  · exact .inl ⟨by rw [hvisit], by rw [hvisit]; rfl⟩
  · split at hvisit
    · next hspent =>
        have hle : retries.toNat ≤ k := by
          rw [UInt8.le_iff_toNat_le] at hspent
          simpa [hcount] using hspent
        exact .inr (.inl ⟨Nat.le_antisymm hk hle, by rw [hvisit], by rw [hvisit]; rfl⟩)
    -- One attempt more, which the retries still allow.
    · next hleft =>
        have hnext : k < retries.toNat := by
          rw [UInt8.le_iff_toNat_le] at hleft
          simpa [hcount] using hleft
        have hattempt : UInt8.ofNat k + 1 = UInt8.ofNat (k + 1) := by
          rw [UInt8.ofNat_add]
          rfl
        refine .inr (.inr ⟨hnext, ?_, ?_⟩)
        · rw [hvisit]
          simp only [hattempt]
        · rw [hvisit]
          simp only [visited, hattempt]
          rfl

theorem due_told {now : Instant} (h : Told fixed.2 self) : Told fixed.2 (self.due fixed now) := by
  -- What a visit does to one request's place in the table and to its log.
  have hpending : ∀ n, Tagged.about n (self.due fixed now).pending
      = (Tagged.about n self.pending).flatMap
          (fun request => (request.visit now fixed.1 fixed.2).kept.toList) := by
    intro n
    show Tagged.about n (Tagged.expand (fun request : Pending =>
      (request.visit now fixed.1 fixed.2).kept.toList) self.pending) = _
    rw [Tagged.about_expand]
  have hhistory : ∀ n, (self.due fixed now).history n
      = self.history n
        ++ (Tagged.about n self.answered).flatMap (fun transaction => [.reported transaction])
        ++ (Tagged.about n self.pending).flatMap
            (fun request => visited (request.visit now fixed.1 fixed.2)) := by
    intro n
    show Tagged.about n (self.log ++ Tagged.expand _ self.answered
      ++ Tagged.expand _ self.pending) = _
    rw [Tagged.about_append, Tagged.about_append, Tagged.about_expand, Tagged.about_expand]
    rfl
  constructor
  · intro n
    rw [hpending, hhistory]
    show Story _ _ [] _
    have hstory := h.story n
    generalize Tagged.about n self.pending = pending at *
    generalize Tagged.about n self.answered = answered at *
    generalize self.history n = history at *
    -- The story of each request goes on by one of the visit's three outcomes.
    cases hstory with
    | waiting request k hk sentAt =>
        simp only [List.flatMap_cons, List.flatMap_nil, List.append_nil]
        rcases visit_cases request hk sentAt now fixed.1 with
          ⟨hkept, hvisited⟩ | ⟨rfl, hkept, hvisited⟩ | ⟨hnext, hkept, hvisited⟩
        · rw [hkept, hvisited, List.append_nil]
          exact .waiting request k hk sentAt
        · rw [hkept, hvisited]
          exact .gaveUp request
        · rw [hkept, hvisited]
          exact .waiting request (k + 1) hnext now
    -- A request that is no longer pending is not visited.
    | unseen => exact .unseen
    | answered request k hk houtcome => simpa using Story.told request k hk houtcome
    | told request k hk houtcome => simpa using Story.told request k hk houtcome
    | gaveUp request => simpa using Story.gaveUp request
    | withdrawn request k hk => simpa using Story.withdrawn request k hk
  · intro n hn
    obtain ⟨hnone, hunanswered, hquiet⟩ := h.unseen n hn
    rw [hpending, hhistory, hnone, hunanswered, hquiet]
    exact ⟨rfl, rfl, rfl⟩

/-- **Each step carries every request's story on.** -/
theorem step_told {after : Ledger} {call : TableCall} (h : Told fixed.2 self)
    (hstep : self.step fixed call = some after) : Told fixed.2 after := by
  obtain ⟨hpermitted, rfl⟩ := step_eq_some.mp hstep
  cases call with
  | register destination invokeId service frame now => exact register_told rfl h
  | withdraw destination invokeId => exact withdraw_told h
  | answer source invokeId outcome => exact answer_told hpermitted h
  | due database now =>
      have hdue : Told fixed.2 (self.due fixed now) := due_told h
      exact ⟨hdue.story, hdue.unseen⟩

end Ledger

/-! ## §5. Every run -/

/-- The table after the calls, and what the polls among them returned. -/
def Table.calls : Table → List TableCall → Table × List Due
  | table, [] => (table, [])
  | table, call :: rest =>
      let (after, due) := table.call call
      let (final, dues) := after.calls rest
      (final, due.toList ++ dues)

namespace Ledger

variable {fixed : Duration × UInt8} {self after : Ledger} {calls : List TableCall}

theorem step_dues {call : TableCall} (h : self.step fixed call = some after) :
    after.dues = self.dues ++ (self.table.call call).2.toList := by
  obtain ⟨_, rfl⟩ := step_eq_some.mp h
  cases call with
  | answer source invokeId outcome =>
      show (self.answer source invokeId outcome).dues = self.dues ++ []
      unfold answer
      split <;> exact (List.append_nil _).symm
  | register destination invokeId service frame now => exact (List.append_nil _).symm
  | withdraw destination invokeId => exact (List.append_nil _).symm
  | due database now => rfl

/-- **The ledger is the table, call after call.** -/
theorem run_table (h : Machine.run (step fixed) self calls = some after) :
    after.table = (self.table.calls calls).1
      ∧ after.dues = self.dues ++ (self.table.calls calls).2 := by
  induction calls generalizing self with
  | nil =>
      cases h
      exact ⟨rfl, (List.append_nil _).symm⟩
  | cons call rest ih =>
      obtain ⟨next, hnext, hrest⟩ := Machine.run_cons_eq_some.mp h
      obtain ⟨htable, hdues⟩ := ih hrest
      rw [step_table hnext] at htable hdues
      rw [step_dues hnext, List.append_assoc] at hdues
      exact ⟨htable, hdues⟩

end Ledger

/-- How a request ends, if it does. -/
inductive Ending (retries : UInt8) (request : Pending) (k : Nat) : List Entry → Prop
  | waiting : Ending retries request k []
  | withdrawn : Ending retries request k [.withdrawn]
  | gaveUp (h : k = retries.toNat) :
      Ending retries request k [.reported (request.report .gaveUp)]
  | answered {outcome : Outcome} (h : outcome = .acknowledged ∨ outcome = .refused) :
      Ending retries request k [.answered outcome]
  | told {outcome : Outcome} (h : outcome = .acknowledged ∨ outcome = .refused) :
      Ending retries request k [.answered outcome, .reported (request.report outcome)]

theorem Ledger.Story.ending {retries : UInt8} {pending : List Pending}
    {answered : List Transaction} {history : List Entry}
    (h : Story retries pending answered history) :
    history = [] ∨ ∃ request k ending, k ≤ retries.toNat
      ∧ history = attempts request k ++ ending ∧ Ending retries request k ending := by
  cases h with
  | unseen => exact .inl rfl
  | waiting request k hk sentAt =>
      exact .inr ⟨request, k, [], hk, (List.append_nil _).symm, .waiting⟩
  | answered request k hk houtcome =>
      exact .inr ⟨request, k, _, hk, rfl, .answered houtcome⟩
  | told request k hk houtcome => exact .inr ⟨request, k, _, hk, rfl, .told houtcome⟩
  | gaveUp request => exact .inr ⟨request, _, _, Nat.le_refl _, rfl, .gaveUp rfl⟩
  | withdrawn request k hk => exact .inr ⟨request, k, _, hk, rfl, .withdrawn⟩

/-- A reply leaves every request alone that it is not for. -/
theorem Table.mem_answer {table : Table} {source : SocketAddr} {invokeId : UInt8}
    {request : Pending} (h : request ∈ table.pending)
    (hnot : request.isFor source invokeId = false) (outcome : Outcome) :
    request ∈ (table.answer source invokeId outcome).pending := by
  unfold answer
  split
  · exact h
  · exact (List.mem_eraseP_of_neg (by simp [hnot])).mpr h

/-- **Every request is attempted, and ends, at most once.**  In every run of the table,
whatever is sent again or reported is of one of the requests, and each of these was sent
again with its own frame, as attempt 1, 2, 3, … up to the retries allowed, each reported
once, until it was withdrawn, answered or given up, and not after.  A reply that is not for
a request leaves it waiting. -/
theorem request_lifetimes {fixed : Duration × UInt8} {calls : List TableCall} {ledger : Ledger}
    (h : Machine.run (Ledger.step fixed) .empty calls = some ledger) :
    ledger.table = (Table.empty.calls calls).1
      ∧ (Table.empty.calls calls).2.flatMap Due.resend = Ledger.resends ledger.log
      ∧ (Table.empty.calls calls).2.flatMap Due.transactions = Ledger.reports ledger.log
      ∧ (∀ n, ledger.history n = [] ∨ ∃ request k ending, k ≤ fixed.2.toNat
          ∧ ledger.history n = Ledger.attempts request k ++ ending
          ∧ Ending fixed.2 request k ending)
      ∧ (∀ source invokeId outcome, ∀ request ∈ ledger.table.pending,
          request.isFor source invokeId = false →
            request ∈ (ledger.table.answer source invokeId outcome).pending) := by
  obtain ⟨htable, hdues⟩ := Ledger.run_table h
  have hfaithful : ledger.Faithful :=
    Machine.run_invariant (fun _ _ _ hself hstep => Ledger.step_faithful hself hstep)
      ⟨rfl, rfl⟩ h
  have htold : Ledger.Told fixed.2 ledger :=
    Machine.run_invariant (fun _ _ _ hself hstep => Ledger.step_told hself hstep)
      (Ledger.empty_told fixed.2) h
  have hall : ledger.dues = (Table.empty.calls calls).2 := hdues
  rw [← hall]
  exact ⟨htable, hfaithful.1, hfaithful.2, fun n => (htold.story n).ending,
    fun _ _ outcome _ hmem hnot => Table.mem_answer hmem hnot outcome⟩

/-- A notification that is sent again once and then acknowledged. -/
theorem request_lifetimes_retried :
    let database : DatabaseView := ⟨⟨.device, 1⟩, fun _ _ => .error .unknownProperty⟩
    let peer : SocketAddr := .v4 0x0A000002 47808
    let calls : List TableCall :=
      [.register peer 7 .confirmedCovNotification [1, 2] 0, .due database 4000000000,
        .answer peer 7 .acknowledged, .due database 5000000000]
    ∃ ledger, Machine.run (Ledger.step (Duration.fromMillis 3000, 3)) .empty calls = some ledger
      ∧ (Table.empty.calls calls).2.flatMap Due.resend = Ledger.resends ledger.log
      ∧ Ledger.resends ledger.log = [([1, 2], peer)] := by
  intro database peer calls
  have hrun : (Machine.run (Ledger.step (Duration.fromMillis 3000, 3)) .empty calls).isSome
      = true := by decide +kernel
  obtain ⟨ledger, hledger⟩ := Option.isSome_iff_exists.mp hrun
  have hsent : (Table.empty.calls calls).2.flatMap Due.resend = [([1, 2], peer)] := by
    decide +kernel
  have hlife := request_lifetimes hledger
  exact ⟨ledger, hledger, hlife.2.1, hlife.2.1.symm.trans hsent⟩

end BacnetRs.Server
