/-
  BacnetRs.App.TransactionManager — the application layer's transactions (`app/mod.rs`).

  A transaction that was answered stays in the list until it is cleaned up,
  and its invoke identifier may be in use again before that.  A new one is
  compared with those that are awaiting an answer only, so that there is one
  of these for an identifier at most; an answer goes to the first one of its
  identifier, which may be one that was answered long ago.

    * `awaitedOnce_step`   — one transaction at most awaits for an identifier.
    * `closes_iff`         — which answers close what is outstanding.
    * `answers_close_iff`  — in which runs every answer does.
-/
import BacnetRs.App.Apdu
import BacnetRs.Library.Attempt
import BacnetRs.Library.FirstMatch
import BacnetRs.Library.Machine

namespace BacnetRs.App

open BacnetRs.Service Attempt

/-! ## §1. The manager -/

inductive TransactionState where
  | awaitConfirmation
  | awaitSegment
  | segmentedRequest
  | segmentedResponse
  | complete
  deriving Repr, DecidableEq

structure Transaction where
  invokeId : UInt8
  service : UInt8
  state : TransactionState
  /-- In seconds. -/
  timeout : Nat
  retries : UInt8
  deriving Repr, DecidableEq

structure TransactionManager where
  transactions : List Transaction
  maxTransactions : Nat
  deriving Repr, DecidableEq

/-- The transaction awaits the answer that has `invokeId`. -/
def Transaction.awaits (invokeId : UInt8) (transaction : Transaction) : Bool :=
  transaction.invokeId == invokeId && transaction.state == .awaitConfirmation

theorem Transaction.awaits_iff {invokeId : UInt8} {transaction : Transaction} :
    transaction.awaits invokeId = true
      ↔ transaction.invokeId = invokeId ∧ transaction.state = .awaitConfirmation := by
  unfold awaits
  rw [Bool.and_eq_true, beq_iff_eq, beq_iff_eq]

namespace TransactionManager

def new : TransactionManager := ⟨[], 255⟩

/-- `start_transaction`. -/
def startTransaction (manager : TransactionManager) (invokeId serviceChoice : UInt8) :
    Attempt ApplicationError TransactionManager :=
  -- Transactions that are complete are counted too, until they are cleaned up.
  if manager.transactions.length ≥ manager.maxTransactions then
    refused manager (.transactionError "Too many active transactions")
  else if manager.transactions.any (Transaction.awaits invokeId) then
    refused manager (.transactionError "Duplicate invoke ID")
  else
    done { manager with
      transactions :=
        manager.transactions ++ [⟨invokeId, serviceChoice, .awaitConfirmation, 30, 0⟩] }

/-- The first transaction with this identifier is over. -/
def finish (manager : TransactionManager) (invokeId : UInt8) : TransactionManager :=
  { manager with
    transactions := FirstMatch.update (fun t => t.invokeId == invokeId)
      (fun t => { t with state := .complete }) manager.transactions }

/-- `complete_transaction`. -/
def completeTransaction (manager : TransactionManager) (invokeId : UInt8) : TransactionManager :=
  manager.finish invokeId

/-- `error_transaction`. -/
def errorTransaction (manager : TransactionManager) (invokeId : UInt8)
    (_errorClass _errorCode : UInt32) : TransactionManager :=
  manager.finish invokeId

/-- `reject_transaction`. -/
def rejectTransaction (manager : TransactionManager) (invokeId : UInt8)
    (_rejectReason : RejectReason) : TransactionManager :=
  manager.finish invokeId

/-- `abort_transaction`. -/
def abortTransaction (manager : TransactionManager) (invokeId : UInt8)
    (_abortReason : AbortReason) : TransactionManager :=
  manager.finish invokeId

/-- `cleanup_completed`. -/
def cleanupCompleted (manager : TransactionManager) : TransactionManager :=
  { manager with transactions := manager.transactions.filter (fun t => t.state != .complete) }

/-- What the manager may be asked. -/
inductive Call where
  | startTransaction (invokeId serviceChoice : UInt8)
  | completeTransaction (invokeId : UInt8)
  | errorTransaction (invokeId : UInt8) (errorClass errorCode : UInt32)
  | rejectTransaction (invokeId : UInt8) (rejectReason : RejectReason)
  | abortTransaction (invokeId : UInt8) (abortReason : AbortReason)
  | cleanupCompleted

def step (manager : TransactionManager) : Call → Option TransactionManager
  | .startTransaction invokeId serviceChoice =>
      some (manager.startTransaction invokeId serviceChoice).1
  | .completeTransaction invokeId => some (manager.completeTransaction invokeId)
  | .errorTransaction invokeId errorClass errorCode =>
      some (manager.errorTransaction invokeId errorClass errorCode)
  | .rejectTransaction invokeId rejectReason =>
      some (manager.rejectTransaction invokeId rejectReason)
  | .abortTransaction invokeId abortReason => some (manager.abortTransaction invokeId abortReason)
  | .cleanupCompleted => some manager.cleanupCompleted

/-- The identifier that a call answers. -/
def Call.answers : Call → Option UInt8
  | .completeTransaction invokeId | .errorTransaction invokeId _ _
  | .rejectTransaction invokeId _ | .abortTransaction invokeId _ => some invokeId
  | .startTransaction .. | .cleanupCompleted => none

/-- Every answer finishes a transaction alike. -/
theorem step_of_answers {manager : TransactionManager} {made : Call} {invokeId : UInt8}
    (h : made.answers = some invokeId) : step manager made = some (manager.finish invokeId) := by
  cases made with
  | startTransaction | cleanupCompleted => cases h
  | completeTransaction | errorTransaction | rejectTransaction | abortTransaction =>
      cases h
      rfl

/-! ## §2. One transaction at most awaits -/

/-- Two transactions do not await one answer. -/
def Apart (a b : Transaction) : Prop :=
  ¬ (a.invokeId = b.invokeId ∧ a.state = .awaitConfirmation ∧ b.state = .awaitConfirmation)

/-- For every identifier one transaction at most awaits an answer. -/
def AwaitedOnce (manager : TransactionManager) : Prop := manager.transactions.Pairwise Apart

theorem AwaitedOnce.count_le {manager : TransactionManager} (h : manager.AwaitedOnce)
    (invokeId : UInt8) :
    (manager.transactions.filter (Transaction.awaits invokeId)).length ≤ 1 := by
  have hawaits : ∀ t ∈ manager.transactions.filter (Transaction.awaits invokeId),
      t.invokeId = invokeId ∧ t.state = .awaitConfirmation :=
    fun t ht => Transaction.awaits_iff.mp (List.mem_filter.mp ht).2
  have hpairwise : (manager.transactions.filter (Transaction.awaits invokeId)).Pairwise Apart :=
    h.filter _
  cases hheld : manager.transactions.filter (Transaction.awaits invokeId) with
  | nil => exact Nat.zero_le _
  | cons first more =>
      rw [hheld] at hawaits hpairwise
      cases more with
      | nil => exact Nat.le_refl _
      | cons second more =>
          have hfirst := hawaits first List.mem_cons_self
          have hsecond := hawaits second (List.mem_cons_of_mem _ List.mem_cons_self)
          refine absurd ?_ ((List.pairwise_cons.mp hpairwise).1 second List.mem_cons_self)
          exact ⟨hfirst.1.trans hsecond.1.symm, hfirst.2, hsecond.2⟩

theorem awaitedOnce_step {manager after : TransactionManager} {made : Call}
    (h : manager.AwaitedOnce) (hstep : step manager made = some after) : after.AwaitedOnce := by
  cases hanswers : made.answers with
  | some invokeId =>
      rw [step_of_answers hanswers] at hstep
      cases hstep
      -- A finished transaction awaits nothing.
      refine FirstMatch.pairwise_update h ?_ ?_
      · rintro a b - ⟨-, hcomplete, -⟩
        cases hcomplete
      · rintro a b - ⟨-, -, hcomplete⟩
        cases hcomplete
  | none =>
      cases made with
      | completeTransaction | errorTransaction | rejectTransaction | abortTransaction =>
          cases hanswers
      | cleanupCompleted =>
          cases hstep
          exact h.filter _
      | startTransaction invokeId serviceChoice =>
          cases hstep
          unfold startTransaction
          split
          · exact h
          split
          · exact h
          · rename_i hfresh
            refine List.pairwise_append.mpr ⟨h, List.pairwise_singleton _ _, ?_⟩
            intro a ha b hb
            rw [List.mem_singleton.mp hb]
            rintro ⟨hid, hstate, -⟩
            exact hfresh (List.any_eq_true.mpr ⟨a, ha, Transaction.awaits_iff.mpr ⟨hid, hstate⟩⟩)

/-! ## §3. What an answer closes -/

/-- A transaction that awaits no answer stands before one of its identifier that does. -/
def Shadowed (manager : TransactionManager) (invokeId : UInt8) : Prop :=
  ∃ first, manager.transactions.find? (fun t => t.invokeId == invokeId) = some first ∧
    first.state ≠ .awaitConfirmation ∧
    manager.transactions.any (Transaction.awaits invokeId) = true

/-- **An answer leaves its identifier awaited exactly when the transaction that awaits it is
shadowed.** -/
theorem awaited_finish_iff {manager : TransactionManager} (h : manager.AwaitedOnce)
    (invokeId : UInt8) :
    (manager.finish invokeId).transactions.any (Transaction.awaits invokeId) = true
      ↔ manager.Shadowed invokeId := by
  unfold Shadowed finish
  dsimp only
  cases hfound : manager.transactions.find? (fun t => t.invokeId == invokeId) with
  | none =>
      -- Without a transaction of the identifier nothing changes, and nothing awaited.
      rw [FirstMatch.update_of_find?_none hfound]
      refine iff_of_false ?_ (fun hshadowed => nomatch hshadowed)
      rw [List.any_eq_true]
      rintro ⟨t, ht, hawaits⟩
      exact (List.find?_eq_none.mp hfound t ht)
        (beq_iff_eq.mpr (Transaction.awaits_iff.mp hawaits).1)
  | some first =>
      -- What is in front of the first match does not await, nor does the match, once it is over:
      -- what may await still is behind it.
      obtain ⟨hid, before, after, hsplit, hbefore⟩ := List.find?_eq_some_iff_append.mp hfound
      have hnone : ∀ t ∈ before, ¬ (t.invokeId == invokeId) = true := by
        intro t ht hmatch
        have hother := hbefore t ht
        rw [hmatch] at hother
        cases hother
      have hquiet : before.any (Transaction.awaits invokeId) = false := by
        rw [List.any_eq_false]
        intro t ht hawaits
        exact hnone t ht (beq_iff_eq.mpr (Transaction.awaits_iff.mp hawaits).1)
      have hdone : Transaction.awaits invokeId { first with state := .complete } = false := by
        rw [Bool.eq_false_iff]
        intro hawaits
        cases (Transaction.awaits_iff.mp hawaits).2
      rw [hsplit, FirstMatch.update_append hnone hid, List.any_append, List.any_cons, hquiet, hdone,
        Bool.false_or, Bool.false_or, List.any_append, List.any_cons, hquiet, Bool.false_or]
      constructor
      · intro hafter
        refine ⟨first, rfl, ?_, by rw [hafter, Bool.or_true]⟩
        intro hstate
        -- Two would await: the first of all, and one behind it.
        obtain ⟨t, ht, hawaits⟩ := List.any_eq_true.mp hafter
        obtain ⟨htid, htstate⟩ := Transaction.awaits_iff.mp hawaits
        have hpairwise := h
        unfold AwaitedOnce at hpairwise
        rw [hsplit] at hpairwise
        have hapart := (List.pairwise_cons.mp (List.pairwise_append.mp hpairwise).2.1).1 t ht
        exact hapart ⟨(beq_iff_eq.mp hid).trans htid.symm, hstate, htstate⟩
      · rintro ⟨first', hsame, hstate, hany⟩
        cases hsame
        have hnot : Transaction.awaits invokeId first = false := by
          rw [Bool.eq_false_iff]
          exact fun hawaits => hstate (Transaction.awaits_iff.mp hawaits).2
        rwa [hnot, Bool.false_or] at hany

/-- A transaction starts when there is room and none awaits for its identifier. -/
theorem startTransaction_eq_ok_iff (manager : TransactionManager) (invokeId serviceChoice : UInt8) :
    (manager.startTransaction invokeId serviceChoice).2 = .ok ()
      ↔ manager.transactions.length < manager.maxTransactions ∧
        manager.transactions.any (Transaction.awaits invokeId) = false := by
  unfold startTransaction
  by_cases hfull : manager.transactions.length ≥ manager.maxTransactions
  · rw [if_pos hfull]
    exact iff_of_false (fun h => nomatch h) fun h => absurd h.1 (Nat.not_lt.mpr hfull)
  rw [if_neg hfull]
  cases hawaited : manager.transactions.any (Transaction.awaits invokeId) with
  | true => exact iff_of_false (fun h => nomatch h) fun h => nomatch h.2
  | false => exact iff_of_true rfl ⟨Nat.lt_of_not_le hfull, rfl⟩

/-- After an answer nothing awaits for its identifier, and that can be started again. -/
def Closes (manager : TransactionManager) (made : Call) : Prop :=
  ∀ invokeId after, made.answers = some invokeId → step manager made = some after →
    (∀ t ∈ after.transactions, t.invokeId = invokeId → t.state ≠ .awaitConfirmation) ∧
    ∀ serviceChoice, (after.startTransaction invokeId serviceChoice).2 = .ok ()

/-- An answered identifier is not shadowed, and there is room in the list. -/
def Outstanding (manager : TransactionManager) (made : Call) : Prop :=
  ∀ invokeId, made.answers = some invokeId →
    ¬ manager.Shadowed invokeId ∧ manager.transactions.length < manager.maxTransactions

/-- **Which answers close what is outstanding.** -/
theorem closes_iff {manager : TransactionManager} (h : manager.AwaitedOnce) (made : Call) :
    manager.Closes made ↔ manager.Outstanding made := by
  have hlength (invokeId : UInt8) :
      (manager.finish invokeId).transactions.length = manager.transactions.length :=
    FirstMatch.length_update _
  constructor
  · intro hcloses invokeId hanswers
    obtain ⟨-, hrestarts⟩ := hcloses invokeId _ hanswers (step_of_answers hanswers)
    -- That the identifier can be started again says both, whatever the service.
    obtain ⟨hroom, hquiet⟩ := (startTransaction_eq_ok_iff _ _ _).mp (hrestarts 0)
    rw [hlength] at hroom
    refine ⟨fun hshadowed => ?_, hroom⟩
    rw [(awaited_finish_iff h invokeId).mpr hshadowed] at hquiet
    cases hquiet
  · intro houtstanding invokeId after hanswers hstep
    rw [step_of_answers hanswers] at hstep
    cases hstep
    obtain ⟨hclear, hroom⟩ := houtstanding invokeId hanswers
    have hquiet : (manager.finish invokeId).transactions.any (Transaction.awaits invokeId)
        = false := by
      rw [Bool.eq_false_iff]
      exact fun hawaited => hclear ((awaited_finish_iff h invokeId).mp hawaited)
    refine ⟨?_, fun serviceChoice => (startTransaction_eq_ok_iff _ _ _).mpr ⟨?_, hquiet⟩⟩
    · intro t ht hid hstate
      exact List.any_eq_false.mp hquiet t ht (Transaction.awaits_iff.mpr ⟨hid, hstate⟩)
    · rw [hlength]
      exact hroom

/-- **Every answer of a run closes the transaction that is outstanding, and its identifier can be
started again, exactly when at every answer the transaction is the first of its identifier that
is in the list, or none awaits, and the list has room.**  In every run, one transaction at most
awaits for an identifier. -/
theorem answers_close_iff (calls : List Call) :
    (Machine.Throughout step Closes new calls ↔ Machine.Throughout step Outstanding new calls) ∧
    ∀ after, Machine.run step new calls = some after →
      ∀ invokeId, (after.transactions.filter (Transaction.awaits invokeId)).length ≤ 1 := by
  have hnew : new.AwaitedOnce := List.Pairwise.nil
  constructor
  · exact Machine.throughout_iff (fun manager made h => closes_iff h made)
      (fun _ _ _ _ h hstep => awaitedOnce_step h hstep) hnew
  · intro after hrun
    have hafter : after.AwaitedOnce :=
      Machine.run_invariant (P := AwaitedOnce) (fun _ _ _ h hstep => awaitedOnce_step h hstep)
        hnew hrun
    exact hafter.count_le

/-- An identifier is answered, used again and answered again, without a clean-up between. -/
theorem second_answer_lost :
    (Machine.run step new [.startTransaction 1 12, .completeTransaction 1, .startTransaction 1 12,
        .completeTransaction 1]).map (fun manager => manager.transactions.map Transaction.state)
      = some [.complete, .awaitConfirmation] ∧
    ¬ ∀ calls, Machine.Throughout step Closes new calls := by
  refine ⟨by decide, ?_⟩
  intro hall
  have hrun := hall [.startTransaction 1 12, .completeTransaction 1, .startTransaction 1 12,
    .completeTransaction 1]
  have hcloses := ((((hrun.2 _ rfl).2 _ rfl).2 _ rfl).1 1 _ rfl rfl).2 0
  exact absurd hcloses (by decide)

end TransactionManager

end BacnetRs.App
