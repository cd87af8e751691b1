/-
  BacnetRs.Library.Attempt — changes of state that may fail.

  An attempt leaves a state and says whether it failed.  The state is there
  either way: that a failed attempt changed nothing is a property of an
  attempt (`Atomic`), not of the type.  This file has the ways attempts are
  put together and how each carries atomicity over:

    * `store`           — convert a value, then change the state.
    * `within`          — an attempt at a part is one at the whole.
    * `untilFailure`    — attempts in order, up to the first that fails.

  `untilFailure_eq_ok` and `untilFailure_eq_error` say what such a sequence
  has done when it ends: every attempt, or every attempt before the failed one.
-/
import Mathlib.Logic.Basic

/-- What an attempt at changing a state leaves, and whether it failed. -/
abbrev Attempt (ε σ : Type*) := σ × Except ε Unit

namespace Attempt

variable {ε σ τ α ι : Type*}

/-! ## §1. Single attempts -/

/-- An attempt that succeeded. -/
def done (s : σ) : Attempt ε σ := (s, .ok ())

/-- An attempt that failed, leaving `s`. -/
def refused (s : σ) (e : ε) : Attempt ε σ := (s, .error e)

/-- Change the state by what was converted; `s` stays when the conversion failed. -/
def store (s : σ) (update : α → σ) (converted : Except ε α) : Attempt ε σ :=
  match converted with
  | .ok a => done (update a)
  | .error e => refused s e

/-- An attempt at a part, as one at the whole. -/
def within (put : τ → σ) (attempt : Attempt ε τ) : Attempt ε σ := (put attempt.1, attempt.2)

/-- A failed attempt leaves `s`. -/
def Atomic (s : σ) (attempt : Attempt ε σ) : Prop := ∀ e, attempt.2 = .error e → attempt.1 = s

theorem atomic_done (s s' : σ) : Atomic s (done s' : Attempt ε σ) := by
  intro e h
  cases h

theorem atomic_refused (s : σ) (e : ε) : Atomic s (refused s e) := fun _ _ => rfl

theorem atomic_store (s : σ) (update : α → σ) (converted : Except ε α) :
    Atomic s (store s update converted) := by
  cases converted with
  | ok a => exact atomic_done s (update a)
  | error e => exact atomic_refused s e

/-- Atomic on a part is atomic on the whole, if putting the part back is nothing. -/
theorem Atomic.within {t : τ} {attempt : Attempt ε τ} (h : Atomic t attempt) {s : σ}
    {put : τ → σ} (hput : put t = s) : Atomic s (within put attempt) := by
  intro e he
  show put attempt.1 = s
  rw [h e he, hput]

theorem store_of_ok {s : σ} {update : α → σ} {converted : Except ε α} {a : α}
    (h : converted = .ok a) : store s update converted = (update a, .ok ()) := by
  rw [h]
  rfl

/-- `store` succeeds exactly on what was converted. -/
theorem store_eq_ok_iff {s s' : σ} {update : α → σ} {converted : Except ε α} :
    store s update converted = (s', .ok ()) ↔ ∃ a, converted = .ok a ∧ s' = update a := by
  cases converted with
  | ok a =>
      constructor
      · intro h
        exact ⟨a, rfl, (congrArg Prod.fst h).symm⟩
      · rintro ⟨_, hconverted, rfl⟩
        cases hconverted
        rfl
  | error e =>
      constructor
      · intro h
        cases congrArg Prod.snd h
      · rintro ⟨_, hconverted, _⟩
        cases hconverted

theorem refused_ne_ok {s s' : σ} {e : ε} : refused s e ≠ (s', .ok ()) := by
  intro h
  cases congrArg Prod.snd h

/-- An attempt at a part succeeds with what the part's attempt left. -/
theorem within_eq_ok_iff {s : σ} {put : τ → σ} {attempt : Attempt ε τ} :
    within put attempt = (s, .ok ()) ↔ ∃ t, attempt = (t, .ok ()) ∧ s = put t := by
  obtain ⟨t, result⟩ := attempt
  constructor
  · intro h
    have hresult : result = .ok () := congrArg Prod.snd h
    exact ⟨t, by rw [hresult], (congrArg Prod.fst h).symm⟩
  · rintro ⟨_, h, rfl⟩
    cases h
    rfl

/-! ## §2. Attempts in order, up to the first failure -/

/-- Make the attempts in order and stop at the first that fails, which is reported
with its error. -/
def untilFailure (attempt : σ → ι → Attempt ε σ) : σ → List ι → Attempt (ε × ι) σ
  | s, [] => done s
  | s, i :: rest =>
      match attempt s i with
      | (s', .ok ()) => untilFailure attempt s' rest
      | (s', .error e) => refused s' (e, i)

/-- Every attempt succeeds, and together they lead from one state to another. -/
def Leads (attempt : σ → ι → Attempt ε σ) : σ → List ι → σ → Prop
  | s, [], s' => s' = s
  | s, i :: rest, s' =>
      (attempt s i).2 = .ok () ∧ Leads attempt (attempt s i).1 rest s'

/-- **A sequence succeeds exactly when every attempt in it does.** -/
theorem untilFailure_eq_ok {attempt : σ → ι → Attempt ε σ} {s s' : σ} {is : List ι} :
    untilFailure attempt s is = (s', .ok ()) ↔ Leads attempt s is s' := by
  induction is generalizing s with
  | nil =>
      show (s, Except.ok ()) = (s', Except.ok ()) ↔ s' = s
      constructor
      · intro h
        exact (congrArg Prod.fst h).symm
      · intro h
        rw [h]
  | cons i rest ih =>
      unfold untilFailure Leads
      cases h : attempt s i with
      | mk m result =>
          cases result with
          | ok u => simpa using ih
          | error e => simp [refused]

/-- **A sequence fails exactly at its first failing attempt**, in the state that those
before it led to. -/
theorem untilFailure_eq_error {attempt : σ → ι → Attempt ε σ} {s s' : σ} {is : List ι}
    {e : ε} {i : ι} :
    untilFailure attempt s is = (s', .error (e, i))
      ↔ ∃ before after m, is = before ++ i :: after ∧ Leads attempt s before m
        ∧ attempt m i = (s', .error e) := by
  induction is generalizing s with
  | nil =>
      constructor
      · intro h
        cases congrArg Prod.snd h
      · rintro ⟨before, after, m, hsplit, _⟩
        simp at hsplit
  | cons j rest ih =>
      unfold untilFailure
      cases h : attempt s j with
      | mk m result =>
          cases result with
          | ok u =>
              constructor
              · intro hrun
                obtain ⟨before, after, n, rfl, hleads, hfails⟩ := ih.mp hrun
                refine ⟨j :: before, after, n, rfl, ⟨by rw [h], ?_⟩, hfails⟩
                rw [h]
                exact hleads
              · rintro ⟨before, after, n, hsplit, hleads, hfails⟩
                cases before with
                | nil =>
                    -- The first attempt succeeds, so it is not the failing one.
                    cases hsplit
                    have hstart : n = s := hleads
                    rw [hstart, h] at hfails
                    cases congrArg Prod.snd hfails
                | cons b before =>
                    cases hsplit
                    have htail := hleads.2
                    rw [h] at htail
                    exact ih.mpr ⟨before, after, n, rfl, htail, hfails⟩
          | error e' =>
              constructor
              · intro hrun
                simp only [refused, Prod.mk.injEq, Except.error.injEq] at hrun
                obtain ⟨hstate, herror, hindex⟩ := hrun
                refine ⟨[], rest, s, ?_, rfl, ?_⟩
                · rw [hindex]
                  rfl
                · rw [← hindex, h, hstate, herror]
              · rintro ⟨before, after, n, hsplit, hleads, hfails⟩
                cases before with
                | nil =>
                    cases hsplit
                    have hstart : n = s := hleads
                    rw [hstart, h] at hfails
                    cases hfails
                    rfl
                | cons b before =>
                    cases hsplit
                    have hok := hleads.1
                    rw [h] at hok
                    cases hok

end Attempt
