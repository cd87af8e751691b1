/-
  BacnetRs.Library.Machine — runs of a guarded step function.

  A machine is a partial step function `σ → ε → Option σ`: `none` says the
  event cannot happen in that state.  This file has its runs and the four
  rules by which a fact about one step becomes a fact about every run:

    * `run_invariant`   — what each step preserves holds at the end.
    * `run_relates`     — a reflexive transitive relation each step respects
                          relates the two ends.
    * `run_invariant_throughout`
                        — as the first, for runs whose steps all meet a
                          side condition.
    * `run_total_le`    — a potential each step pays from bounds the total
                          cost of the run.
-/
import Mathlib.Data.Option.Basic

namespace Machine

variable {σ ε : Type*} {step : σ → ε → Option σ}

/-! ## §1. Runs -/

/-- Take the events in order; a refused event refuses the run. -/
def run (step : σ → ε → Option σ) : σ → List ε → Option σ
  | s, [] => some s
  | s, e :: es => (step s e).bind (fun s' => run step s' es)

/-- The states some run leads to. -/
def Reachable (step : σ → ε → Option σ) (s₀ s : σ) : Prop :=
  ∃ es, run step s₀ es = some s

theorem run_cons_eq_some {s s' : σ} {e : ε} {es : List ε} :
    run step s (e :: es) = some s' ↔ ∃ m, step s e = some m ∧ run step m es = some s' :=
  Option.bind_eq_some_iff

theorem run_append (s : σ) (es fs : List ε) :
    run step s (es ++ fs) = (run step s es).bind (fun m => run step m fs) := by
  induction es generalizing s with
  | nil => rfl
  | cons e es ih =>
      show (step s e).bind (fun m => run step m (es ++ fs)) = _
      rw [run, Option.bind_assoc]
      congr 1
      funext m
      exact ih m

theorem Reachable.run_to {s₀ s s' : σ} {es : List ε} (h : Reachable step s₀ s)
    (hrun : Machine.run step s es = some s') : Reachable step s₀ s' := by
  obtain ⟨pre, hpre⟩ := h
  refine ⟨pre ++ es, ?_⟩
  rw [run_append, hpre]
  exact hrun

theorem Reachable.next {s₀ s s' : σ} {e : ε} (h : Reachable step s₀ s)
    (hstep : step s e = some s') : Reachable step s₀ s' :=
  Reachable.run_to h (run_cons_eq_some.mpr ⟨s', hstep, rfl⟩ : Machine.run step s [e] = some s')

/-! ## §2. Invariants and relations along a run -/

/-- What every step preserves holds at the end of every run. -/
theorem run_invariant {P : σ → Prop}
    (hstep : ∀ s e s', P s → step s e = some s' → P s') :
    ∀ {es : List ε} {s s' : σ}, P s → run step s es = some s' → P s'
  | [], s, s', hs, h => by
      cases h
      exact hs
  | e :: es, s, s', hs, h => by
      obtain ⟨m, hm, hrest⟩ := run_cons_eq_some.mp h
      exact run_invariant hstep (hstep s e m hs hm) hrest

theorem Reachable.invariant {P : σ → Prop} {s₀ s : σ}
    (hstep : ∀ s e s', P s → step s e = some s' → P s') (h₀ : P s₀)
    (h : Reachable step s₀ s) : P s := by
  obtain ⟨es, hes⟩ := h
  exact run_invariant hstep h₀ hes

/-- A reflexive transitive relation that every step respects relates the two
ends of every run. -/
theorem run_relates {R : σ → σ → Prop} (hrefl : ∀ s, R s s)
    (htrans : ∀ s m s', R s m → R m s' → R s s')
    (hstep : ∀ s e s', step s e = some s' → R s s') :
    ∀ {es : List ε} {s s' : σ}, run step s es = some s' → R s s'
  | [], s, s', h => by
      cases h
      exact hrefl s
  | e :: es, s, s', h => by
      obtain ⟨m, hm, hrest⟩ := run_cons_eq_some.mp h
      exact htrans s m s' (hstep s e m hm) (run_relates hrefl htrans hstep hrest)

/-! ## §3. Runs whose steps meet a side condition -/

/-- Every step of the run meets `ok` in the state it is taken from. -/
def Throughout (step : σ → ε → Option σ) (ok : σ → ε → Prop) : σ → List ε → Prop
  | _, [] => True
  | s, e :: es => ok s e ∧ ∀ s', step s e = some s' → Throughout step ok s' es

instance Throughout.decidable {ok : σ → ε → Prop} [∀ s e, Decidable (ok s e)] :
    ∀ (s : σ) (es : List ε), Decidable (Throughout step ok s es)
  | _, [] => .isTrue trivial
  | s, e :: es =>
      match h : step s e with
      | none => decidable_of_iff (ok s e) (by simp [Throughout, h])
      | some m =>
          have : Decidable (Throughout step ok m es) := Throughout.decidable m es
          decidable_of_iff (ok s e ∧ Throughout step ok m es) (by simp [Throughout, h])

/-- An invariant of the steps that meet `ok` holds at the end of every run whose
steps all do. -/
theorem run_invariant_throughout {ok : σ → ε → Prop} {P : σ → Prop}
    (hstep : ∀ s e s', ok s e → P s → step s e = some s' → P s') :
    ∀ {es : List ε} {s s' : σ}, Throughout step ok s es → P s →
      run step s es = some s' → P s'
  | [], s, s', _, hs, h => by
      cases h
      exact hs
  | e :: es, s, s', hok, hs, h => by
      obtain ⟨m, hm, hrest⟩ := run_cons_eq_some.mp h
      exact run_invariant_throughout hstep (hok.2 m hm) (hstep s e m hok.1 hs hm) hrest

/-- What an invariant makes of the side condition, step by step. -/
theorem Throughout.imp {ok ok' : σ → ε → Prop} {P : σ → Prop}
    (hstep : ∀ s e s', ok s e → P s → step s e = some s' → P s')
    (himp : ∀ s e, ok s e → P s → ok' s e) :
    ∀ {es : List ε} {s : σ}, Throughout step ok s es → P s → Throughout step ok' s es
  | [], _, _, _ => trivial
  | e :: _, s, hok, hs =>
      ⟨himp s e hok.1 hs,
        fun s' hs' => Throughout.imp hstep himp (hok.2 s' hs') (hstep s e s' hok.1 hs hs')⟩

theorem throughout_append {ok : σ → ε → Prop} {s : σ} {es fs : List ε} :
    Throughout step ok s (es ++ fs)
      ↔ Throughout step ok s es ∧ ∀ m, run step s es = some m → Throughout step ok m fs := by
  induction es generalizing s with
  | nil =>
      show Throughout step ok s fs ↔ True ∧ ∀ m, some s = some m → _
      simp
  | cons e es ih =>
      show ok s e ∧ (∀ s', step s e = some s' → Throughout step ok s' (es ++ fs))
        ↔ (ok s e ∧ ∀ s', step s e = some s' → Throughout step ok s' es) ∧ _
      simp only [ih, run_cons_eq_some]
      constructor
      · rintro ⟨hok, hrest⟩
        refine ⟨⟨hok, fun s' hs' => (hrest s' hs').1⟩, ?_⟩
        rintro m ⟨s', hs', hm⟩
        exact (hrest s' hs').2 m hm
      · rintro ⟨⟨hok, hfirst⟩, hlast⟩
        exact ⟨hok, fun s' hs' => ⟨hfirst s' hs', fun m hm => hlast m ⟨s', hs', hm⟩⟩⟩

/-- Side conditions that agree wherever `P` holds, on steps that keep `P`, are met
by the same runs. -/
theorem throughout_iff {ok ok' : σ → ε → Prop} {P : σ → Prop}
    (hiff : ∀ s e, P s → (ok s e ↔ ok' s e))
    (hstep : ∀ s e s', ok' s e → P s → step s e = some s' → P s') {es : List ε} {s : σ}
    (hs : P s) : Throughout step ok s es ↔ Throughout step ok' s es :=
  ⟨fun h => Throughout.imp (fun a e a' hok ha => hstep a e a' ((hiff a e ha).mp hok) ha)
      (fun a e hok ha => (hiff a e ha).mp hok) h hs,
    fun h => Throughout.imp hstep (fun a e hok ha => (hiff a e ha).mpr hok) h hs⟩

/-! ## §4. Costs paid from a potential -/

/-- What a run costs, each step charged by `cost`. -/
def total (step : σ → ε → Option σ) (cost : σ → ε → σ → Nat) : σ → List ε → Nat
  | _, [] => 0
  | s, e :: es =>
      match step s e with
      | none => 0
      | some s' => cost s e s' + total step cost s' es

/-- If every step pays its cost from the potential `μ`, the whole run costs no
more than the potential it started with. -/
theorem run_total_le {ok : σ → ε → Prop} {P : σ → Prop} {cost : σ → ε → σ → Nat}
    {μ : σ → Nat}
    (hstep : ∀ s e s', ok s e → P s → step s e = some s' → P s' ∧ μ s' + cost s e s' ≤ μ s) :
    ∀ {es : List ε} {s s' : σ}, Throughout step ok s es → P s →
      run step s es = some s' → μ s' + total step cost s es ≤ μ s
  | [], s, s', _, _, h => by
      cases h
      exact Nat.le_refl _
  | e :: es, s, s', hok, hs, h => by
      obtain ⟨m, hm, hrest⟩ := run_cons_eq_some.mp h
      obtain ⟨hP, hpaid⟩ := hstep s e m hok.1 hs hm
      have htail := run_total_le hstep (hok.2 m hm) hP hrest
      rw [total, hm]
      show μ s' + (cost s e m + total step cost m es) ≤ μ s
      omega

end Machine
