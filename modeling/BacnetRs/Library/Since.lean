/-
  BacnetRs.Library.Since — what has held since.

  A history is a list of moments, the newest first.  `Since P Q` says that
  there was a moment of which `Q` held, with the past it had, and that `P` has
  held of every moment after it: the temporal operator of that name.

    * `Since.mono`       — of weaker predicates it says less.
    * `Since.latest`     — the moment may be taken to be the latest of its kind.
    * `since_exists`     — one of several held since exactly when some one did.
    * `since_iff_split`  — the moment itself, and the two parts of the history.
    * `Since.of_forall`  — what the past of the moment and the moments after it
                           all meet, the history meets.
-/
import Mathlib.Data.List.Basic

namespace History

variable {α : Type*} {P P' : α → Prop} {Q Q' : α → List α → Prop} {history : List α}

/-- `Q` held at some moment, and `P` at every moment after it. -/
def Since (P : α → Prop) (Q : α → List α → Prop) : List α → Prop
  | [] => False
  | moment :: past => Q moment past ∨ (P moment ∧ Since P Q past)

theorem Since.here {moment : α} {past : List α} (h : Q moment past) :
    Since P Q (moment :: past) := .inl h

theorem Since.later {moment : α} {past : List α} (hP : P moment) (h : Since P Q past) :
    Since P Q (moment :: past) := .inr ⟨hP, h⟩

theorem Since.mono (hP : ∀ moment, P moment → P' moment)
    (hQ : ∀ moment past, Q moment past → Q' moment past) (h : Since P Q history) :
    Since P' Q' history := by
  induction history with
  | nil => exact h
  | cons moment past ih =>
      rcases h with hhere | ⟨hmoment, hpast⟩
      · exact .inl (hQ moment past hhere)
      · exact .inr ⟨hP moment hmoment, ih hpast⟩

/-- The moment may be taken to be the latest of its kind. -/
theorem Since.latest {Q : α → Prop} (h : Since P (fun moment _ => Q moment) history) :
    Since (fun moment => P moment ∧ ¬ Q moment) (fun moment _ => Q moment) history := by
  induction history with
  | nil => exact h
  | cons moment past ih =>
      by_cases hmoment : Q moment
      · exact .here hmoment
      · rcases h with hhere | ⟨hP, hpast⟩
        · exact absurd hhere hmoment
        · exact .later ⟨hP, hmoment⟩ (ih hpast)

/-- One of several things held since exactly when some one of them did. -/
theorem since_exists {β : Type*} {R : β → α → List α → Prop} :
    Since P (fun moment past => ∃ b, R b moment past) history ↔ ∃ b, Since P (R b) history := by
  induction history with
  | nil =>
      constructor
      · intro h
        exact h.elim
      · rintro ⟨_, h⟩
        exact h
  | cons moment past ih =>
      show (∃ b, R b moment past) ∨ (P moment ∧ _) ↔ ∃ b, R b moment past ∨ (P moment ∧ _)
      rw [ih, exists_or, exists_and_left]

/-- The moment, what came after it and what was before it. -/
theorem since_iff_split : Since P Q history ↔ ∃ after moment past,
    history = after ++ moment :: past ∧ Q moment past ∧ ∀ m ∈ after, P m := by
  induction history with
  | nil =>
      constructor
      · intro h
        exact h.elim
      · rintro ⟨after, moment, past, heq, _⟩
        simp at heq
  | cons first rest ih =>
      constructor
      · rintro (hhere | ⟨hfirst, hrest⟩)
        · exact ⟨[], first, rest, rfl, hhere, by simp⟩
        · obtain ⟨after, moment, past, rfl, hQ, hP⟩ := ih.mp hrest
          exact ⟨first :: after, moment, past, rfl, hQ, List.forall_mem_cons.mpr ⟨hfirst, hP⟩⟩
      · rintro ⟨after, moment, past, heq, hQ, hP⟩
        cases after with
        | nil =>
            cases heq
            exact .here hQ
        | cons m after =>
            cases heq
            obtain ⟨hm, hafter⟩ := List.forall_mem_cons.mp hP
            exact .later hm (ih.mpr ⟨after, moment, past, rfl, hQ, hafter⟩)

/-- What holds of the moment with its past, and of every moment after it, holds of all. -/
theorem Since.of_forall {R : α → Prop} (hP : ∀ moment, P moment → R moment)
    (hQ : ∀ moment past, Q moment past → ∀ m ∈ moment :: past, R m) (h : Since P Q history) :
    ∀ m ∈ history, R m := by
  obtain ⟨after, moment, past, rfl, hmoment, hafter⟩ := since_iff_split.mp h
  intro m hm
  rcases List.mem_append.mp hm with hm | hm
  · exact hP m (hafter m hm)
  · exact hQ moment past hmoment m hm

end History
