/-
  BacnetRs.Library.Gather — one element for each key.

  What comes in is gathered by a key: an element whose key is there already is
  joined into the one that has it, and any other is put last.  The keys come in
  the order of their first elements, each once; and what is gathered at a key is
  the join of all elements that have it, from the first one on.

    * `add`, `gather`   — one element more, and a list of them.
    * `nodup_gather`    — each key once.
    * `find?_gather`, `mem_gather` — what is gathered at a key.
-/
import Mathlib.Data.List.Basic
import Mathlib.Data.List.Nodup
import Mathlib.Data.List.Induction

namespace Gather

variable {α κ : Type*} [DecidableEq κ]

/-- Join an element into the first that has its key, or put it last. -/
def add (key : α → κ) (join : α → α → α) (a : α) : List α → List α
  | [] => [a]
  | b :: l => if key b = key a then join b a :: l else b :: add key join a l

/-- One element for each key. -/
def gather (key : α → κ) (join : α → α → α) (l : List α) : List α :=
  l.foldl (fun gathered a => add key join a gathered) []

/-- The join of all elements of a list, from the first one on. -/
def total (join : α → α → α) : List α → Option α
  | [] => none
  | a :: l => some (l.foldl join a)

variable {key : α → κ} {join : α → α → α}

theorem gather_append_singleton (l : List α) (a : α) :
    gather key join (l ++ [a]) = add key join a (gather key join l) := by
  unfold gather
  rw [List.foldl_append]
  rfl

theorem total_append_singleton (l : List α) (a : α) :
    total join (l ++ [a]) = some ((total join l).elim a (fun b => join b a)) := by
  cases l with
  | nil => rfl
  | cons b l =>
      show some ((l ++ [a]).foldl join b) = some (join (l.foldl join b) a)
      rw [List.foldl_append]
      rfl

/-! ## §1. Keys -/

section Keys

variable (hjoin : ∀ a b, key (join a b) = key a)

include hjoin

/-- A key that is there stays where it is, and a new one is put last. -/
theorem map_add (a : α) (l : List α) :
    (add key join a l).map key
      = if key a ∈ l.map key then l.map key else l.map key ++ [key a] := by
  induction l with
  | nil => rfl
  | cons b l ih =>
      unfold add
      by_cases hsame : key b = key a
      · rw [if_pos hsame, List.map_cons, hjoin, if_pos]
        · rfl
        · rw [List.map_cons, hsame]
          exact List.mem_cons_self
      · have hmem : key a ∈ (b :: l).map key ↔ key a ∈ l.map key := by
          rw [List.map_cons, List.mem_cons]
          exact or_iff_right (fun heq => hsame heq.symm)
        rw [if_neg hsame, List.map_cons, ih]
        by_cases hthere : key a ∈ l.map key
        · rw [if_pos hthere, if_pos (hmem.mpr hthere), List.map_cons]
        · rw [if_neg hthere, if_neg (fun h => hthere (hmem.mp h)), List.map_cons,
            List.cons_append]

theorem nodup_add (a : α) {l : List α} (h : (l.map key).Nodup) :
    ((add key join a l).map key).Nodup := by
  rw [map_add hjoin]
  split
  · exact h
  · next hnew =>
      refine List.nodup_append.mpr ⟨h, List.nodup_singleton _, ?_⟩
      intro k hk other hother heq
      rw [List.mem_singleton.mp hother] at heq
      exact hnew (heq ▸ hk)

/-- **Each key once.** -/
theorem nodup_gather (l : List α) : ((gather key join l).map key).Nodup := by
  induction l using List.reverseRecOn with
  | nil => exact List.nodup_nil
  | append_singleton l a ih =>
      rw [gather_append_singleton]
      exact nodup_add hjoin a ih

/-! ## §2. What is gathered at a key -/

/-- What is at a key, once an element is joined into it. -/
theorem find?_add (a : α) (l : List α) (k : κ) :
    (add key join a l).find? (fun b => decide (key b = k))
      = if key a = k then some ((l.find? (fun b => decide (key b = k))).elim a (fun b => join b a))
        else l.find? (fun b => decide (key b = k)) := by
  induction l with
  | nil =>
      by_cases hk : key a = k
      · simp [add, hk]
      · simp [add, hk]
  | cons b l ih =>
      unfold add
      by_cases hsame : key b = key a
      · rw [if_pos hsame, List.find?_cons, List.find?_cons, hjoin, hsame]
        by_cases hk : key a = k
        · simp [hk]
        · simp [hk]
      · rw [if_neg hsame, List.find?_cons, List.find?_cons, ih]
        by_cases hb : key b = k
        · have ha : ¬ key a = k := fun heq => hsame (hb.trans heq.symm)
          simp [hb, ha]
        · simp [hb]

/-- **What is gathered at a key** is the join of all that have it. -/
theorem find?_gather (l : List α) (k : κ) :
    (gather key join l).find? (fun b => decide (key b = k))
      = total join (l.filter (fun b => decide (key b = k))) := by
  induction l using List.reverseRecOn with
  | nil => rfl
  | append_singleton l a ih =>
      rw [gather_append_singleton, find?_add hjoin, ih, List.filter_append]
      by_cases hk : key a = k
      · have hlast : [a].filter (fun b => decide (key b = k)) = [a] := by simp [hk]
        rw [if_pos hk, hlast, total_append_singleton]
      · have hlast : [a].filter (fun b => decide (key b = k)) = [] := by simp [hk]
        rw [if_neg hk, hlast, List.append_nil]

/-- The keys that are gathered are those that came in. -/
theorem key_mem_gather {l : List α} {k : κ} :
    (∃ a ∈ gather key join l, key a = k) ↔ ∃ a ∈ l, key a = k := by
  have hmem : ∀ l : List α, (∃ a ∈ l, key a = k) ↔ k ∈ l.map key := fun l => List.mem_map.symm
  rw [hmem, hmem]
  induction l using List.reverseRecOn with
  | nil => exact Iff.rfl
  | append_singleton l a ih =>
      rw [gather_append_singleton, map_add hjoin, List.map_append, List.mem_append,
        List.map_singleton, List.mem_singleton]
      refine Iff.trans ?_ (or_congr_left ih)
      split
      next hthere =>
        refine (or_iff_left_of_imp ?_).symm
        rintro rfl
        exact hthere
      · rw [List.mem_append, List.mem_singleton]

/-- Where each key is once, an element is what is found at its key. -/
theorem mem_gather {l : List α} {a : α} :
    a ∈ gather key join l ↔ total join (l.filter (fun b => decide (key b = key a))) = some a := by
  rw [← find?_gather hjoin]
  constructor
  · intro hmem
    obtain ⟨before, after, hsplit⟩ := List.append_of_mem hmem
    have hnodup := nodup_gather hjoin l
    rw [hsplit] at hnodup ⊢
    rw [List.map_append, List.map_cons, List.nodup_append] at hnodup
    rw [List.find?_append, List.find?_eq_none.mpr]
    · simp
    · intro b hb heq
      exact hnodup.2.2 (key b) (List.mem_map_of_mem hb) (key a) List.mem_cons_self
        (of_decide_eq_true heq)
  · exact List.mem_of_find?_eq_some

end Keys

end Gather
