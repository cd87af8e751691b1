/-
  BacnetRs.Library.Ascending — lists in ascending order of a key.

  An ordered set or map holds its elements once for each key and hands them out
  in the order of the keys.  It is a list here, with the operations that keep
  it in order:

    * `ascending_insert`, `mem_insert` — an element goes in at its key, in place of
                          what was there.
    * `toList_find?`    — a search by key finds what has the key.
    * `takeWhile_dropWhile` — what is read from the first element of a group on, and up
                          to the last, is the group.
    * `ascending_mergeSort`, `Ascending.ext` — what a sort gives, and that nothing else
                          in order has the same elements.
-/
import Mathlib.Order.Lattice
import Mathlib.Data.List.Basic
import Mathlib.Data.List.Destutter
import Mathlib.Data.List.Sort

namespace Ordered

variable {α κ : Type*} [LinearOrder κ] {key : α → κ}

/-- In ascending order of `key`, with no key twice. -/
def Ascending (key : α → κ) (l : List α) : Prop := l.Pairwise (fun a b => key a < key b)

/-- Put an element at its key, in place of what is there. -/
def insert (key : α → κ) (a : α) : List α → List α
  | [] => [a]
  | b :: rest =>
      if key a < key b then a :: b :: rest
      else if key b < key a then b :: insert key a rest
      else a :: rest

/-! ## §1. Insertion -/

/-- What is inserted is there, and what was there at other keys stays. -/
theorem mem_insert {a b : α} {l : List α} (h : Ascending key l) :
    b ∈ insert key a l ↔ b = a ∨ b ∈ l ∧ key b ≠ key a := by
  induction l with
  | nil =>
      show b ∈ [a] ↔ _
      simp
  | cons c rest ih =>
      obtain ⟨hfirst, hrest⟩ := List.pairwise_cons.mp h
      unfold insert
      by_cases hbefore : key a < key c
      · rw [if_pos hbefore, List.mem_cons]
        apply or_congr_right
        -- Everything in the list has a greater key.
        refine (and_iff_left_of_imp (fun hmem => ?_)).symm
        rcases List.mem_cons.mp hmem with rfl | hlater
        · exact ne_of_gt hbefore
        · exact ne_of_gt (lt_trans hbefore (hfirst b hlater))
      · rw [if_neg hbefore]
        by_cases hafter : key c < key a
        · rw [if_pos hafter, List.mem_cons, ih hrest, List.mem_cons]
          constructor
          · rintro (rfl | heq | ⟨hmem, hne⟩)
            · exact .inr ⟨.inl rfl, ne_of_lt hafter⟩
            · exact .inl heq
            · exact .inr ⟨.inr hmem, hne⟩
          · rintro (heq | ⟨rfl | hmem, hne⟩)
            · exact .inr (.inl heq)
            · exact .inl rfl
            · exact .inr (.inr ⟨hmem, hne⟩)
        · have hsame : key c = key a :=
            le_antisymm (not_lt.mp hbefore) (not_lt.mp hafter)
          rw [if_neg hafter, List.mem_cons, List.mem_cons]
          constructor
          · rintro (heq | hmem)
            · exact .inl heq
            · exact .inr ⟨.inr hmem, ne_of_gt (hsame ▸ hfirst b hmem)⟩
          · rintro (heq | ⟨rfl | hmem, hne⟩)
            · exact .inl heq
            · exact absurd hsame hne
            · exact .inr hmem

theorem ascending_insert {a : α} {l : List α} (h : Ascending key l) :
    Ascending key (insert key a l) := by
  induction l with
  | nil => exact List.pairwise_singleton _ a
  | cons c rest ih =>
      obtain ⟨hfirst, hrest⟩ := List.pairwise_cons.mp h
      unfold insert
      by_cases hbefore : key a < key c
      · rw [if_pos hbefore]
        apply List.pairwise_cons.mpr ⟨_, h⟩
        intro b hmem
        rcases List.mem_cons.mp hmem with rfl | hlater
        · exact hbefore
        · exact lt_trans hbefore (hfirst b hlater)
      · rw [if_neg hbefore]
        by_cases hafter : key c < key a
        · rw [if_pos hafter]
          apply List.pairwise_cons.mpr ⟨_, ih hrest⟩
          intro b hmem
          rcases (mem_insert hrest).mp hmem with rfl | ⟨hlater, _⟩
          · exact hafter
          · exact hfirst b hlater
        · have hsame : key c = key a :=
            le_antisymm (not_lt.mp hbefore) (not_lt.mp hafter)
          rw [if_neg hafter]
          apply List.pairwise_cons.mpr ⟨_, hrest⟩
          intro b hmem
          rw [← hsame]
          exact hfirst b hmem

theorem ascending_filter (p : α → Bool) {l : List α} (h : Ascending key l) :
    Ascending key (l.filter p) :=
  h.filter p

/-! ## §2. Searches -/

/-- What a search by key finds: the element that has the key, if there is one. -/
theorem toList_find? {p : α → Bool} {l : List α} (h : Ascending key l)
    (hp : ∀ a ∈ l, ∀ b ∈ l, p a = true → p b = true → key a = key b) :
    (l.find? p).toList = l.filter p := by
  induction l with
  | nil => rfl
  | cons a rest ih =>
      obtain ⟨hfirst, hrest⟩ := List.pairwise_cons.mp h
      cases ha : p a with
      | false =>
          rw [List.find?_cons_of_neg (by simp [ha]), List.filter_cons_of_neg (by simp [ha])]
          apply ih hrest
          intro b hb c hc
          exact hp b (List.mem_cons_of_mem _ hb) c (List.mem_cons_of_mem _ hc)
      | true =>
          rw [List.find?_cons_of_pos ha, List.filter_cons_of_pos ha]
          have hnone : rest.filter p = [] := by
            apply List.filter_eq_nil_iff.mpr
            intro b hb hpb
            have hkey := hp a List.mem_cons_self b (List.mem_cons_of_mem _ hb) ha hpb
            exact absurd hkey (ne_of_lt (hfirst b hb))
          rw [hnone]
          rfl

/-! ## §3. Groups -/

/-- **A group is read from its first element to its last.**  In a list in which `rank` does
not go down, what has the rank `c` is what comes after the lower ranks, for as long as the
rank is `c`. -/
theorem takeWhile_dropWhile {rank : α → κ} (c : κ) {l : List α}
    (h : l.Pairwise (fun a b => rank a ≤ rank b)) :
    (l.dropWhile (fun a => decide (rank a < c))).takeWhile (fun a => decide (rank a = c))
      = l.filter (fun a => decide (rank a = c)) := by
  induction l with
  | nil => rfl
  | cons a rest ih =>
      obtain ⟨hfirst, hrest⟩ := List.pairwise_cons.mp h
      by_cases hbelow : rank a < c
      · rw [List.dropWhile_cons_of_pos (by simpa using hbelow), ih hrest,
          List.filter_cons_of_neg (by simpa using ne_of_lt hbelow)]
      · have hstart : rest.dropWhile (fun b => decide (rank b < c)) = rest := by
          -- The ranks only go up from here.
          cases rest with
          | nil => rfl
          | cons b later =>
              apply List.dropWhile_cons_of_neg
              have hle := hfirst b List.mem_cons_self
              simpa using le_trans (not_lt.mp hbelow) hle
        rw [List.dropWhile_cons_of_neg (by simpa using not_lt.mp hbelow)]
        by_cases hgroup : rank a = c
        · rw [List.takeWhile_cons_of_pos (by simpa using hgroup),
            List.filter_cons_of_pos (by simpa using hgroup), ← ih hrest, hstart]
        · rw [List.takeWhile_cons_of_neg (by simpa using hgroup),
            List.filter_cons_of_neg (by simpa using hgroup)]
          symm
          apply List.filter_eq_nil_iff.mpr
          intro b hb
          have habove : c < rank a := lt_of_le_of_ne (not_lt.mp hbelow) (Ne.symm hgroup)
          simpa using ne_of_gt (lt_of_lt_of_le habove (hfirst b hb))

/-! ## §4. Sorts -/

/-- A sort puts elements with different keys in order. -/
theorem ascending_mergeSort {l : List α} (h : (l.map key).Nodup) :
    Ascending key (l.mergeSort (fun a b => decide (key a ≤ key b))) := by
  have hsorted : (l.mergeSort (fun a b => decide (key a ≤ key b))).Pairwise
      (fun a b => key a ≤ key b) := by
    refine (List.pairwise_mergeSort ?_ ?_ l).imp (fun hle => of_decide_eq_true hle)
    · intro a b c hab hbc
      exact decide_eq_true (le_trans (of_decide_eq_true hab) (of_decide_eq_true hbc))
    · intro a b
      simpa using le_total (key a) (key b)
  have hperm := List.mergeSort_perm l (fun a b => decide (key a ≤ key b))
  have hnodup := ((hperm.map key).nodup_iff).mpr h
  unfold Ascending
  refine (hsorted.and (List.pairwise_map.mp hnodup)).imp ?_
  intro a b hab
  exact lt_of_le_of_ne hab.1 hab.2

/-- What is left of a sorted list when the same elements in a row are taken out. -/
theorem ascending_destutter [DecidableEq α] (hkey : Function.Injective key) {l : List α}
    (h : l.Pairwise (fun a b => key a ≤ key b)) : Ascending key (l.destutter (· ≠ ·)) := by
  have hsorted := h.sublist (List.destutter_sublist (· ≠ ·) l)
  have hstrict : (l.destutter (· ≠ ·)).IsChain (fun a b => key a < key b) := by
    refine List.isChain_iff_getElem.mpr (fun i hi => ?_)
    have hle := List.pairwise_iff_getElem.mp hsorted i (i + 1) (by omega) hi (Nat.lt_succ_self i)
    have hne := List.isChain_iff_getElem.mp (List.isChain_destutter (· ≠ ·) l) i hi
    exact lt_of_le_of_ne hle (fun heq => hne (hkey heq))
  have : Trans (fun a b : α => key a < key b) (fun a b => key a < key b)
      (fun a b => key a < key b) := ⟨lt_trans⟩
  exact hstrict.pairwise

/-- **The elements determine a list in order.** -/
theorem Ascending.ext {l l' : List α} (h : Ascending key l) (h' : Ascending key l')
    (hmem : ∀ a, a ∈ l ↔ a ∈ l') : l = l' := by
  have : Std.Irrefl (fun a b : α => key a < key b) := ⟨fun a => lt_irrefl (key a)⟩
  have : Std.Antisymm (fun a b : α => key a < key b) := ⟨fun _ _ hab hba =>
    absurd hba (lt_asymm hab)⟩
  exact List.Pairwise.eq_of_mem_iff h h' (fun {a} => hmem a)

theorem Ascending.nodup {l : List α} (h : Ascending key l) : (l.map key).Nodup :=
  List.pairwise_map.mpr (h.imp ne_of_lt)

end Ordered
