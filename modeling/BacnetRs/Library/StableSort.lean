/-
  BacnetRs.Library.StableSort — sorting what comes in any order.

  A stable sort puts elements in order and leaves those that tie as they came.
  What is read off the result depends on the order they came in exactly where
  something is read off elements that tie.

    * `mergeSort_cons_eq`   — where the first element goes.
    * `mergeSort_swap`      — two elements that tie, in either order.
    * `filter_mergeSort_eq` — elements that do not tie come out in one order.
    * `reads_alike_iff`     — when what is read is the same for every order.
    * `selected_iff`        — sorting is to take the first of the least, again
                              and again.
-/
import Mathlib.Data.List.Basic
import Mathlib.Data.List.Perm.Basic
import Mathlib.Data.List.Sort

namespace StableSort

variable {α β : Type*} {le : α → α → Bool}

section Sorting

variable (trans : ∀ a b c, le a b → le b c → le a c) (total : ∀ a b, le a b || le b a)

include trans total

/-- The first element goes after all that are less, and before all else. -/
theorem mergeSort_cons_eq (a : α) (l : List α) :
    (a :: l).mergeSort le
      = (l.mergeSort le).takeWhile (fun b => !le a b)
        ++ a :: (l.mergeSort le).dropWhile (fun b => !le a b) := by
  obtain ⟨less, others, hsorted, hrest, hless⟩ := List.mergeSort_cons trans total a l
  have hothers : others.dropWhile (fun b => !le a b) = others := by
    have hordered := List.pairwise_mergeSort trans total (a :: l)
    rw [hsorted] at hordered
    cases others with
    | nil => rfl
    | cons b rest =>
        have hab := (List.pairwise_cons.mp (List.pairwise_append.mp hordered).2.1).1 b
          List.mem_cons_self
        exact List.dropWhile_cons_of_neg (by simp [hab])
  have htake : others.takeWhile (fun b => !le a b) = [] := by
    have hsplit := List.takeWhile_append_dropWhile (p := fun b => !le a b) (l := others)
    rw [hothers] at hsplit
    exact List.append_left_eq_self.mp hsplit
  rw [hsorted, hrest, List.takeWhile_append_of_pos hless, List.dropWhile_append_of_pos hless,
    htake, hothers, List.append_nil]

/-- **Two elements that tie stay in the order they came in**, and nothing else changes. -/
theorem mergeSort_swap {x y : α} (hxy : le x y = true) (hyx : le y x = true) (l : List α) :
    ∃ before after, (x :: y :: l).mergeSort le = before ++ x :: y :: after
      ∧ (y :: x :: l).mergeSort le = before ++ y :: x :: after := by
  have hsame : ∀ b, le x b = le y b := by
    intro b
    rw [Bool.eq_iff_iff]
    exact ⟨trans y x b hyx, trans x y b hxy⟩
  have hfun : (fun b => !le x b) = (fun b => !le y b) := by
    funext b
    rw [hsame b]
  -- The second of the two stops the search for where the first goes.
  have hstop : ∀ {a b : α} {p : α → Bool} (others : List α), (∀ c, p c = !le a c) →
      le a b = true →
      ((others.takeWhile p) ++ b :: others.dropWhile p).takeWhile p = others.takeWhile p
        ∧ ((others.takeWhile p) ++ b :: others.dropWhile p).dropWhile p
          = b :: others.dropWhile p := by
    intro a b p others hp hab
    have hall : ∀ c ∈ others.takeWhile p, p c = true := List.all_eq_true.mp List.all_takeWhile
    have hb : ¬ p b = true := by simp [hp b, hab]
    rw [List.takeWhile_append_of_pos hall, List.dropWhile_append_of_pos hall,
      List.takeWhile_cons_of_neg hb, List.dropWhile_cons_of_neg hb, List.append_nil]
    exact ⟨rfl, rfl⟩
  refine ⟨(l.mergeSort le).takeWhile (fun b => !le y b),
    (l.mergeSort le).dropWhile (fun b => !le y b), ?_, ?_⟩
  · obtain ⟨htake, hdrop⟩ := hstop (a := x) (b := y) (p := fun b => !le y b) (l.mergeSort le)
      (fun c => by rw [hsame c]) hxy
    rw [mergeSort_cons_eq trans total x (y :: l), mergeSort_cons_eq trans total y l, hfun, htake,
      hdrop]
  · obtain ⟨htake, hdrop⟩ := hstop (a := y) (b := x) (p := fun b => !le y b) (l.mergeSort le)
      (fun c => rfl) hyx
    rw [mergeSort_cons_eq trans total y (x :: l), mergeSort_cons_eq trans total x l, hfun, htake,
      hdrop]

/-- Elements that do not tie come out in one order, whatever order they came in. -/
theorem filter_mergeSort_eq {p : α → Bool} {xs ys : List α} (hperm : xs.Perm ys)
    (hties : ∀ x ∈ xs, ∀ y ∈ xs, p x = true → p y = true → le x y = true → le y x = true → x = y) :
    (xs.mergeSort le).filter p = (ys.mergeSort le).filter p := by
  have hsorted : ∀ zs : List α, ((zs.mergeSort le).filter p).Pairwise (fun a b => le a b = true) :=
    fun zs => (List.pairwise_mergeSort trans total zs).sublist List.filter_sublist
  have hsame : ((xs.mergeSort le).filter p).Perm ((ys.mergeSort le).filter p) :=
    (((List.mergeSort_perm xs le).trans hperm).trans (List.mergeSort_perm ys le).symm).filter p
  apply hsame.eq_of_pairwise ?_ (hsorted xs) (hsorted ys)
  intro x y hx hy hxy hyx
  have hmem : ∀ {z}, z ∈ (xs.mergeSort le).filter p → z ∈ xs ∧ p z = true := by
    intro z hz
    obtain ⟨hmem, hp⟩ := List.mem_filter.mp hz
    exact ⟨List.mem_mergeSort.mp hmem, hp⟩
  obtain ⟨hxmem, hxp⟩ := hmem hx
  obtain ⟨hymem, hyp⟩ := hmem (hsame.mem_iff.mpr hy)
  exact hties x hxmem y hymem hxp hyp hxy hyx

/-- **What is read is the same for every order exactly when nothing is read off two elements
that tie**, so long as what is read tells such elements apart. -/
theorem reads_alike_iff [DecidableEq α] {f : α → Option β} {zs : List α}
    (hf : ∀ x ∈ zs, ∀ y ∈ zs, le x y = true → le y x = true → (f x).isSome = true →
      f x = f y → x = y) :
    (∀ xs : List α, xs.Perm zs → (xs.mergeSort le).filterMap f = (zs.mergeSort le).filterMap f)
      ↔ ∀ x ∈ zs, ∀ y ∈ zs, (f x).isSome = true → (f y).isSome = true → le x y = true →
          le y x = true → x = y := by
  constructor
  -- Two that tie stay in the order they came in, so swapping them shows.
  · intro halike x hx y hy hfx hfy hxy hyx
    by_contra hne
    have hlater : y ∈ zs.erase x := (List.mem_erase_of_ne (Ne.symm hne)).mpr hy
    have hfirst : (x :: y :: (zs.erase x).erase y).Perm zs :=
      ((List.perm_cons_erase hlater).symm.cons x).trans (List.perm_cons_erase hx).symm
    have hsecond : (y :: x :: (zs.erase x).erase y).Perm zs := (List.Perm.swap x y _).trans hfirst
    obtain ⟨before, after, hin, hout⟩ := mergeSort_swap trans total hxy hyx ((zs.erase x).erase y)
    have hread := (halike _ hfirst).trans (halike _ hsecond).symm
    obtain ⟨a, ha⟩ := Option.isSome_iff_exists.mp hfx
    obtain ⟨b, hb⟩ := Option.isSome_iff_exists.mp hfy
    rw [hin, hout, List.filterMap_append, List.filterMap_append, List.append_cancel_left_eq,
      List.filterMap_cons_some ha, List.filterMap_cons_some hb, List.filterMap_cons_some hb,
      List.filterMap_cons_some ha] at hread
    apply hne
    apply hf x hx y hy hxy hyx hfx
    rw [ha, hb, (List.cons.inj hread).1]
  -- Where no two that are read tie, sorting leaves them one order only.
  · intro hties xs hperm
    have hread : ∀ l : List α, l.filterMap f = (l.filter (fun x => (f x).isSome)).filterMap f := by
      intro l
      rw [List.filterMap_filter]
      apply List.filterMap_congr
      intro x _
      cases f x <;> rfl
    rw [hread, hread (zs.mergeSort le)]
    congr 1
    apply filter_mergeSort_eq trans total hperm
    intro x hx y hy
    exact hties x (hperm.mem_iff.mp hx) y (hperm.mem_iff.mp hy)

end Sorting

/-! ## Taking the least first -/

section Selection

variable {r : α → α → Prop}

/-- What is left of the first list when the least, of those that tie the first, is taken again
and again. -/
inductive Selected (r : α → α → Prop) : List α → List α → Prop
  | nil : Selected r [] []
  | next {before after rest : List α} {a : α} (hbefore : ∀ b ∈ before, ¬ r b a)
      (hafter : ∀ b ∈ after, r a b) (h : Selected r (before ++ after) rest) :
      Selected r (before ++ a :: after) (a :: rest)

/-- Every list that is not empty has a first of the least. -/
theorem exists_first_least (trans : ∀ a b c, r a b → r b c → r a c)
    (total : ∀ a b, r a b ∨ r b a) {xs : List α} (hne : xs ≠ []) :
    ∃ before a after, xs = before ++ a :: after ∧ (∀ b ∈ before, ¬ r b a) ∧
      ∀ b ∈ after, r a b := by
  induction xs with
  | nil => exact absurd rfl hne
  | cons x xs ih =>
      cases hxs : xs with
      | nil => exact ⟨[], x, [], rfl, fun _ h => absurd h List.not_mem_nil, by simp⟩
      | cons y ys =>
          obtain ⟨before, a, after, hsplit, hbefore, hafter⟩ := ih (by simp [hxs])
          rw [← hxs]
          by_cases hle : r x a
          · -- Nothing after is less than the first.
            refine ⟨[], x, xs, rfl, fun _ h => absurd h List.not_mem_nil, ?_⟩
            intro b hb
            rw [hsplit] at hb
            rcases List.mem_append.mp hb with hb | hb
            · exact trans _ _ _ hle ((total a b).resolve_right (hbefore b hb))
            · rcases List.mem_cons.mp hb with rfl | hb
              · exact hle
              · exact trans _ _ _ hle (hafter b hb)
          · refine ⟨x :: before, a, after, by rw [hsplit]; rfl, ?_, hafter⟩
            intro b hb
            rcases List.mem_cons.mp hb with rfl | hb
            · exact hle
            · exact hbefore b hb

variable [DecidableRel r]

/-- The first of the least is the first of the sorted list. -/
theorem insertionSort_of_least {before after : List α} {a : α} (hbefore : ∀ b ∈ before, ¬ r b a)
    (hafter : ∀ b ∈ after, r a b) :
    (before ++ a :: after).insertionSort r = a :: (before ++ after).insertionSort r := by
  induction before with
  | nil =>
      show List.orderedInsert r a (after.insertionSort r) = a :: after.insertionSort r
      cases hsorted : after.insertionSort r with
      | nil => rfl
      | cons b rest =>
          have hmem : b ∈ after := by
            rw [← List.mem_insertionSort r, hsorted]
            exact List.mem_cons_self
          exact if_pos (hafter b hmem)
  | cons b before ih =>
      show List.orderedInsert r b ((before ++ a :: after).insertionSort r) = _
      rw [ih (fun c hc => hbefore c (List.mem_cons_of_mem _ hc))]
      exact if_neg (hbefore b List.mem_cons_self)

/-- **Sorting is to take the first of the least, again and again.** -/
theorem selected_iff (trans : ∀ a b c, r a b → r b c → r a c) (total : ∀ a b, r a b ∨ r b a)
    {xs ys : List α} : Selected r xs ys ↔ ys = xs.insertionSort r := by
  constructor
  · intro h
    induction h with
    | nil => rfl
    | next hbefore hafter _ ih => rw [insertionSort_of_least hbefore hafter, ih]
  · rintro rfl
    induction hlength : xs.length generalizing xs with
    | zero =>
        rw [List.length_eq_zero_iff.mp hlength]
        exact .nil
    | succ n ih =>
        have hne : xs ≠ [] := by
          rintro rfl
          cases hlength
        obtain ⟨before, a, after, rfl, hbefore, hafter⟩ := exists_first_least trans total hne
        rw [insertionSort_of_least hbefore hafter]
        refine .next hbefore hafter (ih ?_)
        rw [List.length_append, List.length_cons] at hlength
        rw [List.length_append]
        omega

end Selection

end StableSort
