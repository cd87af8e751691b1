/-
  BacnetRs.Library.Tagged — lists whose entries say what they are about.

  A list of entries of many subjects, each entry tagged with its subject's
  number.  What the list says of one subject (`about`) and what it says with
  the tags left out (`untag`) go their own ways through every operation that
  treats an entry by its content:

    * `about_append`, `about_expand`, `about_filter`
                          — each subject's part is treated on its own.
    * `untag_expand`, `untag_filter` — and so is the list without its tags.
    * `about_eraseP`      — erasing the first entry that satisfies a predicate
                            is erasing it from its own subject's part.
-/
import Mathlib.Data.List.Basic

/-- Entries, each with the number of its subject. -/
abbrev Tagged (α : Type*) := List (Nat × α)

namespace Tagged

variable {α β : Type*}

/-- What is said of the subject `n`. -/
def about (n : Nat) (xs : Tagged α) : List α :=
  (xs.filter (fun x => x.1 == n)).map Prod.snd

/-- What is said, whoever it is about. -/
def untag (xs : Tagged α) : List α := xs.map Prod.snd

/-- Put entries about the same subject in place of each entry. -/
def expand (f : α → List β) (xs : Tagged α) : Tagged β :=
  xs.flatMap (fun x => (f x.2).map (Prod.mk x.1))

/-! ## §1. One subject's part -/

@[simp] theorem about_nil (n : Nat) : about n ([] : Tagged α) = [] := rfl

@[simp] theorem about_append (n : Nat) (xs ys : Tagged α) :
    about n (xs ++ ys) = about n xs ++ about n ys := by
  simp [about]

theorem about_cons (n : Nat) (x : Nat × α) (xs : Tagged α) :
    about n (x :: xs) = (if x.1 = n then [x.2] else []) ++ about n xs := by
  by_cases h : x.1 = n <;> simp [about, h]

theorem about_same (n : Nat) (entries : List α) : about n (entries.map (Prod.mk n)) = entries := by
  induction entries with
  | nil => rfl
  | cons entry rest ih => simpa [about_cons] using ih

theorem about_other {m n : Nat} (h : m ≠ n) (entries : List α) :
    about n (entries.map (Prod.mk m)) = [] := by
  induction entries with
  | nil => rfl
  | cons entry rest ih => simpa [about_cons, h] using ih

/-- **Each subject's part expands on its own.** -/
@[simp] theorem about_expand (n : Nat) (f : α → List β) (xs : Tagged α) :
    about n (expand f xs) = (about n xs).flatMap f := by
  induction xs with
  | nil => rfl
  | cons x xs ih =>
      show about n ((f x.2).map (Prod.mk x.1) ++ expand f xs) = _
      rw [about_append, ih, about_cons, List.flatMap_append]
      by_cases h : x.1 = n
      · rw [if_pos h, ← h, about_same]
        simp
      · rw [if_neg h, about_other h]
        rfl

@[simp] theorem about_filter (n : Nat) (p : α → Bool) (xs : Tagged α) :
    about n (xs.filter (fun x => p x.2)) = (about n xs).filter p := by
  induction xs with
  | nil => rfl
  | cons x xs ih =>
      rw [about_cons, List.filter_append, ← ih]
      by_cases hp : p x.2 = true
      · rw [List.filter_cons, if_pos hp, about_cons]
        by_cases h : x.1 = n <;> simp [h, hp]
      · rw [List.filter_cons, if_neg hp]
        by_cases h : x.1 = n <;> simp [h, hp]

theorem mem_about {n : Nat} {xs : Tagged α} {a : α} : a ∈ about n xs ↔ (n, a) ∈ xs := by
  simp [about]

/-- **Erasing the first entry that satisfies a predicate** is erasing it from its own
subject's part, and from no other. -/
theorem about_eraseP {p : α → Bool} {xs : Tagged α} {m : Nat} {a : α}
    (h : xs.find? (fun x => p x.2) = some (m, a)) (n : Nat) :
    about n (xs.eraseP (fun x => p x.2))
      = if n = m then (about n xs).eraseP p else about n xs := by
  induction xs with
  | nil => cases h
  | cons x xs ih =>
      by_cases hp : p x.2 = true
      · simp only [List.find?_cons, hp] at h
        cases h
        simp only [List.eraseP_cons, hp, cond_true, about_cons]
        by_cases hn : n = m
        · simp [hn, hp]
        · simp [hn, Ne.symm hn]
      · simp only [List.find?_cons, hp] at h
        simp only [List.eraseP_cons, hp, cond_false, about_cons, ih h]
        by_cases hx : x.1 = n
        · by_cases hn : n = m
          · simp [hx, hn, hp]
          · simp [hx, hn]
        · simp [hx]

/-! ## §2. Without the tags -/

@[simp] theorem untag_append (xs ys : Tagged α) : untag (xs ++ ys) = untag xs ++ untag ys :=
  List.map_append

theorem untag_expand (f : α → List β) (xs : Tagged α) :
    untag (expand f xs) = (untag xs).flatMap f := by
  induction xs with
  | nil => rfl
  | cons x xs ih =>
      show untag ((f x.2).map (Prod.mk x.1) ++ expand f xs) = f x.2 ++ (untag xs).flatMap f
      rw [untag_append, ih]
      congr 1
      unfold untag
      rw [List.map_map]
      exact List.map_id _

theorem untag_filter (p : α → Bool) (xs : Tagged α) :
    untag (xs.filter (fun x => p x.2)) = (untag xs).filter p := by
  unfold untag
  rw [List.filter_map]
  rfl

theorem untag_eraseP (p : α → Bool) (xs : Tagged α) :
    untag (xs.eraseP (fun x => p x.2)) = (untag xs).eraseP p := by
  unfold untag
  rw [List.eraseP_map]
  rfl

theorem find?_untag (p : α → Bool) (xs : Tagged α) :
    (untag xs).find? p = (xs.find? (fun x => p x.2)).map Prod.snd := by
  unfold untag
  rw [List.find?_map]
  rfl

end Tagged
