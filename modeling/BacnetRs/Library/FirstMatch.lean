/-
  BacnetRs.Library.FirstMatch — the first match in a list, changed in place.

  A table kept as a list is searched from its front, and what is found first is
  changed where it stands.  Entries behind it that match too are not looked at:

    * `update`          — change the first match.
    * `update_append`   — what the change makes of the list.
    * `map_update`      — what the change leaves as it was.
    * `mem_update`      — an entry is there still, or was the first match.
    * `pairwise_update` — a relation between all entries that the change keeps.
-/
import Mathlib.Data.List.Basic

namespace FirstMatch

variable {α β : Type*} {p : α → Bool} {f : α → α}

/-- Change the first match in place, if there is one. -/
def update (p : α → Bool) (f : α → α) : List α → List α
  | [] => []
  | a :: l => if p a then f a :: l else a :: update p f l

theorem update_cons_of_pos {a : α} {l : List α} (h : p a = true) :
    update p f (a :: l) = f a :: l := if_pos h

theorem update_cons_of_neg {a : α} {l : List α} (h : ¬ p a = true) :
    update p f (a :: l) = a :: update p f l := if_neg h

/-- Without a match nothing changes. -/
theorem update_of_find?_none {l : List α} (h : l.find? p = none) : update p f l = l := by
  induction l with
  | nil => rfl
  | cons a l ih =>
      rw [List.find?_eq_none] at h
      rw [update_cons_of_neg (h a List.mem_cons_self)]
      rw [ih (List.find?_eq_none.mpr fun b hb => h b (List.mem_cons_of_mem _ hb))]

/-- What the change keeps of an entry it keeps of the list. -/
theorem map_update (g : α → β) (h : ∀ a, p a = true → g (f a) = g a) (l : List α) :
    (update p f l).map g = l.map g := by
  induction l with
  | nil => rfl
  | cons a l ih =>
      by_cases ha : p a = true
      · rw [update_cons_of_pos ha, List.map_cons, List.map_cons, h a ha]
      · rw [update_cons_of_neg ha, List.map_cons, List.map_cons, ih]

theorem length_update (l : List α) : (update p f l).length = l.length := by
  have hmap := congrArg List.length (map_update (p := p) (f := f) (fun _ => ()) (fun _ _ => rfl) l)
  rwa [List.length_map, List.length_map] at hmap

/-- Where no two entries match, every match is changed. -/
theorem update_eq_map {l : List α} (h : l.Pairwise fun a b => ¬ (p a = true ∧ p b = true)) :
    update p f l = l.map (fun a => if p a then f a else a) := by
  induction l with
  | nil => rfl
  | cons a l ih =>
      obtain ⟨hhead, htail⟩ := List.pairwise_cons.mp h
      rw [List.map_cons]
      by_cases ha : p a = true
      · have hrest : l.map (fun a => if p a then f a else a) = l := by
          refine (List.map_congr_left fun b hb => ?_).trans (List.map_id l)
          exact if_neg fun hmatch => hhead b hb ⟨ha, hmatch⟩
        rw [update_cons_of_pos ha, if_pos ha, hrest]
      · rw [update_cons_of_neg ha, if_neg ha, ih htail]

/-- The first match, between what does not match and what is not looked at. -/
theorem update_append {a : α} {before after : List α} (hbefore : ∀ b ∈ before, ¬ p b = true)
    (ha : p a = true) : update p f (before ++ a :: after) = before ++ f a :: after := by
  induction before with
  | nil => exact update_cons_of_pos ha
  | cons b before ih =>
      rw [List.cons_append, update_cons_of_neg (hbefore b List.mem_cons_self),
        ih fun c hc => hbefore c (List.mem_cons_of_mem _ hc)]
      rfl

/-- An entry is there still, or was the first match. -/
theorem mem_update {b : α} {l : List α} (h : b ∈ update p f l) :
    b ∈ l ∨ ∃ a ∈ l, p a = true ∧ b = f a := by
  induction l with
  | nil => cases h
  | cons a l ih =>
      by_cases ha : p a = true
      · rw [update_cons_of_pos ha] at h
        obtain rfl | hmem := List.mem_cons.mp h
        · exact .inr ⟨a, List.mem_cons_self, ha, rfl⟩
        · exact .inl (List.mem_cons_of_mem _ hmem)
      · rw [update_cons_of_neg ha] at h
        obtain rfl | hmem := List.mem_cons.mp h
        · exact .inl List.mem_cons_self
        · obtain hstill | ⟨c, hc, hmatch⟩ := ih hmem
          · exact .inl (List.mem_cons_of_mem _ hstill)
          · exact .inr ⟨c, List.mem_cons_of_mem _ hc, hmatch⟩

/-- A relation that the change keeps on either side holds between all entries still. -/
theorem pairwise_update {R : α → α → Prop} {l : List α} (h : l.Pairwise R)
    (hleft : ∀ a b, R a b → R (f a) b) (hright : ∀ a b, R a b → R a (f b)) :
    (update p f l).Pairwise R := by
  induction l with
  | nil => exact .nil
  | cons a l ih =>
      obtain ⟨hhead, htail⟩ := List.pairwise_cons.mp h
      by_cases ha : p a = true
      · rw [update_cons_of_pos ha]
        exact .cons (fun b hb => hleft a b (hhead b hb)) htail
      · rw [update_cons_of_neg ha]
        refine .cons (fun b hb => ?_) (ih htail)
        obtain hstill | ⟨c, hc, -, rfl⟩ := mem_update hb
        · exact hhead b hstill
        · exact hright a c (hhead c hc)

end FirstMatch
