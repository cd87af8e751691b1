/-
  BacnetRs.Library.Slots — numbered slots, of which the lowest filled one counts.

  A fixed number of slots, each empty or holding a value, with one rule for
  what the whole of them says: the value of the lowest-numbered slot that
  holds one (`first`).  Writes name a slot and fill or empty it.

    * `first_map`         — what `first` finds, of slots whose values are replaced.
    * `getElem_writeAll`  — after any sequence of writes, every slot holds
                            what was last written to it.
-/
import Mathlib.Data.List.Basic

/-- Numbered slots, each empty or holding a value. -/
abbrev Slots (α : Type*) (n : Nat) := Vector (Option α) n

namespace Slots

variable {α : Type*} {n : Nat}

/-! ## §1. The lowest filled slot -/

/-- The value of the lowest-numbered slot that holds one. -/
def first (slots : Slots α n) : Option α := slots.toList.findSome? id

theorem first_map {β : Type*} (f : α → β) (slots : Slots α n) :
    first (slots.map (Option.map f)) = (first slots).map f := by
  unfold first
  rw [Vector.toList_map]
  induction slots.toList with
  | nil => rfl
  | cons slot rest ih =>
      cases slot with
      | none => simpa using ih
      | some a => rfl

/-! ## §2. Writing to slots -/

/-- Fill a slot, or empty it. -/
def write (slots : Slots α n) (w : Fin n × Option α) : Slots α n := slots.set w.1 w.2

/-- Writes, one after another. -/
def writeAll (slots : Slots α n) (ws : List (Fin n × Option α)) : Slots α n := ws.foldl write slots

/-- What the last write to a slot left there, if there was one. -/
def lastTo (i : Fin n) : List (Fin n × Option α) → Option (Option α)
  | [] => none
  | w :: ws => (lastTo i ws).orElse (fun _ => if w.1 = i then some w.2 else none)

theorem lastTo_cons (i : Fin n) (w : Fin n × Option α) (ws : List (Fin n × Option α)) :
    lastTo i (w :: ws) = (lastTo i ws).orElse (fun _ => if w.1 = i then some w.2 else none) := rfl

theorem write_map {β : Type*} (f : α → β) (slots : Slots α n) (i : Fin n) (value : Option α) :
    (write slots (i, value)).map (Option.map f)
      = write (slots.map (Option.map f)) (i, value.map f) := by
  unfold write
  ext j hj
  simp only [Vector.getElem_map, Vector.getElem_set]
  split
  · rfl
  · rfl

theorem getElem_write (slots : Slots α n) (w : Fin n × Option α) (i : Fin n) :
    (write slots w)[i] = if w.1 = i then w.2 else slots[i] := by
  unfold write
  by_cases h : w.1 = i
  · subst h
    simp
  · have hval : w.1.val ≠ i.val := fun he => h (Fin.ext he)
    simp [h, Vector.getElem_set_ne _ _ hval]

/-- **A slot holds what was last written to it.** -/
theorem getElem_writeAll (slots : Slots α n) (ws : List (Fin n × Option α)) (i : Fin n) :
    (writeAll slots ws)[i] = (lastTo i ws).getD slots[i] := by
  induction ws generalizing slots with
  | nil => rfl
  | cons w ws ih =>
      show (writeAll (write slots w) ws)[i] = _
      rw [ih, getElem_write, lastTo_cons]
      cases hlast : lastTo i ws with
      | some value => simp
      | none => by_cases h : w.1 = i <;> simp [h]

end Slots
