/-
  BacnetRs.Util.CircularBuffer — a history of bounded length (`util/mod.rs`).

  The oldest item makes room for the newest.  Where the buffer has no room at
  all there is no oldest item either, and the first one pushed is written
  outside it:

    * `Holds.push`   — a push leaves the history with the item behind it.
    * `Holds.items`  — what is read is the end of the history.
    * `history_iff`  — which runs keep the history they are to keep.
-/
import BacnetRs.Library.Machine
import Mathlib.Data.List.DropRight

namespace BacnetRs.Util

/-! ## §1. The buffer -/

/-- `CircularBuffer`. -/
structure CircularBuffer (α : Type) where
  buffer : List (Option α)
  capacity : Nat
  /-- Where the next item is written. -/
  head : Nat
  size : Nat

namespace CircularBuffer

variable {α : Type}

/-- `new`. -/
def new (capacity : Nat) : CircularBuffer α := ⟨List.replicate capacity none, capacity, 0, 0⟩

/-- `push`; `none` is the panic of an index behind the buffer. -/
def push (self : CircularBuffer α) (item : α) : Option (CircularBuffer α) :=
  if self.head < self.buffer.length then
    some { self with
      buffer := self.buffer.set self.head (some item)
      head := (self.head + 1) % self.capacity
      size := if self.size < self.capacity then self.size + 1 else self.size }
  else none

/-- `items`, oldest first: from the start while there is room, round from the head after that. -/
def items (self : CircularBuffer α) : Option (List α) :=
  if self.size < self.capacity then
    ((List.range self.size).mapM (fun i => self.buffer[i]?)).map (·.filterMap id)
  else
    ((List.range self.capacity).mapM
      (fun i => self.buffer[(self.head + i) % self.capacity]?)).map (·.filterMap id)

/-- `len`. -/
def len (self : CircularBuffer α) : Nat := self.size

/-- `is_empty`. -/
def isEmpty (self : CircularBuffer α) : Bool := self.size == 0

/-- `clear`. -/
def clear (self : CircularBuffer α) : CircularBuffer α :=
  { self with buffer := List.replicate self.capacity none, head := 0, size := 0 }

/-- What the buffer's owner may call. -/
inductive Call (α : Type) where
  | push (item : α)
  | clear

def step (self : CircularBuffer α) : Call α → Option (CircularBuffer α)
  | .push item => self.push item
  | .clear => some self.clear

/-! ## §2. The history it holds -/

/-- What was pushed since the last clear, behind what is there. -/
def sinceClear (history : List α) : List (Call α) → List α
  | [] => history
  | .push item :: calls => sinceClear (history ++ [item]) calls
  | .clear :: calls => sinceClear [] calls

/-- The buffer holds the end of a history, each item at its number modulo the capacity. -/
structure Holds (held : CircularBuffer α) (history : List α) : Prop where
  length : held.buffer.length = held.capacity
  size : held.size = min history.length held.capacity
  head : held.head = history.length % held.capacity
  stored : ∀ i, i < history.length → history.length ≤ i + held.capacity →
    held.buffer[i % held.capacity]? = some history[i]?

variable {held : CircularBuffer α} {history : List α}

theorem holds_new (capacity : Nat) : (new capacity : CircularBuffer α).Holds [] where
  length := List.length_replicate
  size := (Nat.zero_min capacity).symm
  head := (Nat.zero_mod capacity).symm
  stored := fun _ h => absurd h (Nat.not_lt_zero _)

theorem holds_clear (held : CircularBuffer α) : held.clear.Holds [] where
  length := List.length_replicate
  size := (Nat.zero_min held.capacity).symm
  head := (Nat.zero_mod held.capacity).symm
  stored := fun _ h => absurd h (Nat.not_lt_zero _)

/-- Numbers less than a capacity apart have places of their own. -/
theorem mod_ne_of_close {i n capacity : Nat} (hi : i < n) (hn : n < i + capacity) :
    i % capacity ≠ n % capacity := by
  intro hsame
  have hzero : (n - i) % capacity = 0 := Nat.sub_mod_eq_zero_of_mod_eq hsame.symm
  rw [Nat.mod_eq_of_lt (by omega)] at hzero
  omega

/-- **A push leaves the history with the item behind it.** -/
theorem Holds.push (h : held.Holds history) (hroom : 0 < held.capacity) (item : α) :
    ∃ after, held.push item = some after ∧ after.capacity = held.capacity
      ∧ after.Holds (history ++ [item]) := by
  have hinside : held.head < held.buffer.length := by
    rw [h.length, h.head]
    exact Nat.mod_lt _ hroom
  have hsize := h.size
  unfold CircularBuffer.push
  rw [if_pos hinside]
  refine ⟨_, rfl, rfl, ?_, ?_, ?_, ?_⟩
  · rw [List.length_set]
    exact h.length
  · show (if held.size < held.capacity then held.size + 1 else held.size)
      = min (history ++ [item]).length held.capacity
    rw [List.length_append, List.length_singleton]
    split <;> omega
  · show (held.head + 1) % held.capacity = _
    rw [h.head, List.length_append, List.length_singleton, Nat.mod_add_mod]
  · show ∀ i, _ → _ ≤ i + held.capacity → (held.buffer.set held.head (some item))[_]? = _
    intro i hi hkept
    rw [List.length_append, List.length_singleton] at hi hkept
    rw [List.getElem?_set, h.head]
    by_cases hlast : i = history.length
    · -- The place of the newest item is the one written.
      subst hlast
      rw [if_pos rfl, if_pos (by rw [← h.head]; exact hinside), List.getElem?_concat_length]
    · have hother := mod_ne_of_close (show i < history.length by omega)
        (show history.length < i + held.capacity by omega)
      rw [if_neg (Ne.symm hother), h.stored i (by omega) (by omega),
        List.getElem?_append_left (by omega)]

/-- Places that all hold something are read one after the other. -/
theorem mapM_eq_some {places : List Nat} {f : Nat → Option (Option α)} {g : Nat → Option α}
    (h : ∀ i ∈ places, f i = some (g i)) : places.mapM f = some (places.map g) := by
  induction places with
  | nil => rfl
  | cons place places ih =>
      rw [List.mapM_cons, h place List.mem_cons_self,
        ih (fun i hi => h i (List.mem_cons_of_mem _ hi))]
      rfl

/-- The items from one number to the end, read by their numbers. -/
theorem filterMap_range (history : List α) {from_ count : Nat}
    (h : from_ + count = history.length) :
    ((List.range count).map (fun i => history[from_ + i]?)).filterMap id = history.drop from_ := by
  induction count generalizing from_ with
  | zero =>
      rw [List.drop_of_length_le (by omega)]
      rfl
  | succ count ih =>
      have hrest := ih (show from_ + 1 + count = history.length by omega)
      rw [List.range_succ_eq_map, List.map_cons, List.map_map, Nat.add_zero,
        List.getElem?_eq_getElem (by omega), List.filterMap_cons,
        List.drop_eq_getElem_cons (show from_ < history.length by omega), ← hrest]
      show _ :: _ = _ :: _
      congr 3
      funext i
      show history[from_ + (i + 1)]? = history[from_ + 1 + i]?
      rw [Nat.add_assoc, Nat.add_comm 1 i]

/-- **What is read is the end of the history.** -/
theorem Holds.items (h : held.Holds history) :
    held.items = some (history.rtake held.capacity) := by
  have hsize := h.size
  unfold CircularBuffer.items List.rtake
  by_cases hfull : held.size < held.capacity
  · -- Nothing was overwritten: an item stands at its number.
    have hread : ∀ i ∈ List.range held.size, held.buffer[i]? = some history[0 + i]? := by
      intro i hi
      rw [List.mem_range] at hi
      have hstored := h.stored i (by omega) (by omega)
      rw [Nat.mod_eq_of_lt (by omega)] at hstored
      rwa [Nat.zero_add]
    rw [if_pos hfull, mapM_eq_some hread, Option.map_some, filterMap_range history (by omega)]
    congr 2
    omega
  · -- The oldest item stands where the next is written.
    have hread : ∀ i ∈ List.range held.capacity,
        held.buffer[(held.head + i) % held.capacity]?
          = some history[history.length - held.capacity + i]? := by
      intro i hi
      rw [List.mem_range] at hi
      have hplace : (held.head + i) % held.capacity
          = (history.length - held.capacity + i) % held.capacity := by
        rw [h.head, Nat.mod_add_mod, ← Nat.add_mod_right (history.length - held.capacity + i)]
        congr 1
        omega
      rw [hplace]
      exact h.stored _ (by omega) (by omega)
    rw [if_neg hfull, mapM_eq_some hread, Option.map_some, filterMap_range history (by omega)]

theorem Holds.len (h : held.Holds history) :
    held.len = (history.rtake held.capacity).length := by
  unfold CircularBuffer.len List.rtake
  rw [h.size, List.length_drop]
  omega

/-! ## §3. Runs -/

theorem Holds.run (h : held.Holds history) (hroom : 0 < held.capacity) (calls : List (Call α)) :
    ∃ after, Machine.run step held calls = some after ∧ after.capacity = held.capacity
      ∧ after.Holds (sinceClear history calls) := by
  induction calls generalizing held history with
  | nil => exact ⟨held, rfl, rfl, h⟩
  | cons call calls ih =>
      cases call with
      | push item =>
          obtain ⟨pushed, hpush, hcapacity, hpushed⟩ := h.push hroom item
          obtain ⟨after, hrun, hsame, hafter⟩ := ih hpushed (by omega)
          exact ⟨after, Machine.run_cons_eq_some.mpr ⟨pushed, hpush, hrun⟩,
            hsame.trans hcapacity, hafter⟩
      | clear =>
          obtain ⟨after, hrun, hsame, hafter⟩ := ih (holds_clear held) hroom
          exact ⟨after, Machine.run_cons_eq_some.mpr ⟨held.clear, rfl, hrun⟩, hsame, hafter⟩

/-- Clearing asks for no room. -/
theorem Holds.run_clears (h : held.Holds []) {calls : List (Call α)}
    (hclears : ∀ item, Call.push item ∉ calls) :
    ∃ after, Machine.run step held calls = some after ∧ after.capacity = held.capacity
      ∧ after.Holds (sinceClear [] calls) := by
  induction calls generalizing held with
  | nil => exact ⟨held, rfl, rfl, h⟩
  | cons call calls ih =>
      cases call with
      | push item => exact absurd List.mem_cons_self (hclears item)
      | clear =>
          obtain ⟨after, hrun, hsame, hafter⟩ :=
            ih (holds_clear held) (fun item hmem => hclears item (List.mem_cons_of_mem _ hmem))
          exact ⟨after, Machine.run_cons_eq_some.mpr ⟨held.clear, rfl, hrun⟩, hsame, hafter⟩

/-- Nothing can be pushed where there is no room. -/
theorem no_push_of_run {calls : List (Call α)} {after : CircularBuffer α}
    (h : Machine.run step (new 0) calls = some after) : ∀ item, Call.push item ∉ calls := by
  induction calls with
  | nil =>
      intro item hmem
      cases hmem
  | cons call calls ih =>
      obtain ⟨next, hstep, hrun⟩ := Machine.run_cons_eq_some.mp h
      cases call with
      | push item => cases hstep
      | clear =>
          cases hstep
          intro item hmem
          rcases List.mem_cons.mp hmem with hfirst | hrest
          · cases hfirst
          · exact ih hrun item hrest

/-- **The history is kept through every run for which there is room**, and through the runs that
push nothing; through no other. -/
theorem history_iff (capacity : Nat) (calls : List (Call α)) :
    (∃ after, Machine.run step (new capacity) calls = some after
        ∧ after.items = some ((sinceClear [] calls).rtake capacity)
        ∧ after.len = ((sinceClear [] calls).rtake capacity).length)
      ↔ 0 < capacity ∨ ∀ item, Call.push item ∉ calls := by
  constructor
  · rintro ⟨after, hrun, _⟩
    rcases Nat.eq_zero_or_pos capacity with rfl | hroom
    · exact .inr (no_push_of_run hrun)
    · exact .inl hroom
  · intro hcalls
    obtain ⟨after, hrun, hcapacity, hafter⟩ :
        ∃ after, Machine.run step (new capacity) calls = some after
          ∧ after.capacity = capacity ∧ after.Holds (sinceClear [] calls) := by
      rcases hcalls with hroom | hclears
      · exact (holds_new capacity).run hroom calls
      · exact (holds_new capacity).run_clears hclears
    have hitems := hafter.items
    have hlen := hafter.len
    rw [hcapacity] at hitems hlen
    exact ⟨after, hrun, hitems, hlen⟩

/-- The first push into a buffer without room panics. -/
theorem push_without_room :
    ¬ ∀ (capacity : Nat) (calls : List (Call Nat)),
      ∃ after, Machine.run step (new capacity) calls = some after
        ∧ after.items = some ((sinceClear [] calls).rtake capacity)
        ∧ after.len = ((sinceClear [] calls).rtake capacity).length := by
  intro hall
  obtain ⟨after, hrun, _⟩ := hall 0 [.push 1]
  cases hrun

end CircularBuffer

end BacnetRs.Util
