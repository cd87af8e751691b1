/-
  BacnetRs.Library.Steady — a value read is not changed by what comes later.

  A decoder meets data that end too early, and may report that or return a
  value all the same.  One is steady when the value it returns from some data
  is the value it returns from any data that go on from there.  Whatever it
  reads from the first part of a message it then reads from the whole:

    * `Steady.bind`, `steady_guard`, `steady_ite` — one step, and then the next.
    * `steady_unless_short`  — a check that there is enough.
    * `steady_range`, `steady_natAt`, `steady_getElem?`, `steady_from` — slices.
    * `Steady.agrees`        — a part and the whole are read as the same.
    * `SteadyBefore`         — the same, as far as what is left is known to stand there.
-/
import BacnetRs.Library.Octets

namespace Octets

open Checked

variable {γ ε α β : Type}

/-! ## §1. Steady computations -/

/-- The value `x` returns stays when the data go on. -/
def Steady (x : List γ → Except ε α) : Prop :=
  ∀ front rest a, x front = .ok a → x (front ++ rest) = .ok a

theorem steady_const (x : Except ε α) : Steady (fun _ : List γ => x) := fun _ _ _ h => h

/-- **One step after another.** -/
theorem Steady.bind {x : List γ → Except ε α} {f : List γ → α → Except ε β} (hx : Steady x)
    (hf : ∀ a, Steady (fun data => f data a)) : Steady (fun data => x data >>= f data) := by
  intro front rest b h
  obtain ⟨a, ha, hb⟩ := bind_eq_ok.mp h
  exact bind_eq_ok.mpr ⟨a, hx front rest a ha, hf a front rest b hb⟩

theorem Steady.map {x : List γ → Except ε α} {f : α → β} (hx : Steady x) :
    Steady (fun data => f <$> x data) := by
  intro front rest b h
  obtain ⟨a, ha, rfl⟩ := map_eq_ok.mp h
  exact map_eq_ok.mpr ⟨a, hx front rest a ha, rfl⟩

theorem steady_ite {c : Prop} [Decidable c] {x y : List γ → Except ε α} (hx : c → Steady x)
    (hy : ¬ c → Steady y) : Steady (fun data => if c then x data else y data) := by
  by_cases hc : c
  · simp only [if_pos hc]
    exact hx hc
  · simp only [if_neg hc]
    exact hy hc

/-- A guard on what was read. -/
theorem steady_guard {c : Prop} [Decidable c] {e : ε} {x : List γ → Checked ε α} (hx : Steady x) :
    Steady (fun data => if c then (fail e : Checked ε PUnit) >>= fun _ => x data else x data) := by
  intro front rest a h
  obtain ⟨hc, ha⟩ := guard_eq_ok.mp h
  exact guard_eq_ok.mpr ⟨hc, hx front rest a ha⟩

/-- **A check that there is enough**: more is enough too. -/
theorem steady_unless_short {bound : Nat} {e : ε} {x : List γ → Checked ε α} (hx : Steady x) :
    Steady (fun data => if data.length < bound
      then (fail e : Checked ε PUnit) >>= fun _ => x data else x data) := by
  intro front rest a h
  obtain ⟨hlong, ha⟩ := guard_eq_ok.mp h
  refine guard_eq_ok.mpr ⟨?_, hx front rest a ha⟩
  rw [List.length_append]
  omega

theorem steady_ofExcept {x : List γ → Except ε α} (hx : Steady x) :
    Steady (fun data => ofExcept (x data)) := by
  intro front rest a h
  exact ofExcept_eq_ok.mpr (hx front rest a (ofExcept_eq_ok.mp h))

/-! ## §2. Slices -/

theorem steady_getElem? {i : Nat} {e : ε} :
    Steady (fun data : List γ => (orFail e data[i]? : Checked ε γ)) := by
  intro front rest a h
  have ha := orFail_eq_ok.mp h
  apply orFail_eq_ok.mpr
  rw [List.getElem?_append_left (List.getElem?_eq_some_iff.mp ha).1]
  exact ha

theorem steady_range {i j : Nat} :
    Steady (fun data : List γ => (range data i j : Checked ε (List γ))) := by
  intro front rest octets h
  obtain ⟨hij, hj, rfl⟩ := range_eq_ok.mp h
  refine range_eq_ok.mpr ⟨hij, ?_, ?_⟩
  · rw [List.length_append]
    omega
  · -- The slice ends within the part, so what is appended is behind it.
    rw [List.drop_append_of_le_length (Nat.le_trans hij hj),
      List.take_append_of_le_length (by rw [List.length_drop]; omega)]

theorem steady_natAt {i width : Nat} : Steady (fun data => (natAt data i width : Checked ε Nat)) :=
  steady_range.map

/-- What is left at a place goes on as the data do. -/
theorem Left.append {data left : List γ} {consumed : Nat} (h : Left data consumed left)
    (rest : List γ) : Left (data ++ rest) consumed (left ++ rest) := by
  constructor
  · rw [List.length_append]
    exact Nat.le_add_right_of_le h.1
  · rw [List.drop_append_of_le_length h.1, h.2]

/-- **Reading on from a position.** -/
theorem steady_from {i : Nat} {x : List γ → Checked ε α} (hx : Steady x) :
    Steady (fun data => (dropFrom data i : Checked ε (List γ)) >>= x) := by
  intro front rest a h
  obtain ⟨left, hleft, ha⟩ := bind_eq_ok.mp h
  obtain ⟨hwithin, hdrop⟩ := dropFrom_eq_ok.mp hleft
  have hwhole : Left (front ++ rest) i (left ++ rest) := Left.append ⟨hwithin, hdrop.symm⟩ rest
  exact bind_eq_ok.mpr ⟨_, hwhole.dropFrom, hx left rest a ha⟩

/-! ## §3. A part and the whole -/

/-- **What is read from a part is what is read from the whole.** -/
theorem Steady.agrees {x : List γ → Except ε α} (hx : Steady x) {front rest : List γ} {a b : α}
    (hfront : x front = .ok a) (hwhole : x (front ++ rest) = .ok b) : a = b := by
  have h := hx front rest a hfront
  rw [hwhole] at h
  exact (Except.ok.inj h).symm

/-- Steady as far as what is left after the value satisfies `next`: a decoder that looks at what
comes next may see nothing yet where something else will stand. -/
def SteadyBefore (next : List γ → Prop) (decode : List γ → Except ε (α × Nat)) : Prop :=
  ∀ front rest value length, decode front = .ok (value, length) → next (front.drop length) →
    decode (front ++ rest) = .ok (value, length)

theorem Steady.before {next : List γ → Prop} {decode : List γ → Except ε (α × Nat)}
    (h : Steady decode) : SteadyBefore next decode := fun front rest _ _ hread _ =>
  h front rest _ hread

end Octets
