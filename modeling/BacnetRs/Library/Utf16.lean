/-
  BacnetRs.Library.Utf16 — text in code units of sixteen bits.

  A character is one unit, its number, or two: a number that does not fit in
  one is taken apart, ten bits to a unit of each of the two ranges that are no
  character's numbers, the high surrogates and the low ones.

    * `units_cases`  — which of the two a character is, and what its units are.
    * `units_pair`   — the character of a pair of surrogates has that pair.
    * `units_single` — a unit that is no surrogate is the character's own.
    * `units_lt`     — a unit fits in sixteen bits.
-/
import BacnetRs.Library.Utf8

namespace Utf16

/-- The code units of a character. -/
def units (c : Char) : List Nat :=
  if c.toNat < 0x10000 then [c.toNat]
  else [0xD800 + (c.toNat - 0x10000) / 0x400, 0xDC00 + (c.toNat - 0x10000) % 0x400]

/-- The first of a pair. -/
def IsHigh (unit : Nat) : Prop := 0xD800 ≤ unit ∧ unit < 0xDC00

/-- The second of a pair. -/
def IsLow (unit : Nat) : Prop := 0xDC00 ≤ unit ∧ unit ≤ 0xDFFF

/-- What a pair of surrogates stands for. -/
def paired (high low : Nat) : Nat := 0x10000 + (high - 0xD800) * 0x400 + (low - 0xDC00)

/-- **One unit that is no surrogate, or a pair** that stands for the character. -/
theorem units_cases (c : Char) :
    (units c = [c.toNat] ∧ (c.toNat < 0xD800 ∨ 0xDFFF < c.toNat))
      ∨ ∃ high low, units c = [high, low] ∧ IsHigh high ∧ IsLow low ∧ paired high low = c.toNat := by
  have hbounds := Utf8.toNat_bounds c
  unfold units
  by_cases hsmall : c.toNat < 0x10000
  · rw [if_pos hsmall]
    exact .inl ⟨rfl, by omega⟩
  · rw [if_neg hsmall]
    refine .inr ⟨_, _, rfl, ?_, ?_, ?_⟩
    · unfold IsHigh
      omega
    · unfold IsLow
      omega
    · unfold paired
      omega

/-- The pair of what a pair stands for is that pair. -/
theorem units_pair {c : Char} {high low : Nat} (hhigh : IsHigh high) (hlow : IsLow low)
    (h : c.toNat = paired high low) : units c = [high, low] := by
  unfold IsHigh at hhigh
  unfold IsLow at hlow
  unfold paired at h
  have hlarge : ¬ c.toNat < 0x10000 := by omega
  have hfirst : 0xD800 + (c.toNat - 0x10000) / 0x400 = high := by omega
  have hsecond : 0xDC00 + (c.toNat - 0x10000) % 0x400 = low := by omega
  unfold units
  rw [if_neg hlarge, hfirst, hsecond]

/-- A unit that is a character's number is all of it. -/
theorem units_single {c : Char} (h : c.toNat < 0x10000) : units c = [c.toNat] := if_pos h

/-- A unit fits in sixteen bits. -/
theorem units_lt {c : Char} {unit : Nat} (h : unit ∈ units c) : unit < 0x10000 := by
  have hbounds := Utf8.toNat_bounds c
  unfold units at h
  split at h
  · next hsmall =>
      rw [List.mem_singleton.mp h]
      exact hsmall
  · rcases List.mem_cons.mp h with rfl | h
    · omega
    · rw [List.mem_singleton.mp h]
      omega

end Utf16
