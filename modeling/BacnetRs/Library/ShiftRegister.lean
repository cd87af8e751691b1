/-
  BacnetRs.Library.ShiftRegister — check sequences computed with a shift register.

  A register of any width takes a message octet by octet.  An octet is added,
  bit by bit without carry, and the register is moved down eight times; where a
  one falls out, a pattern `poly` is added.  All of this is linear, so what a
  change of the message does to the register depends on the change alone:

    * `register_change` — what the change of one octet comes to at the end.
    * `shifts_eq_zero`  — a pattern with its highest bit set loses nothing.
    * `shifts_eq_zero_of_top_clear`
                        — one without it loses a single change, if its next bit is set.
-/
import BacnetRs.Library.Octets
import Mathlib.Data.BitVec

namespace ShiftRegister

variable {w : Nat}

/-! ## §1. The register -/

/-- Move the register down by a bit. -/
def shift (poly c : BitVec w) : BitVec w := if c &&& 1 ≠ 0 then (c >>> 1) ^^^ poly else c >>> 1

/-- So many times. -/
def shifts (poly : BitVec w) : Nat → BitVec w → BitVec w
  | 0, c => c
  | n + 1, c => shifts poly n (shift poly c)

/-- Take an octet. -/
def octet (poly c : BitVec w) (byte : UInt8) : BitVec w :=
  shifts poly 8 (c ^^^ byte.toBitVec.setWidth w)

/-- Take a message. -/
def register (poly c : BitVec w) (data : Bytes) : BitVec w := data.foldl (octet poly) c

/-! ## §2. Changes add up -/

theorem and_one_ne_zero_iff (c : BitVec w) : c &&& 1 ≠ 0 ↔ c.getLsbD 0 = true := by
  have hlow : c &&& 1 = BitVec.setWidth w (BitVec.ofBool (c.getLsbD 0)) :=
    BitVec.and_one_eq_setWidth_ofBool_getLsbD
  rw [hlow]
  constructor
  · intro h
    by_contra hclear
    rw [Bool.not_eq_true] at hclear
    rw [hclear] at h
    exact h (by simp)
  · intro h hzero
    rw [h] at hzero
    have hw : 0 < w := by
      by_contra hnone
      rw [BitVec.getLsbD_of_ge c 0 (by omega)] at h
      cases h
    have hbit := congrArg (fun x : BitVec w => x.getLsbD 0) hzero
    simp [hw] at hbit

/-- What is moved down is the sum of what its parts are. -/
theorem shift_xor (poly a b : BitVec w) : shift poly (a ^^^ b) = shift poly a ^^^ shift poly b := by
  unfold shift
  simp only [and_one_ne_zero_iff, BitVec.getLsbD_xor, BitVec.ushiftRight_xor_distrib]
  -- The patterns added to the parts cancel where a one falls out of both.
  cases a.getLsbD 0 <;> cases b.getLsbD 0
  · rfl
  · simp only [Bool.false_xor, Bool.false_eq_true, if_true, if_false, BitVec.xor_assoc]
  · simp only [Bool.xor_false, Bool.false_eq_true, if_true, if_false, BitVec.xor_assoc]
    rw [BitVec.xor_comm poly]
  · simp only [Bool.xor_self, Bool.false_eq_true, if_true, if_false]
    rw [BitVec.xor_assoc, ← BitVec.xor_assoc poly, BitVec.xor_comm poly, BitVec.xor_assoc,
      BitVec.xor_self, BitVec.xor_zero]

theorem shifts_xor (poly : BitVec w) (n : Nat) (a b : BitVec w) :
    shifts poly n (a ^^^ b) = shifts poly n a ^^^ shifts poly n b := by
  induction n generalizing a b with
  | zero => rfl
  | succ n ih =>
      show shifts poly n (shift poly (a ^^^ b)) = _
      rw [shift_xor, ih]
      rfl

theorem shifts_add (poly : BitVec w) (n m : Nat) (c : BitVec w) :
    shifts poly (n + m) c = shifts poly m (shifts poly n c) := by
  induction n generalizing c with
  | zero => rw [Nat.zero_add]; rfl
  | succ n ih =>
      rw [Nat.succ_add]
      exact ih (shift poly c)

/-- A message carries the difference between two registers through. -/
theorem register_xor (poly a b : BitVec w) (data : Bytes) :
    register poly a data ^^^ register poly b data = shifts poly (8 * data.length) (a ^^^ b) := by
  induction data generalizing a b with
  | nil => rfl
  | cons byte data ih =>
      have hfirst : octet poly a byte ^^^ octet poly b byte = shifts poly 8 (a ^^^ b) := by
        unfold octet
        rw [← shifts_xor]
        congr 1
        rw [BitVec.xor_assoc, ← BitVec.xor_assoc _ b, BitVec.xor_comm _ b, BitVec.xor_assoc,
          BitVec.xor_self, BitVec.xor_zero]
      show register poly (octet poly a byte) data ^^^ register poly (octet poly b byte) data = _
      rw [ih, hfirst, ← shifts_add, List.length_cons, Nat.mul_add, Nat.mul_one, Nat.add_comm]

/-- **What the change of one octet comes to**: the change, moved down with the octets behind. -/
theorem register_change (poly c : BitVec w) (front back : Bytes) (x y : UInt8) :
    register poly c (front ++ x :: back) ^^^ register poly c (front ++ y :: back)
      = shifts poly (8 * (back.length + 1)) ((x ^^^ y).toBitVec.setWidth w) := by
  have hfold : ∀ z, register poly c (front ++ z :: back)
      = register poly (octet poly (register poly c front) z) back := by
    intro z
    unfold register
    rw [List.foldl_append, List.foldl_cons]
  have hchange : octet poly (register poly c front) x ^^^ octet poly (register poly c front) y
      = shifts poly 8 ((x ^^^ y).toBitVec.setWidth w) := by
    unfold octet
    rw [← shifts_xor, UInt8.toBitVec_xor, BitVec.setWidth_xor]
    congr 1
    rw [BitVec.xor_assoc, ← BitVec.xor_assoc _ (register poly c front),
      BitVec.xor_comm _ (register poly c front), BitVec.xor_assoc, ← BitVec.xor_assoc,
      BitVec.xor_self, BitVec.zero_xor]
  rw [hfold, hfold, register_xor, hchange, ← shifts_add]
  congr 1
  omega

/-! ## §3. Changes that are lost -/

/-- The register from which a one falls out and leaves nothing. -/
def lost (poly : BitVec w) : BitVec w := poly <<< 1 ||| 1

theorem shift_zero (poly : BitVec w) : shift poly 0 = 0 := by
  unfold shift
  simp

theorem shifts_zero (poly : BitVec w) (n : Nat) : shifts poly n 0 = 0 := by
  induction n with
  | zero => rfl
  | succ n ih =>
      show shifts poly n (shift poly 0) = 0
      rw [shift_zero, ih]

/-- The highest bit after a shift is the pattern's, where a one fell out. -/
theorem msb_shift (poly c : BitVec w) : (shift poly c).msb = (c.getLsbD 0 && poly.msb) := by
  unfold shift
  simp only [and_one_ne_zero_iff]
  cases c.getLsbD 0 <;> simp

/-- Nothing is left only of nothing, or of `lost`. -/
theorem shift_eq_zero {poly c : BitVec w} (h : shift poly c = 0) : c = 0 ∨ c = lost poly := by
  unfold shift at h
  simp only [and_one_ne_zero_iff] at h
  split at h
  next hone =>
    right
    have hrest : c >>> 1 = poly := BitVec.xor_eq_zero_iff.mp h
    unfold lost
    rw [← hrest]
    apply BitVec.eq_of_getLsbD_eq
    intro i hi
    cases i with
    | zero => simp [hone, hi]
    | succ i => simp [hi, Nat.add_comm 1 i]
  next hclear =>
    left
    apply BitVec.eq_of_getLsbD_eq
    intro i hi
    cases i with
    | zero => simpa using hclear
    | succ i =>
        have hbit := congrArg (fun x : BitVec w => x.getLsbD i) h
        simpa [Nat.add_comm 1 i] using hbit

theorem getLsbD_lost (poly : BitVec w) (hw : 0 < w) : (lost poly).getLsbD 0 = true := by
  unfold lost
  simp [hw]

/-- **A pattern with its highest bit set loses nothing.** -/
theorem shifts_eq_zero {poly : BitVec w} (hpoly : poly.msb = true) {n : Nat} {c : BitVec w} :
    shifts poly n c = 0 ↔ c = 0 := by
  constructor
  · induction n generalizing c with
    | zero => exact id
    | succ n ih =>
        intro h
        have hone : shift poly c = 0 := ih h
        have hclear := msb_shift poly c
        have hnone : (0 : BitVec w).msb = false := BitVec.msb_zero
        rw [hone, hpoly, Bool.and_true, hnone] at hclear
        rcases shift_eq_zero hone with hzero | hlost
        · exact hzero
        · -- A one falls out of `lost`, and would have set the highest bit.
          have hw : 0 < w := by
            by_contra hnone
            obtain rfl : w = 0 := by omega
            simp [BitVec.msb] at hpoly
          rw [hlost, getLsbD_lost poly hw] at hclear
          cases hclear
  · rintro rfl
    exact shifts_zero poly n

/-- A pattern without its highest bit loses `lost`. -/
theorem shift_lost {poly : BitVec w} (hw : 0 < w) (hpoly : poly.msb = false) :
    shift poly (lost poly) = 0 := by
  unfold shift
  simp only [and_one_ne_zero_iff, getLsbD_lost poly hw, if_true]
  refine BitVec.xor_eq_zero_iff.mpr ?_
  unfold lost
  apply BitVec.eq_of_getLsbD_eq
  intro i hi
  by_cases hlast : i = w - 1
  · subst hlast
    rw [BitVec.msb_eq_getLsbD_last] at hpoly
    rw [hpoly]
    simp
    omega
  · have hnext : 1 + i < w := by omega
    simp [hnext, BitVec.getLsbD_eq_getElem hi]

/-- **A pattern without its highest bit loses a single change**, if `lost` is never what a shift
leaves. -/
theorem shifts_eq_zero_of_top_clear (poly : BitVec w) (hw : 0 < w) (hpoly : poly.msb = false)
    (hlost : (lost poly).msb = true) {n : Nat} {c : BitVec w} :
    shifts poly (n + 1) c = 0 ↔ c = 0 ∨ c = lost poly := by
  constructor
  · induction n generalizing c with
    | zero => exact shift_eq_zero
    | succ n ih =>
        intro h
        rcases ih h with hzero | hnext
        · exact shift_eq_zero hzero
        · have hclear := msb_shift poly c
          rw [hnext, hlost, hpoly, Bool.and_false] at hclear
          cases hclear
  · rintro (rfl | rfl)
    · exact shifts_zero poly (n + 1)
    · show shifts poly n (shift poly (lost poly)) = 0
      rw [shift_lost hw hpoly, shifts_zero]

end ShiftRegister
