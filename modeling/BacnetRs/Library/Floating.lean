/-
  BacnetRs.Library.Floating — facts about floating-point numbers.

  An operation on packed numbers unpacks its operands, works on those, and
  packs and rounds the result.  The facts here go through the classes of what
  is unpacked: whether it is a number at all, finite, or no less than zero.
  Packing keeps what they say, whatever it does to the digits.

    * `isNaN_unpack_pack`   — packing makes no number of what is none, and none
                              of what is.
    * `beq_self32`, `beq_self64`
                            — a number equals itself.
    * `le_abs_sub_self_iff` — how far a number is from itself.
    * `le_abs_sub`          — what is at most zero is at most any distance.
-/
import Mathlib

namespace Floating

open Float.Model Float.Model.UnpackedFloat

/-! ## §1. Operations -/

/-- What is finite leaves nothing when it is taken from itself. -/
theorem sub_self (spec : Format) (x : UnpackedFloat) :
    sub spec x x = if x.isFinite then .zero .positive else .notANumber := by
  cases x with
  | notANumber => rfl
  | infinity s => cases s <;> rfl
  | zero s => cases s <;> rfl
  | finite s m e hm =>
      simp [UnpackedFloat.sub, UnpackedFloat.isFinite, UnpackedFloat.normalize]

/-- A number, and no less than zero. -/
def isNonnegative : UnpackedFloat → Bool
  | .notANumber => false
  | .infinity sign => sign == .positive
  | .zero sign => sign == .positive
  | .finite sign _ _ _ => sign == .positive

theorem isNonnegative_abs {x : UnpackedFloat} (h : x.isNaN = false) :
    isNonnegative x.abs = true := by
  cases x with
  | notANumber => cases h
  | infinity s => rfl
  | zero s => rfl
  | finite s m e hm => rfl

theorem isNonnegative_cases {x : UnpackedFloat} (h : isNonnegative x = true) :
    x = .infinity .positive ∨ x = .zero .positive
      ∨ ∃ mantissa exponent hmantissa, x = .finite .positive mantissa exponent hmantissa := by
  cases x with
  | notANumber => cases h
  | infinity s =>
      cases s with
      | negative => cases h
      | positive => exact .inl rfl
  | zero s =>
      cases s with
      | negative => cases h
      | positive => exact .inr (.inl rfl)
  | finite s m e hm =>
      cases s with
      | negative => cases h
      | positive => exact .inr (.inr ⟨m, e, hm, rfl⟩)

/-- What is at most zero is at most whatever is no less than zero. -/
theorem le_of_le_zero {x y : UnpackedFloat} (hx : x.le (.zero .positive) = true)
    (hy : isNonnegative y = true) : x.le y = true := by
  cases x with
  | notANumber => cases hx
  | infinity s =>
      cases s with
      | positive => cases hx
      | negative => rcases isNonnegative_cases hy with rfl | rfl | ⟨m, e, hm, rfl⟩ <;> rfl
  | zero s => rcases isNonnegative_cases hy with rfl | rfl | ⟨m, e, hm, rfl⟩ <;> rfl
  | finite s m e hm =>
      cases s with
      | positive => cases hx
      | negative => rcases isNonnegative_cases hy with rfl | rfl | ⟨m, e, hm, rfl⟩ <;> rfl

/-! ## §2. What is a number -/

theorem isNaN_round (spec : Format) (s : Sign) (m : Nat) (e : Int) :
    (UnpackedFloat.round spec s m e).isNaN = false := by
  unfold UnpackedFloat.round roundWithAccuracy
  simp only
  split <;> rfl

theorem isNaN_normalize (spec : Format) (m e : Int) (s : Sign) :
    (UnpackedFloat.normalize spec m e s).isNaN = false := by
  unfold UnpackedFloat.normalize
  split
  · exact isNaN_round ..
  · rfl
  · exact isNaN_round ..

/-- Any number can be taken from a finite one. -/
theorem isNaN_sub (spec : Format) {x y : UnpackedFloat} (hx : x.isFinite = true)
    (hy : y.isNaN = false) : (sub spec x y).isNaN = false := by
  cases x with
  | notANumber => cases hx
  | infinity s => cases hx
  | zero s =>
      cases y with
      | notANumber => cases hy
      | infinity t => rfl
      | zero t => cases s <;> cases t <;> rfl
      | finite t m e hm => rfl
  | finite s m e hm =>
      cases y with
      | notANumber => cases hy
      | infinity t => rfl
      | zero t => rfl
      | finite t m' e' hm' => exact isNaN_normalize ..

/-! ## §3. Packing -/

/-- Whether what is unpacked is a number is in the exponent and the mantissa. -/
theorem isNaN_unpack_packComponents (spec : Format) (s : Sign) (e : BitVec spec.exponentBits)
    (m : BitVec spec.mantissaBitsWithoutImplicit) :
    (UnpackedFloat.unpack spec (packComponents spec s e m)).isNaN
      = (decide (e = -1#_) && decide (m ≠ 0#_)) := by
  unfold UnpackedFloat.unpack
  simp only [unpackMantissa_packComponents, unpackExponent_packComponents]
  by_cases he : e = -1#_
  · rw [if_pos he]
    by_cases hm : m = 0#_
    · simp [hm, UnpackedFloat.isNaN]
    · rw [if_neg hm]
      simp [he, hm, UnpackedFloat.isNaN]
  · rw [if_neg he]
    simp only [he, decide_false, Bool.false_and]
    split
    · split <;> rfl
    · rfl

/-- The sign of a number is its own. -/
theorem isNonnegative_unpack_packComponents (spec : Format) (s : Sign)
    (e : BitVec spec.exponentBits) (m : BitVec spec.mantissaBitsWithoutImplicit)
    (h : (UnpackedFloat.unpack spec (packComponents spec s e m)).isNaN = false) :
    isNonnegative (UnpackedFloat.unpack spec (packComponents spec s e m)) = (s == .positive) := by
  have hsign : Sign.ofBitVec s.toBitVec = s := by cases s <;> rfl
  revert h
  unfold UnpackedFloat.unpack
  simp only [unpackMantissa_packComponents, unpackExponent_packComponents,
    unpackSign_packComponents, hsign]
  split
  · split
    · intro _
      rfl
    · intro h
      cases h
  · split
    · split
      · intro _
        rfl
      · intro _
        rfl
    · intro _
      rfl

/-- An exponent that fits is not the one of an infinity. -/
theorem exponent_ne (spec : Format) {biased : Nat} (h : ¬ 2 ^ spec.exponentBits ≤ biased + 1) :
    BitVec.ofNat spec.exponentBits biased ≠ -1#_ := by
  intro heq
  have hnat := congrArg BitVec.toNat heq
  rw [BitVec.neg_one_eq_allOnes, BitVec.toNat_allOnes, BitVec.toNat_ofNat,
    Nat.mod_eq_of_lt (by omega)] at hnat
  omega

theorem zero_exponent_ne (spec : Format) : BitVec.ofNat spec.exponentBits 0 ≠ -1#_ := by
  intro hzero
  exact Nat.ne_of_gt spec.he (BitVec.zero_eq_neg_one_iff.mp hzero)

/-- **Packing makes no number of what is none, and none of what is.** -/
theorem isNaN_unpack_pack (spec : Format) (x : UnpackedFloat) :
    (UnpackedFloat.unpack spec (UnpackedFloat.pack spec x)).isNaN = x.isNaN := by
  cases x with
  | notANumber =>
      show (UnpackedFloat.unpack spec (packedNaN spec)).isNaN = _
      rw [unpack_packedNaN]
  | infinity s =>
      show (UnpackedFloat.unpack spec (packComponents spec _ _ _)).isNaN = _
      rw [isNaN_unpack_packComponents]
      simp [UnpackedFloat.isNaN]
  | zero s =>
      show (UnpackedFloat.unpack spec (packedZero spec s)).isNaN = _
      rw [unpack_packedZero]
  | finite s m e hm =>
      unfold UnpackedFloat.pack
      simp only
      split
      · unfold packedInfinity
        rw [isNaN_unpack_packComponents]
        simp [UnpackedFloat.isNaN]
      next hfits =>
        split
        · rw [isNaN_unpack_packComponents, decide_eq_false (exponent_ne spec hfits)]
          rfl
        · rw [isNaN_unpack_packComponents, decide_eq_false (zero_exponent_ne spec)]
          rfl

theorem isNonnegative_unpack_pack (spec : Format) {x : UnpackedFloat}
    (h : isNonnegative x = true) :
    isNonnegative (UnpackedFloat.unpack spec (UnpackedFloat.pack spec x)) = true := by
  have hnan := isNaN_unpack_pack spec x
  rcases isNonnegative_cases h with rfl | rfl | ⟨m, e, hm, rfl⟩
  · exact isNonnegative_unpack_packComponents _ _ _ _ hnan
  · exact isNonnegative_unpack_packComponents _ _ _ _ hnan
  · revert hnan
    unfold UnpackedFloat.pack
    simp only
    intro hnan
    split at hnan
    next hinfinite =>
      rw [if_pos hinfinite]
      exact isNonnegative_unpack_packComponents _ _ _ _ hnan
    next hfits =>
      rw [if_neg hfits]
      split at hnan
      next hnormal =>
        rw [if_pos hnormal]
        exact isNonnegative_unpack_packComponents _ _ _ _ hnan
      next hsubnormal =>
        rw [if_neg hsubnormal]
        exact isNonnegative_unpack_packComponents _ _ _ _ hnan

theorem unpack_pack_zero (spec : Format) (s : Sign) :
    UnpackedFloat.unpack spec (UnpackedFloat.pack spec (.zero s)) = .zero s := unpack_packedZero

/-! ## §4. Packed numbers -/

theorem beq_self32 (x : Float32) : (x == x) = !x.isNaN := by
  rw [Bool.eq_iff_iff, Float32.beq_self_iff]
  simp

theorem le_iff (x y : Float32) : x ≤ y ↔ x.toModel.unpack.le y.toModel.unpack = true := by
  show decide (x.toModel.unpack.le y.toModel.unpack = true) = true ↔ _
  exact decide_eq_true_iff

theorem le_zero_iff (x : Float32) :
    x ≤ Float32.ofBits 0 ↔ x.toModel.unpack.le (.zero .positive) = true := le_iff x (Float32.ofBits 0)

/-- How far two numbers are apart, unpacked. -/
theorem unpack_abs_sub (x y : Float32) :
    (x - y).abs.toModel.unpack
      = UnpackedFloat.unpack Format.binary32 (UnpackedFloat.pack Format.binary32
          (UnpackedFloat.unpack Format.binary32 (UnpackedFloat.pack Format.binary32
            (UnpackedFloat.sub Format.binary32 x.toModel.unpack y.toModel.unpack))).abs) := rfl

/-- A number is as far from itself as zero, and an infinity or no number is nowhere. -/
theorem le_abs_sub_self_iff (x z : Float32) :
    z ≤ (x - x).abs ↔ x.isFinite = true ∧ z ≤ Float32.ofBits 0 := by
  have hfinite : x.isFinite = x.toModel.unpack.isFinite := rfl
  rw [le_iff, unpack_abs_sub, sub_self, le_zero_iff, hfinite]
  cases x.toModel.unpack.isFinite with
  | true =>
      rw [if_pos rfl, unpack_pack_zero]
      exact (and_iff_right rfl).symm
  | false =>
      have hnone : z.toModel.unpack.le .notANumber = false := by
        cases z.toModel.unpack <;> rfl
      apply iff_of_false
      · intro h
        exact Bool.false_ne_true (hnone.symm.trans h)
      · intro h
        exact absurd h.1 Bool.false_ne_true

/-- What is at most zero is at most how far a number is from another. -/
theorem le_abs_sub {x y z : Float32} (hx : x.isFinite = true) (hy : y.isNaN = false)
    (hz : z ≤ Float32.ofBits 0) : z ≤ (x - y).abs := by
  rw [le_iff, unpack_abs_sub]
  apply le_of_le_zero ((le_zero_iff z).mp hz)
  apply isNonnegative_unpack_pack
  apply isNonnegative_abs
  rw [isNaN_unpack_pack]
  exact isNaN_sub _ hx hy

theorem beq_self64 (x : Float) : (x == x) = !x.isNaN := by
  rw [Bool.eq_iff_iff, Float.beq_self_iff]
  simp

end Floating
