/-
  BacnetRs.Library.Numerals — the numbers octet strings denote.

  A wire format drops the leading octets of a number that say nothing: zeros
  before an unsigned one, copies of its sign before a signed one.  What is left
  denotes the same number, and how much is left follows from the bounds between
  which the number lies:

    * `beInt`, `beInt_extend`  — two's complement; extending by the sign keeps it.
    * `beInt_beOctets`         — the low octets of a number within bounds denote it.
    * `Shortest`               — the fewest octets that denote a number.
    * `shortest_beNat`, `shortest_beInt`
                               — when the low octets are the fewest.
-/
import Mathlib.Algebra.Group.Int.Defs
import BacnetRs.Library.Octets

namespace Octets

/-! ## §1. Unsigned numbers -/

/-- The first octet of a numeral carries its highest weight. -/
theorem beNat_cons (first : UInt8) (more : Bytes) :
    beNat (first :: more) = first.toNat * 256 ^ more.length + beNat more := by
  have happend := beNat_append [first] more
  have hone : beNat [first] = first.toNat := by
    show 0 * 256 + first.toNat = first.toNat
    omega
  rwa [hone] at happend

/-- Leading zeros denote nothing. -/
theorem beNat_replicate_zero : ∀ n : Nat, beNat (List.replicate n 0) = 0
  | 0 => rfl
  | n + 1 => by
      rw [List.replicate_succ', beNat_append_singleton, beNat_replicate_zero n]
      rfl

/-- All bits set is one below the next power. -/
theorem beNat_replicate_ones : ∀ n : Nat, beNat (List.replicate n 0xFF) = 256 ^ n - 1
  | 0 => rfl
  | n + 1 => by
      have hpos : 0 < 256 ^ n := Nat.pow_pos (by decide)
      rw [List.replicate_succ', beNat_append_singleton, beNat_replicate_ones n, Nat.pow_succ]
      show (256 ^ n - 1) * 256 + 255 = 256 ^ n * 256 - 1
      omega

/-- Numerals of one width that denote the same number are the same. -/
theorem beNat_inj {a b : Bytes} (hlength : a.length = b.length) (h : beNat a = beNat b) :
    a = b := by
  rw [← beOctets_beNat a, ← beOctets_beNat b, hlength, h]

/-- A numeral of some width depends on what is left at that width alone. -/
theorem beOctets_congr {width n m : Nat} (h : n % 256 ^ width = m % 256 ^ width) :
    beOctets width n = beOctets width m := by
  have hread (k : Nat) : beOctets width (k % 256 ^ width) = beOctets width k := by
    have hback := beOctets_beNat (beOctets width k)
    rwa [length_beOctets, beNat_beOctets] at hback
  rw [← hread n, h, hread m]

/-! ## §2. Two's complement -/

/-- The number an octet string denotes in two's complement. -/
def beInt (octets : Bytes) : Int :=
  if 2 * beNat octets < 256 ^ octets.length then beNat octets
  else (beNat octets : Int) - 256 ^ octets.length

theorem cast_weight (width : Nat) : ((256 ^ width : Nat) : Int) = 256 ^ width :=
  Int.natCast_pow 256 width

/-- What agrees at one width agrees at every smaller one. -/
theorem emod_weight {n z : Int} {width total : Nat} (h : n % 256 ^ total = z % 256 ^ total)
    (hwidth : width ≤ total) : n % 256 ^ width = z % 256 ^ width := by
  have hdvd : (256 : Int) ^ width ∣ 256 ^ total :=
    ⟨256 ^ (total - width), by rw [← Int.pow_add, Nat.add_sub_of_le hwidth]⟩
  rw [← Int.emod_emod_of_dvd _ hdvd, h, Int.emod_emod_of_dvd _ hdvd]

theorem beInt_bounds (octets : Bytes) :
    -(256 ^ octets.length) ≤ 2 * beInt octets ∧ 2 * beInt octets < 256 ^ octets.length := by
  have hlt := beNat_lt octets
  have hcast := cast_weight octets.length
  unfold beInt
  split
  · omega
  · omega

/-- The sign is the top bit of the first octet. -/
theorem signBit_iff (octet : UInt8) : octet &&& 0x80 ≠ 0 ↔ 128 ≤ octet.toNat := by
  have hall : ∀ n : Fin 256, UInt8.ofNat n &&& 0x80 ≠ 0 ↔ 128 ≤ (UInt8.ofNat n).toNat := by
    decide +kernel
  have hoctet := hall ⟨octet.toNat, octet.toNat_lt⟩
  rwa [UInt8.ofNat_toNat] at hoctet

/-- **Extending by the sign keeps the number.** -/
theorem beInt_extend (extra : Nat) (first : UInt8) (more : Bytes) :
    beInt (List.replicate extra (if first &&& 0x80 ≠ 0 then 0xFF else 0x00) ++ first :: more)
      = beInt (first :: more) := by
  have hmore : beNat more < 256 ^ more.length := beNat_lt more
  have hvalue := beNat_cons first more
  have hlength : (List.replicate extra (if first &&& 0x80 ≠ 0 then 0xFF else 0x00) ++
      first :: more).length = extra + (first :: more).length := by
    rw [List.length_append, List.length_replicate]
  have hhigh : 0 < 256 ^ extra := Nat.pow_pos (by decide)
  obtain ⟨weight, hweight⟩ : ∃ weight, weight = 256 ^ (first :: more).length := ⟨_, rfl⟩
  have hwidth : weight = 256 * 256 ^ more.length := by
    rw [hweight]
    exact Nat.pow_succ'
  have htotal : 256 ^ (extra + (first :: more).length) = 256 ^ extra * weight := by
    rw [hweight, Nat.pow_add]
  have hgrown : weight ≤ 256 ^ extra * weight := Nat.le_mul_of_pos_left _ hhigh
  unfold beInt
  rw [hlength, ← cast_weight, ← cast_weight, htotal, ← hweight]
  by_cases hsign : first &&& 0x80 ≠ 0
  · -- Negative: what is put in front is all ones.
    have hset : 128 * 256 ^ more.length ≤ first.toNat * 256 ^ more.length :=
      Nat.mul_le_mul_right _ ((signBit_iff first).mp hsign)
    have hextended : beNat (List.replicate extra 0xFF ++ first :: more) + weight
        = 256 ^ extra * weight + beNat (first :: more) := by
      rw [beNat_append, beNat_replicate_ones, ← hweight, Nat.sub_mul, Nat.one_mul]
      omega
    rw [if_pos hsign, if_neg (by omega), if_neg (by omega)]
    omega
  · -- Not negative: it is all zeros.
    have hclear : first.toNat * 256 ^ more.length ≤ 127 * 256 ^ more.length := by
      rw [signBit_iff] at hsign
      exact Nat.mul_le_mul_right _ (by omega)
    have hextended : beNat (List.replicate extra 0x00 ++ first :: more)
        = beNat (first :: more) := by
      rw [beNat_append, beNat_replicate_zero]
      omega
    rw [if_neg hsign, hextended, if_pos (by omega), if_pos (by omega)]

/-- **The low octets of a number denote it** in two's complement, within its bounds. -/
theorem beInt_beOctets {width n : Nat} {z : Int} (hmod : (n : Int) % 256 ^ width = z % 256 ^ width)
    (hlow : -(256 ^ width) ≤ 2 * z) (hhigh : 2 * z < 256 ^ width) :
    beInt (beOctets width n) = z := by
  have hcast := cast_weight width
  have hnat : ((n % 256 ^ width : Nat) : Int) = z % 256 ^ width := by
    rw [← hmod, ← hcast]
    rfl
  unfold beInt
  rw [length_beOctets, beNat_beOctets, hnat]
  by_cases hsign : 0 ≤ z
  · -- Below half of the range the residue is the number, above it the number and the range.
    have hresidue : z % 256 ^ width = z := Int.emod_eq_of_lt hsign (by omega)
    rw [if_pos (by omega), hresidue]
  · have hresidue : z % 256 ^ width = z + 256 ^ width := by
      rw [← Int.add_emod_right, Int.emod_eq_of_lt (by omega) (by omega)]
    rw [if_neg (by omega), hresidue]
    omega

/-! ## §3. The fewest octets -/

/-- `octets` denotes `n`, and nothing shorter does.  A numeral has an octet. -/
structure Shortest (value : Bytes → Int) (octets : Bytes) (n : Int) : Prop where
  nonempty : octets ≠ []
  denotes : value octets = n
  fewest : ∀ others, others ≠ [] → value others = n → octets.length ≤ others.length

theorem beOctets_ne_nil {width : Nat} (h : 0 < width) (n : Nat) : beOctets width n ≠ [] := by
  rw [← List.length_pos_iff, length_beOctets]
  exact h

/-- Zero-extended: the octet before the last that fits would have to be there. -/
theorem shortest_beNat {width n : Nat} (hwidth : 0 < width) (hfits : n < 256 ^ width)
    (hneeds : width = 1 ∨ 256 ^ (width - 1) ≤ n) :
    Shortest (fun octets => beNat octets) (beOctets width n) n where
  nonempty := beOctets_ne_nil hwidth n
  denotes := by rw [beNat_beOctets, Nat.mod_eq_of_lt hfits]
  fewest := by
    intro others hothers hvalue
    have hpos : 0 < others.length := List.length_pos_iff.mpr hothers
    have hlt := beNat_lt others
    have hsame : beNat others = n := by exact_mod_cast hvalue
    rw [length_beOctets]
    -- A shorter numeral is of at most `width - 1` octets, and denotes less than `n`.
    by_contra hshort
    have hpow : 256 ^ others.length ≤ 256 ^ (width - 1) :=
      Nat.pow_le_pow_right (by decide) (by omega)
    omega

/-- Sign-extended: alike. -/
theorem shortest_beInt {width n : Nat} {z : Int} (hwidth : 0 < width)
    (hmod : (n : Int) % 256 ^ width = z % 256 ^ width)
    (hlow : -(256 ^ width) ≤ 2 * z) (hhigh : 2 * z < 256 ^ width)
    (hneeds : width = 1 ∨ 2 * z < -(256 ^ (width - 1)) ∨ 256 ^ (width - 1) ≤ 2 * z) :
    Shortest beInt (beOctets width n) z where
  nonempty := beOctets_ne_nil hwidth n
  denotes := beInt_beOctets hmod hlow hhigh
  fewest := by
    intro others hothers hvalue
    have hpos : 0 < others.length := List.length_pos_iff.mpr hothers
    have hbounds := beInt_bounds others
    rw [length_beOctets]
    by_contra hshort
    have hpow : 256 ^ others.length ≤ 256 ^ (width - 1) :=
      Nat.pow_le_pow_right (by decide) (by omega)
    have hcast := cast_weight others.length
    have hcast' := cast_weight (width - 1)
    omega

end Octets
