/-
  BacnetRs.Encoding.Integers — integers of 32 and of 64 bits (`encoding/mod.rs`).

  There are two codecs for integers, one for `u32` and `i32`, one for `u64`
  and `i64`, each with a ladder of widths written by hand.  Both write numbers
  that the other's decoder reads, but not the same octets: for the numbers that
  need three octets the wider encoders drop one octet of the eight they have
  and not five, so that they write seven.

    * `encodeUnsigned_eq_iff`, `encodeSigned_eq_iff`
                            — for which numbers the encoders agree.
    * `encodeUnsigned_fewest`, `encodeSigned_fewest`
                            — the narrower encoders write no octet too many.
    * `integer_codecs_agree` — the four encoders and the four decoders.
-/
import BacnetRs.Encoding.PrimitiveCodec

namespace BacnetRs.Encoding

open Octets

/-- `encoded` is a value of type `tag` in the fewest octets that denote `n`. -/
def EncodesFewest (tag : ApplicationTag) (value : Bytes → Int) (encoded : Bytes) (n : Int) : Prop :=
  ∃ content, encoded = encodeApplicationTag tag content.length ++ content ∧ Shortest value content n

theorem encodesFewest_beOctets {tag : ApplicationTag} {value : Bytes → Int} {width n : Nat}
    {z : Int} (h : Shortest value (beOctets width n) z) :
    EncodesFewest tag value (encodeApplicationTag tag width ++ beOctets width n) z :=
  ⟨_, by rw [length_beOctets], h⟩

/-! ## §1. Unsigned integers -/

/-- The rungs of `encode_unsigned`. -/
def unsignedWidth (n : Nat) : Nat :=
  if n ≤ 255 then 1 else if n ≤ 65535 then 2 else if n ≤ 16777215 then 3 else 4

theorem unsignedWidth_le (n : Nat) : unsignedWidth n ≤ 4 := by
  unfold unsignedWidth
  split
  · decide
  split
  · decide
  split
  · decide
  · decide

theorem unsignedOctets_eq_width (value : UInt32) :
    unsignedOctets value = beOctets (unsignedWidth value.toNat) value.toNat := by
  unfold unsignedOctets unsignedWidth
  simp only [UInt32.le_iff_toNat_le, UInt32.reduceToNat]
  split
  · rfl
  split
  · rfl
  split
  · rfl
  · rfl

/-- Up to 32 bits the rungs of `encode_unsigned64` are these, but for the third. -/
theorem unsigned64Octets_eq_width (value : UInt32) :
    unsigned64Octets value.toUInt64
      = beOctets (if 65535 < value.toNat ∧ value.toNat ≤ 16777215 then 7
          else unsignedWidth value.toNat) value.toNat := by
  have hbound : value.toNat < 2 ^ 32 := value.toNat_lt
  unfold unsigned64Octets unsignedWidth
  simp only [UInt64.le_iff_toNat_le, UInt64.reduceToNat, UInt32.toNat_toUInt64]
  split
  · rw [if_neg (by omega)]
  split
  · rw [if_neg (by omega)]
  split
  · rw [if_pos (by omega)]
  · rw [if_pos (by omega), if_neg (by omega)]

theorem encodeUnsigned_fewest (value : UInt32) :
    EncodesFewest .unsignedInt (fun octets => beNat octets) (encodeUnsigned value)
      value.toNat := by
  have hbound : value.toNat < 2 ^ 32 := value.toNat_lt
  unfold encodeUnsigned
  rw [unsignedOctets_eq_width, length_beOctets]
  apply encodesFewest_beOctets
  unfold unsignedWidth
  split
  · exact shortest_beNat (by decide) (by omega) (by omega)
  split
  · exact shortest_beNat (by decide) (by omega) (by omega)
  split
  · exact shortest_beNat (by decide) (by omega) (by omega)
  · exact shortest_beNat (by decide) (by omega) (by omega)

/-- **The two encoders of unsigned integers agree** but for the numbers of three octets. -/
theorem encodeUnsigned_eq_iff (value : UInt32) :
    encodeUnsigned value = encodeUnsigned64 value.toUInt64
      ↔ ¬ (65535 < value.toNat ∧ value.toNat ≤ 16777215) := by
  unfold encodeUnsigned encodeUnsigned64
  rw [unsignedOctets_eq_width, unsigned64Octets_eq_width, length_beOctets, length_beOctets]
  by_cases hthree : 65535 < value.toNat ∧ value.toNat ≤ 16777215
  · -- Three octets and seven are not the same.
    have hwidth : unsignedWidth value.toNat = 3 := by
      unfold unsignedWidth
      rw [if_neg (by omega), if_neg (by omega), if_pos hthree.2]
    rw [if_pos hthree, hwidth]
    refine iff_of_false ?_ (not_not_intro hthree)
    intro hsame
    have hlength := congrArg List.length hsame
    simp only [List.length_append, length_beOctets] at hlength
    exact absurd hlength (by decide)
  · rw [if_neg hthree]
    exact iff_of_true rfl hthree

/-! ## §2. Signed integers -/

theorem encodeSigned_fewest (value : Int32) :
    EncodesFewest .signedInt beInt (encodeSigned value) value.toInt := by
  obtain ⟨hwidth, ⟨hlow, hhigh⟩, hneeds⟩ := signedWidth_bounds value.le_toInt
    (Int.lt_add_one_iff.mp value.toInt_lt)
  apply encodesFewest_beOctets
  exact shortest_beInt hwidth.1 (int32_emod value hwidth.2) hlow hhigh hneeds

/-- Up to 32 bits the rungs of `encode_signed64` are those of `encode_signed`, but for the third. -/
theorem signed64Width_eq {z : Int} (hlow : -2147483648 ≤ z) (hhigh : z ≤ 2147483647) :
    signed64Width z = if (-8388608 ≤ z ∧ z < -32768) ∨ (32767 < z ∧ z ≤ 8388607) then 7
      else signedWidth z := by
  unfold signed64Width signedWidth
  split
  · rw [if_neg (by omega)]
  split
  · rw [if_neg (by omega)]
  split
  · rw [if_pos (by omega)]
  · rw [if_pos (by omega), if_neg (by omega)]

/-- The low octets of an `i32` are those of the `i64` it is converted to. -/
theorem beOctets_toInt64 (value : Int32) {width : Nat} (hwidth : width ≤ 4) :
    beOctets width value.toUInt32.toNat = beOctets width value.toInt64.toUInt64.toNat := by
  apply beOctets_congr
  have hnarrow := int32_emod value hwidth
  have hwide := int64_emod value.toInt64 (Nat.le_trans hwidth (by decide))
  rw [Int32.toInt_toInt64, ← hnarrow, ← cast_weight] at hwide
  exact Int.ofNat_inj.mp hwide.symm

/-- **The two encoders of signed integers agree** but for the numbers of three octets. -/
theorem encodeSigned_eq_iff (value : Int32) :
    encodeSigned value = encodeSigned64 value.toInt64
      ↔ ¬ ((-8388608 ≤ value.toInt ∧ value.toInt < -32768) ∨
        (32767 < value.toInt ∧ value.toInt ≤ 8388607)) := by
  have hlow := value.le_toInt
  have hhigh : value.toInt ≤ 2147483647 := Int.lt_add_one_iff.mp value.toInt_lt
  unfold encodeSigned encodeSigned64
  rw [Int32.toInt_toInt64, signed64Width_eq hlow hhigh]
  by_cases hthree : (-8388608 ≤ value.toInt ∧ value.toInt < -32768) ∨
      (32767 < value.toInt ∧ value.toInt ≤ 8388607)
  · have hwidth : signedWidth value.toInt = 3 := by
      unfold signedWidth
      rw [if_neg (by omega), if_neg (by omega), if_pos (by omega)]
    rw [if_pos hthree, hwidth]
    refine iff_of_false ?_ (not_not_intro hthree)
    intro hsame
    have hlength := congrArg List.length hsame
    simp only [List.length_append, length_beOctets] at hlength
    exact absurd hlength (by decide)
  · rw [if_neg hthree, beOctets_toInt64 value (signedWidth_bounds hlow hhigh).1.2]
    exact iff_of_true rfl hthree

/-! ## §3. The codecs -/

/-- **The codecs for 32 and for 64 bits agree** as the encoders agree: not for the numbers that
need three octets, which the wider encoders write in seven.  The narrower encoders always write
the fewest octets, and what a narrower decoder reads the wider one reads alike. -/
theorem integer_codecs_agree (unsigned : UInt32) (signed : Int32) (data : Bytes) :
    (EncodesFewest .unsignedInt (fun octets => beNat octets) (encodeUnsigned unsigned)
        unsigned.toNat ∧
      ((encodeUnsigned unsigned = encodeUnsigned64 unsigned.toUInt64 ∧
          EncodesFewest .unsignedInt (fun octets => beNat octets)
            (encodeUnsigned64 unsigned.toUInt64) unsigned.toNat)
        ↔ ¬ (65535 < unsigned.toNat ∧ unsigned.toNat ≤ 16777215))) ∧
    (EncodesFewest .signedInt beInt (encodeSigned signed) signed.toInt ∧
      ((encodeSigned signed = encodeSigned64 signed.toInt64 ∧
          EncodesFewest .signedInt beInt (encodeSigned64 signed.toInt64) signed.toInt)
        ↔ ¬ ((-8388608 ≤ signed.toInt ∧ signed.toInt < -32768) ∨
          (32767 < signed.toInt ∧ signed.toInt ≤ 8388607)))) ∧
    (∀ (value : UInt32) (consumed : Nat), decodeUnsigned data = .ok (value, consumed) →
      decodeUnsigned64 data = .ok (value.toUInt64, consumed)) ∧
    (∀ (value : Int32) (consumed : Nat), decodeSigned data = .ok (value, consumed) →
      decodeSigned64 data = .ok (value.toInt64, consumed)) := by
  refine ⟨?unsigned, ?signed, fun _ _ => decodeUnsigned64_of_decodeUnsigned,
    fun _ _ => decodeSigned64_of_decodeSigned⟩
  case unsigned =>
    have hfewest := encodeUnsigned_fewest unsigned
    rw [← encodeUnsigned_eq_iff]
    exact ⟨hfewest, And.left, fun hsame => ⟨hsame, hsame ▸ hfewest⟩⟩
  case signed =>
    have hfewest := encodeSigned_fewest signed
    rw [← encodeSigned_eq_iff]
    exact ⟨hfewest, And.left, fun hsame => ⟨hsame, hsame ▸ hfewest⟩⟩

/-- The least number that needs three octets. -/
theorem encodeUnsigned64_seven :
    encodeUnsigned 0x10000 = [0x23, 0x01, 0x00, 0x00] ∧
    encodeUnsigned64 (0x10000 : UInt32).toUInt64
      = [0x25, 0x07, 0x00, 0x00, 0x00, 0x00, 0x01, 0x00, 0x00] ∧
    ¬ ∀ value : UInt32, encodeUnsigned value = encodeUnsigned64 value.toUInt64 := by
  refine ⟨by decide, by decide, ?_⟩
  intro hall
  exact absurd (hall 0x10000) (by decide)

end BacnetRs.Encoding
