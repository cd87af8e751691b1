/-
  BacnetRs.Library.Words — a word of sixteen bits and its two octets.

  Protocols in octets shift a word apart and put it together again:

    * `wordOf_octets` — apart and together.
    * `exists_wordOf` — every number with room in a word is one.
    * `highOctet_wordOf`, `lowOctet_wordOf` — together and apart.
-/
import BacnetRs.Library.Octets

namespace Octets

/-- Two octets as a `u16`, the high one first. -/
def wordOf (high low : UInt8) : UInt16 := high.toUInt16 <<< 8 ||| low.toUInt16

/-- `(word >> 8) as u8`. -/
def highOctet (word : UInt16) : UInt8 := (word >>> 8).toUInt8

/-- `(word & 0xFF) as u8`. -/
def lowOctet (word : UInt16) : UInt8 := (word &&& 0xFF).toUInt8

theorem toNat_wordOf (high low : UInt8) :
    (wordOf high low).toNat = high.toNat * 256 + low.toNat := by
  have hhigh : high.toNat < 256 := high.toNat_lt
  have hlow : low.toNat < 2 ^ 8 := low.toNat_lt
  have hshift : (high.toNat <<< 8) % 65536 = high.toNat <<< 8 := by
    rw [Nat.shiftLeft_eq]
    omega
  unfold wordOf
  rw [UInt16.toNat_or, UInt16.toNat_shiftLeft]
  show (high.toNat <<< 8) % 65536 ||| low.toNat = _
  rw [hshift, ← Nat.shiftLeft_add_eq_or_of_lt hlow, Nat.shiftLeft_eq]

/-- The word is the big-endian number of the two. -/
theorem toNat_wordOf_eq_beNat (high low : UInt8) : (wordOf high low).toNat = beNat [high, low] := by
  rw [toNat_wordOf]
  show _ = (0 * 256 + high.toNat) * 256 + low.toNat
  omega

theorem toNat_highOctet (word : UInt16) : (highOctet word).toNat = word.toNat / 256 := by
  have hbound := word.toNat_lt
  unfold highOctet
  rw [UInt16.toNat_toUInt8, UInt16.toNat_shiftRight]
  show word.toNat >>> 8 % 256 = _
  rw [Nat.shiftRight_eq_div_pow]
  omega

theorem toNat_lowOctet (word : UInt16) : (lowOctet word).toNat = word.toNat % 256 := by
  unfold lowOctet
  rw [UInt16.toNat_toUInt8, UInt16.toNat_and]
  show (word.toNat &&& (2 ^ 8 - 1)) % 256 = _
  rw [Nat.and_two_pow_sub_one_eq_mod, Nat.mod_mod_of_dvd _ (by decide)]

/-- **A word taken apart** is the word put together again. -/
theorem wordOf_octets (word : UInt16) : wordOf (highOctet word) (lowOctet word) = word := by
  rw [← UInt16.toNat_inj, toNat_wordOf, toNat_highOctet, toNat_lowOctet]
  omega

/-- A number with room in a word is that of two octets. -/
theorem exists_wordOf {n : Nat} (h : n < 2 ^ 16) : ∃ high low, n = (wordOf high low).toNat :=
  ⟨highOctet (.ofNat n), lowOctet (.ofNat n), by
    rw [wordOf_octets, UInt16.toNat_ofNat_of_lt' h]⟩

theorem highOctet_wordOf (high low : UInt8) : highOctet (wordOf high low) = high := by
  have hlow := low.toNat_lt
  rw [← UInt8.toNat_inj, toNat_highOctet, toNat_wordOf]
  omega

theorem lowOctet_wordOf (high low : UInt8) : lowOctet (wordOf high low) = low := by
  have hlow := low.toNat_lt
  rw [← UInt8.toNat_inj, toNat_lowOctet, toNat_wordOf]
  omega

end Octets
