/-
  BacnetRs.Library.Utf8 — text in octets, and octets read as text whatever they
  are (`String::from_utf8_lossy`).

  A character is one to four octets, of which the first says how many.  Octets
  that are no character's are read as the replacement character, the longest
  beginning of one at a time.  Those that are come back as what they are:

    * `first_encode` — the first character of an encoding.
    * `lossy_encode` — **text is read as it was written**.
-/
import BacnetRs.Library.Octets
import BacnetRs.Library.Text

namespace Utf8

/-- A text in octets. -/
def encode (text : Text) : Bytes := text.flatMap String.utf8EncodeChar

/-- What stands for octets that are no character's. -/
def replacement : Char := Char.ofNat 0xFFFD

/-- `utf8_char_width`: of how many octets the character is that begins so; 0 for none. -/
def charWidth (byte : Nat) : Nat :=
  if byte < 0x80 then 1
  else if byte < 0xC2 then 0
  else if byte < 0xE0 then 2
  else if byte < 0xF0 then 3
  else if byte < 0xF5 then 4
  else 0

/-- `byte & 192 == 128`: an octet behind the first. -/
def continues (byte : Nat) : Bool := 0x80 ≤ byte && byte ≤ 0xBF

/-- The octet behind the first of three: no character that fits in two, and no surrogate. -/
def secondOfThree (byte second : Nat) : Bool :=
  if byte = 0xE0 then 0xA0 ≤ second && second ≤ 0xBF
  else if byte = 0xED then 0x80 ≤ second && second ≤ 0x9F
  else continues second

/-- The octet behind the first of four: no character that fits in three, and none behind the last
there is. -/
def secondOfFour (byte second : Nat) : Bool :=
  if byte = 0xF0 then 0x90 ≤ second && second ≤ 0xBF
  else if byte = 0xF4 then 0x80 ≤ second && second ≤ 0x8F
  else continues second

/-- The first character, and how many octets behind the first are its own.  An octet that is not
there is read as 0, which continues nothing. -/
def first (byte : UInt8) (rest : Bytes) : Char × Nat :=
  let n := byte.toNat
  let second := (rest[0]?.getD 0).toNat
  let third := (rest[1]?.getD 0).toNat
  let fourth := (rest[2]?.getD 0).toNat
  -- A broken sequence is replaced as far as it was right.
  if charWidth n = 1 then (Char.ofNat n, 0)
  else if charWidth n = 2 then
    if ¬ continues second then (replacement, 0)
    else (Char.ofNat (n % 0x20 * 64 + second % 64), 1)
  else if charWidth n = 3 then
    if ¬ secondOfThree n second then (replacement, 0)
    else if ¬ continues third then (replacement, 1)
    else (Char.ofNat (n % 0x10 * 4096 + second % 64 * 64 + third % 64), 2)
  else if charWidth n = 4 then
    if ¬ secondOfFour n second then (replacement, 0)
    else if ¬ continues third then (replacement, 1)
    else if ¬ continues fourth then (replacement, 2)
    else (Char.ofNat (n % 8 * 262144 + second % 64 * 4096 + third % 64 * 64 + fourth % 64), 3)
  else (replacement, 0)

/-- `String::from_utf8_lossy`. -/
def lossy : Bytes → Text
  | [] => []
  | byte :: rest => (first byte rest).1 :: lossy (rest.drop (first byte rest).2)
  termination_by bytes => bytes.length
  decreasing_by
    rw [List.length_drop, List.length_cons]
    omega

/-! ## §1. One character -/

variable {byte second third fourth : UInt8} (rest : Bytes)

theorem first_of_one (h : charWidth byte.toNat = 1) :
    first byte rest = (Char.ofNat byte.toNat, 0) := if_pos h

theorem first_of_two (h : charWidth byte.toNat = 2) (hsecond : continues second.toNat = true) :
    first byte (second :: rest)
      = (Char.ofNat (byte.toNat % 0x20 * 64 + second.toNat % 64), 1) := by
  unfold first
  simp [h, hsecond]

theorem first_of_three (h : charWidth byte.toNat = 3)
    (hsecond : secondOfThree byte.toNat second.toNat = true)
    (hthird : continues third.toNat = true) :
    first byte (second :: third :: rest)
      = (Char.ofNat (byte.toNat % 0x10 * 4096 + second.toNat % 64 * 64 + third.toNat % 64), 2) := by
  unfold first
  simp [h, hsecond, hthird]

theorem first_of_four (h : charWidth byte.toNat = 4)
    (hsecond : secondOfFour byte.toNat second.toNat = true)
    (hthird : continues third.toNat = true) (hfourth : continues fourth.toNat = true) :
    first byte (second :: third :: fourth :: rest)
      = (Char.ofNat (byte.toNat % 8 * 262144 + second.toNat % 64 * 4096 + third.toNat % 64 * 64
          + fourth.toNat % 64), 3) := by
  unfold first
  simp [h, hsecond, hthird, hfourth]

/-- A character is no surrogate, and none behind the last there is. -/
theorem toNat_bounds (c : Char) : c.toNat < 0xD800 ∨ (0xDFFF < c.toNat ∧ c.toNat < 0x110000) :=
  c.valid

/-- Octets behind the first, with six bits of a number each. -/
theorem continues_low (n : Nat) : continues (UInt8.ofNat (n % 0x40 + 0x80)).toNat = true := by
  rw [UInt8.toNat_ofNat_of_lt' (by show n % 64 + 128 < 256; omega)]
  unfold continues
  rw [Bool.and_eq_true, decide_eq_true_eq, decide_eq_true_eq]
  omega

theorem toNat_low (n : Nat) : (UInt8.ofNat (n % 0x40 + 0x80)).toNat = n % 64 + 128 :=
  UInt8.toNat_ofNat_of_lt' (by show n % 64 + 128 < 256; omega)

/-- The second octet of three, of a character that is no surrogate. -/
theorem secondOfThree_encoded {v : Nat} (hmore : 0x7FF < v) (hless : v ≤ 0xFFFF)
    (hbounds : v < 0xD800 ∨ (0xDFFF < v ∧ v < 0x110000)) :
    secondOfThree (v / 4096 % 0x10 + 0xE0) (UInt8.ofNat (v / 64 % 0x40 + 0x80)).toNat = true := by
  unfold secondOfThree
  split
  · rw [toNat_low, Bool.and_eq_true, decide_eq_true_eq, decide_eq_true_eq]
    omega
  · split
    · rw [toNat_low, Bool.and_eq_true, decide_eq_true_eq, decide_eq_true_eq]
      omega
    · exact continues_low (v / 64)

/-- The second octet of four. -/
theorem secondOfFour_encoded {v : Nat} (hmore : 0xFFFF < v) (hless : v < 0x110000) :
    secondOfFour (v / 262144 % 0x08 + 0xF0) (UInt8.ofNat (v / 4096 % 0x40 + 0x80)).toNat
      = true := by
  unfold secondOfFour
  split
  · rw [toNat_low, Bool.and_eq_true, decide_eq_true_eq, decide_eq_true_eq]
    omega
  · split
    · rw [toNat_low, Bool.and_eq_true, decide_eq_true_eq, decide_eq_true_eq]
      omega
    · exact continues_low (v / 4096)

/-- Seven bits: the octet is the number. -/
theorem first_one {v : Nat} (hless : v ≤ 0x7F) :
    first (UInt8.ofNat v) rest = (Char.ofNat v, 0) := by
  have hbyte : (UInt8.ofNat v).toNat = v := UInt8.toNat_ofNat_of_lt' (by show v < 256; omega)
  have hwidth : charWidth (UInt8.ofNat v).toNat = 1 := by
    rw [hbyte]
    exact if_pos (by omega)
  rw [first_of_one rest hwidth, hbyte]

/-- Five bits and six. -/
theorem first_two {v : Nat} (hmore : 0x7F < v) (hless : v ≤ 0x7FF) :
    first (UInt8.ofNat (v / 64 % 0x20 + 0xC0)) (UInt8.ofNat (v % 0x40 + 0x80) :: rest)
      = (Char.ofNat v, 1) := by
  have hbyte : (UInt8.ofNat (v / 64 % 0x20 + 0xC0)).toNat = v / 64 % 0x20 + 0xC0 :=
    UInt8.toNat_ofNat_of_lt' (by show v / 64 % 32 + 192 < 256; omega)
  have hwidth : charWidth (UInt8.ofNat (v / 64 % 0x20 + 0xC0)).toNat = 2 := by
    rw [hbyte]
    unfold charWidth
    rw [if_neg (by omega), if_neg (by omega), if_pos (by omega)]
  have hvalue : (v / 64 % 0x20 + 0xC0) % 0x20 * 64 + (v % 64 + 128) % 64 = v := by omega
  rw [first_of_two rest hwidth (continues_low v), hbyte, toNat_low, hvalue]

/-- Four bits and twice six; the second octet keeps out the surrogates. -/
theorem first_three {v : Nat} (hmore : 0x7FF < v) (hless : v ≤ 0xFFFF)
    (hbounds : v < 0xD800 ∨ (0xDFFF < v ∧ v < 0x110000)) :
    first (UInt8.ofNat (v / 4096 % 0x10 + 0xE0))
        (UInt8.ofNat (v / 64 % 0x40 + 0x80) :: UInt8.ofNat (v % 0x40 + 0x80) :: rest)
      = (Char.ofNat v, 2) := by
  have hbyte : (UInt8.ofNat (v / 4096 % 0x10 + 0xE0)).toNat = v / 4096 % 0x10 + 0xE0 :=
    UInt8.toNat_ofNat_of_lt' (by show v / 4096 % 16 + 224 < 256; omega)
  have hwidth : charWidth (UInt8.ofNat (v / 4096 % 0x10 + 0xE0)).toNat = 3 := by
    rw [hbyte]
    unfold charWidth
    rw [if_neg (by omega), if_neg (by omega), if_neg (by omega), if_pos (by omega)]
  have hsecond := secondOfThree_encoded hmore hless hbounds
  rw [← hbyte] at hsecond
  have hvalue : (v / 4096 % 0x10 + 0xE0) % 0x10 * 4096 + (v / 64 % 64 + 128) % 64 * 64
      + (v % 64 + 128) % 64 = v := by omega
  rw [first_of_three rest hwidth hsecond (continues_low v), hbyte, toNat_low, toNat_low, hvalue]

/-- Three bits and three times six; the second octet keeps out what is too great. -/
theorem first_four {v : Nat} (hmore : 0xFFFF < v) (hless : v < 0x110000) :
    first (UInt8.ofNat (v / 262144 % 0x08 + 0xF0))
        (UInt8.ofNat (v / 4096 % 0x40 + 0x80) :: UInt8.ofNat (v / 64 % 0x40 + 0x80)
          :: UInt8.ofNat (v % 0x40 + 0x80) :: rest)
      = (Char.ofNat v, 3) := by
  have hbyte : (UInt8.ofNat (v / 262144 % 0x08 + 0xF0)).toNat = v / 262144 % 0x08 + 0xF0 :=
    UInt8.toNat_ofNat_of_lt' (by show v / 262144 % 8 + 240 < 256; omega)
  have hwidth : charWidth (UInt8.ofNat (v / 262144 % 0x08 + 0xF0)).toNat = 4 := by
    rw [hbyte]
    unfold charWidth
    rw [if_neg (by omega), if_neg (by omega), if_neg (by omega), if_neg (by omega),
      if_pos (by omega)]
  have hsecond := secondOfFour_encoded hmore hless
  rw [← hbyte] at hsecond
  have hvalue : (v / 262144 % 0x08 + 0xF0) % 8 * 262144 + (v / 4096 % 64 + 128) % 64 * 4096
      + (v / 64 % 64 + 128) % 64 * 64 + (v % 64 + 128) % 64 = v := by omega
  rw [first_of_four rest hwidth hsecond (continues_low (v / 64)) (continues_low v), hbyte,
    toNat_low, toNat_low, toNat_low, hvalue]

/-- **The first character of an encoding**, by how many octets it has. -/
theorem first_encode (c : Char) (rest : Bytes) :
    ∃ byte more, String.utf8EncodeChar c = byte :: more
      ∧ first byte (more ++ rest) = (c, more.length) := by
  have hbounds := toNat_bounds c
  have hback : Char.ofNat c.toNat = c := Char.ofNat_toNat c
  have hencode : String.utf8EncodeChar c =
      if c.toNat ≤ 0x7F then [UInt8.ofNat c.toNat]
      else if c.toNat ≤ 0x7FF then
        [UInt8.ofNat (c.toNat / 64 % 0x20 + 0xC0), UInt8.ofNat (c.toNat % 0x40 + 0x80)]
      else if c.toNat ≤ 0xFFFF then
        [UInt8.ofNat (c.toNat / 4096 % 0x10 + 0xE0), UInt8.ofNat (c.toNat / 64 % 0x40 + 0x80),
          UInt8.ofNat (c.toNat % 0x40 + 0x80)]
      else
        [UInt8.ofNat (c.toNat / 262144 % 0x08 + 0xF0), UInt8.ofNat (c.toNat / 4096 % 0x40 + 0x80),
          UInt8.ofNat (c.toNat / 64 % 0x40 + 0x80), UInt8.ofNat (c.toNat % 0x40 + 0x80)] := rfl
  rw [hencode]
  -- One to four octets, as the encoder chooses by the code point.
  split
  · next hone => exact ⟨_, _, rfl, by rw [first_one _ hone, hback]; rfl⟩
  · next hone =>
      split
      · next htwo =>
          refine ⟨_, _, rfl, (first_two rest (by omega) htwo).trans ?_⟩
          rw [hback]
          rfl
      · next htwo =>
          split
          · next hthree =>
              refine ⟨_, _, rfl, (first_three rest (by omega) hthree hbounds).trans ?_⟩
              rw [hback]
              rfl
          · next hthree =>
              refine ⟨_, _, rfl, (first_four rest (by omega) (by omega)).trans ?_⟩
              rw [hback]
              rfl

/-! ## §2. Texts -/

/-- **Text is read as it was written**, character by character. -/
theorem lossy_encode (text : Text) : lossy (encode text) = text := by
  induction text with
  | nil => rw [encode, List.flatMap_nil, lossy]
  | cons c text ih =>
      obtain ⟨byte, more, hencode, hfirst⟩ := first_encode c (encode text)
      have happend : encode (c :: text) = byte :: (more ++ encode text) := by
        unfold encode
        rw [List.flatMap_cons, hencode]
        rfl
      rw [happend, lossy, hfirst, List.drop_left, ih]

end Utf8
