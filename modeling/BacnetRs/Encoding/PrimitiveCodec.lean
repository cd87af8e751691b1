/-
  BacnetRs.Encoding.PrimitiveCodec — primitive values are read as they were written.

  A primitive value is an application tag and its content octets.  The tag
  gives the content's length back (`Encoding.TagCodec`), so what is left to
  each type is its content: numerals of a variable width, the sign of a
  shortened one, packed bits, text.

    * `expectApplicationTag_encode` — the tag in front of a content, read back.
    * `decodeSigned_eq_ok`          — a shortened signed numeral, sign-extended again.
    * `octetBits_bitsOctet`         — eight packed bits, unpacked.
    * `primitives_roundTrip`        — every application-tagged type.
-/
import BacnetRs.Encoding.TagCodec
import BacnetRs.Library.Numerals

namespace BacnetRs.Encoding

open BacnetRs.Object Octets

/-! ## §1. A tag and its content -/

/-- The tag of a value of `length` octets, read back with what follows it; four octets keep
`length` modulo 2^32. -/
theorem expectApplicationTag_encode_mod {tag : ApplicationTag} (htag : tag ≠ .reserved15)
    (length : Nat) (rest : Bytes) :
    expectApplicationTag (encodeApplicationTag tag length ++ rest) tag
      = .ok (length % 2 ^ 32, (encodeApplicationTag tag length).length) := by
  unfold expectApplicationTag decodeApplicationTag
  rw [decodeTag_encodeApplicationTag_mod htag]
  show (if tag ≠ tag then _ else _) = _
  rw [if_neg (not_not_intro rfl)]
  rfl

theorem expectApplicationTag_encode {tag : ApplicationTag} (htag : tag ≠ .reserved15)
    {length : Nat} (hlength : length < 2 ^ 32) (rest : Bytes) :
    expectApplicationTag (encodeApplicationTag tag length ++ rest) tag
      = .ok (length, (encodeApplicationTag tag length).length) := by
  rw [expectApplicationTag_encode_mod htag,
    show length % 2 ^ 32 = length from Nat.mod_eq_of_lt hlength]

/-- The tag of a value announces less than 2^32 octets. -/
theorem expectApplicationTag_bounds (data : Bytes) (tag : ApplicationTag) :
    Checked.Ensures (expectApplicationTag data tag) (fun decoded => decoded.1 < 2 ^ 32) := by
  unfold expectApplicationTag
  refine (Checked.ensures_ofExcept (P := fun decoded => decoded.2.1 < 2 ^ 32) ?_).bind ?_
  · rintro ⟨found, length, consumed⟩ h
    unfold decodeApplicationTag at h
    split at h
    · next hdecode =>
        cases h
        exact (decodeTag_bounds hdecode).1
    · cases h
    · cases h
  · rintro ⟨found, length, consumed⟩ hlength
    exact Checked.ensures_guard (Checked.ensures_ok hlength)

/-- The content is there. -/
theorem content_within (tag content rest : Bytes) {width : Nat} (hwidth : content.length = width) :
    ¬ (tag ++ (content ++ rest)).length < tag.length + width := by
  rw [List.length_append, List.length_append]
  omega

/-- The content, read as a number. -/
theorem natAt_beOctets {ε : Type} (tag rest : Bytes) {width n : Nat} (hn : n < 256 ^ width) :
    (natAt (tag ++ (beOctets width n ++ rest)) tag.length width : Checked ε Nat) = .ok n := by
  have hread := natAt_append (ε := ε) tag (beOctets width n) rest
  rw [length_beOctets, beNat_beOctets, Nat.mod_eq_of_lt hn] at hread
  exact hread

/-! ## §2. Unsigned numbers -/

/-- The shortest form is a numeral of one to four octets. -/
theorem unsignedOctets_eq (value : UInt32) :
    ∃ width, 1 ≤ width ∧ width ≤ 4 ∧ value.toNat < 256 ^ width ∧
      unsignedOctets value = beOctets width value.toNat := by
  unfold unsignedOctets
  have hbound : value.toNat < 2 ^ 32 := value.toNat_lt
  by_cases hone : value ≤ 0xFF
  · have hle : value.toNat ≤ 255 := UInt32.le_iff_toNat_le.mp hone
    exact ⟨1, by omega, by omega, by omega, by rw [if_pos hone]⟩
  by_cases htwo : value ≤ 0xFFFF
  · have hle : value.toNat ≤ 65535 := UInt32.le_iff_toNat_le.mp htwo
    exact ⟨2, by omega, by omega, by omega, by rw [if_neg hone, if_pos htwo]⟩
  by_cases hthree : value ≤ 0xFFFFFF
  · have hle : value.toNat ≤ 16777215 := UInt32.le_iff_toNat_le.mp hthree
    exact ⟨3, by omega, by omega, by omega, by rw [if_neg hone, if_neg htwo, if_pos hthree]⟩
  · exact ⟨4, by omega, by omega, by omega, by rw [if_neg hone, if_neg htwo, if_neg hthree]⟩

/-- A `u32` of either type. -/
theorem reads_unsigned32 {tag : ApplicationTag} (htag : tag ≠ .reserved15) (value : UInt32) :
    Reads (decodeUnsigned32 · tag)
      (encodeApplicationTag tag (unsignedOctets value).length ++ unsignedOctets value) value := by
  intro rest
  obtain ⟨width, hlow, hhigh, hfits, hoctets⟩ := unsignedOctets_eq value
  rw [hoctets, length_beOctets, List.append_assoc]
  show decodeUnsigned32 _ _ = _
  unfold decodeUnsigned32
  rw [expectApplicationTag_encode htag (by omega)]
  simp only [bind, Except.bind, pure, Except.pure]
  rw [if_neg (content_within _ _ _ (length_beOctets _ _)), if_pos ⟨hlow, hhigh⟩,
    natAt_beOctets _ _ hfits, List.length_append, length_beOctets]
  simp

theorem reads_unsigned (value : UInt32) : Reads decodeUnsigned (encodeUnsigned value) value :=
  reads_unsigned32 (by decide) value

theorem reads_enumerated (value : UInt32) :
    Reads decodeEnumerated (encodeEnumerated value) value :=
  reads_unsigned32 (by decide) value

/-- What is written of a `u64` is a numeral of up to eight octets. -/
theorem unsigned64Octets_eq (value : UInt64) :
    ∃ width, 1 ≤ width ∧ width ≤ 8 ∧ value.toNat < 256 ^ width ∧
      unsigned64Octets value = beOctets width value.toNat := by
  unfold unsigned64Octets
  have hbound : value.toNat < 2 ^ 64 := value.toNat_lt
  by_cases hone : value ≤ 0xFF
  · have hle : value.toNat ≤ 255 := UInt64.le_iff_toNat_le.mp hone
    exact ⟨1, by omega, by omega, by omega, by rw [if_pos hone]⟩
  by_cases htwo : value ≤ 0xFFFF
  · have hle : value.toNat ≤ 65535 := UInt64.le_iff_toNat_le.mp htwo
    exact ⟨2, by omega, by omega, by omega, by rw [if_neg hone, if_pos htwo]⟩
  by_cases hthree : value ≤ 0xFFFFFF
  · have hle : value.toNat ≤ 16777215 := UInt64.le_iff_toNat_le.mp hthree
    exact ⟨7, by omega, by omega, by omega, by rw [if_neg hone, if_neg htwo, if_pos hthree]⟩
  by_cases hfour : value ≤ 0xFFFFFFFF
  · have hle : value.toNat ≤ 4294967295 := UInt64.le_iff_toNat_le.mp hfour
    exact ⟨4, by omega, by omega, by omega,
      by rw [if_neg hone, if_neg htwo, if_neg hthree, if_pos hfour]⟩
  · exact ⟨8, by omega, by omega, by omega,
      by rw [if_neg hone, if_neg htwo, if_neg hthree, if_neg hfour]⟩

theorem reads_unsigned64 (value : UInt64) :
    Reads decodeUnsigned64 (encodeUnsigned64 value) value := by
  intro rest
  obtain ⟨width, _, hwidth, hfits, heq⟩ := unsigned64Octets_eq value
  unfold encodeUnsigned64
  simp only [heq, length_beOctets, List.append_assoc]
  unfold decodeUnsigned64
  rw [expectApplicationTag_encode (by decide) (by omega)]
  simp only [bind, Except.bind, pure, Except.pure]
  rw [if_neg (by omega), if_neg (content_within _ _ _ (length_beOctets _ _)),
    natAt_beOctets _ _ hfits, List.length_append, length_beOctets]
  simp

/-- **What is decoded as a `u32` is decoded as a `u64` alike.** -/
theorem decodeUnsigned64_of_decodeUnsigned {data : Bytes} {value : UInt32} {consumed : Nat}
    (h : decodeUnsigned data = .ok (value, consumed)) :
    decodeUnsigned64 data = .ok (value.toUInt64, consumed) := by
  obtain ⟨⟨length, header⟩, htag, h⟩ := Checked.bind_eq_ok.mp h
  obtain ⟨hwithin, h⟩ := Checked.guard_eq_ok.mp h
  split at h
  · rename_i hwidth
    obtain ⟨n, hn, h⟩ := Checked.bind_eq_ok.mp h
    obtain ⟨rfl, rfl⟩ := Prod.mk.inj (Checked.pure_eq_ok.mp h)
    have hbound : n < 2 ^ 32 := by
      have hfits := (natAt_ensures data header length n hn).2
      have hpow : 256 ^ length ≤ 256 ^ 4 := Nat.pow_le_pow_right (by decide) hwidth.2
      omega
    have hvalue : (UInt32.ofNat n).toUInt64 = UInt64.ofNat n := by
      rw [← UInt64.toNat_inj, UInt32.toNat_toUInt64, UInt32.toNat_ofNat_of_lt' hbound,
        UInt64.toNat_ofNat_of_lt' (Nat.lt_of_lt_of_le hbound (by decide))]
    refine Checked.bind_eq_ok.mpr ⟨_, htag, Checked.guard_eq_ok.mpr ⟨by omega, ?_⟩⟩
    refine Checked.guard_eq_ok.mpr ⟨hwithin, Checked.bind_eq_ok.mpr ⟨n, hn, ?_⟩⟩
    rw [hvalue]
    rfl
  · cases h

/-! ## §3. Signed numbers -/

/-- As many octets as an `i32` has are taken for the number they denote. -/
theorem toInt_of_four {octets : Bytes} (h : octets.length = 4) :
    (UInt32.ofNat (beNat octets)).toInt32.toInt = beInt octets := by
  have hbound := beNat_lt octets
  rw [h] at hbound
  have hsign : (UInt32.ofNat (beNat octets)).toInt32.toInt
      = if 2 * (UInt32.ofNat (beNat octets)).toNat < 2 ^ 32
        then ((UInt32.ofNat (beNat octets)).toNat : Int)
        else ((UInt32.ofNat (beNat octets)).toNat : Int) - 2 ^ 32 := BitVec.toInt_eq_toNat_cond _
  rw [hsign, UInt32.toNat_ofNat_of_lt' hbound, beInt, h]
  rfl

/-- As many as an `i64` has, alike. -/
theorem toInt_of_eight {octets : Bytes} (h : octets.length = 8) :
    (UInt64.ofNat (beNat octets)).toInt64.toInt = beInt octets := by
  have hbound := beNat_lt octets
  rw [h] at hbound
  have hsign : (UInt64.ofNat (beNat octets)).toInt64.toInt
      = if 2 * (UInt64.ofNat (beNat octets)).toNat < 2 ^ 64
        then ((UInt64.ofNat (beNat octets)).toNat : Int)
        else ((UInt64.ofNat (beNat octets)).toNat : Int) - 2 ^ 64 := BitVec.toInt_eq_toNat_cond _
  rw [hsign, UInt64.toNat_ofNat_of_lt' hbound, beInt, h]
  rfl

/-- A slice that is not empty starts with the octet at its start. -/
theorem range_eq_cons {ε : Type} {data octets : Bytes} {i length : Nat}
    (h : (range data i (i + length) : Checked ε Bytes) = .ok octets) (hlength : 1 ≤ length) :
    octets.length = length ∧
      ∃ first more, octets = first :: more ∧ (index data i : Checked ε UInt8) = .ok first := by
  obtain ⟨_, hwithin, rfl⟩ := range_eq_ok.mp h
  have hlt : i < data.length := by omega
  rw [Nat.add_sub_cancel_left]
  refine ⟨by rw [List.length_take, List.length_drop]; omega, data[i],
    (data.drop (i + 1)).take (length - 1), ?_, ?_⟩
  · rw [List.drop_eq_getElem_cons hlt, ← List.take_succ_cons, Nat.sub_add_cancel hlength]
  · exact index_eq_ok.mpr (List.getElem?_eq_getElem hlt)

/-- **What `decode_signed` returns**: the number that its octets denote. -/
theorem decodeSigned_eq_ok {data : Bytes} {value : Int32} {consumed : Nat} :
    decodeSigned data = .ok (value, consumed) ↔
      ∃ length header octets, expectApplicationTag data .signedInt = .ok (length, header) ∧
        (1 ≤ length ∧ length ≤ 4) ∧
        (range data header (header + length) : Decoded Bytes) = .ok octets ∧
        value.toInt = beInt octets ∧ consumed = header + length := by
  constructor
  · intro h
    obtain ⟨⟨length, header⟩, htag, h⟩ := Checked.bind_eq_ok.mp h
    obtain ⟨_, h⟩ := Checked.guard_eq_ok.mp h
    split at h
    · rename_i hwidth
      obtain ⟨first, hfirst, h⟩ := Checked.bind_eq_ok.mp h
      obtain ⟨octets, hrange, h⟩ := Checked.bind_eq_ok.mp h
      obtain ⟨rfl, rfl⟩ := Prod.mk.inj (Checked.pure_eq_ok.mp h)
      obtain ⟨hlength, first', more, rfl, hfirst'⟩ := range_eq_cons hrange hwidth.1
      obtain rfl := Except.ok.inj (hfirst.symm.trans hfirst')
      refine ⟨length, header, _, htag, hwidth, hrange, ?_, rfl⟩
      rw [toInt_of_four (by rw [List.length_append, List.length_replicate]; omega), beInt_extend]
    · cases h
  · rintro ⟨length, header, octets, htag, hwidth, hrange, hvalue, rfl⟩
    obtain ⟨hlength, first, more, rfl, hfirst⟩ := range_eq_cons hrange hwidth.1
    refine Checked.bind_eq_ok.mpr ⟨_, htag, Checked.guard_eq_ok.mpr ⟨?_, ?_⟩⟩
    · exact Nat.not_lt.mpr (range_eq_ok.mp hrange).2.1
    · rw [if_pos hwidth]
      refine Checked.bind_eq_ok.mpr ⟨first, hfirst, Checked.bind_eq_ok.mpr ⟨_, hrange, ?_⟩⟩
      refine Checked.pure_eq_ok.mpr (Prod.mk.injEq .. ▸ ⟨Int32.toInt_inj.mp ?_, rfl⟩)
      rw [hvalue, toInt_of_four (by rw [List.length_append, List.length_replicate]; omega),
        beInt_extend]

/-- **What `decode_signed64` returns**, alike. -/
theorem decodeSigned64_eq_ok {data : Bytes} {value : Int64} {consumed : Nat} :
    decodeSigned64 data = .ok (value, consumed) ↔
      ∃ length header octets, expectApplicationTag data .signedInt = .ok (length, header) ∧
        (1 ≤ length ∧ length ≤ 8) ∧
        (range data header (header + length) : Decoded Bytes) = .ok octets ∧
        value.toInt = beInt octets ∧ consumed = header + length := by
  constructor
  · intro h
    obtain ⟨⟨length, header⟩, htag, h⟩ := Checked.bind_eq_ok.mp h
    obtain ⟨hwidth, h⟩ := Checked.guard_eq_ok.mp h
    obtain ⟨_, h⟩ := Checked.guard_eq_ok.mp h
    obtain ⟨first, hfirst, h⟩ := Checked.bind_eq_ok.mp h
    obtain ⟨octets, hrange, h⟩ := Checked.bind_eq_ok.mp h
    obtain ⟨rfl, rfl⟩ := Prod.mk.inj (Checked.pure_eq_ok.mp h)
    obtain ⟨hlength, first', more, rfl, hfirst'⟩ := range_eq_cons hrange (by omega)
    obtain rfl := Except.ok.inj (hfirst.symm.trans hfirst')
    refine ⟨length, header, _, htag, by omega, hrange, ?_, rfl⟩
    rw [toInt_of_eight (by rw [List.length_append, List.length_replicate]; omega), beInt_extend]
  · rintro ⟨length, header, octets, htag, hwidth, hrange, hvalue, rfl⟩
    obtain ⟨hlength, first, more, rfl, hfirst⟩ := range_eq_cons hrange hwidth.1
    refine Checked.bind_eq_ok.mpr ⟨_, htag, Checked.guard_eq_ok.mpr ⟨by omega, ?_⟩⟩
    refine Checked.guard_eq_ok.mpr ⟨Nat.not_lt.mpr (range_eq_ok.mp hrange).2.1, ?_⟩
    refine Checked.bind_eq_ok.mpr ⟨first, hfirst, Checked.bind_eq_ok.mpr ⟨_, hrange, ?_⟩⟩
    refine Checked.pure_eq_ok.mpr (Prod.mk.injEq .. ▸ ⟨Int64.toInt_inj.mp ?_, rfl⟩)
    rw [hvalue, toInt_of_eight (by rw [List.length_append, List.length_replicate]; omega),
      beInt_extend]

/-- **What is decoded as an `i32` is decoded as an `i64` alike.** -/
theorem decodeSigned64_of_decodeSigned {data : Bytes} {value : Int32} {consumed : Nat}
    (h : decodeSigned data = .ok (value, consumed)) :
    decodeSigned64 data = .ok (value.toInt64, consumed) := by
  obtain ⟨length, header, octets, htag, hwidth, hrange, hvalue, hconsumed⟩ :=
    decodeSigned_eq_ok.mp h
  refine decodeSigned64_eq_ok.mpr ⟨length, header, octets, htag, by omega, hrange, ?_, hconsumed⟩
  rw [Int32.toInt_toInt64, hvalue]

/-- The number lies within the bounds of its width, and of no smaller one. -/
theorem signedWidth_bounds {z : Int} (hlow : -2147483648 ≤ z) (hhigh : z ≤ 2147483647) :
    (1 ≤ signedWidth z ∧ signedWidth z ≤ 4) ∧
      (-(256 ^ signedWidth z) ≤ 2 * z ∧ 2 * z < 256 ^ signedWidth z) ∧
      (signedWidth z = 1 ∨ 2 * z < -(256 ^ (signedWidth z - 1)) ∨
        256 ^ (signedWidth z - 1) ≤ 2 * z) := by
  unfold signedWidth
  split
  · omega
  split
  · omega
  split
  · omega
  · omega

/-- Within its bounds; of a smaller width too, where seven octets are written. -/
theorem signed64Width_bounds {z : Int} (hlow : -9223372036854775808 ≤ z)
    (hhigh : z ≤ 9223372036854775807) :
    (1 ≤ signed64Width z ∧ signed64Width z ≤ 8) ∧
      -(256 ^ signed64Width z) ≤ 2 * z ∧ 2 * z < 256 ^ signed64Width z := by
  unfold signed64Width
  split
  · omega
  split
  · omega
  split
  · omega
  split
  · omega
  · omega

/-- The bits of an `i32` are its number, at every width. -/
theorem int32_emod (value : Int32) {width : Nat} (hwidth : width ≤ 4) :
    (value.toUInt32.toNat : Int) % 256 ^ width = value.toInt % 256 ^ width := by
  have hbits : (value.toUInt32.toNat : Int) % 256 ^ 4 = value.toInt % 256 ^ 4 := by
    have hint : value.toInt = if 2 * value.toUInt32.toNat < 2 ^ 32
        then (value.toUInt32.toNat : Int) else (value.toUInt32.toNat : Int) - 2 ^ 32 :=
      BitVec.toInt_eq_toNat_cond _
    omega
  exact emod_weight hbits hwidth

theorem int64_emod (value : Int64) {width : Nat} (hwidth : width ≤ 8) :
    (value.toUInt64.toNat : Int) % 256 ^ width = value.toInt % 256 ^ width := by
  have hbits : (value.toUInt64.toNat : Int) % 256 ^ 8 = value.toInt % 256 ^ 8 := by
    have hint : value.toInt = if 2 * value.toUInt64.toNat < 2 ^ 64
        then (value.toUInt64.toNat : Int) else (value.toUInt64.toNat : Int) - 2 ^ 64 :=
      BitVec.toInt_eq_toNat_cond _
    omega
  exact emod_weight hbits hwidth

theorem reads_signed (value : Int32) : Reads decodeSigned (encodeSigned value) value := by
  intro rest
  obtain ⟨hwidth, ⟨hlow, hhigh⟩, _⟩ := signedWidth_bounds value.le_toInt
    (Int.lt_add_one_iff.mp value.toInt_lt)
  have hdenotes := beInt_beOctets (int32_emod value hwidth.2) hlow hhigh
  have hrange := range_append (ε := EncodingError)
    (encodeApplicationTag .signedInt (signedWidth value.toInt))
    (beOctets (signedWidth value.toInt) value.toUInt32.toNat) rest
  rw [length_beOctets] at hrange
  unfold encodeSigned
  rw [List.append_assoc]
  refine decodeSigned_eq_ok.mpr ⟨_, _, _, expectApplicationTag_encode (by decide) (by omega) _,
    hwidth, hrange, hdenotes.symm, ?_⟩
  rw [List.length_append, length_beOctets]

theorem reads_signed64 (value : Int64) : Reads decodeSigned64 (encodeSigned64 value) value := by
  intro rest
  obtain ⟨hwidth, hlow, hhigh⟩ := signed64Width_bounds value.le_toInt
    (Int.lt_add_one_iff.mp value.toInt_lt)
  have hdenotes := beInt_beOctets (int64_emod value hwidth.2) hlow hhigh
  have hrange := range_append (ε := EncodingError)
    (encodeApplicationTag .signedInt (signed64Width value.toInt))
    (beOctets (signed64Width value.toInt) value.toUInt64.toNat) rest
  rw [length_beOctets] at hrange
  unfold encodeSigned64
  rw [List.append_assoc]
  refine decodeSigned64_eq_ok.mpr ⟨_, _, _, expectApplicationTag_encode (by decide) (by omega) _,
    hwidth, hrange, hdenotes.symm, ?_⟩
  rw [List.length_append, length_beOctets]

/-! ## §4. Reals, dates, times and identifiers -/

theorem reads_boolean (value : Bool) : Reads decodeBoolean (encodeBoolean value) value := by
  intro rest
  unfold encodeBoolean decodeBoolean
  rw [expectApplicationTag_encode (by decide) (by cases value <;> decide)]
  cases value <;> rfl

theorem reads_real (value : F32) : Reads decodeReal (encodeReal value) value := by
  intro rest
  have hbound : value.bits.toNat < 256 ^ 4 := value.bits.toNat_lt
  unfold encodeReal decodeReal
  rw [List.append_assoc, expectApplicationTag_encode (by decide) (by decide)]
  simp only [bind, Except.bind, pure, Except.pure]
  rw [if_neg (by decide), if_neg (content_within _ _ _ (length_beOctets _ _)),
    natAt_beOctets _ _ hbound, List.length_append, length_beOctets]
  simp

theorem reads_double (value : F64) : Reads decodeDouble (encodeDouble value) value := by
  intro rest
  have hbound : value.bits.toNat < 256 ^ 8 := value.bits.toNat_lt
  unfold encodeDouble decodeDouble
  rw [List.append_assoc, expectApplicationTag_encode (by decide) (by decide)]
  simp only [bind, Except.bind, pure, Except.pure]
  have hwithin := content_within (encodeApplicationTag .double 8) (beOctets 8 value.bits.toNat) rest
    (length_beOctets _ _)
  rw [if_neg (not_or.mpr ⟨by decide, hwithin⟩), natAt_beOctets _ _ hbound, List.length_append,
    length_beOctets]
  simp

/-- Four octets, one by one. -/
theorem index_quad {ε : Type} (tag rest : Bytes) (a b c d : UInt8) :
    (index (tag ++ ([a, b, c, d] ++ rest)) tag.length : Checked ε UInt8) = .ok a ∧
    (index (tag ++ ([a, b, c, d] ++ rest)) (tag.length + 1) : Checked ε UInt8) = .ok b ∧
    (index (tag ++ ([a, b, c, d] ++ rest)) (tag.length + 2) : Checked ε UInt8) = .ok c ∧
    (index (tag ++ ([a, b, c, d] ++ rest)) (tag.length + 3) : Checked ε UInt8) = .ok d := by
  unfold index
  refine ⟨?_, ?_, ?_, ?_⟩ <;> (rw [List.getElem?_append_right (by omega)]; simp)

/-- The year a year octet is read as. -/
theorem yearOctet_read {year : UInt16} {octet : UInt8} (h : yearOctet year = .ok octet) :
    (if octet = 255 then (255 : UInt16) else 1900 + octet.toUInt16) = year := by
  unfold yearOctet at h
  by_cases hwildcard : year = 255
  · rw [if_pos hwildcard] at h
    cases h
    rw [if_pos rfl, hwildcard]
  rw [if_neg hwildcard] at h
  by_cases hrange : 1900 ≤ year ∧ year ≤ 2154
  · rw [if_pos hrange] at h
    cases h
    have hlow : 1900 ≤ year.toNat := UInt16.le_iff_toNat_le.mp hrange.1
    have hhigh : year.toNat ≤ 2154 := UInt16.le_iff_toNat_le.mp hrange.2
    have hsub : (year - 1900).toNat = year.toNat - 1900 := UInt16.toNat_sub_of_le _ _ hrange.1
    have hoctet : (year - 1900).toUInt8.toNat = year.toNat - 1900 := by
      rw [UInt16.toNat_toUInt8, hsub]
      omega
    have hne : (year - 1900).toUInt8 ≠ 255 := by
      intro heq
      rw [heq] at hoctet
      have hlast : (255 : UInt8).toNat = 255 := rfl
      omega
    rw [if_neg hne, ← UInt16.toNat_inj, UInt16.toNat_add, UInt8.toNat_toUInt16, hoctet]
    show (1900 + (year.toNat - 1900)) % 65536 = year.toNat
    omega
  · rw [if_neg hrange] at h
    cases h

theorem reads_date {value : DateValue} {encoded : Bytes} (h : encodeDate value = .ok encoded) :
    Reads decodeDate encoded value := by
  intro rest
  obtain ⟨year, month, day, weekday⟩ := value
  simp only [encodeDate, bind, Except.bind, pure, Except.pure] at h
  cases hyear : yearOctet year with
  | error e =>
      rw [hyear] at h
      cases h
  | ok octet =>
      rw [hyear] at h
      cases h
      have hread := yearOctet_read hyear
      obtain ⟨h0, h1, h2, h3⟩ := index_quad (ε := EncodingError) (encodeApplicationTag .date 4) rest
        octet month day weekday
      have hwithin : ¬ (encodeApplicationTag .date 4 ++ ([octet, month, day, weekday] ++ rest)).length
          < (encodeApplicationTag .date 4).length + 4 := content_within _ _ _ rfl
      unfold decodeDate
      rw [List.append_assoc, expectApplicationTag_encode (by decide) (by decide)]
      simp only [bind, Except.bind, pure, Except.pure]
      rw [if_neg (not_or.mpr ⟨by decide, hwithin⟩)]
      simp only [h0, h1, h2, h3]
      rw [hread, List.length_append]
      rfl

theorem reads_time (value : TimeValue) : Reads decodeTime (encodeTime value) value := by
  intro rest
  obtain ⟨hour, minute, second, hundredths⟩ := value
  obtain ⟨h0, h1, h2, h3⟩ := index_quad (ε := EncodingError) (encodeApplicationTag .time 4) rest
    hour minute second hundredths
  have hwithin : ¬ (encodeApplicationTag .time 4 ++
      ([hour, minute, second, hundredths] ++ rest)).length
        < (encodeApplicationTag .time 4).length + 4 := content_within _ _ _ rfl
  unfold encodeTime decodeTime
  rw [List.append_assoc, expectApplicationTag_encode (by decide) (by decide)]
  simp only [bind, Except.bind, pure, Except.pure]
  rw [if_neg (not_or.mpr ⟨by decide, hwithin⟩)]
  simp only [h0, h1, h2, h3]
  rw [List.length_append]
  rfl

/-- Ten bits of type above twenty-two of instance. -/
theorem identifier_toNat {objectType instanceNumber : UInt32} (htype : objectType ≤ 0x3FF)
    (hinstance : instanceNumber ≤ 0x3FFFFF) :
    (objectType <<< 22 ||| (instanceNumber &&& 0x3FFFFF)).toNat
      = objectType.toNat * 2 ^ 22 + instanceNumber.toNat := by
  have htypeNat : objectType.toNat ≤ 1023 := UInt32.le_iff_toNat_le.mp htype
  have hinstanceNat : instanceNumber.toNat ≤ 2 ^ 22 - 1 := UInt32.le_iff_toNat_le.mp hinstance
  have hmask : (instanceNumber &&& 0x3FFFFF).toNat = instanceNumber.toNat := by
    rw [UInt32.toNat_and]
    show instanceNumber.toNat &&& (2 ^ 22 - 1) = _
    rw [Nat.and_two_pow_sub_one_eq_mod]
    omega
  have hshift : (objectType <<< 22).toNat = objectType.toNat <<< 22 := by
    rw [UInt32.toNat_shiftLeft]
    show objectType.toNat <<< 22 % 2 ^ 32 = _
    rw [Nat.shiftLeft_eq]
    omega
  rw [UInt32.toNat_or, hshift, hmask, ← Nat.shiftLeft_add_eq_or_of_lt (by omega), Nat.shiftLeft_eq]

/-- An identifier's 32 bits are its type and its instance. -/
theorem ObjectIdentifier.ofUInt32_toUInt32 {objectId : ObjectIdentifier} {value : UInt32}
    (h : objectId.toUInt32 = .ok value) : ObjectIdentifier.ofUInt32 value = objectId := by
  unfold ObjectIdentifier.toUInt32 at h
  by_cases hfits : objectId.objectType.value > 0x3FF ∨ objectId.instanceNumber > 0x3FFFFF
  · rw [if_pos hfits] at h
    cases h
  rw [if_neg hfits] at h
  cases h
  obtain ⟨⟨objectType⟩, instanceNumber⟩ := objectId
  simp only [not_or, UInt32.not_lt] at hfits
  obtain ⟨htype, hinstance⟩ := hfits
  have htypeNat : objectType.toNat ≤ 1023 := UInt32.le_iff_toNat_le.mp htype
  have hinstanceNat : instanceNumber.toNat ≤ 4194303 := UInt32.le_iff_toNat_le.mp hinstance
  have hnat := identifier_toNat htype hinstance
  have hhigh : (objectType <<< 22 ||| (instanceNumber &&& 0x3FFFFF)) >>> 22 &&& 0x3FF
      = objectType := by
    rw [← UInt32.toNat_inj, UInt32.toNat_and, UInt32.toNat_shiftRight, hnat]
    show (objectType.toNat * 2 ^ 22 + instanceNumber.toNat) >>> 22 &&& (2 ^ 10 - 1) = _
    rw [Nat.and_two_pow_sub_one_eq_mod, Nat.shiftRight_eq_div_pow]
    omega
  have hlow : (objectType <<< 22 ||| (instanceNumber &&& 0x3FFFFF)) &&& 0x3FFFFF
      = instanceNumber := by
    rw [← UInt32.toNat_inj, UInt32.toNat_and, hnat]
    show (objectType.toNat * 2 ^ 22 + instanceNumber.toNat) &&& (2 ^ 22 - 1) = _
    rw [Nat.and_two_pow_sub_one_eq_mod]
    omega
  unfold ObjectIdentifier.ofUInt32
  rw [hhigh, hlow]

theorem reads_objectIdentifier {value : ObjectIdentifier} {encoded : Bytes}
    (h : encodeObjectIdentifier value = .ok encoded) :
    Reads decodeObjectIdentifier encoded value := by
  intro rest
  simp only [encodeObjectIdentifier, bind, Except.bind, pure, Except.pure] at h
  cases hbits : value.toUInt32 with
  | error e =>
      rw [hbits] at h
      cases h
  | ok bits =>
      rw [hbits] at h
      cases h
      have hbound : bits.toNat < 256 ^ 4 := bits.toNat_lt
      have hwithin := content_within (encodeApplicationTag .objectIdentifier 4)
        (beOctets 4 bits.toNat) rest (length_beOctets _ _)
      unfold decodeObjectIdentifier
      rw [List.append_assoc, expectApplicationTag_encode (by decide) (by decide)]
      simp only [bind, Except.bind, pure, Except.pure]
      rw [if_neg (not_or.mpr ⟨by decide, hwithin⟩), natAt_beOctets _ _ hbound, List.length_append,
        length_beOctets]
      simp only [UInt32.ofNat_toNat, ObjectIdentifier.ofUInt32_toUInt32 hbits]

/-! ## §5. Strings -/

theorem reads_octetString {value : Bytes} (hlength : value.length < 2 ^ 32) :
    Reads decodeOctetString (encodeOctetString value) value := by
  intro rest
  unfold encodeOctetString decodeOctetString
  rw [List.append_assoc, expectApplicationTag_encode (by decide) hlength]
  simp only [bind, Except.bind, pure, Except.pure]
  rw [if_neg (content_within _ _ _ rfl), range_append, List.length_append]

/-- The octets of a byte array, counted from any position. -/
theorem toList_loop (octets : ByteArray) (i : Nat) (seen : List UInt8) :
    ByteArray.toList.loop octets i seen = seen.reverse ++ octets.data.toList.drop i := by
  induction i, seen using ByteArray.toList.loop.induct octets with
  | case1 i seen hlt ih =>
      have hget : i < octets.data.toList.length := hlt
      rw [ByteArray.toList.loop, if_pos hlt, ih, List.drop_eq_getElem_cons hget,
        List.reverse_cons, List.append_assoc]
      have hoctet : octets.get! i = octets.data.toList[i] := by
        show octets.data[i]! = _
        rw [getElem!_pos octets.data i hlt, Array.getElem_toList]
      rw [hoctet]
      rfl
  | case2 i seen hge =>
      have hlength : octets.data.toList.length ≤ i := Nat.not_lt.mp hge
      rw [ByteArray.toList.loop, if_neg hge, List.drop_eq_nil_of_le hlength, List.append_nil]

/-- Text that was encoded as UTF-8 decodes. -/
theorem fromUTF8?_toUTF8 (value : String) :
    String.fromUTF8? ⟨value.toUTF8.toList.toArray⟩ = some value := by
  have hoctets : (⟨value.toUTF8.toList.toArray⟩ : ByteArray) = value.toByteArray := by
    rw [ByteArray.toList, toList_loop]
    rfl
  rw [hoctets, String.fromUTF8?, dif_pos value.isValidUTF8]
  rfl

theorem reads_characterString {value : String} (hlength : value.toUTF8.toList.length + 1 < 2 ^ 32) :
    Reads decodeCharacterString (encodeCharacterString value) value := by
  intro rest
  have hindex := index_append (ε := EncodingError)
    (encodeApplicationTag .characterString (value.toUTF8.toList.length + 1)) 0
    (value.toUTF8.toList ++ rest)
  have hwithin : ¬ (encodeApplicationTag .characterString (value.toUTF8.toList.length + 1) ++
      ((0 :: value.toUTF8.toList) ++ rest)).length <
        (encodeApplicationTag .characterString (value.toUTF8.toList.length + 1)).length +
          (value.toUTF8.toList.length + 1) := content_within _ _ _ rfl
  have hrange := range_append (ε := EncodingError)
    (encodeApplicationTag .characterString (value.toUTF8.toList.length + 1) ++ [0])
    value.toUTF8.toList rest
  rw [List.append_assoc, List.length_append, List.length_singleton, Nat.add_assoc,
    Nat.add_comm 1 value.toUTF8.toList.length] at hrange
  unfold encodeCharacterString decodeCharacterString
  simp only [List.append_assoc]
  rw [expectApplicationTag_encode (by decide) hlength]
  simp only [bind, Except.bind, pure, Except.pure]
  rw [if_neg (not_or.mpr ⟨hwithin, by omega⟩)]
  simp only [List.cons_append, List.nil_append] at hindex hrange ⊢
  rw [hindex]
  simp only [Checked.ofExcept, CharacterSet.tryFrom, UInt8.toNat_zero]
  rw [hrange]
  simp only [CharacterSet.decode]
  rw [fromUTF8?_toUTF8, List.length_append, List.length_cons]

/-! ## §6. Bit strings -/

/-- **Packed bits unpack**, with the bits the octet has left over clear. -/
theorem octetBits_bitsOctet : ∀ piece : List Bool, piece.length ≤ 8 →
    octetBits (bitsOctet piece) = piece ++ List.replicate (8 - piece.length) false
  | [], _ => by decide +kernel
  | [a], _ => by revert a; decide +kernel
  | [a, b], _ => by revert a b; decide +kernel
  | [a, b, c], _ => by revert a b c; decide +kernel
  | [a, b, c, d], _ => by revert a b c d; decide +kernel
  | [a, b, c, d, e], _ => by revert a b c d e; decide +kernel
  | [a, b, c, d, e, f], _ => by revert a b c d e f; decide +kernel
  | [a, b, c, d, e, f, g], _ => by revert a b c d e f g; decide +kernel
  | [a, b, c, d, e, f, g, h], _ => by revert a b c d e f g h; decide +kernel
  | _ :: _ :: _ :: _ :: _ :: _ :: _ :: _ :: _ :: _, hlength => by
      simp only [List.length_cons] at hlength
      omega

/-- The bits the last octet leaves unused. -/
def unusedBits (count : Nat) : Nat :=
  if count % 8 = 0 then 0 else 8 - count % 8

/-- Only the last piece is padded. -/
theorem flatten_octets : ∀ (bound : Nat) (bits : List Bool), bits.length ≤ bound →
    (((chunksUpTo 8 bound bits).map bitsOctet).map octetBits).flatten
      = bits ++ List.replicate (unusedBits bits.length) false
  | 0, bits, hbound => by
      rw [List.length_eq_zero_iff.mp (Nat.le_zero.mp hbound)]
      rfl
  | _ + 1, [], _ => rfl
  | bound + 1, bit :: rest, hbound => by
      have hshorter : ((bit :: rest).drop 8).length ≤ bound := by
        rw [List.length_drop]
        simp only [List.length_cons] at hbound ⊢
        omega
      have hpiece : ((bit :: rest).take 8).length ≤ 8 := List.length_take_le _ _
      rw [chunksUpTo, List.map_cons, List.map_cons, List.flatten_cons,
        octetBits_bitsOctet _ hpiece, flatten_octets bound _ hshorter]
      unfold unusedBits
      rcases Nat.lt_or_ge (bit :: rest).length 8 with hlast | hmore
      · -- The last piece is all there is.
        rw [List.take_of_length_le (Nat.le_of_lt hlast), List.drop_of_length_le (Nat.le_of_lt hlast),
          Nat.mod_eq_of_lt hlast, if_neg (show ¬ (bit :: rest).length = 0 from Nat.succ_ne_zero _)]
        simp
      · have htake : ((bit :: rest).take 8).length = 8 := by
          rw [List.length_take]
          omega
        have hdrop : ((bit :: rest).drop 8).length % 8 = (bit :: rest).length % 8 := by
          rw [List.length_drop]
          omega
        rw [htake, hdrop, Nat.sub_self, List.replicate_zero, List.append_nil, ← List.append_assoc,
          List.take_append_drop]

theorem reads_bitString {value : List Bool} (hlength : (value.length + 7) / 8 + 1 < 2 ^ 32) :
    Reads decodeBitString (encodeBitString value) value := by
  intro rest
  have hcount : ((chunks 8 value).map bitsOctet).length = (value.length + 7) / 8 := by
    rw [List.length_map, length_chunks 8 (by decide)]
    rfl
  have hbits := flatten_octets value.length value (Nat.le_refl _)
  -- At most seven bits of the last octet are unused, so the count survives its octet.
  have hunused : (UInt8.ofNat (unusedBits value.length)).toNat = unusedBits value.length := by
    have hsmall : unusedBits value.length ≤ 7 := by
      unfold unusedBits
      split <;> omega
    rw [UInt8.toNat_ofNat']
    omega
  have hindex := index_append (ε := EncodingError)
    (encodeApplicationTag .bitString ((value.length + 7) / 8 + 1))
    (UInt8.ofNat (unusedBits value.length)) ((chunks 8 value).map bitsOctet ++ rest)
  have hwithin : ¬ (encodeApplicationTag .bitString ((value.length + 7) / 8 + 1) ++
      ((UInt8.ofNat (unusedBits value.length) :: (chunks 8 value).map bitsOctet) ++ rest)).length <
        (encodeApplicationTag .bitString ((value.length + 7) / 8 + 1)).length +
          ((value.length + 7) / 8 + 1) :=
    content_within _ _ _ (by rw [List.length_cons, hcount])
  have hrange := range_append (ε := EncodingError)
    (encodeApplicationTag .bitString ((value.length + 7) / 8 + 1) ++
      [UInt8.ofNat (unusedBits value.length)]) ((chunks 8 value).map bitsOctet) rest
  rw [List.append_assoc, List.length_append, List.length_singleton, hcount, Nat.add_assoc,
    Nat.add_comm 1 ((value.length + 7) / 8)] at hrange
  have hencoded : encodeBitString value =
      encodeApplicationTag .bitString ((value.length + 7) / 8 + 1) ++
        (UInt8.ofNat (unusedBits value.length) :: (chunks 8 value).map bitsOctet) := rfl
  -- The decoder drops as many bits as the encoder filled in.
  unfold decodeBitString
  rw [hencoded, List.append_assoc, expectApplicationTag_encode (by decide) hlength]
  simp only [bind, Except.bind, pure, Except.pure]
  rw [if_neg (not_or.mpr ⟨by omega, hwithin⟩)]
  simp only [List.cons_append, List.nil_append] at hindex hrange ⊢
  rw [hindex]
  simp only [hunused]
  rw [if_neg (by unfold unusedBits; split <;> omega), hrange]
  simp only [chunks]
  rw [hbits, List.length_append, List.length_replicate, Nat.add_sub_cancel, List.take_left,
    List.length_append, List.length_cons, List.length_map]
  rw [List.length_map] at hcount
  rw [← hcount]
  rfl

/-! ## §7. Context-tagged values -/

/-- The context tag of a value of `length` octets, read back with what follows it. -/
theorem expectContextTag_encode (tag : UInt8) {length : Nat} (hlength : length < 2 ^ 32)
    (rest : Bytes) :
    expectContextTag (encodeContextTag tag length ++ rest) tag
      = .ok (length, (encodeContextTag tag length).length) := by
  unfold expectContextTag decodeContextTag
  rw [decodeTag_encodeContextTag tag hlength]
  show (if tag ≠ tag then _ else _) = _
  rw [if_neg (not_not_intro rfl)]
  rfl

theorem reads_contextUnsigned (value : UInt32) (tag : UInt8) :
    Reads (decodeContextUnsigned · tag) (encodeContextUnsigned value tag) value := by
  intro rest
  obtain ⟨width, _, hwidth, hfits, hoctets⟩ := unsignedOctets_eq value
  show decodeContextUnsigned _ _ = _
  unfold encodeContextUnsigned decodeContextUnsigned
  rw [hoctets, length_beOctets, List.append_assoc, expectContextTag_encode tag (by omega)]
  simp only [bind, Except.bind, pure, Except.pure]
  rw [if_neg (content_within _ _ _ (length_beOctets _ _)), if_pos hwidth,
    natAt_beOctets _ _ hfits, List.length_append, length_beOctets]
  simp

theorem reads_contextObjectId {value : ObjectIdentifier} {tag : UInt8} {encoded : Bytes}
    (h : encodeContextObjectId value tag = .ok encoded) :
    Reads (decodeContextObjectId · tag) encoded value := by
  intro rest
  simp only [encodeContextObjectId, bind, Except.bind, pure, Except.pure] at h
  cases hbits : value.toUInt32 with
  | error e =>
      rw [hbits] at h
      cases h
  | ok bits =>
      rw [hbits] at h
      cases h
      have hbound : bits.toNat < 256 ^ 4 := bits.toNat_lt
      show decodeContextObjectId _ _ = _
      unfold decodeContextObjectId
      rw [List.append_assoc, expectContextTag_encode tag (by decide)]
      simp only [bind, Except.bind, pure, Except.pure]
      rw [if_neg (by decide), if_neg (content_within _ _ _ (length_beOctets _ _)),
        natAt_beOctets _ _ hbound, List.length_append, length_beOctets]
      simp only [UInt32.ofNat_toNat, ObjectIdentifier.ofUInt32_toUInt32 hbits]

/-! ## §8. Strings that are read back -/

section Short

open Checked

/-- No octet string is read that is longer than a tag can say. -/
theorem decodeOctetString_short (data : Bytes) :
    Ensures (decodeOctetString data) (fun decoded => decoded.1.length < 2 ^ 32) := by
  refine (expectApplicationTag_bounds data .octetString).bind ?_
  rintro ⟨length, consumed⟩ hlength
  refine ensures_guard ?_
  refine (Octets.range_ensures data).bind (fun value hvalue => ensures_ok ?_)
  simp only at hlength ⊢
  omega

theorem length_flatten_octetBits : ∀ octets : Bytes,
    (octets.map octetBits).flatten.length = octets.length * 8
  | [] => rfl
  | octet :: rest => by
      have hoctet : (octetBits octet).length = 8 := by simp [octetBits]
      rw [List.map_cons, List.flatten_cons, List.length_append, length_flatten_octetBits rest, hoctet,
        List.length_cons]
      omega

/-- Nor a bit string. -/
theorem decodeBitString_short (data : Bytes) :
    Ensures (decodeBitString data) (fun decoded => (decoded.1.length + 7) / 8 + 1 < 2 ^ 32) := by
  refine (expectApplicationTag_bounds data .bitString).bind ?_
  rintro ⟨length, consumed⟩ hlength
  intro decoded h
  simp only [bind_eq_ok, guard_eq_ok, pure_eq_ok] at h
  obtain ⟨hpresent, unusedBits, _, _, octets, hoctets, rfl⟩ := h
  have hcount : consumed + 1 + octets.length = consumed + length :=
    (Octets.range_ensures data _ hoctets).2
  have hbits : ((octets.map octetBits).flatten.take
      ((octets.map octetBits).flatten.length - unusedBits.toNat)).length ≤ octets.length * 8 := by
    rw [← length_flatten_octetBits]
    exact List.length_take_le' _ _
  simp only at hlength hbits ⊢
  omega

theorem toUTF8_of_fromUTF8? {text : Bytes} {value : String}
    (h : String.fromUTF8? ⟨text.toArray⟩ = some value) : value.toUTF8.toList = text := by
  unfold String.fromUTF8? at h
  split at h
  · cases h
    rw [ByteArray.toList, toList_loop]
    rfl
  · cases h

/-- Text that was written and is read back is no longer than its tag can say. -/
theorem characterString_short {value : String} {rest : Bytes} {consumed : Nat}
    (h : decodeCharacterString (encodeCharacterString value ++ rest) = .ok (value, consumed)) :
    value.toUTF8.toList.length + 1 < 2 ^ 32 := by
  unfold encodeCharacterString at h
  simp only [decodeCharacterString, List.append_assoc,
    expectApplicationTag_encode_mod (show ApplicationTag.characterString ≠ .reserved15 by decide),
    bind_eq_ok, guard_eq_ok, pure_eq_ok, ofExcept_eq_ok, Octets.index_eq_ok, Octets.range_eq_ok] at h
  obtain ⟨_, hheader, hpresent, octet, hoctet, set, hset, text, ⟨hlow, hhigh, htext⟩, decoded, hdecoded,
    hvalue⟩ := h
  cases hheader
  rw [not_or] at hpresent
  cases hvalue
  -- The octet after the tag is the one that was written, whatever length the tag has kept.
  have hzero : octet = 0 := by
    rw [List.getElem?_append_right (Nat.le_refl _), Nat.sub_self] at hoctet
    exact (Option.some.inj hoctet).symm
  rw [hzero] at hset
  cases hset
  have hutf8 : String.fromUTF8? ⟨text.toArray⟩ = some value := by
    simp only [CharacterSet.decode] at hdecoded
    split at hdecoded
    · next hfound =>
        cases hdecoded
        exact hfound
    · cases hdecoded
  have hlength : value.toUTF8.toList.length + 1
      = (value.toUTF8.toList.length + 1) % 2 ^ 32 := by
    have htaken : text.length = (value.toUTF8.toList.length + 1) % 2 ^ 32 - 1 := by
      rw [htext, List.length_take, List.length_drop]
      omega
    rw [toUTF8_of_fromUTF8? hutf8] at htaken hpresent ⊢
    omega
  rw [hlength]
  exact Nat.mod_lt _ (by decide)

end Short

/-! ## §9. Every type -/

/-- **Application-tagged values are read as they were written**, whatever comes next: every value
of every type that its encoder takes, of a length the tag's four octets can hold.  A character
string counts one octet more than its text, for the character set. -/
theorem primitives_roundTrip :
    (∀ value, Reads decodeBoolean (encodeBoolean value) value) ∧
    (∀ value, Reads decodeUnsigned (encodeUnsigned value) value) ∧
    (∀ value, Reads decodeUnsigned64 (encodeUnsigned64 value) value) ∧
    (∀ value, Reads decodeSigned (encodeSigned value) value) ∧
    (∀ value, Reads decodeSigned64 (encodeSigned64 value) value) ∧
    (∀ value, Reads decodeReal (encodeReal value) value) ∧
    (∀ value, Reads decodeDouble (encodeDouble value) value) ∧
    (∀ value : Bytes, value.length < 2 ^ 32 →
      Reads decodeOctetString (encodeOctetString value) value) ∧
    (∀ value : String, value.toUTF8.toList.length + 1 < 2 ^ 32 →
      Reads decodeCharacterString (encodeCharacterString value) value) ∧
    (∀ value : List Bool, value.length < 2 ^ 32 →
      Reads decodeBitString (encodeBitString value) value) ∧
    (∀ value, Reads decodeEnumerated (encodeEnumerated value) value) ∧
    (∀ value encoded, encodeDate value = .ok encoded → Reads decodeDate encoded value) ∧
    (∀ value, Reads decodeTime (encodeTime value) value) ∧
    (∀ value encoded, encodeObjectIdentifier value = .ok encoded →
      Reads decodeObjectIdentifier encoded value) :=
  ⟨reads_boolean, reads_unsigned, reads_unsigned64, reads_signed, reads_signed64, reads_real,
    reads_double, fun _ => reads_octetString, fun _ => reads_characterString,
    fun _ hlength => reads_bitString (by omega), reads_enumerated, fun _ _ => reads_date, reads_time,
    fun _ _ => reads_objectIdentifier⟩

/-- A text of `count` one-octet characters. -/
def textOf (count : Nat) : String := String.ofList (List.replicate count 'a')

theorem length_textOf (n : Nat) : (textOf n).toUTF8.toList.length = n := by
  rw [textOf, String.toUTF8_eq_toByteArray, String.toByteArray_ofList, ByteArray.toList, toList_loop]
  show ((List.replicate n 'a').utf8Encode.data.toList.drop 0).length = n
  rw [List.drop_zero, Array.length_toList]
  show (List.replicate n 'a').utf8Encode.size = n
  induction n with
  | zero => rfl
  | succ n ih =>
      rw [List.replicate_succ, List.utf8Encode_cons, ByteArray.size_append, ih]
      show 1 + n = n + 1
      omega

/-- A length of 2^32 leaves only zeros in the four octets of an extended length. -/
theorem decodeTag_wrapped (rest : Bytes) :
    decodeTag (encodeApplicationTag .characterString (2 ^ 32) ++ rest)
      = .ok (.application .characterString, 0, 6) := by
  have hencoded : encodeApplicationTag .characterString (2 ^ 32) = [0x75, 255, 0, 0, 0, 0] := by
    decide +kernel
  have hextended : readExtendedLength ([0x75, 255, 0, 0, 0, 0] ++ rest) 1 = .ok (0, 5) := by
    simp [readExtendedLength, range?, beNat]
  have hvalue := @decodeTagValue_primitive lvtExtendedLength (by decide)
    ([0x75, 255, 0, 0, 0, 0] ++ rest) false 7 1
  rw [if_pos rfl, hextended] at hvalue
  rw [hencoded]
  exact hvalue

/-- What is encoded from text of 2^32 - 1 octets is refused. -/
theorem decodeCharacterString_wrapped {value : String}
    (hlength : value.toUTF8.toList.length + 1 = 2 ^ 32) :
    decodeCharacterString (encodeCharacterString value) = .error (.error .bufferUnderflow) := by
  have hencoded : encodeCharacterString value =
      encodeApplicationTag .characterString (2 ^ 32) ++ (0 :: value.toUTF8.toList) := by
    rw [← hlength]
    rfl
  rw [hencoded]
  unfold decodeCharacterString expectApplicationTag decodeApplicationTag
  rw [decodeTag_wrapped]
  simp only [Checked.ofExcept, bind, Except.bind]
  rw [if_neg (not_not_intro rfl)]
  simp only [pure, Except.pure]
  rw [if_pos (.inr trivial)]
  rfl

/-- Text of 2^32 - 1 octets is encoded and not read back. -/
theorem characterString_wrapped :
    (textOf (2 ^ 32 - 1)).toUTF8.toList.length < 2 ^ 32 ∧
      ¬ Reads decodeCharacterString (encodeCharacterString (textOf (2 ^ 32 - 1)))
        (textOf (2 ^ 32 - 1)) := by
  have hlength := length_textOf (2 ^ 32 - 1)
  refine ⟨by omega, ?_⟩
  intro h
  have hread := h []
  rw [List.append_nil, decodeCharacterString_wrapped (by omega)] at hread
  cases hread

end BacnetRs.Encoding
