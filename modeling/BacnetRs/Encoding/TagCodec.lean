/-
  BacnetRs.Encoding.TagCodec — tags are read as they were written.

  One initial octet multiplexes the tag number, the class bit, a short length
  and the two markers of constructed data; the octet of an extended tag number
  comes before the octets of an extended length.  What an initial octet says
  about each of the four forms is decided once, over all its values.

    * `readExtendedLength_write` — extended lengths read back, modulo 2^32.
    * `decodeTagValue_length`    — a length in either form reads back, behind either
                                   form of the number.
    * `tags_roundTrip`           — encoders and `decodeTag` undo each other, and no two
                                   forms share an encoding.
    * `decodeTag_of_take`        — a tag is read from its own octets.
-/
import BacnetRs.Encoding.Consumption

namespace BacnetRs.Encoding

/-! ## §1. The initial octet -/

/-- The three fields of the initial octet of a context-specific tag. -/
theorem contextOctet_fields : ∀ nibble : Fin 16, ∀ lvt : Fin 8,
    let octet := contextClassBit ||| UInt8.ofNat nibble <<< 4 ||| UInt8.ofNat lvt
    (octet &&& contextClassBit != 0) = true ∧ octet &&& 0x07 = UInt8.ofNat lvt ∧
      octet >>> 4 = UInt8.ofNat nibble := by
  decide +kernel

/-- The three fields of the initial octet of an application tag. -/
theorem applicationOctet_fields : ∀ nibble : Fin 16, ∀ lvt : Fin 8,
    let octet := UInt8.ofNat nibble <<< 4 ||| UInt8.ofNat lvt
    (octet &&& contextClassBit != 0) = false ∧ octet &&& 0x07 = UInt8.ofNat lvt ∧
      octet >>> 4 = UInt8.ofNat nibble := by
  decide +kernel

/-- An initial octet is its three fields and nothing else. -/
theorem octet_of_fields (octet : UInt8) :
    octet = (if octet &&& contextClassBit != 0 then contextClassBit else 0) |||
      (octet >>> 4) <<< 4 ||| octet &&& 0x07 := by
  have hall : ∀ n : Fin 256, UInt8.ofNat n =
      (if UInt8.ofNat n &&& contextClassBit != 0 then contextClassBit else 0) |||
        (UInt8.ofNat n >>> 4) <<< 4 ||| UInt8.ofNat n &&& 0x07 := by
    decide +kernel
  have hoctet := hall ⟨octet.toNat, octet.toNat_lt⟩
  rwa [UInt8.ofNat_toNat] at hoctet

/-- The nibble and the octet after it both number the tag. -/
theorem contextTagNumber_eq (number : UInt8) :
    (14 < number ∧ contextTagNumber number = (UInt8.ofNat 15 <<< 4, [number])) ∨
      (number ≤ 14 ∧ contextTagNumber number = (number <<< 4, [])) := by
  unfold contextTagNumber
  by_cases hlarge : number > 14
  · rw [if_pos hlarge]
    exact .inl ⟨hlarge, rfl⟩
  · rw [if_neg hlarge]
    exact .inr ⟨UInt8.not_lt.mp hlarge, rfl⟩

/-- The initial octet of a context-specific tag, whatever its number, and what is read after
it. -/
theorem decodeTag_context (number : UInt8) (lvt : Fin 8) (rest : Bytes) :
    decodeTag ((contextClassBit ||| (contextTagNumber number).1 ||| UInt8.ofNat lvt) ::
        (contextTagNumber number).2 ++ rest) =
      decodeTagValue ((contextClassBit ||| (contextTagNumber number).1 ||| UInt8.ofNat lvt) ::
        (contextTagNumber number).2 ++ rest) true (UInt8.ofNat lvt) number
        (1 + (contextTagNumber number).2.length) := by
  rcases contextTagNumber_eq number with ⟨-, heq⟩ | ⟨hsmall, heq⟩
  · -- The number comes in the second octet.
    obtain ⟨hclass, hlvt, hnibble⟩ := contextOctet_fields 15 lvt
    rw [heq]
    simp only [decodeTag, List.cons_append, List.head?_cons]
    rw [show UInt8.ofNat 15 = UInt8.ofNat (15 : Fin 16).val from rfl, hclass, hlvt, hnibble]
    rfl
  · have hlt : number.toNat < 15 := Nat.lt_succ_of_le (UInt8.le_iff_toNat_le.mp hsmall)
    obtain ⟨hclass, hlvt, hnibble⟩ := contextOctet_fields ⟨number.toNat, by omega⟩ lvt
    simp only [UInt8.ofNat_toNat] at hclass hlvt hnibble
    have hshort : number ≠ extendedTagNumber := by
      intro hextended
      rw [hextended] at hlt
      exact absurd hlt (by decide)
    rw [heq]
    simp only [decodeTag, List.cons_append, List.head?_cons]
    rw [hclass, hlvt, hnibble, if_neg hshort]
    rfl

/-- The initial octet of an application tag. -/
theorem decodeTag_application {tag : ApplicationTag} (htag : tag ≠ .reserved15) (lvt : Fin 8)
    (rest : Bytes) :
    decodeTag ((tag.toByte <<< 4 ||| UInt8.ofNat lvt) :: rest) =
      decodeTagValue ((tag.toByte <<< 4 ||| UInt8.ofNat lvt) :: rest) false (UInt8.ofNat lvt)
        tag.toByte 1 := by
  have hlt : tag.toByte.toNat < 15 := by
    cases tag <;> first | decide | exact absurd rfl htag
  obtain ⟨hclass, hlvt, hnibble⟩ := applicationOctet_fields ⟨tag.toByte.toNat, by omega⟩ lvt
  simp only [UInt8.ofNat_toNat] at hclass hlvt hnibble
  have hshort : tag.toByte ≠ extendedTagNumber := by
    intro hextended
    rw [hextended] at hlt
    exact absurd hlt (by decide)
  simp only [decodeTag, List.head?_cons]
  rw [hclass, hlvt, hnibble, if_neg hshort]

/-- An application tag number reads back, but for 15. -/
theorem ApplicationTag.tryFrom_toByte {tag : ApplicationTag} (htag : tag ≠ .reserved15) :
    ApplicationTag.tryFrom tag.toByte = .ok tag := by
  cases tag <;> first | rfl | exact absurd rfl htag

/-! ## §2. Lengths -/

/-- **An extended length reads back**, wherever it starts, but for what four octets do not hold. -/
theorem readExtendedLength_write (before rest : Bytes) (length : Nat) :
    readExtendedLength (before ++ (writeExtendedLength length ++ rest)) before.length
      = .ok (length % 2 ^ 32, (writeExtendedLength length).length) := by
  -- The octets after the first, in the two longer forms.
  have hoctets : ∀ (first : UInt8) (width : Nat),
      (before ++ (first :: Octets.beOctets width length ++ rest))[before.length]? = some first ∧
      Octets.range? (before ++ (first :: Octets.beOctets width length ++ rest))
        (before.length + 1) (before.length + 1 + width) = some (Octets.beOctets width length) := by
    intro first width
    refine ⟨by simp, ?_⟩
    have hrange := Octets.range?_append (before ++ [first]) (Octets.beOctets width length) rest
    rw [List.length_append, List.length_singleton, Octets.length_beOctets] at hrange
    simpa using hrange
  unfold writeExtendedLength
  by_cases hone : length < 254
  · rw [if_pos hone]
    have hfirst : (UInt8.ofNat length).toNat = length := by
      rw [UInt8.toNat_ofNat']
      omega
    unfold readExtendedLength
    rw [List.getElem?_append_right (Nat.le_refl _), Nat.sub_self]
    simp only [List.cons_append, List.getElem?_cons_zero, hfirst]
    rw [if_pos (by omega), show length % 2 ^ 32 = length by omega]
    rfl
  · rw [if_neg hone]
    by_cases htwo : length < 65536
    · obtain ⟨hfirst, hrange⟩ := hoctets 254 2
      rw [if_pos htwo]
      unfold readExtendedLength
      rw [hfirst]
      simp only [show ¬ (254 : UInt8).toNat ≤ 253 by decide, if_false, if_true]
      rw [hrange]
      simp only [Octets.beNat_beOctets, List.length_cons, Octets.length_beOctets]
      rw [show length % 256 ^ 2 = length by omega, show length % 2 ^ 32 = length by omega]
    · obtain ⟨hfirst, hrange⟩ := hoctets 255 4
      rw [if_neg htwo]
      unfold readExtendedLength
      rw [hfirst]
      simp only [show ¬ (255 : UInt8).toNat ≤ 253 by decide, show ¬ (255 : UInt8) = 254 by decide,
        if_false]
      rw [hrange]
      have hwidth : (256 : Nat) ^ 4 = 2 ^ 32 := by decide
      simp only [Octets.beNat_beOctets, hwidth, List.length_cons, Octets.length_beOctets]

/-- The tag a primitive value is introduced by, in either class. -/
def primitiveTag (isContext : Bool) (number : UInt8) : Except EncodingError BACnetTag :=
  if isContext then .ok (.context number)
  else BACnetTag.application <$> ApplicationTag.tryFrom number

/-- Below the two markers the nibble is a length, or says that one follows. -/
theorem decodeTagValue_primitive {lvt : UInt8} (hlvt : lvt < lvtOpeningTag) (data : Bytes)
    (isContext : Bool) (number : UInt8) (start : Nat) :
    decodeTagValue data isContext lvt number start =
      (if lvt = lvtExtendedLength then readExtendedLength data start else .ok (lvt.toNat, 0)).bind
        (fun (length, extra) =>
          (primitiveTag isContext number).map (fun tag => (tag, length, start + extra))) := by
  have hopening : (lvt == lvtOpeningTag) = false := by
    apply beq_false_of_ne
    rintro rfl
    exact absurd hlvt (by decide)
  have hclosing : (lvt == lvtClosingTag) = false := by
    apply beq_false_of_ne
    rintro rfl
    exact absurd hlvt (by decide)
  have hmarker : decide (lvtOpeningTag ≤ lvt) = false := decide_eq_false (UInt8.not_le.mpr hlvt)
  unfold decodeTagValue primitiveTag
  rw [hopening, hclosing, hmarker]
  simp only [Bool.and_false, Bool.false_eq_true, if_false]
  by_cases hextended : lvt = lvtExtendedLength
  · rw [if_pos hextended, if_pos hextended]
    cases readExtendedLength data start with
    | error e => rfl
    | ok pair =>
        cases isContext with
        | true => rfl
        | false => cases hnumber : ApplicationTag.tryFrom number <;> rfl
  · rw [if_neg hextended, if_neg hextended]
    cases isContext with
    | true => rfl
    | false => cases hnumber : ApplicationTag.tryFrom number <;> rfl

/-! ## §3. Each form reads back -/

/-- What the initial octet of a primitive tag says about a length. -/
def lengthNibble (length : Nat) : Fin 8 :=
  if h : length < 5 then ⟨length, by omega⟩ else 5

/-- The octets a length takes after the tag number. -/
def lengthOctets (length : Nat) : Bytes :=
  if length < 5 then [] else writeExtendedLength length

theorem encodeContextTag_eq (number : UInt8) (length : Nat) :
    encodeContextTag number length =
      (contextClassBit ||| (contextTagNumber number).1 ||| UInt8.ofNat (lengthNibble length)) ::
        (contextTagNumber number).2 ++ lengthOctets length := by
  unfold encodeContextTag lengthNibble lengthOctets
  have hlimit : lvtExtendedLength.toNat = 5 := rfl
  by_cases hshort : length < 5
  · simp [hlimit, hshort]
  · simp only [hlimit, hshort, dite_false, if_false]
    rfl

theorem encodeApplicationTag_eq (tag : ApplicationTag) (length : Nat) :
    encodeApplicationTag tag length =
      (tag.toByte <<< 4 ||| UInt8.ofNat (lengthNibble length)) :: lengthOctets length := by
  unfold encodeApplicationTag lengthNibble lengthOctets
  have hlimit : lvtExtendedLength.toNat = 5 := rfl
  by_cases hshort : length < 5
  · simp [hlimit, hshort]
  · simp only [hlimit, hshort, dite_false, if_false]
    rfl

theorem encodeOpeningTag_eq (number : UInt8) :
    encodeOpeningTag number =
      (contextClassBit ||| (contextTagNumber number).1 ||| UInt8.ofNat (6 : Fin 8)) ::
        (contextTagNumber number).2 := by
  rw [UInt8.or_comm contextClassBit]
  rfl

theorem encodeClosingTag_eq (number : UInt8) :
    encodeClosingTag number =
      (contextClassBit ||| (contextTagNumber number).1 ||| UInt8.ofNat (7 : Fin 8)) ::
        (contextTagNumber number).2 := by
  rw [UInt8.or_comm contextClassBit]
  rfl

/-- A length in either form reads back after `before`. -/
theorem decodeTagValue_length {isContext : Bool} {number : UInt8} {tag : BACnetTag}
    (htag : primitiveTag isContext number = .ok tag) (before rest : Bytes) (length : Nat) :
    decodeTagValue (before ++ (lengthOctets length ++ rest)) isContext
        (UInt8.ofNat (lengthNibble length)) number before.length
      = .ok (tag, length % 2 ^ 32, before.length + (lengthOctets length).length) := by
  unfold lengthNibble lengthOctets
  by_cases hshort : length < 5
  · have hnat : (UInt8.ofNat length).toNat = length := by
      rw [UInt8.toNat_ofNat']
      omega
    have hne : UInt8.ofNat length ≠ lvtExtendedLength := by
      intro heq
      rw [heq] at hnat
      exact absurd hnat (by show ¬ 5 = length; omega)
    have hlt : UInt8.ofNat length < lvtOpeningTag := by
      rw [UInt8.lt_iff_toNat_lt, hnat]
      show length < 6
      omega
    rw [dif_pos hshort, if_pos hshort, decodeTagValue_primitive hlt, if_neg hne, hnat, htag,
      show length % 2 ^ 32 = length by omega]
    rfl
  · have hextended := readExtendedLength_write before rest length
    rw [dif_neg hshort, if_neg hshort]
    show decodeTagValue _ isContext lvtExtendedLength number _ = _
    rw [decodeTagValue_primitive (by decide), if_pos rfl, hextended, htag]
    rfl

/-- A context tag reads back, but for the part of a length that four octets do not hold. -/
theorem decodeTag_encodeContextTag_mod (number : UInt8) (length : Nat) (rest : Bytes) :
    decodeTag (encodeContextTag number length ++ rest)
      = .ok (.context number, length % 2 ^ 32, (encodeContextTag number length).length) := by
  have hvalue := @decodeTagValue_length true number (.context number) rfl
    ((contextClassBit ||| (contextTagNumber number).1 ||| UInt8.ofNat (lengthNibble length)) ::
      (contextTagNumber number).2) rest length
  have hinitial := decodeTag_context number (lengthNibble length) (lengthOctets length ++ rest)
  rw [encodeContextTag_eq, List.append_assoc, hinitial, List.length_append]
  rw [List.length_cons, Nat.add_comm] at hvalue
  rw [List.length_cons, Nat.add_comm (contextTagNumber number).2.length]
  exact hvalue

theorem decodeTag_encodeContextTag (number : UInt8) {length : Nat} (hlength : length < 2 ^ 32)
    (rest : Bytes) :
    decodeTag (encodeContextTag number length ++ rest)
      = .ok (.context number, length, (encodeContextTag number length).length) := by
  rw [decodeTag_encodeContextTag_mod,
    show length % 2 ^ 32 = length from Nat.mod_eq_of_lt hlength]

/-- An application tag reads back, but for the part of a length that four octets do not hold. -/
theorem decodeTag_encodeApplicationTag_mod {tag : ApplicationTag} (htag : tag ≠ .reserved15)
    (length : Nat) (rest : Bytes) :
    decodeTag (encodeApplicationTag tag length ++ rest)
      = .ok (.application tag, length % 2 ^ 32, (encodeApplicationTag tag length).length) := by
  have hprimitive : primitiveTag false tag.toByte = .ok (.application tag) := by
    unfold primitiveTag
    rw [ApplicationTag.tryFrom_toByte htag]
    rfl
  have hvalue := decodeTagValue_length hprimitive
    [tag.toByte <<< 4 ||| UInt8.ofNat (lengthNibble length)] rest length
  have hinitial := decodeTag_application htag (lengthNibble length) (lengthOctets length ++ rest)
  rw [encodeApplicationTag_eq, List.cons_append, hinitial, List.length_cons, Nat.add_comm]
  exact hvalue

theorem decodeTag_encodeApplicationTag {tag : ApplicationTag} (htag : tag ≠ .reserved15)
    {length : Nat} (hlength : length < 2 ^ 32) (rest : Bytes) :
    decodeTag (encodeApplicationTag tag length ++ rest)
      = .ok (.application tag, length, (encodeApplicationTag tag length).length) := by
  rw [decodeTag_encodeApplicationTag_mod htag,
    show length % 2 ^ 32 = length from Nat.mod_eq_of_lt hlength]

theorem decodeTag_encodeOpeningTag (number : UInt8) (rest : Bytes) :
    decodeTag (encodeOpeningTag number ++ rest)
      = .ok (.opening number, 0, (encodeOpeningTag number).length) := by
  rw [encodeOpeningTag_eq, decodeTag_context number 6 rest, List.length_cons, Nat.add_comm]
  rfl

theorem decodeTag_encodeClosingTag (number : UInt8) (rest : Bytes) :
    decodeTag (encodeClosingTag number ++ rest)
      = .ok (.closing number, 0, (encodeClosingTag number).length) := by
  rw [encodeClosingTag_eq, decodeTag_context number 7 rest, List.length_cons, Nat.add_comm]
  rfl

/-! ## §4. What is read in its shortest form is written back -/

/-- The number a tag carries. -/
def BACnetTag.number : BACnetTag → UInt8
  | .application tag => tag.toByte
  | .context number | .opening number | .closing number => number

/-- A tag of any form, by the encoder of that form. -/
def encodeTag : BACnetTag → Nat → Bytes
  | .application tag, length => encodeApplicationTag tag length
  | .context number, length => encodeContextTag number length
  | .opening number, _ => encodeOpeningTag number
  | .closing number, _ => encodeClosingTag number

/-- Where the length octets start, after the tag number. -/
def lengthOffset (initial : UInt8) : Nat :=
  if initial >>> 4 = extendedTagNumber then 2 else 1

/-- The number and the length of the tag in front of `data` are no longer than they need be:
an extended number is above 14, an extended length above 4, and its longer forms only hold
what the one before cannot. -/
structure ShortestForm (data : Bytes) (tag : BACnetTag) (length : Nat) : Prop where
  number : ∀ initial, data.head? = some initial →
    initial >>> 4 = extendedTagNumber → 14 < tag.number
  length : ∀ initial, data.head? = some initial → initial &&& 0x07 = lvtExtendedLength →
    4 < length ∧ (data[lengthOffset initial]? = some 254 → 253 < length) ∧
      (data[lengthOffset initial]? = some 255 → 65535 < length)

/-- What a successful read of the length and the class says. -/
theorem decodeTagValue_eq_ok {data : Bytes} {isContext : Bool} {lvt number : UInt8} {start : Nat}
    {tag : BACnetTag} {length consumed : Nat} (hlvt : lvt ≤ 7)
    (h : decodeTagValue data isContext lvt number start = .ok (tag, length, consumed)) :
    (isContext = true ∧ lvt = lvtOpeningTag ∧ tag = .opening number ∧ consumed = start) ∨
    (isContext = true ∧ lvt = lvtClosingTag ∧ tag = .closing number ∧ consumed = start) ∨
    (primitiveTag isContext number = .ok tag ∧
      ((lvt = lvtExtendedLength ∧ ∃ extra, readExtendedLength data start = .ok (length, extra) ∧
          consumed = start + extra) ∨
        (length < 5 ∧ lvt = UInt8.ofNat length ∧ consumed = start))) := by
  by_cases hmarker : lvt < lvtOpeningTag
  · right; right
    rw [decodeTagValue_primitive hmarker] at h
    by_cases hextended : lvt = lvtExtendedLength
    · rw [if_pos hextended] at h
      cases hread : readExtendedLength data start with
      | error e =>
          rw [hread] at h
          cases h
      | ok pair =>
          rw [hread] at h
          cases htag : primitiveTag isContext number with
          | error e =>
              rw [htag] at h
              cases h
          | ok actual =>
              rw [htag] at h
              cases h
              exact ⟨rfl, .inl ⟨hextended, pair.2, rfl, rfl⟩⟩
    · rw [if_neg hextended] at h
      cases htag : primitiveTag isContext number with
      | error e =>
          rw [htag] at h
          cases h
      | ok actual =>
          rw [htag] at h
          cases h
          have hsix : lvt.toNat < 6 := UInt8.lt_iff_toNat_lt.mp hmarker
          have hfive : lvt.toNat ≠ 5 := fun heq => hextended (UInt8.toNat_inj.mp heq)
          exact ⟨rfl, .inr ⟨by omega, UInt8.ofNat_toNat.symm, rfl⟩⟩
  · -- A marker, which only context-specific tags have.
    have hseven : lvt.toNat ≤ 7 := UInt8.le_iff_toNat_le.mp hlvt
    have hsix : 6 ≤ lvt.toNat := UInt8.le_iff_toNat_le.mp (UInt8.not_lt.mp hmarker)
    have heither : lvt = lvtOpeningTag ∨ lvt = lvtClosingTag := by
      rcases Nat.lt_or_ge lvt.toNat 7 with hlt | hge
      · exact .inl (UInt8.toNat_inj.mp (show lvt.toNat = 6 by omega))
      · exact .inr (UInt8.toNat_inj.mp (show lvt.toNat = 7 by omega))
    cases isContext with
    | false => rcases heither with rfl | rfl <;> cases h
    | true =>
        rcases heither with rfl | rfl
        · cases h
          exact .inl ⟨rfl, rfl, rfl, rfl⟩
        · cases h
          exact .inr (.inl ⟨rfl, rfl, rfl, rfl⟩)

/-- What a successful read of the initial octet and the number says. -/
theorem decodeTag_eq_ok {data : Bytes} {result : BACnetTag × Nat × Nat}
    (h : decodeTag data = .ok result) :
    ∃ initial rest number, data = initial :: rest ∧
      decodeTagValue data (initial &&& contextClassBit != 0) (initial &&& 0x07) number
        (lengthOffset initial) = .ok result ∧
      ((initial >>> 4 = extendedTagNumber ∧ (initial &&& contextClassBit != 0) = true ∧
          ∃ more, rest = number :: more) ∨
        (initial >>> 4 ≠ extendedTagNumber ∧ number = initial >>> 4)) := by
  cases data with
  | nil => cases h
  | cons initial rest =>
      unfold decodeTag at h
      simp only [List.head?_cons] at h
      unfold lengthOffset
      by_cases hextended : initial >>> 4 = extendedTagNumber
      · rw [if_pos hextended] at h
        cases hclass : (initial &&& contextClassBit != 0) with
        | false =>
            rw [hclass] at h
            cases h
        | true =>
            rw [hclass] at h
            cases rest with
            | nil => cases h
            | cons number more =>
                refine ⟨initial, number :: more, number, rfl, ?_, .inl ⟨hextended, hclass, more, rfl⟩⟩
                rw [if_pos hextended, hclass]
                exact h
      · rw [if_neg hextended] at h
        refine ⟨initial, rest, initial >>> 4, rfl, ?_, .inr ⟨hextended, rfl⟩⟩
        rw [if_neg hextended]
        exact h

/-- An extended length that needs its form is written as it was read. -/
theorem writeExtendedLength_read {data : Bytes} {start length extra : Nat}
    (h : readExtendedLength data start = .ok (length, extra))
    (htwo : data[start]? = some 254 → 253 < length)
    (hfour : data[start]? = some 255 → 65535 < length) :
    writeExtendedLength length = (data.drop start).take extra := by
  -- The octets after the first, in the two longer forms.
  have hoctets : ∀ (first : UInt8) (width : Nat) (octets : Bytes), data[start]? = some first →
      Octets.range? data (start + 1) (start + 1 + width) = some octets →
      octets.length = width ∧ (data.drop start).take (width + 1) = first :: octets := by
    intro first width octets hfirst hrange
    obtain ⟨hlt, hget⟩ := List.getElem?_eq_some_iff.mp hfirst
    refine ⟨Octets.length_of_range? hrange rfl, ?_⟩
    unfold Octets.range? at hrange
    split at hrange
    · cases hrange
      rw [List.drop_eq_getElem_cons hlt, hget, List.take_succ_cons, Nat.add_sub_cancel_left]
    · cases hrange
  unfold readExtendedLength at h
  cases hfirst : data[start]? with
  | none =>
      rw [hfirst] at h
      cases h
  | some first =>
      obtain ⟨hlt, hget⟩ := List.getElem?_eq_some_iff.mp hfirst
      rw [hfirst] at h htwo hfour
      simp only at h
      by_cases hone : first.toNat ≤ 253
      · rw [if_pos hone] at h
        cases h
        unfold writeExtendedLength
        rw [if_pos (by omega), UInt8.ofNat_toNat, List.drop_eq_getElem_cons hlt, hget]
        rfl
      · rw [if_neg hone] at h
        by_cases h254 : first = 254
        · rw [if_pos h254] at h
          cases hrange : Octets.range? data (start + 1) (start + 3) with
          | none =>
              rw [hrange] at h
              cases h
          | some octets =>
              rw [hrange] at h
              cases h
              obtain ⟨hlength, htake⟩ := hoctets first 2 octets hfirst hrange
              have hbound := Octets.beNat_lt octets
              have hlow := htwo (congrArg some h254)
              rw [hlength] at hbound
              unfold writeExtendedLength
              rw [if_neg (by omega), if_pos (by omega), htake, h254]
              rw [show Octets.beOctets 2 (Octets.beNat octets) = octets by
                rw [← hlength, Octets.beOctets_beNat]]
        · have h255 : first = 255 := by
            have hle : first.toNat < 256 := first.toNat_lt
            have hne : first.toNat ≠ 254 := fun heq => h254 (UInt8.toNat_inj.mp heq)
            exact UInt8.toNat_inj.mp (show first.toNat = 255 by omega)
          rw [if_neg h254] at h
          cases hrange : Octets.range? data (start + 1) (start + 5) with
          | none =>
              rw [hrange] at h
              cases h
          | some octets =>
              rw [hrange] at h
              cases h
              obtain ⟨hlength, htake⟩ := hoctets first 4 octets hfirst hrange
              have hlow := hfour (congrArg some h255)
              unfold writeExtendedLength
              rw [if_neg (by omega), if_neg (by omega), htake, h255]
              rw [show Octets.beOctets 4 (Octets.beNat octets) = octets by
                rw [← hlength, Octets.beOctets_beNat]]

theorem ApplicationTag.toByte_of_tryFrom {value : UInt8} {tag : ApplicationTag}
    (h : ApplicationTag.tryFrom value = .ok tag) : tag.toByte = value := by
  unfold ApplicationTag.tryFrom at h
  split at h <;> first
    | (next heq => cases h; exact UInt8.toNat_inj.mp heq.symm)
    | cases h

/-- The length in either form, as the nibble and the octets it was read from. -/
theorem lengthOctets_read {initial : UInt8} {rest : Bytes} {tag : BACnetTag}
    {length consumed : Nat} (hshortest : ShortestForm (initial :: rest) tag length)
    (h : (initial &&& 0x07 = lvtExtendedLength ∧ ∃ extra,
          readExtendedLength (initial :: rest) (lengthOffset initial) = .ok (length, extra) ∧
          consumed = lengthOffset initial + extra) ∨
        (length < 5 ∧ initial &&& 0x07 = UInt8.ofNat length ∧ consumed = lengthOffset initial)) :
    UInt8.ofNat (lengthNibble length) = initial &&& 0x07 ∧
      (initial :: rest).take (lengthOffset initial) ++ lengthOctets length
        = (initial :: rest).take consumed := by
  unfold lengthNibble lengthOctets
  rcases h with ⟨hlvt, extra, hread, rfl⟩ | ⟨hshort, hlvt, rfl⟩
  · obtain ⟨hfour, hforms⟩ := hshortest.length initial rfl hlvt
    have hlong : ¬ length < 5 := by omega
    rw [dif_neg hlong, if_neg hlong, hlvt, writeExtendedLength_read hread hforms.1 hforms.2,
      List.take_add]
    exact ⟨rfl, rfl⟩
  · rw [dif_pos hshort, if_pos hshort, hlvt, List.append_nil]
    exact ⟨rfl, rfl⟩

/-- The number of a context-specific tag, as the nibble and the octet it was read from. -/
theorem contextTagNumber_read {initial number : UInt8} {rest : Bytes}
    (hnumber : (initial >>> 4 = extendedTagNumber ∧ ∃ more, rest = number :: more) ∨
      (initial >>> 4 ≠ extendedTagNumber ∧ number = initial >>> 4))
    (hshortest : initial >>> 4 = extendedTagNumber → 14 < number) :
    (contextTagNumber number).1 = (initial >>> 4) <<< 4 ∧
      initial :: (contextTagNumber number).2 = (initial :: rest).take (lengthOffset initial) := by
  unfold lengthOffset
  rcases hnumber with ⟨hextended, more, rfl⟩ | ⟨hshort, rfl⟩
  · have hlarge := hshortest hextended
    unfold contextTagNumber
    rw [if_pos hextended, if_pos hlarge, hextended]
    exact ⟨rfl, rfl⟩
  · have hnibble : (initial >>> 4).toNat < 16 := by
      have hoctet : initial.toNat < 256 := initial.toNat_lt
      rw [UInt8.toNat_shiftRight]
      show initial.toNat >>> 4 < 16
      rw [Nat.shiftRight_eq_div_pow]
      omega
    have hne : (initial >>> 4).toNat ≠ 15 := fun heq => hshort (UInt8.toNat_inj.mp heq)
    have hsmall : ¬ initial >>> 4 > 14 := by
      intro hlt
      have hlt' : 14 < (initial >>> 4).toNat := UInt8.lt_iff_toNat_lt.mp hlt
      omega
    unfold contextTagNumber
    rw [if_neg hshort, if_neg hsmall]
    exact ⟨rfl, rfl⟩

/-- **What is read in its shortest form is written back octet for octet.** -/
theorem encodeTag_of_decodeTag {data : Bytes} {tag : BACnetTag} {length consumed : Nat}
    (h : decodeTag data = .ok (tag, length, consumed)) (hshortest : ShortestForm data tag length) :
    encodeTag tag length = data.take consumed := by
  obtain ⟨initial, rest, number, rfl, hvalue, hnumber⟩ := decodeTag_eq_ok h
  have hlvt : initial &&& 0x07 ≤ 7 := by
    rw [UInt8.le_iff_toNat_le, UInt8.toNat_and]
    exact Nat.and_le_right
  have hfields := octet_of_fields initial
  -- The number octets of a context-specific tag of any form.
  have hcontext : tag.number = number →
      (contextTagNumber number).1 = (initial >>> 4) <<< 4 ∧
        initial :: (contextTagNumber number).2 = (initial :: rest).take (lengthOffset initial) := by
    intro htag
    apply contextTagNumber_read (hnumber.imp (fun hextended => ⟨hextended.1, hextended.2.2⟩) id)
    rw [← htag]
    exact hshortest.number initial rfl
  rcases decodeTagValue_eq_ok hlvt hvalue with ⟨hclass, hmarker, rfl, rfl⟩ |
    ⟨hclass, hmarker, rfl, rfl⟩ | ⟨hprimitive, hlength⟩
  · obtain ⟨hnibble, htake⟩ := hcontext rfl
    rw [hclass, hmarker, if_pos rfl, ← hnibble] at hfields
    rw [← htake, hfields]
    exact encodeOpeningTag_eq number
  · obtain ⟨hnibble, htake⟩ := hcontext rfl
    rw [hclass, hmarker, if_pos rfl, ← hnibble] at hfields
    rw [← htake, hfields]
    exact encodeClosingTag_eq number
  · obtain ⟨hlengthNibble, htake⟩ := lengthOctets_read hshortest hlength
    cases hclass : (initial &&& contextClassBit != 0) with
    | true =>
        rw [hclass] at hprimitive hfields
        cases hprimitive
        obtain ⟨hnibble, hnumberOctets⟩ := hcontext rfl
        rw [if_pos rfl, ← hnibble, ← hlengthNibble] at hfields
        show encodeContextTag number length = _
        rw [encodeContextTag_eq, ← hfields, ← htake, hnumberOctets]
    | false =>
        rw [hclass] at hprimitive hfields hnumber
        have hshort : initial >>> 4 ≠ extendedTagNumber ∧ number = initial >>> 4 :=
          hnumber.resolve_left (fun hextended => by cases hextended.2.1)
        cases htag : ApplicationTag.tryFrom number with
        | error e =>
            unfold primitiveTag at hprimitive
            rw [htag] at hprimitive
            cases hprimitive
        | ok actual =>
            unfold primitiveTag at hprimitive
            rw [htag] at hprimitive
            cases hprimitive
            have hnibble : actual.toByte = initial >>> 4 := by
              rw [ApplicationTag.toByte_of_tryFrom htag, hshort.2]
            rw [if_neg (by decide), UInt8.zero_or, ← hnibble, ← hlengthNibble] at hfields
            show encodeApplicationTag actual length = _
            rw [encodeApplicationTag_eq, ← hfields, ← htake]
            unfold lengthOffset
            rw [if_neg hshort.1]
            rfl

/-! ## §5. The four forms are kept apart -/

/-- Which of the four forms a tag has. -/
inductive TagForm where
  | application
  | context
  | opening
  | closing
  deriving Repr, DecidableEq

/-- The form of a tag. -/
def BACnetTag.form : BACnetTag → TagForm
  | .application _ => .application
  | .context _ => .context
  | .opening _ => .opening
  | .closing _ => .closing

/-- The form an initial octet announces. -/
def formOf (initial : UInt8) : TagForm :=
  if initial &&& contextClassBit != 0 then
    if initial &&& 0x07 = lvtOpeningTag then .opening
    else if initial &&& 0x07 = lvtClosingTag then .closing
    else .context
  else .application

theorem formOf_context : ∀ nibble : Fin 16, ∀ lvt : Fin 8,
    formOf (contextClassBit ||| UInt8.ofNat nibble <<< 4 ||| UInt8.ofNat lvt) =
      if lvt = 6 then .opening else if lvt = 7 then .closing else .context := by
  decide +kernel

theorem formOf_application : ∀ nibble : Fin 16, ∀ lvt : Fin 8,
    formOf (UInt8.ofNat nibble <<< 4 ||| UInt8.ofNat lvt) = .application := by
  decide +kernel

/-- A context tag's nibble is one of sixteen. -/
theorem contextTagNumber_nibble (number : UInt8) :
    ∃ nibble : Fin 16, (contextTagNumber number).1 = UInt8.ofNat nibble <<< 4 := by
  rcases contextTagNumber_eq number with ⟨-, heq⟩ | ⟨hsmall, heq⟩
  · exact ⟨15, by rw [heq]; rfl⟩
  · have hle : number.toNat ≤ 14 := UInt8.le_iff_toNat_le.mp hsmall
    exact ⟨⟨number.toNat, by omega⟩, by rw [heq, UInt8.ofNat_toNat]⟩

/-- Every encoding starts with an octet that announces its form, for every number and length. -/
theorem encodeTag_head (tag : BACnetTag) (length : Nat) :
    ∃ initial more, encodeTag tag length = initial :: more ∧ formOf initial = tag.form := by
  have hprimitive : lengthNibble length ≠ 6 ∧ lengthNibble length ≠ 7 := by
    unfold lengthNibble
    by_cases hshort : length < 5
    · rw [dif_pos hshort]
      constructor <;> (intro heq; have hval := congrArg Fin.val heq; simp at hval; omega)
    · rw [dif_neg hshort]
      decide
  cases tag with
  | application tag =>
      have hbyte : tag.toByte.toNat < 16 := by cases tag <;> decide
      have hform := formOf_application ⟨tag.toByte.toNat, hbyte⟩ (lengthNibble length)
      rw [UInt8.ofNat_toNat] at hform
      exact ⟨_, _, encodeApplicationTag_eq tag length, hform⟩
  | context number =>
      obtain ⟨nibble, hnibble⟩ := contextTagNumber_nibble number
      refine ⟨_, _, encodeContextTag_eq number length, ?_⟩
      rw [hnibble, formOf_context, if_neg hprimitive.1, if_neg hprimitive.2]
      rfl
  | opening number =>
      obtain ⟨nibble, hnibble⟩ := contextTagNumber_nibble number
      refine ⟨_, _, encodeOpeningTag_eq number, ?_⟩
      rw [hnibble]
      exact formOf_context nibble 6
  | closing number =>
      obtain ⟨nibble, hnibble⟩ := contextTagNumber_nibble number
      refine ⟨_, _, encodeClosingTag_eq number, ?_⟩
      rw [hnibble]
      exact formOf_context nibble 7

/-- **The tag encoders and `decodeTag` undo each other.**  For every number, every length below
2^32 and whatever follows, each of the four forms is read back with the octets it was written
in; what is read in its shortest form is written back octet for octet; and encodings of two
different forms, of any numbers and lengths, are never the same octets. -/
theorem tags_roundTrip :
    (∀ (number : UInt8) (length : Nat) (rest : Bytes), length < 2 ^ 32 →
      decodeTag (encodeContextTag number length ++ rest)
        = .ok (.context number, length, (encodeContextTag number length).length)) ∧
    (∀ (number : UInt8) (rest : Bytes), decodeTag (encodeOpeningTag number ++ rest)
      = .ok (.opening number, 0, (encodeOpeningTag number).length)) ∧
    (∀ (number : UInt8) (rest : Bytes), decodeTag (encodeClosingTag number ++ rest)
      = .ok (.closing number, 0, (encodeClosingTag number).length)) ∧
    (∀ (tag : ApplicationTag) (length : Nat) (rest : Bytes), tag ≠ .reserved15 →
      length < 2 ^ 32 → decodeTag (encodeApplicationTag tag length ++ rest)
        = .ok (.application tag, length, (encodeApplicationTag tag length).length)) ∧
    (∀ (data : Bytes) (tag : BACnetTag) (length consumed : Nat),
      decodeTag data = .ok (tag, length, consumed) → ShortestForm data tag length →
        encodeTag tag length = data.take consumed ∧ consumed = (encodeTag tag length).length) ∧
    (∀ (tag tag' : BACnetTag) (length length' : Nat), tag.form ≠ tag'.form →
      encodeTag tag length ≠ encodeTag tag' length') := by
  refine ⟨fun number length rest hlength => decodeTag_encodeContextTag number hlength rest,
    decodeTag_encodeOpeningTag, decodeTag_encodeClosingTag,
    fun tag length rest htag hlength => decodeTag_encodeApplicationTag htag hlength rest, ?_, ?_⟩
  · intro data tag length consumed h hshortest
    have htake := encodeTag_of_decodeTag h hshortest
    refine ⟨htake, ?_⟩
    rw [htake, List.length_take]
    have hwithin := (decodeTag_takes h).2
    omega
  · intro tag tag' length length' hform heq
    obtain ⟨initial, more, hencoded, hinitial⟩ := encodeTag_head tag length
    obtain ⟨initial', more', hencoded', hinitial'⟩ := encodeTag_head tag' length'
    rw [hencoded, hencoded'] at heq
    injection heq with hhead
    apply hform
    rw [← hinitial, ← hinitial', hhead]

/-! ## §6. A tag is read from its own octets -/

section Local

variable {data data' : Bytes} {bound : Nat}

theorem readExtendedLength_of_take (hsame : data.take bound = data'.take bound)
    {offset length extra : Nat} (h : readExtendedLength data offset = .ok (length, extra))
    (hbound : offset + extra ≤ bound) : readExtendedLength data' offset = .ok (length, extra) := by
  unfold readExtendedLength at h ⊢
  cases hfirst : data[offset]? with
  | none =>
      rw [hfirst] at h
      cases h
  | some first =>
      rw [hfirst] at h
      simp only at h
      have hpositive : 1 ≤ extra := by
        revert h
        split
        · intro h
          cases h
          exact Nat.le_refl 1
        · split <;> split <;> intro h <;> cases h <;> decide
      rw [← Octets.getElem?_of_take hsame (show offset < bound by omega), hfirst]
      simp only
      by_cases hshort : first.toNat ≤ 253
      · rw [if_pos hshort] at h ⊢
        exact h
      · rw [if_neg hshort] at h ⊢
        -- The octets of the number itself are within what was taken.
        by_cases htwo : first = 254
        · rw [if_pos htwo] at h ⊢
          cases hoctets : Octets.range? data (offset + 1) (offset + 3) with
          | none =>
              rw [hoctets] at h
              cases h
          | some octets =>
              rw [hoctets] at h
              cases h
              rw [← Octets.range?_of_take hsame hbound, hoctets]
        · rw [if_neg htwo] at h ⊢
          cases hoctets : Octets.range? data (offset + 1) (offset + 5) with
          | none =>
              rw [hoctets] at h
              cases h
          | some octets =>
              rw [hoctets] at h
              cases h
              rw [← Octets.range?_of_take hsame hbound, hoctets]

theorem decodeTagValue_of_take (hsame : data.take bound = data'.take bound) {isContext : Bool}
    {lvt number : UInt8} {start : Nat} {tag : BACnetTag} {length consumed : Nat}
    (h : decodeTagValue data isContext lvt number start = .ok (tag, length, consumed))
    (hbound : consumed ≤ bound) :
    decodeTagValue data' isContext lvt number start = .ok (tag, length, consumed) := by
  by_cases hextended : lvt = lvtExtendedLength
  · subst hextended
    rw [decodeTagValue_primitive (by decide), if_pos rfl] at h ⊢
    cases hread : readExtendedLength data start with
    | error e =>
        rw [hread] at h
        cases h
    | ok read =>
        cases htag : primitiveTag isContext number with
        | error e =>
            rw [hread, htag] at h
            cases h
        | ok actual =>
            rw [hread, htag] at h
            cases h
            rw [readExtendedLength_of_take hsame hread hbound]
            rfl
  · unfold decodeTagValue at h ⊢
    rw [if_neg hextended] at h ⊢
    exact h

/-- **A tag is read from its own octets**, whatever comes next. -/
theorem decodeTag_of_take (hsame : data.take bound = data'.take bound) {tag : BACnetTag}
    {length consumed : Nat} (h : decodeTag data = .ok (tag, length, consumed))
    (hbound : consumed ≤ bound) : decodeTag data' = .ok (tag, length, consumed) := by
  have hpositive := (decodeTag_takes h).1
  -- The first octet decides how many more are read, each of them below the bound.
  have hfirst : data.head? = data'.head? := by
    rw [List.head?_eq_getElem?, List.head?_eq_getElem?]
    exact Octets.getElem?_of_take hsame (by omega)
  unfold decodeTag at h ⊢
  rw [← hfirst]
  cases hhead : data.head? with
  | none =>
      rw [hhead] at h
      cases h
  | some initial =>
      rw [hhead] at h
      simp only at h ⊢
      by_cases hextended : initial >>> 4 = extendedTagNumber
      · rw [if_pos hextended] at h ⊢
        cases hclass : initial &&& contextClassBit != 0 with
        | false =>
            rw [hclass] at h
            cases h
        | true =>
            rw [hclass] at h
            cases hnumber : data[1]? with
            | none =>
                rw [hnumber] at h
                cases h
            | some number =>
                rw [hnumber] at h
                have hpast := decodeTagValue_takes
                  (show 2 ≤ data.length from (List.getElem?_eq_some_iff.mp hnumber).1) h
                rw [← Octets.getElem?_of_take hsame (show 1 < bound by omega), hnumber]
                exact decodeTagValue_of_take hsame h hbound
      · rw [if_neg hextended] at h ⊢
        exact decodeTagValue_of_take hsame h hbound

end Local

/-! ## §7. Octets that are a tag -/

theorem decodeApplicationTag_eq_ok {data : Bytes} {tag : ApplicationTag} {length consumed : Nat} :
    decodeApplicationTag data = .ok (tag, length, consumed)
      ↔ decodeTag data = .ok (.application tag, length, consumed) := by
  unfold decodeApplicationTag
  constructor
  · intro h
    split at h
    next heq =>
      cases h
      exact heq
    · cases h
    · cases h
  · intro h
    rw [h]

/-- `octets` are one tag and nothing else. -/
def IsTag (octets : Bytes) (tag : BACnetTag) (length : Nat) : Prop :=
  decodeTag octets = .ok (tag, length, octets.length)

section IsTag

variable {data octets rest : Bytes} {tag : BACnetTag} {length consumed : Nat}

/-- A tag is decoded whatever comes next. -/
theorem IsTag.decodes (h : IsTag octets tag length) (rest : Bytes) :
    decodeTag (octets ++ rest) = .ok (tag, length, octets.length) := by
  have hsame : octets.take octets.length = (octets ++ rest).take octets.length := by
    rw [List.take_left, List.take_length]
  exact decodeTag_of_take hsame h (Nat.le_refl _)

/-- A tag that is decoded stands in front. -/
theorem isTag_of_decodeTag (h : decodeTag data = .ok (tag, length, consumed)) :
    ∃ octets rest, data = octets ++ rest ∧ octets.length = consumed ∧ IsTag octets tag length := by
  have hwithin := (decodeTag_takes h).2
  have hlength : (data.take consumed).length = consumed := List.length_take_of_le hwithin
  have hsame : data.take consumed = (data.take consumed).take consumed := by
    rw [List.take_take, Nat.min_self]
  refine ⟨data.take consumed, data.drop consumed, (List.take_append_drop _ _).symm, hlength, ?_⟩
  show decodeTag _ = _
  rw [hlength]
  exact decodeTag_of_take hsame h (Nat.le_refl _)

theorem IsTag.length_pos (h : IsTag octets tag length) : 1 ≤ octets.length :=
  (decodeTag_takes h).1

end IsTag

/-- The tag in front of octets is one tag. -/
theorem isTag_unique {header header' after after' : Bytes} {tag tag' : BACnetTag}
    {length length' : Nat} (h : IsTag header tag length) (h' : IsTag header' tag' length')
    (hsame : header ++ after = header' ++ after') :
    tag = tag' ∧ length = length' ∧ header = header' ∧ after = after' := by
  have hread := h.decodes after
  rw [hsame, h'.decodes after'] at hread
  simp only [Except.ok.injEq, Prod.mk.injEq] at hread
  obtain ⟨htag, hlength, hheader⟩ := hread
  obtain ⟨hfront, hafter⟩ := List.append_inj hsame hheader.symm
  exact ⟨htag.symm, hlength.symm, hfront, hafter⟩

theorem isTag_encodeOpeningTag (number : UInt8) :
    IsTag (encodeOpeningTag number) (.opening number) 0 := by
  have h := decodeTag_encodeOpeningTag number []
  rwa [List.append_nil] at h

theorem isTag_encodeClosingTag (number : UInt8) :
    IsTag (encodeClosingTag number) (.closing number) 0 := by
  have h := decodeTag_encodeClosingTag number []
  rwa [List.append_nil] at h

theorem isTag_encodeContextTag (number : UInt8) {length : Nat} (hlength : length < 2 ^ 32) :
    IsTag (encodeContextTag number length) (.context number) length := by
  have h := decodeTag_encodeContextTag number hlength []
  rwa [List.append_nil] at h

end BacnetRs.Encoding
