/-
  BacnetRs.Property.Contents — what an application value is made of.

  An application tag says a type and a length.  A type has its own rule for the
  octets that follow: none for a Null and a Boolean, a fixed number for a Real,
  up to eight for an integer, a first octet of its own for the two strings.
  The decoder takes what keeps the rule, and three forms that do not.

    * `decodePropertyValue_accepts` — what is taken is a value that keeps its rule,
                          or one of the three.
-/
import BacnetRs.Property.ValueCodec

namespace BacnetRs.Property

open BacnetRs.Encoding BacnetRs.Object Checked Octets

/-! ## §1. Contents -/

/-- The contents of a CharacterString: the octet of a character set, and text in it. -/
def IsText (content : Bytes) : Prop :=
  ∃ octet text set value, content = octet :: text ∧ CharacterSet.tryFrom octet = .ok set
    ∧ set.decode text = .ok value

/-- The contents of an application value of type `tag` whose tag says `length`. -/
def WellFormed : ApplicationTag → Nat → Bytes → Prop
  | .null, length, content => length = 0 ∧ content = []
  -- The value is the length.
  | .boolean, length, content => length ≤ 1 ∧ content = []
  | .unsignedInt, length, content | .signedInt, length, content =>
      content.length = length ∧ 1 ≤ length ∧ length ≤ 8
  | .enumerated, length, content => content.length = length ∧ 1 ≤ length ∧ length ≤ 4
  | .real, length, content | .date, length, content | .time, length, content
  | .objectIdentifier, length, content => content.length = length ∧ length = 4
  | .double, length, content => content.length = length ∧ length = 8
  | .octetString, length, content => content.length = length
  | .characterString, length, content => content.length = length ∧ IsText content
  -- How many bits of the last octet are unused, and the octets.
  | .bitString, length, content => content.length = length ∧ ∃ unused octets,
      content = unused :: octets ∧ unused.toNat ≤ 7 ∧ (octets = [] → unused = 0)
  | .reserved13, length, content | .reserved14, length, content
  | .reserved15, length, content => content.length = length

/-- What is taken besides: a Null with a length, an Unsigned of no octets, and unused bits of
no octet. -/
def Slack : ApplicationTag → Nat → Bytes → Prop
  | .null, length, content => length ≠ 0 ∧ content = []
  | .unsignedInt, length, content => length = 0 ∧ content = []
  | .bitString, length, content => length = 1 ∧ ∃ unused : UInt8,
      content = [unused] ∧ unused ≠ 0 ∧ unused.toNat ≤ 7
  | _, _, _ => False

/-- What the decoder takes. -/
def Taken (tag : ApplicationTag) (length : Nat) (content : Bytes) : Prop :=
  WellFormed tag length content ∨ Slack tag length content

section Taken

variable {length : Nat} {content : Bytes}

theorem taken_null : Taken .null length content ↔ content = [] := by
  unfold Taken WellFormed Slack
  by_cases hlength : length = 0 <;> simp [hlength]

theorem taken_unsignedInt :
    Taken .unsignedInt length content ↔ content.length = length ∧ length ≤ 8 := by
  show (content.length = length ∧ 1 ≤ length ∧ length ≤ 8) ∨ (length = 0 ∧ content = []) ↔ _
  rw [← List.length_eq_zero_iff]
  omega

theorem taken_bitString :
    Taken .bitString length content
      ↔ content.length = length ∧ ∃ unused octets, content = unused :: octets ∧ unused.toNat ≤ 7 := by
  unfold Taken WellFormed Slack
  constructor
  · rintro (⟨hlength, unused, octets, hcontent, hunused, _⟩ | ⟨hlength, unused, rfl, _, hunused⟩)
    · exact ⟨hlength, unused, octets, hcontent, hunused⟩
    · exact ⟨hlength.symm, unused, [], rfl, hunused⟩
  · rintro ⟨hlength, unused, octets, rfl, hunused⟩
    by_cases hidle : octets = [] ∧ unused ≠ 0
    · obtain ⟨rfl, hset⟩ := hidle
      exact .inr ⟨hlength.symm, unused, rfl, hset, hunused⟩
    · refine .inl ⟨hlength, unused, octets, rfl, hunused, fun hempty => ?_⟩
      exact not_not.mp (fun hset => hidle ⟨hempty, hset⟩)

theorem taken_of_not_slack {tag : ApplicationTag} (h : ¬ Slack tag length content) :
    Taken tag length content ↔ WellFormed tag length content :=
  or_iff_left h

/-- A tag says how many octets belong to it. -/
theorem Taken.length_eq {tag : ApplicationTag} (h : Taken tag length content) :
    content.length = if tag = .null ∨ tag = .boolean then 0 else length := by
  cases tag with
  | null => exact List.length_eq_zero_iff.mpr (taken_null.mp h)
  | boolean =>
      rcases h with ⟨_, rfl⟩ | hslack
      · rfl
      · cases hslack
  | unsignedInt => exact (taken_unsignedInt.mp h).1
  | bitString => exact (taken_bitString.mp h).1
  | octetString | reserved13 | reserved14 | reserved15 =>
      rcases h with hlength | hslack
      · exact hlength
      · cases hslack
  | _ =>
      rcases h with ⟨hlength, _⟩ | hslack
      · exact hlength
      · cases hslack

/-- The octets behind a tag are split in one way. -/
theorem Taken.unique {tag : ApplicationTag} {content' rest rest' : Bytes}
    (h : Taken tag length content) (h' : Taken tag length content')
    (hsame : content ++ rest = content' ++ rest') : content = content' ∧ rest = rest' :=
  List.append_inj hsame (h.length_eq.trans h'.length_eq.symm)

theorem Slack.not_wellFormed {tag : ApplicationTag} (h : Slack tag length content) :
    ¬ WellFormed tag length content := by
  intro hformed
  cases tag with
  | null => exact h.1 hformed.1
  | unsignedInt =>
      obtain ⟨_, hpositive, _⟩ := hformed
      have hempty := h.1
      omega
  | bitString =>
      obtain ⟨_, unused, rfl, hset, _⟩ := h
      obtain ⟨_, unused', octets, hcontent, _, hzero⟩ := hformed
      cases hcontent
      exact hset (hzero rfl)
  | _ => cases h

end Taken

/-! ## §2. What each decoder takes -/

section Accepts

variable {data content rest : Bytes} {length header consumed : Nat}

theorem decodeBoolean_accepts (h : decodeApplicationTag data = .ok (.boolean, length, header)) :
    (∃ value, decodeBoolean data = .ok (value, consumed)) ↔ length ≤ 1 ∧ consumed = header := by
  unfold decodeBoolean
  rw [expectApplicationTag_eq_ok.mpr h, ok_bind]
  match length with
  | 0 => simp [pure, Except.pure, eq_comm]
  | 1 => simp [pure, Except.pure, eq_comm]
  | n + 2 => simp [Checked.fail]

theorem decodeUnsigned64_accepts
    (h : decodeApplicationTag data = .ok (.unsignedInt, length, header)) :
    (∃ value, decodeUnsigned64 data = .ok (value, consumed))
      ↔ length ≤ 8 ∧ header + length ≤ data.length ∧ consumed = header + length := by
  unfold decodeUnsigned64
  rw [expectApplicationTag_eq_ok.mpr h, ok_bind]
  simp only [guard_eq_ok, bind_eq_ok, natAt_eq_ok, pure_eq_ok, Prod.mk.injEq]
  constructor
  · rintro ⟨value, hwidth, hwithin, _, _, _, hconsumed⟩
    exact ⟨by omega, by omega, hconsumed.symm⟩
  · rintro ⟨hwidth, hwithin, rfl⟩
    exact ⟨_, by omega, by omega, _, ⟨hwithin, rfl⟩, rfl, rfl⟩

theorem decodeSigned64_accepts
    (h : decodeApplicationTag data = .ok (.signedInt, length, header)) :
    (∃ value, decodeSigned64 data = .ok (value, consumed))
      ↔ (1 ≤ length ∧ length ≤ 8) ∧ header + length ≤ data.length
        ∧ consumed = header + length := by
  unfold decodeSigned64
  rw [expectApplicationTag_eq_ok.mpr h, ok_bind]
  simp only [guard_eq_ok, bind_eq_ok, index_eq_ok, range_eq_ok, pure_eq_ok, Prod.mk.injEq]
  constructor
  · rintro ⟨value, hwidth, hwithin, _, _, _, _, _, hconsumed⟩
    exact ⟨by omega, by omega, hconsumed.symm⟩
  · rintro ⟨hwidth, hwithin, rfl⟩
    exact ⟨_, by omega, by omega, _, List.getElem?_eq_getElem (by omega), _,
      ⟨by omega, hwithin, rfl⟩, rfl, rfl⟩

theorem decodeEnumerated_accepts
    (h : decodeApplicationTag data = .ok (.enumerated, length, header)) :
    (∃ value, decodeEnumerated data = .ok (value, consumed))
      ↔ (1 ≤ length ∧ length ≤ 4) ∧ header + length ≤ data.length
        ∧ consumed = header + length := by
  unfold decodeEnumerated decodeUnsigned32
  rw [expectApplicationTag_eq_ok.mpr h, ok_bind]
  by_cases hwidth : 1 ≤ length ∧ length ≤ 4
  · simp only [if_pos hwidth, guard_eq_ok, bind_eq_ok, natAt_eq_ok, pure_eq_ok, Prod.mk.injEq]
    constructor
    · rintro ⟨value, hwithin, _, _, _, hconsumed⟩
      exact ⟨hwidth, by omega, hconsumed.symm⟩
    · rintro ⟨_, hwithin, rfl⟩
      exact ⟨_, by omega, _, ⟨hwithin, rfl⟩, rfl, rfl⟩
  · simp only [if_neg hwidth, guard_eq_ok]
    constructor
    · rintro ⟨_, _, hfailed⟩
      cases hfailed
    · rintro ⟨hwidth', _⟩
      exact absurd hwidth' hwidth

theorem decodeReal_accepts (h : decodeApplicationTag data = .ok (.real, length, header)) :
    (∃ value, decodeReal data = .ok (value, consumed))
      ↔ length = 4 ∧ header + length ≤ data.length ∧ consumed = header + length := by
  unfold decodeReal
  rw [expectApplicationTag_eq_ok.mpr h, ok_bind]
  simp only [guard_eq_ok, bind_eq_ok, natAt_eq_ok, pure_eq_ok, Prod.mk.injEq]
  constructor
  · rintro ⟨value, hwidth, hwithin, _, _, _, hconsumed⟩
    exact ⟨by omega, by omega, by omega⟩
  · rintro ⟨rfl, hwithin, rfl⟩
    exact ⟨_, by omega, by omega, _, ⟨hwithin, rfl⟩, rfl, rfl⟩

/-- A number of a fixed width is read exactly when its octets are there. -/
theorem number_accepts {α : Type} (width : Nat) (make : Nat → α) :
    (∃ value, (do
        if length ≠ width ∨ data.length < header + width then Checked.fail .invalidLength
        let number ← natAt data header width
        return (make number, header + width) : Decoded (α × Nat)) = .ok (value, consumed))
      ↔ length = width ∧ header + length ≤ data.length ∧ consumed = header + length := by
  simp only [guard_eq_ok, bind_eq_ok, natAt_eq_ok, pure_eq_ok, Prod.mk.injEq]
  constructor
  · rintro ⟨value, hwidth, _, _, _, hconsumed⟩
    exact ⟨by omega, by omega, by omega⟩
  · rintro ⟨rfl, hwithin, rfl⟩
    exact ⟨_, by omega, _, ⟨hwithin, rfl⟩, rfl, rfl⟩

/-- So are four octets, one by one. -/
theorem quad_accepts {α : Type} (make : UInt8 → UInt8 → UInt8 → UInt8 → α) :
    (∃ value, (do
        if length ≠ 4 ∨ data.length < header + 4 then Checked.fail .invalidLength
        let first ← index data header
        let second ← index data (header + 1)
        let third ← index data (header + 2)
        let fourth ← index data (header + 3)
        return (make first second third fourth, header + 4) : Decoded (α × Nat))
          = .ok (value, consumed))
      ↔ length = 4 ∧ header + length ≤ data.length ∧ consumed = header + length := by
  simp only [guard_eq_ok, bind_eq_ok, index_eq_ok, pure_eq_ok, Prod.mk.injEq]
  constructor
  · rintro ⟨value, hwidth, _, _, _, _, _, _, _, _, _, hconsumed⟩
    exact ⟨by omega, by omega, by omega⟩
  · rintro ⟨rfl, hwithin, rfl⟩
    exact ⟨_, by omega, _, List.getElem?_eq_getElem (by omega),
      _, List.getElem?_eq_getElem (by omega), _, List.getElem?_eq_getElem (by omega),
      _, List.getElem?_eq_getElem (by omega), rfl, rfl⟩

theorem decodeDouble_accepts (h : decodeApplicationTag data = .ok (.double, length, header)) :
    (∃ value, decodeDouble data = .ok (value, consumed))
      ↔ length = 8 ∧ header + length ≤ data.length ∧ consumed = header + length := by
  unfold decodeDouble
  rw [expectApplicationTag_eq_ok.mpr h, ok_bind]
  exact number_accepts 8 (fun bits => (⟨UInt64.ofNat bits⟩ : F64))

theorem decodeObjectIdentifier_accepts
    (h : decodeApplicationTag data = .ok (.objectIdentifier, length, header)) :
    (∃ value, decodeObjectIdentifier data = .ok (value, consumed))
      ↔ length = 4 ∧ header + length ≤ data.length ∧ consumed = header + length := by
  unfold decodeObjectIdentifier
  rw [expectApplicationTag_eq_ok.mpr h, ok_bind]
  exact number_accepts 4 (fun value => ObjectIdentifier.ofUInt32 (UInt32.ofNat value))

theorem decodeDate_accepts (h : decodeApplicationTag data = .ok (.date, length, header)) :
    (∃ value, decodeDate data = .ok (value, consumed))
      ↔ length = 4 ∧ header + length ≤ data.length ∧ consumed = header + length := by
  unfold decodeDate
  rw [expectApplicationTag_eq_ok.mpr h, ok_bind]
  exact quad_accepts fun octet month day weekday =>
    ((if octet = 255 then 255 else 1900 + octet.toUInt16 : UInt16), month, day, weekday)

theorem decodeTime_accepts (h : decodeApplicationTag data = .ok (.time, length, header)) :
    (∃ value, decodeTime data = .ok (value, consumed))
      ↔ length = 4 ∧ header + length ≤ data.length ∧ consumed = header + length := by
  unfold decodeTime
  rw [expectApplicationTag_eq_ok.mpr h, ok_bind]
  exact quad_accepts fun hour minute second hundredths => (hour, minute, second, hundredths)

theorem decodeOctetString_accepts
    (h : decodeApplicationTag data = .ok (.octetString, length, header)) :
    (∃ value, decodeOctetString data = .ok (value, consumed))
      ↔ header + length ≤ data.length ∧ consumed = header + length := by
  unfold decodeOctetString
  rw [expectApplicationTag_eq_ok.mpr h, ok_bind]
  simp only [guard_eq_ok, bind_eq_ok, range_eq_ok, pure_eq_ok, Prod.mk.injEq]
  constructor
  · rintro ⟨value, hwithin, _, _, _, hconsumed⟩
    exact ⟨by omega, hconsumed.symm⟩
  · rintro ⟨hwithin, rfl⟩
    exact ⟨_, by omega, _, ⟨by omega, hwithin, rfl⟩, rfl, rfl⟩


/-- An octet that stands next. -/
theorem index_of_left {octet : UInt8} (h : Left data header (octet :: rest)) :
    data[header]? = some octet := by
  have hfirst : (data.drop header)[0]? = some octet := by
    rw [h.2]
    rfl
  rwa [List.getElem?_drop, Nat.add_zero] at hfirst

theorem decodeCharacterString_accepts
    (h : decodeApplicationTag data = .ok (.characterString, length, header))
    (hleft : Left data header (content ++ rest)) (hlength : content.length = length) :
    (∃ value, decodeCharacterString data = .ok (value, consumed))
      ↔ IsText content ∧ consumed = header + length := by
  have hwithin := hleft.length
  rw [List.length_append] at hwithin
  unfold decodeCharacterString
  rw [expectApplicationTag_eq_ok.mpr h, ok_bind]
  simp only [guard_eq_ok, bind_eq_ok, index_eq_ok, ofExcept_eq_ok, pure_eq_ok, Prod.mk.injEq]
  cases content with
  | nil =>
      have hempty : length = 0 := hlength.symm
      constructor
      · rintro ⟨_, hpresent, _⟩
        exact absurd (.inr hempty) hpresent
      · rintro ⟨⟨_, _, _, _, hcontent, _⟩, _⟩
        cases hcontent
  | cons octet text =>
      have htext : (range data (header + 1) (header + length) : Decoded Bytes) = .ok text := by
        have hnext : Left data (header + 1) (text ++ rest) :=
          Left.next (show Left data header ([octet] ++ (text ++ rest)) from hleft)
        have hrange : (range data (header + 1) (header + 1 + text.length) : Decoded Bytes)
            = .ok text := hnext.range
        rwa [Nat.add_assoc, Nat.add_comm 1, ← List.length_cons, hlength] at hrange
      rw [List.length_cons] at hlength hwithin
      constructor
      · rintro ⟨value, _, octet', hoctet, set, hset, text', hrange, decoded, hdecoded, _, rfl⟩
        rw [index_of_left hleft] at hoctet
        rw [htext] at hrange
        cases hoctet
        cases hrange
        exact ⟨⟨octet, text, set, _, rfl, hset, hdecoded⟩, rfl⟩
      · rintro ⟨⟨octet', text', set, value, hcontent, hset, hdecoded⟩, rfl⟩
        cases hcontent
        exact ⟨value, by omega, octet, index_of_left hleft, set, hset, text, htext, value,
          hdecoded, rfl, rfl⟩

theorem decodeCharacterString_within {value : String}
    (h : decodeApplicationTag data = .ok (.characterString, length, header))
    (hvalue : decodeCharacterString data = .ok (value, consumed)) :
    header + length ≤ data.length := by
  unfold decodeCharacterString at hvalue
  rw [expectApplicationTag_eq_ok.mpr h, ok_bind, guard_eq_ok] at hvalue
  have hpresent := hvalue.1
  omega

theorem decodeBitString_accepts
    (h : decodeApplicationTag data = .ok (.bitString, length, header))
    (hleft : Left data header (content ++ rest)) (hlength : content.length = length) :
    (∃ value, decodeBitString data = .ok (value, consumed))
      ↔ (∃ unused octets, content = unused :: octets ∧ unused.toNat ≤ 7)
        ∧ consumed = header + length := by
  have hwithin := hleft.length
  rw [List.length_append] at hwithin
  unfold decodeBitString
  rw [expectApplicationTag_eq_ok.mpr h, ok_bind]
  simp only [guard_eq_ok, bind_eq_ok, index_eq_ok, range_eq_ok, pure_eq_ok, Prod.mk.injEq]
  cases content with
  | nil =>
      have hempty : length = 0 := hlength.symm
      constructor
      · rintro ⟨_, hpresent, _⟩
        exact absurd (.inl hempty) hpresent
      · rintro ⟨⟨_, _, hcontent, _⟩, _⟩
        cases hcontent
  | cons unused octets =>
      rw [List.length_cons] at hlength hwithin
      constructor
      · rintro ⟨value, _, unused', hindex, hunused, _, _, _, rfl⟩
        rw [index_of_left hleft] at hindex
        cases hindex
        exact ⟨⟨unused, octets, rfl, by omega⟩, rfl⟩
      · rintro ⟨⟨unused', octets', hcontent, hunused⟩, rfl⟩
        cases hcontent
        exact ⟨_, by omega, unused, index_of_left hleft, by omega, _,
          ⟨by omega, by omega, rfl⟩, rfl, rfl⟩

theorem decodeBitString_within {value : List Bool}
    (h : decodeApplicationTag data = .ok (.bitString, length, header))
    (hvalue : decodeBitString data = .ok (value, consumed)) :
    header + length ≤ data.length := by
  unfold decodeBitString at hvalue
  rw [expectApplicationTag_eq_ok.mpr h, ok_bind, guard_eq_ok] at hvalue
  have hpresent := hvalue.1
  omega

/-- A value of a type nobody knows is kept as it is. -/
theorem raw_accepts :
    (∃ value, (do
        let raw ← Checked.orFail .bufferUnderflow (Octets.range? data 0 (header + length))
        return (.unknown raw, header + length) : Decoded (PropertyValue × Nat))
          = .ok (value, consumed))
      ↔ header + length ≤ data.length ∧ consumed = header + length := by
  simp only [bind_eq_ok, orFail_eq_ok, pure_eq_ok, Prod.mk.injEq]
  constructor
  · rintro ⟨_, raw, hraw, _, rfl⟩
    exact ⟨(range?_within hraw).2, rfl⟩
  · rintro ⟨hwithin, rfl⟩
    exact ⟨_, _, if_pos ⟨Nat.zero_le _, hwithin⟩, rfl, rfl⟩

/-- What a type takes whose octets may be anything. -/
theorem accepts_of_width {tag : ApplicationTag} {accepts P : Prop}
    (htaken : ∀ content, Taken tag length content ↔ content.length = length ∧ P)
    (haccepts : accepts ↔ P ∧ header + length ≤ data.length ∧ consumed = header + length) :
    accepts ↔ ∃ content rest, Left data header (content ++ rest) ∧ Taken tag length content
      ∧ consumed = header + content.length := by
  rw [haccepts]
  constructor
  · rintro ⟨hwidth, hwithin, rfl⟩
    have hlength : ((data.drop header).take length).length = length := by
      rw [List.length_take, List.length_drop]
      omega
    exact ⟨(data.drop header).take length, (data.drop header).drop length,
      ⟨by omega, (List.take_append_drop _ _).symm⟩, (htaken _).mpr ⟨hlength, hwidth⟩,
      by rw [hlength]⟩
  · rintro ⟨content, rest, hleft, hcontent, rfl⟩
    obtain ⟨rfl, hwidth⟩ := (htaken content).mp hcontent
    have hwithin := hleft.length
    rw [List.length_append] at hwithin
    exact ⟨hwidth, by omega, rfl⟩

/-- What a type takes that has a rule for its octets. -/
theorem accepts_of_rule {tag : ApplicationTag} {accepts : Prop} {P : Bytes → Prop}
    (htaken : ∀ content, Taken tag length content ↔ content.length = length ∧ P content)
    (hwithin : accepts → header + length ≤ data.length)
    (hrule : ∀ content rest, Left data header (content ++ rest) → content.length = length →
      (accepts ↔ P content ∧ consumed = header + length)) :
    accepts ↔ ∃ content rest, Left data header (content ++ rest) ∧ Taken tag length content
      ∧ consumed = header + content.length := by
  constructor
  · intro haccepts
    have hthere := hwithin haccepts
    have hlength : ((data.drop header).take length).length = length := by
      rw [List.length_take, List.length_drop]
      omega
    have hleft : Left data header
        ((data.drop header).take length ++ (data.drop header).drop length) :=
      ⟨by omega, (List.take_append_drop _ _).symm⟩
    obtain ⟨hcontent, hconsumed⟩ := (hrule _ _ hleft hlength).mp haccepts
    exact ⟨_, _, hleft, (htaken _).mpr ⟨hlength, hcontent⟩, by rw [hconsumed, hlength]⟩
  · rintro ⟨content, rest, hleft, hcontent, hconsumed⟩
    obtain ⟨hlength, hcontent⟩ := (htaken content).mp hcontent
    exact (hrule content rest hleft hlength).mpr ⟨hcontent, by rw [hconsumed, hlength]⟩

end Accepts

/-! ## §3. What is taken -/

theorem exists_map {α β : Type} {wrap : α → β} {decoded : Decoded (α × Nat)} {consumed : Nat} :
    (∃ value, Prod.map wrap id <$> decoded = .ok (value, consumed))
      ↔ ∃ value, decoded = .ok (value, consumed) := by
  constructor
  · rintro ⟨_, h⟩
    obtain ⟨⟨value, _⟩, hdecoded, hsame⟩ := map_eq_ok.mp h
    cases hsame
    exact ⟨value, hdecoded⟩
  · rintro ⟨value, h⟩
    exact ⟨wrap value, map_eq_ok.mpr ⟨_, h, rfl⟩⟩

/-- **What is taken keeps the rule of its type**, or is one of the three forms that do not. -/
theorem decodePropertyValue_accepts {data : Bytes} {tag : ApplicationTag}
    {length header consumed : Nat}
    (h : decodeApplicationTag data = .ok (tag, length, header)) :
    (∃ value, decodePropertyValue data = .ok (value, consumed))
      ↔ ∃ content rest, Left data header (content ++ rest) ∧ Taken tag length content
        ∧ consumed = header + content.length := by
  have hheader : header ≤ data.length := (decodeApplicationTag_takes h).2
  rw [decodePropertyValue_of_tag h]
  cases tag with
  | null =>
      simp only [taken_null]
      constructor
      · rintro ⟨_, hvalue⟩
        cases hvalue
        exact ⟨[], data.drop header, ⟨hheader, rfl⟩, rfl, rfl⟩
      · rintro ⟨_, _, _, rfl, rfl⟩
        exact ⟨.null, rfl⟩
  | boolean =>
      have htaken : ∀ content, Taken .boolean length content ↔ length ≤ 1 ∧ content = [] :=
        fun _ => taken_of_not_slack id
      simp only [exists_map, decodeBoolean_accepts h, htaken]
      constructor
      · rintro ⟨hvalue, rfl⟩
        exact ⟨[], data.drop consumed, ⟨hheader, rfl⟩, ⟨hvalue, rfl⟩, rfl⟩
      · rintro ⟨_, _, _, ⟨hvalue, rfl⟩, rfl⟩
        exact ⟨hvalue, rfl⟩
  -- A number, a date or an identifier is accepted for its length, whatever the content.
  | unsignedInt =>
      exact accepts_of_width (fun _ => taken_unsignedInt)
        (exists_map.trans (decodeUnsigned64_accepts h))
  | signedInt =>
      exact accepts_of_width (fun _ => taken_of_not_slack id)
        (exists_map.trans (decodeSigned64_accepts h))
  | enumerated =>
      exact accepts_of_width (fun _ => taken_of_not_slack id)
        (exists_map.trans (decodeEnumerated_accepts h))
  | real =>
      exact accepts_of_width (fun _ => taken_of_not_slack id)
        (exists_map.trans (decodeReal_accepts h))
  | double =>
      exact accepts_of_width (fun _ => taken_of_not_slack id)
        (exists_map.trans (decodeDouble_accepts h))
  | date =>
      exact accepts_of_width (fun _ => taken_of_not_slack id)
        (exists_map.trans (decodeDate_accepts h))
  | time =>
      exact accepts_of_width (fun _ => taken_of_not_slack id)
        (exists_map.trans (decodeTime_accepts h))
  | objectIdentifier =>
      exact accepts_of_width (fun _ => taken_of_not_slack id)
        (exists_map.trans (decodeObjectIdentifier_accepts h))
  | octetString =>
      exact accepts_of_width (fun _ => (taken_of_not_slack id).trans (and_iff_left trivial).symm)
        (exists_map.trans ((decodeOctetString_accepts h).trans (and_iff_right trivial).symm))
  -- A character string and a bit string are accepted for their content as well.
  | characterString =>
      refine accepts_of_rule (fun _ => taken_of_not_slack id) ?_
        (fun content rest hleft hlength =>
          exists_map.trans (decodeCharacterString_accepts h hleft hlength))
      intro haccepts
      obtain ⟨value, hvalue⟩ := exists_map.mp haccepts
      exact decodeCharacterString_within h hvalue
  | bitString =>
      refine accepts_of_rule (fun _ => taken_bitString) ?_
        (fun content rest hleft hlength =>
          exists_map.trans (decodeBitString_accepts h hleft hlength))
      intro haccepts
      obtain ⟨value, hvalue⟩ := exists_map.mp haccepts
      exact decodeBitString_within h hvalue
  | reserved13 | reserved14 | reserved15 =>
      exact accepts_of_width
        (fun _ => (taken_of_not_slack id).trans (and_iff_left trivial).symm)
        (raw_accepts.trans (and_iff_right trivial).symm)

end BacnetRs.Property
