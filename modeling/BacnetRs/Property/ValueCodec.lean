/-
  BacnetRs.Property.ValueCodec — primitive property values are read as they were
  written.

  A value says by its application tag which primitive it is.  It is read back
  unless it is a string longer than the tag can say, and then it is not.

    * `decodePropertyValue_of_tag` — one arm of the decoder for each tag.
    * `reads_primitive`            — a primitive value is read back, whatever comes next.
    * `measured_of_read`           — and only one whose length its tag can say.
    * `decodePropertyValue_encoded_iff`
                                   — any value is read back exactly when it describes itself.
-/
import BacnetRs.Encoding.FieldCodec
import BacnetRs.Property.Datatype
import BacnetRs.Property.Encode

namespace BacnetRs.Property

open BacnetRs.Encoding BacnetRs.Object Checked Octets

/-! ## §1. Lengths a tag can say -/

/-- An octet string of less than 2^32 octets. -/
def octetsFit (value : Bytes) : Bool := decide (value.length < 2 ^ 32)

/-- A text of less than 2^32 octets with the one for its character set. -/
def textFits (value : String) : Bool := decide (value.toUTF8.toList.length + 1 < 2 ^ 32)

/-- A bit string of less than 2^32 octets with the one for its unused bits. -/
def bitsFit (value : List Bool) : Bool := decide ((value.length + 7) / 8 + 1 < 2 ^ 32)

def Recipient.measured : Recipient → Bool
  | .device _ => true
  | .address mac => octetsFit mac.macAddress

def DestinationValue.measured (value : DestinationValue) : Bool :=
  bitsFit value.validDays && value.recipient.measured && bitsFit value.transitions

mutual

/-- Every string in a value, however deep, is of a length its tag can say. -/
def measured : PropertyValue → Bool
  | .octetString value => octetsFit value
  | .characterString value => textFits value
  | .bitString bits => bitsFit bits
  | .array values => allMeasured values
  | .list values => allMeasured values
  | .covSubscription value => value.recipient.recipient.measured
  | .addressBinding value => octetsFit value.address.macAddress
  | .destination value => value.measured
  | .dailySchedule ⟨timeValues⟩ => allScheduledMeasured timeValues
  | .specialEvent ⟨_, timeValues, _⟩ => allScheduledMeasured timeValues
  | _ => true

def allMeasured : List PropertyValue → Bool
  | [] => true
  | value :: rest => measured value && allMeasured rest

def allScheduledMeasured : List (TimeValueValue PropertyValue) → Bool
  | [] => true
  | ⟨_, value⟩ :: rest => measured value && allScheduledMeasured rest

end

/-! ## §2. Application tags -/

/-- **The arm of each tag.** -/
theorem decodePropertyValue_of_tag {data : Bytes} {tag : ApplicationTag} {length consumed : Nat}
    (h : decodeApplicationTag data = .ok (tag, length, consumed)) :
    decodePropertyValue data =
      match tag with
      | .null => .ok (.null, consumed)
      | .boolean => Prod.map .boolean id <$> decodeBoolean data
      | .unsignedInt => Prod.map .unsigned id <$> decodeUnsigned64 data
      | .signedInt => Prod.map .signed id <$> decodeSigned64 data
      | .real => Prod.map .real id <$> decodeReal data
      | .double => Prod.map .double id <$> decodeDouble data
      | .octetString => Prod.map .octetString id <$> decodeOctetString data
      | .characterString => Prod.map .characterString id <$> decodeCharacterString data
      | .bitString => Prod.map .bitString id <$> decodeBitString data
      | .enumerated => Prod.map .enumerated id <$> decodeEnumerated data
      | .date => Prod.map .date id <$> decodeDate data
      | .time => Prod.map .time id <$> decodeTime data
      | .objectIdentifier => Prod.map .objectIdentifier id <$> decodeObjectIdentifier data
      | .reserved13 | .reserved14 | .reserved15 => do
          let raw ← Checked.orFail .bufferUnderflow (Octets.range? data 0 (consumed + length))
          return (.unknown raw, consumed + length) := by
  have hpresent : ¬ data.isEmpty = true := by
    cases data with
    | nil => cases h
    | cons octet rest => simp
  unfold decodePropertyValue
  rw [if_neg hpresent]
  simp only [h, Checked.ofExcept, bind, Except.bind]
  cases tag <;> rfl

/-- The tag in front of a primitive value. -/
theorem decodeApplicationTag_append {tag : ApplicationTag} (htag : tag ≠ .reserved15)
    (length : Nat) (rest : Bytes) :
    decodeApplicationTag (encodeApplicationTag tag length ++ rest)
      = .ok (tag, length % 2 ^ 32, (encodeApplicationTag tag length).length) := by
  unfold decodeApplicationTag
  rw [decodeTag_encodeApplicationTag_mod htag]

/-- Octets that start with application tag `tag`. -/
def Tagged (tag : ApplicationTag) (encoded : Bytes) : Prop :=
  ∃ length content, encoded = encodeApplicationTag tag length ++ content

theorem Tagged.decodeApplicationTag {tag : ApplicationTag} {encoded : Bytes}
    (h : Tagged tag encoded) (htag : tag ≠ .reserved15) (rest : Bytes) :
    ∃ length consumed, decodeApplicationTag (encoded ++ rest) = .ok (tag, length, consumed) := by
  obtain ⟨length, content, rfl⟩ := h
  rw [List.append_assoc]
  exact ⟨_, _, decodeApplicationTag_append htag length _⟩

section OfTag

variable {α : Type} {decode : Bytes → Decoded (α × Nat)} {wrap : α → PropertyValue}
  {tag : ApplicationTag} {encoded : Bytes}

/-- A value is decoded by the decoder of its tag. -/
theorem decodePropertyValue_tagged (htag : tag ≠ .reserved15) (hencoded : Tagged tag encoded)
    (hdispatch : ∀ {data length consumed}, decodeApplicationTag data = .ok (tag, length, consumed) →
      decodePropertyValue data = Prod.map wrap id <$> decode data) (rest : Bytes) :
    decodePropertyValue (encoded ++ rest) = Prod.map wrap id <$> decode (encoded ++ rest) := by
  obtain ⟨length, consumed, hheader⟩ := hencoded.decodeApplicationTag htag rest
  exact hdispatch hheader

theorem reads_tagged {value : α} (htag : tag ≠ .reserved15) (hencoded : Tagged tag encoded)
    (hdispatch : ∀ {data length consumed}, decodeApplicationTag data = .ok (tag, length, consumed) →
      decodePropertyValue data = Prod.map wrap id <$> decode data)
    (hread : Reads decode encoded value) : Reads decodePropertyValue encoded (wrap value) := by
  intro rest
  rw [decodePropertyValue_tagged htag hencoded hdispatch, hread rest]
  rfl

theorem read_tagged {rest : Bytes} {read : PropertyValue} {consumed : Nat}
    (hread : decodePropertyValue (encoded ++ rest) = .ok (read, consumed))
    (htag : tag ≠ .reserved15) (hencoded : Tagged tag encoded)
    (hdispatch : ∀ {data length consumed}, decodeApplicationTag data = .ok (tag, length, consumed) →
      decodePropertyValue data = Prod.map wrap id <$> decode data) :
    ∃ value, decode (encoded ++ rest) = .ok (value, consumed) ∧ wrap value = read := by
  rw [decodePropertyValue_tagged htag hencoded hdispatch, map_eq_ok] at hread
  obtain ⟨⟨value, length⟩, hdecoded, hsame⟩ := hread
  cases hsame
  exact ⟨value, hdecoded, rfl⟩

end OfTag

/-! ## §3. Primitive values -/

section Primitive

variable {value : PropertyValue} {encoded : Bytes}

/-- A primitive value starts with an application tag, of a type that is decoded. -/
theorem primitive_tagged (hprimitive : Element.any.holds value = true)
    (h : encodePropertyValue value = .ok encoded) :
    ∃ tag, tag ≠ .reserved15 ∧ Tagged tag encoded := by
  cases value with
  | date value =>
      obtain ⟨year, month, day, weekday⟩ := value
      simp only [encodePropertyValue, encodeDate, bind_eq_ok, pure_eq_ok] at h
      obtain ⟨octet, _, rfl⟩ := h
      exact ⟨.date, by decide, _, _, rfl⟩
  | objectIdentifier value =>
      simp only [encodePropertyValue, encodeObjectIdentifier, bind_eq_ok, pure_eq_ok] at h
      obtain ⟨number, _, rfl⟩ := h
      exact ⟨.objectIdentifier, by decide, _, _, rfl⟩
  | time value =>
      obtain ⟨hour, minute, second, hundredths⟩ := value
      cases h
      exact ⟨.time, by decide, _, _, rfl⟩
  | boolean value =>
      cases h
      exact ⟨.boolean, by decide, _, [], (List.append_nil _).symm⟩
  | null =>
      cases h
      exact ⟨.null, by decide, _, [], (List.append_nil _).symm⟩
  | real value => cases h; exact ⟨.real, by decide, _, _, rfl⟩
  | double value => cases h; exact ⟨.double, by decide, _, _, rfl⟩
  | unsigned value => cases h; exact ⟨.unsignedInt, by decide, _, _, rfl⟩
  | signed value => cases h; exact ⟨.signedInt, by decide, _, _, rfl⟩
  | octetString value => cases h; exact ⟨.octetString, by decide, _, _, rfl⟩
  | characterString value => cases h; exact ⟨.characterString, by decide, _, _, rfl⟩
  | enumerated value => cases h; exact ⟨.enumerated, by decide, _, _, rfl⟩
  | bitString value => cases h; exact ⟨.bitString, by decide, _, _, rfl⟩
  | _ => cases hprimitive

/-- **A primitive value is read back**, if its tag can say its length. -/
theorem reads_primitive (hprimitive : Element.any.holds value = true)
    (hmeasured : measured value = true) (h : encodePropertyValue value = .ok encoded) :
    Reads decodePropertyValue encoded value := by
  obtain ⟨tag, htag, htagged⟩ := primitive_tagged hprimitive h
  cases value with
  -- A date and an identifier may fail to encode, so what was written is opened first.
  | date value =>
      have hread := reads_date h
      obtain ⟨year, month, day, weekday⟩ := value
      simp only [encodePropertyValue, encodeDate, bind_eq_ok, pure_eq_ok] at h
      obtain ⟨octet, _, rfl⟩ := h
      exact reads_tagged (by decide) ⟨_, _, rfl⟩ decodePropertyValue_of_tag hread
  | objectIdentifier value =>
      have hread := reads_objectIdentifier h
      simp only [encodePropertyValue, encodeObjectIdentifier, bind_eq_ok, pure_eq_ok] at h
      obtain ⟨number, _, rfl⟩ := h
      exact reads_tagged (by decide) ⟨_, _, rfl⟩ decodePropertyValue_of_tag hread
  -- Every other primitive is written without fail.
  | time value =>
      cases h
      have hread := reads_time value
      obtain ⟨hour, minute, second, hundredths⟩ := value
      exact reads_tagged (by decide) ⟨_, _, rfl⟩ decodePropertyValue_of_tag hread
  | boolean value =>
      cases h
      exact reads_tagged (by decide) ⟨_, [], (List.append_nil _).symm⟩ decodePropertyValue_of_tag
        (reads_boolean value)
  | null =>
      cases h
      intro rest
      rw [decodePropertyValue_of_tag (decodeApplicationTag_append (by decide) 0 rest)]
  | real value =>
      cases h
      exact reads_tagged (by decide) ⟨_, _, rfl⟩ decodePropertyValue_of_tag (reads_real value)
  | double value =>
      cases h
      exact reads_tagged (by decide) ⟨_, _, rfl⟩ decodePropertyValue_of_tag (reads_double value)
  | unsigned value =>
      cases h
      exact reads_tagged (by decide) ⟨_, _, rfl⟩ decodePropertyValue_of_tag (reads_unsigned64 value)
  | signed value =>
      cases h
      exact reads_tagged (by decide) ⟨_, _, rfl⟩ decodePropertyValue_of_tag (reads_signed64 value)
  -- The three strings are read back for being measured, which is what the tag can count.
  | octetString value =>
      cases h
      exact reads_tagged (by decide) ⟨_, _, rfl⟩ decodePropertyValue_of_tag
        (reads_octetString (of_decide_eq_true hmeasured))
  | characterString value =>
      cases h
      exact reads_tagged (by decide) ⟨_, _, rfl⟩ decodePropertyValue_of_tag
        (reads_characterString (of_decide_eq_true hmeasured))
  | enumerated value =>
      cases h
      exact reads_tagged (by decide) ⟨_, _, rfl⟩ decodePropertyValue_of_tag (reads_enumerated value)
  | bitString value =>
      cases h
      exact reads_tagged (by decide) ⟨_, _, rfl⟩ decodePropertyValue_of_tag
        (reads_bitString (of_decide_eq_true hmeasured))
  | _ => cases hprimitive

/-- **Only a value whose length its tag can say is read back.** -/
theorem measured_of_read (hprimitive : Element.any.holds value = true)
    (h : encodePropertyValue value = .ok encoded) {rest : Bytes} {consumed : Nat}
    (hread : decodePropertyValue (encoded ++ rest) = .ok (value, consumed)) :
    measured value = true := by
  cases value with
  | octetString value =>
      cases h
      obtain ⟨_, hdecoded, hsame⟩ := read_tagged hread (by decide) ⟨_, _, rfl⟩
        decodePropertyValue_of_tag
      cases hsame
      exact decide_eq_true (decodeOctetString_short _ _ hdecoded)
  | bitString value =>
      cases h
      obtain ⟨_, hdecoded, hsame⟩ := read_tagged hread (by decide) ⟨_, _, rfl⟩
        decodePropertyValue_of_tag
      cases hsame
      exact decide_eq_true (decodeBitString_short _ _ hdecoded)
  | characterString value =>
      cases h
      obtain ⟨_, hdecoded, hsame⟩ := read_tagged hread (by decide) ⟨_, _, rfl⟩
        decodePropertyValue_of_tag
      cases hsame
      exact decide_eq_true (characterString_short hdecoded)
  | array _ | list _ | covSubscription _ | addressBinding _ | destination _ | dailySchedule _
  | specialEvent _ => cases hprimitive
  | _ => rfl

end Primitive

/-! ## §4. Values that describe themselves -/

/-- Application tags without a type yet. -/
def reserved : ApplicationTag → Bool
  | .reserved13 | .reserved14 | .reserved15 => true
  | _ => false

/-- Octets that are one value of a reserved tag, and all of it. -/
def reservedValue (raw : Bytes) : Bool :=
  match decodeApplicationTag raw with
  | .ok (tag, length, consumed) => reserved tag && consumed + length == raw.length
  | .error _ => false

/-- A value whose encoding says what it is: a primitive whose length its tag can say, or the
octets of one value nobody knows. -/
def selfDescribing : PropertyValue → Bool
  | .unknown raw => reservedValue raw
  | value => Element.any.holds value && measured value

/-- The tag in front of what stands before `rest` is its own. -/
theorem decodeApplicationTag_front {front rest : Bytes} {tag : ApplicationTag}
    {length consumed : Nat} (hwithin : consumed ≤ front.length) :
    decodeApplicationTag (front ++ rest) = .ok (tag, length, consumed)
      ↔ decodeApplicationTag front = .ok (tag, length, consumed) := by
  have hsame : (front ++ rest).take front.length = front.take front.length := by
    rw [List.take_left, List.take_length]
  rw [decodeApplicationTag_eq_ok, decodeApplicationTag_eq_ok]
  constructor
  · intro h
    exact decodeTag_of_take hsame h hwithin
  · intro h
    exact decodeTag_of_take hsame.symm h hwithin

section Decoded

variable {data : Bytes} {value : PropertyValue} {consumed : Nat}

/-- A value that is read starts with an application tag. -/
theorem decodeApplicationTag_of_value (h : decodePropertyValue data = .ok (value, consumed)) :
    ∃ header, decodeApplicationTag data = .ok header := by
  unfold decodePropertyValue at h
  cases hheader : decodeApplicationTag data with
  | ok header => exact ⟨header, rfl⟩
  | error e =>
      rw [hheader] at h
      by_cases hempty : data.isEmpty = true
      · rw [if_pos hempty] at h
        cases h
      · rw [if_neg hempty] at h
        cases h

/-- **What is read is a primitive**, or the octets of a value of a reserved tag. -/
theorem decodePropertyValue_cases (h : decodePropertyValue data = .ok (value, consumed)) :
    Element.any.holds value = true ∨
      ∃ tag length header raw, decodeApplicationTag data = .ok (tag, length, header)
        ∧ reserved tag = true ∧ consumed = header + length
        ∧ range? data 0 consumed = some raw ∧ value = .unknown raw := by
  obtain ⟨⟨tag, length, header⟩, hheader⟩ := decodeApplicationTag_of_value h
  rw [decodePropertyValue_of_tag hheader] at h
  have hmapped : ∀ {α : Type} {wrap : α → PropertyValue} {x : Decoded (α × Nat)},
      (∀ a, Element.any.holds (wrap a) = true) →
        Prod.map wrap id <$> x = .ok (value, consumed) → Element.any.holds value = true := by
    intro α wrap x hwrap hx
    obtain ⟨⟨a, size⟩, _, hsame⟩ := map_eq_ok.mp hx
    cases hsame
    exact hwrap a
  cases tag with
  | null =>
      cases h
      exact .inl rfl
  | reserved13 | reserved14 | reserved15 =>
      simp only [bind_eq_ok, pure_eq_ok, orFail_eq_ok] at h
      obtain ⟨raw, hraw, hsame⟩ := h
      cases hsame
      exact .inr ⟨_, length, header, raw, hheader, rfl, rfl, hraw, rfl⟩
  | _ => exact .inl (hmapped (fun _ => rfl) h)

theorem isClosingTag_of_value (h : decodePropertyValue data = .ok (value, consumed)) (tag : UInt8) :
    isClosingTag data tag = false := by
  obtain ⟨⟨found, length, header⟩, hheader⟩ := decodeApplicationTag_of_value h
  unfold isClosingTag
  rw [decodeApplicationTag_eq_ok.mp hheader]

end Decoded

/-- Octets nobody knows are read back where they are one value. -/
theorem decodePropertyValue_unknown_iff {raw rest : Bytes} {consumed : Nat} :
    decodePropertyValue (raw ++ rest) = .ok (.unknown raw, consumed)
      ↔ reservedValue raw = true ∧ consumed = raw.length := by
  unfold reservedValue
  constructor
  · intro h
    rcases decodePropertyValue_cases h with hany | ⟨tag, length, header, raw', hheader, hreserved,
      rfl, hraw, hsame⟩
    · cases hany
    · cases hsame
      have hlength : raw.length = header + length := length_of_range? hraw (Nat.zero_add _).symm
      rw [decodeApplicationTag_front (by omega)] at hheader
      rw [hheader]
      simp [hreserved, hlength]
  · rintro ⟨hreserved, rfl⟩
    cases hheader : decodeApplicationTag raw with
    | error e =>
        rw [hheader] at hreserved
        cases hreserved
    | ok found =>
        obtain ⟨tag, length, header⟩ := found
        rw [hheader] at hreserved
        obtain ⟨htag, hlength⟩ := Bool.and_eq_true_iff.mp hreserved
        have hwhole : header + length = raw.length := eq_of_beq hlength
        have hraw : range? (raw ++ rest) 0 (header + length) = some raw := by
          rw [hwhole]
          simpa using range?_append [] raw rest
        rw [decodePropertyValue_of_tag ((decodeApplicationTag_front (by omega)).mpr hheader), hraw,
          hwhole]
        cases tag with
        | reserved13 | reserved14 | reserved15 => rfl
        | _ => cases htag

/-- **A value is read back exactly when it describes itself**, and takes what was written. -/
theorem decodePropertyValue_encoded_iff {value : PropertyValue} {encoded rest : Bytes}
    {consumed : Nat} (h : encodePropertyValue value = .ok encoded) :
    decodePropertyValue (encoded ++ rest) = .ok (value, consumed)
      ↔ selfDescribing value = true ∧ consumed = encoded.length := by
  by_cases hprimitive : Element.any.holds value = true
  · have hself : selfDescribing value = measured value := by
      cases value <;> first | rfl | cases hprimitive
    rw [hself]
    constructor
    · intro hread
      have hmeasured := measured_of_read hprimitive h hread
      rw [reads_primitive hprimitive hmeasured h rest] at hread
      cases hread
      exact ⟨hmeasured, rfl⟩
    · rintro ⟨hmeasured, rfl⟩
      exact reads_primitive hprimitive hmeasured h rest
  · cases value with
    | unknown raw =>
        cases h
        exact decodePropertyValue_unknown_iff
    | array _ | list _ | covSubscription _ | addressBinding _ | timestamp _
    | objectPropertyReference _ | destination _ | dailySchedule _ | calendarEntry _
    | specialEvent _ | dateRange _ | valueSource _ =>
        constructor
        · intro hread
          rcases decodePropertyValue_cases hread with hany | ⟨_, _, _, _, _, _, _, _, hunknown⟩
          · exact absurd hany hprimitive
          · cases hunknown
        · rintro ⟨hself, _⟩
          cases hself
    | _ => exact absurd rfl hprimitive

/-! ## §5. Collections -/

theorem encodeValues_cons {value : PropertyValue} {values : List PropertyValue} {encoded : Bytes}
    (h : encodeValues (value :: values) = .ok encoded) :
    ∃ octets more, encodePropertyValue value = .ok octets ∧ encodeValues values = .ok more
      ∧ encoded = octets ++ more := by
  simp only [encodeValues, bind_eq_ok, pure_eq_ok] at h
  obtain ⟨octets, hoctets, more, hmore, rfl⟩ := h
  exact ⟨octets, more, hoctets, hmore, rfl⟩

mutual

/-- A value without the collections around it. -/
def flatten : PropertyValue → List PropertyValue
  | .array values => flattenAll values
  | .list values => flattenAll values
  | value => [value]

def flattenAll : List PropertyValue → List PropertyValue
  | [] => []
  | value :: rest => flatten value ++ flattenAll rest

end

theorem encodeValues_append : ∀ values others : List PropertyValue,
    encodeValues (values ++ others) = do
      let octets ← encodeValues values
      let more ← encodeValues others
      return octets ++ more
  | [], others => by
      show encodeValues others = _
      cases h : encodeValues others <;> rfl
  | value :: values, others => by
      rw [List.cons_append, encodeValues, encodeValues, encodeValues_append values others]
      cases encodePropertyValue value with
      | error e => rfl
      | ok octets =>
          cases encodeValues values with
          | error e => rfl
          | ok more =>
              cases encodeValues others with
              | error e => rfl
              | ok last =>
                  show Except.ok (octets ++ (more ++ last)) = Except.ok (octets ++ more ++ last)
                  rw [List.append_assoc]

theorem encodeValues_singleton (value : PropertyValue) :
    encodeValues [value] = encodePropertyValue value := by
  rw [encodeValues, encodeValues]
  cases encodePropertyValue value with
  | error e => rfl
  | ok octets => exact congrArg Except.ok (List.append_nil octets)

mutual

/-- **A value is encoded as it is without the collections around it.** -/
theorem encodeValues_flatten : ∀ value : PropertyValue,
    encodeValues (flatten value) = encodePropertyValue value
  | .array values => by
      rw [flatten, encodePropertyValue, encodeValues_flattenAll values]
  | .list values => by
      rw [flatten, encodePropertyValue, encodeValues_flattenAll values]
  | .real _ | .double _ | .boolean _ | .unsigned _ | .signed _ | .octetString _
  | .characterString _ | .enumerated _ | .bitString _ | .date _ | .time _ | .objectIdentifier _
  | .covSubscription _ | .addressBinding _ | .timestamp _ | .objectPropertyReference _
  | .destination _ | .dailySchedule _ | .calendarEntry _ | .specialEvent _ | .dateRange _
  | .valueSource _ | .null | .unknown _ => encodeValues_singleton _

theorem encodeValues_flattenAll : ∀ values : List PropertyValue,
    encodeValues (flattenAll values) = encodeValues values
  | [] => rfl
  | value :: rest => by
      rw [flattenAll, encodeValues_append, encodeValues_flatten value, encodeValues_flattenAll rest,
        encodeValues]

end

end BacnetRs.Property
