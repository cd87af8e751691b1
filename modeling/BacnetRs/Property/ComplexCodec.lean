/-
  BacnetRs.Property.ComplexCodec — constructed values are read as they were
  written.

  None says how long it is.  Its fields are told apart by tag number and length,
  and an optional last field from the next value by the tag that comes after it.
  What is not read back is a string longer than its tag can say, and a context
  date of the year 2155, whose octet is the one of the year nobody specified.

    * `Element.reads`            — a value is read back before what is no field of it.
    * `Element.carried_of_read`  — and only one that is carried.
    * `constructed_roundTrip_iff` — a run of values is read back exactly when all are.
-/
import BacnetRs.Property.ValueCodec

namespace BacnetRs.Property

open BacnetRs.Encoding BacnetRs.Object Checked Octets

/-! ## §1. The next tag -/

section NextTag

variable {tag other : UInt8} {rest : Bytes} {length : Option Nat}

theorem contextTagMatches_context {size : Nat} (hsize : size < 2 ^ 32) :
    contextTagMatches (encodeContextTag other size ++ rest) tag length
      = (other == tag && length.all (fun expected => size == expected)) := by
  unfold contextTagMatches
  rw [decodeContextTag_append other hsize]

theorem contextTagMatches_opening :
    contextTagMatches (encodeOpeningTag other ++ rest) tag length = false := by
  unfold contextTagMatches decodeContextTag
  rw [decodeTag_encodeOpeningTag]

theorem contextTagMatches_closing :
    contextTagMatches (encodeClosingTag other ++ rest) tag length = false := by
  unfold contextTagMatches decodeContextTag
  rw [decodeTag_encodeClosingTag]

theorem isClosingTag_tagged {application : ApplicationTag} {encoded : Bytes}
    (h : Tagged application encoded) (happlication : application ≠ .reserved15) :
    isClosingTag (encoded ++ rest) tag = false := by
  obtain ⟨size, content, rfl⟩ := h
  unfold isClosingTag
  rw [List.append_assoc, decodeTag_encodeApplicationTag_mod happlication]

end NextTag

/-! ## §2. Application-tagged fields -/

section Selected

variable {α : Type} {select : PropertyValue → Except EncodingError α}
  {data encoded rest : Bytes} {consumed : Nat} {value : PropertyValue} {selected : α}

/-- A field that is an application-tagged value, read where it stands. -/
theorem readSelected_of_left (h : Left data consumed (encoded ++ rest))
    (hread : Reads decodePropertyValue encoded value) (hselect : select value = .ok selected) :
    readSelected select data consumed = .ok (selected, consumed + encoded.length) := by
  unfold readSelected
  rw [readAt_of_left h (hread rest)]
  simp only [bind, Except.bind, hselect, Checked.ofExcept]
  rfl

end Selected

theorem reads_unsignedValue (value : UInt32) :
    Reads decodePropertyValue (encodeUnsigned value) (.unsigned value.toUInt64) := by
  obtain ⟨width, _, hwidth, _, hoctets⟩ := unsignedOctets_eq value
  refine reads_tagged (by decide) ⟨_, _, rfl⟩ decodePropertyValue_of_tag ?_
  exact fun rest => decodeUnsigned64_of_decodeUnsigned (reads_unsigned value rest)

theorem reads_timeValueOf (value : TimeValue) :
    Reads decodePropertyValue (encodeTime value) (.time value) :=
  reads_primitive rfl rfl rfl

theorem reads_dateValue {value : DateValue} {encoded : Bytes} (h : encodeDate value = .ok encoded) :
    Reads decodePropertyValue encoded (.date value) :=
  reads_primitive rfl rfl h

theorem reads_booleanValue (value : Bool) :
    Reads decodePropertyValue (encodeBoolean value) (.boolean value) :=
  reads_primitive rfl rfl rfl

theorem reads_objectIdentifierValue {value : ObjectIdentifier} {encoded : Bytes}
    (h : encodeObjectIdentifier value = .ok encoded) :
    Reads decodePropertyValue encoded (.objectIdentifier value) :=
  reads_primitive rfl rfl h

theorem reads_octetStringValue {value : Bytes} (hfits : octetsFit value = true) :
    Reads decodePropertyValue (encodeOctetString value) (.octetString value) :=
  reads_primitive rfl hfits rfl

theorem reads_bitStringValue {value : List Bool} (hfits : bitsFit value = true) :
    Reads decodePropertyValue (encodeBitString value) (.bitString value) :=
  reads_primitive rfl hfits rfl

theorem asUnsigned32_toUInt64 (value : UInt32) :
    asUnsigned32 (.unsigned value.toUInt64) = .ok value := by
  have hbound : value.toUInt64.toNat < 2 ^ 32 := by
    rw [UInt32.toNat_toUInt64]
    exact value.toNat_lt
  show (if value.toUInt64.toNat < 2 ^ 32 then _ else _) = _
  rw [if_pos hbound, UInt32.toUInt32_toUInt64]

theorem asUnsigned16_toUInt64 (error : EncodingError) (value : UInt16) :
    asUnsigned16 error (.unsigned value.toUInt32.toUInt64) = .ok value := by
  have hbound : value.toUInt32.toUInt64.toNat < 2 ^ 16 := by
    rw [UInt32.toNat_toUInt64, UInt16.toNat_toUInt32]
    exact value.toNat_lt
  show (if value.toUInt32.toUInt64.toNat < 2 ^ 16 then _ else _) = _
  rw [if_pos hbound]
  simp

/-! ## §3. Values without an optional field -/

theorem DateRangeValue.reads {value : DateRangeValue} {encoded : Bytes}
    (h : value.encode = .ok encoded) : Reads DateRangeValue.decode encoded value := by
  simp only [DateRangeValue.encode, bind_eq_ok, pure_eq_ok] at h
  obtain ⟨start, hstart, end_, hend, rfl⟩ := h
  intro rest
  have h₀ := left_zero (start ++ (end_ ++ rest))
  have h₁ := h₀.next
  rw [List.append_assoc]
  unfold DateRangeValue.decode
  simp only [bind_eq_ok, pure_eq_ok]
  refine ⟨_, reads_date hstart _, _, readAt_of_left (Nat.zero_add start.length ▸ h₁)
    (reads_date hend rest), ?_⟩
  rw [List.length_append]

theorem AddressBindingValue.reads {value : AddressBindingValue} {encoded : Bytes}
    (hfits : octetsFit value.address.macAddress = true) (h : value.encode = .ok encoded) :
    Reads AddressBindingValue.decode encoded value := by
  simp only [AddressBindingValue.encode, bind_eq_ok, pure_eq_ok] at h
  obtain ⟨device, hdevice, rfl⟩ := h
  intro rest
  simp only [List.append_assoc]
  have h₀ := left_zero (device ++ (encodeUnsigned value.address.network.toUInt32
    ++ (encodeOctetString value.address.macAddress ++ rest)))
  have h₁ := h₀.next
  have h₂ := h₁.next
  unfold AddressBindingValue.decode
  simp only [bind_eq_ok, pure_eq_ok]
  refine ⟨_, readSelected_of_left h₀ (reads_objectIdentifierValue hdevice) rfl,
    _, readSelected_of_left h₁ (reads_unsignedValue _) (asUnsigned16_toUInt64 _ _),
    _, readSelected_of_left h₂ (reads_octetStringValue hfits) rfl, ?_⟩
  simp only [List.length_append, Nat.zero_add, Nat.add_assoc]

theorem BacnetAddress.decodeAt_of_left {network mac : EncodingError} {data rest : Bytes}
    {consumed : Nat} {value : BacnetAddress} (hfits : octetsFit value.macAddress = true)
    (h : Left data consumed (value.encode ++ rest)) :
    BacnetAddress.decodeAt network mac data consumed
      = .ok (value, consumed + value.encode.length) := by
  simp only [BacnetAddress.encode, List.append_assoc] at h
  have h₁ := h.next
  have h₂ := h₁.next
  have h₃ := h₂.next
  unfold BacnetAddress.decodeAt
  simp only [bind_eq_ok, pure_eq_ok]
  refine ⟨_, openAt_of_left h,
    _, readSelected_of_left h₁ (reads_unsignedValue _) (asUnsigned16_toUInt64 _ _),
    _, readSelected_of_left h₂ (reads_octetStringValue hfits) rfl,
    _, closeAt_of_left h₃, ?_⟩
  simp only [BacnetAddress.encode, List.length_append, Nat.add_assoc]

/-- Both decoders of a recipient, which differ in the errors they report. -/
theorem Recipient.reads_both {value : Recipient} {encoded : Bytes} (hfits : value.measured = true)
    (h : value.encode = .ok encoded) :
    Reads Recipient.decode encoded value ∧ Reads RecipientProcess.decodeRecipient encoded value := by
  cases value with
  | device id =>
      have hmatches : ∀ rest, contextTagMatches (encoded ++ rest) 0 (some 4) = true := by
        intro rest
        simp only [Recipient.encode, encodeContextObjectId, bind_eq_ok, pure_eq_ok] at h
        obtain ⟨number, _, rfl⟩ := h
        rw [List.append_assoc, contextTagMatches_context (by decide)]
        rfl
      have hread : ∀ rest, decodeContextObjectId (encoded ++ rest) 0 = .ok (id, encoded.length) :=
        reads_contextObjectId h
      constructor
      · intro rest
        unfold Recipient.decode
        rw [if_pos (hmatches rest), hread rest]
        rfl
      · intro rest
        unfold RecipientProcess.decodeRecipient
        rw [if_pos (hmatches rest), hread rest]
        rfl
  | address mac =>
      cases h
      have hmatches : ∀ rest, contextTagMatches (mac.encode ++ rest) 0 (some 4) = false := by
        intro rest
        simp only [BacnetAddress.encode, List.append_assoc]
        exact contextTagMatches_opening
      constructor
      · intro rest
        unfold Recipient.decode
        rw [hmatches rest, if_neg Bool.false_ne_true,
          BacnetAddress.decodeAt_of_left hfits (left_zero _), Nat.zero_add]
        rfl
      · intro rest
        unfold RecipientProcess.decodeRecipient
        rw [hmatches rest, if_neg Bool.false_ne_true,
          BacnetAddress.decodeAt_of_left hfits (left_zero _), Nat.zero_add]
        rfl

theorem DestinationValue.reads {value : DestinationValue} {encoded : Bytes}
    (hfits : value.measured = true) (h : value.encode = .ok encoded) :
    Reads DestinationValue.decode encoded value := by
  simp only [DestinationValue.measured, Bool.and_eq_true] at hfits
  obtain ⟨⟨hdays, hrecipient⟩, htransitions⟩ := hfits
  simp only [DestinationValue.encode, bind_eq_ok, pure_eq_ok] at h
  obtain ⟨recipient, hencoded, rfl⟩ := h
  intro rest
  simp only [List.append_assoc]
  have h₀ := left_zero (encodeBitString value.validDays ++ (encodeTime value.fromTime
    ++ (encodeTime value.toTime ++ (recipient ++ (encodeUnsigned value.processIdentifier
    ++ (encodeBoolean value.issueConfirmedNotifications
    ++ (encodeBitString value.transitions ++ rest)))))))
  have h₁ := h₀.next
  have h₂ := h₁.next
  have h₃ := h₂.next
  have h₄ := h₃.next
  have h₅ := h₄.next
  have h₆ := h₅.next
  unfold DestinationValue.decode
  simp only [bind_eq_ok, pure_eq_ok]
  refine ⟨_, readSelected_of_left h₀ (reads_bitStringValue hdays) rfl,
    _, readSelected_of_left h₁ (reads_timeValueOf _) rfl,
    _, readSelected_of_left h₂ (reads_timeValueOf _) rfl,
    _, readAt_of_left h₃ ((Recipient.reads_both hrecipient hencoded).1 _),
    _, readSelected_of_left h₄ (reads_unsignedValue _) (asUnsigned32_toUInt64 _),
    _, readSelected_of_left h₅ (reads_booleanValue _) rfl,
    _, readSelected_of_left h₆ (reads_bitStringValue htransitions) rfl, ?_⟩
  simp only [List.length_append, Nat.zero_add, Nat.add_assoc]

theorem ValueSourceValue.reads (value : ValueSourceValue) :
    Reads ValueSourceValue.decode value.encode value := by
  intro rest
  cases value
  unfold ValueSourceValue.decode ValueSourceValue.encode
  rw [decodeContextTag_append 0 (by decide)]
  rfl

theorem TimestampValue.reads {value : TimestampValue} {encoded : Bytes}
    (h : value.encode = .ok encoded) : Reads TimestampValue.decode encoded value := by
  intro rest
  cases value with
  | time time =>
      obtain ⟨hour, minute, second, hundredths⟩ := time
      cases h
      -- The four octets stand right behind the tag.
      obtain ⟨h0, h1, h2, h3⟩ := index_quad (ε := EncodingError) (encodeContextTag 0 4) rest
        hour minute second hundredths
      have hwithin : ¬ (encodeContextTag 0 4 ++ ([hour, minute, second, hundredths] ++ rest)).length
          < (encodeContextTag 0 4).length + 4 := content_within _ _ _ rfl
      rw [List.append_assoc]
      unfold TimestampValue.decode
      rw [decodeTag_encodeContextTag 0 (by decide)]
      simp only [Checked.ofExcept, bind, Except.bind]
      rw [if_neg (not_or.mpr ⟨by decide, hwithin⟩), h0]
      simp only [h1, h2, h3, List.length_append]
      rfl
  | sequenceNumber sequence =>
      cases h
      have hread : decodeContextUnsigned (encodeContextUnsigned sequence 1 ++ rest) 1
          = .ok (sequence, (encodeContextUnsigned sequence 1).length) :=
        reads_contextUnsigned sequence 1 rest
      obtain ⟨width, _, hwidth, _, hoctets⟩ := unsignedOctets_eq sequence
      have hlength : (unsignedOctets sequence).length < 2 ^ 32 := by
        rw [hoctets, length_beOctets]
        omega
      -- The tag is looked at first and then read again by the unsigned decoder.
      have htag : decodeTag (encodeContextUnsigned sequence 1 ++ rest)
          = .ok (.context 1, (unsignedOctets sequence).length,
            (encodeContextTag 1 (unsignedOctets sequence).length).length) := by
        unfold encodeContextUnsigned
        rw [List.append_assoc, decodeTag_encodeContextTag 1 hlength]
      unfold TimestampValue.decode
      rw [htag]
      simp only [Checked.ofExcept, bind, Except.bind]
      rw [hread]
      rfl
  | dateTime day time =>
      simp only [TimestampValue.encode, bind_eq_ok, pure_eq_ok] at h
      obtain ⟨octets, hoctets, rfl⟩ := h
      simp only [List.append_assoc]
      -- Date and time are read one after the other between the brackets.
      have h₀ := left_zero (encodeOpeningTag 2 ++ (octets ++ (encodeTime time
        ++ (encodeClosingTag 2 ++ rest))))
      have h₁ := h₀.next
      have h₂ := h₁.next
      have h₃ := h₂.next
      rw [Nat.zero_add] at h₁ h₂ h₃
      unfold TimestampValue.decode
      rw [decodeTag_encodeOpeningTag]
      simp only [Checked.ofExcept, ok_bind, bind_eq_ok, pure_eq_ok]
      refine ⟨_, readSelected_of_left h₁ (reads_dateValue hoctets) rfl,
        _, readSelected_of_left h₂ (reads_timeValueOf _) rfl, _, closeAt_of_left h₃, ?_⟩
      simp only [List.length_append, Nat.add_assoc]

/-! ## §4. Optional last fields -/

/-- A reference is read back before anything that is not its array index. -/
theorem ObjectPropertyReference.reads {reference : ObjectPropertyReference} {encoded rest : Bytes}
    (h : reference.encode = .ok encoded) (hrest : contextTagMatches rest 2 none = false) :
    ObjectPropertyReference.decode (encoded ++ rest) = .ok (reference, encoded.length) := by
  obtain ⟨objectIdentifier, ⟨property⟩, arrayIndex⟩ := reference
  simp only [ObjectPropertyReference.encode, bind_eq_ok, pure_eq_ok] at h
  obtain ⟨object, hobject, rfl⟩ := h
  have hread : ∀ rest, decodeContextObjectId (object ++ rest) 0
      = .ok (objectIdentifier, object.length) := reads_contextObjectId hobject
  have hproperty : ∀ rest, decodeContextUnsigned (encodeContextUnsigned property 1 ++ rest) 1
      = .ok (property, (encodeContextUnsigned property 1).length) := reads_contextUnsigned property 1
  unfold ObjectPropertyReference.decode encodeContextEnumerated
  simp only [bind_eq_ok, List.append_assoc]
  cases arrayIndex with
  | none =>
      have h₁ := (left_zero (object ++ (encodeContextUnsigned property 1 ++ rest))).next
      have h₂ := h₁.next
      rw [Nat.zero_add] at h₁ h₂
      refine ⟨_, hread _, _, h₁.dropFrom, _, hproperty rest, _, h₂.dropFrom, ?_⟩
      rw [hrest, if_neg Bool.false_ne_true, List.append_nil, List.length_append]
      rfl
  | some index =>
      have hindex : decodeContextUnsigned (encodeContextUnsigned index 2 ++ rest) 2
          = .ok (index, (encodeContextUnsigned index 2).length) := reads_contextUnsigned index 2 rest
      have hmatches : contextTagMatches (encodeContextUnsigned index 2 ++ rest) 2 none = true := by
        obtain ⟨width, _, hwidth, _, hoctets⟩ := unsignedOctets_eq index
        unfold encodeContextUnsigned
        rw [hoctets, length_beOctets, List.append_assoc, contextTagMatches_context (by omega)]
        rfl
      have h₁ := (left_zero (object ++ (encodeContextUnsigned property 1
        ++ (encodeContextUnsigned index 2 ++ rest)))).next
      have h₂ := h₁.next
      rw [Nat.zero_add] at h₁ h₂
      refine ⟨_, hread _, _, h₁.dropFrom, _, hproperty _, _, h₂.dropFrom, ?_⟩
      rw [if_pos hmatches, hindex]
      simp only [bind, Except.bind, List.length_append, Nat.add_assoc]
      rfl

theorem RecipientProcess.reads {value : RecipientProcess} {tag : UInt8} {encoded : Bytes}
    (hfits : value.recipient.measured = true) (h : value.encode tag = .ok encoded) :
    Reads (RecipientProcess.decode tag) encoded value := by
  simp only [RecipientProcess.encode, bind_eq_ok, pure_eq_ok] at h
  obtain ⟨recipient, hencoded, rfl⟩ := h
  intro rest
  simp only [List.append_assoc]
  have h₀ := left_zero (encodeOpeningTag tag ++ (encodeOpeningTag 0 ++ (recipient
    ++ (encodeClosingTag 0 ++ (encodeContextUnsigned value.processIdentifier 1
    ++ (encodeClosingTag tag ++ rest))))))
  have h₁ := h₀.next
  have h₂ := h₁.next
  have h₃ := h₂.next
  have h₄ := h₃.next
  have h₅ := h₄.next
  unfold RecipientProcess.decode
  simp only [bind_eq_ok, pure_eq_ok]
  refine ⟨_, openAt_of_left h₀, _, openAt_of_left h₁,
    _, readAt_of_left h₂ ((Recipient.reads_both hfits hencoded).2 _),
    _, closeAt_of_left h₃,
    _, readAt_of_left h₄ (reads_contextUnsigned value.processIdentifier 1 _),
    _, closeAt_of_left h₅, ?_⟩
  simp only [List.length_append, Nat.zero_add, Nat.add_assoc]

theorem reads_objectPropertyReference {value : ObjectPropertyReference} (tag : UInt8)
    {encoded : Bytes} (h : value.encode = .ok encoded) :
    Reads (decodeObjectPropertyReference tag)
      (encodeOpeningTag tag ++ encoded ++ encodeClosingTag tag) value := by
  intro rest
  simp only [List.append_assoc]
  have h₀ := left_zero (encodeOpeningTag tag ++ (encoded ++ (encodeClosingTag tag ++ rest)))
  have h₁ := h₀.next
  have h₂ := h₁.next
  unfold decodeObjectPropertyReference
  simp only [bind_eq_ok, pure_eq_ok]
  refine ⟨_, openAt_of_left h₀,
    _, readAt_of_left h₁ (ObjectPropertyReference.reads h contextTagMatches_closing),
    _, closeAt_of_left h₂, ?_⟩
  simp only [List.length_append, Nat.zero_add, Nat.add_assoc]

/-- The parts of an encoded subscription. -/
theorem CovSubscriptionValue.encode_eq_ok {value : CovSubscriptionValue} {encoded : Bytes}
    (h : value.encode = .ok encoded) :
    ∃ recipient monitored, value.recipient.encode 0 = .ok recipient
      ∧ value.monitoredProperty.encode = .ok monitored
      ∧ encoded = recipient ++ (encodeOpeningTag 1 ++ monitored ++ encodeClosingTag 1)
        ++ encodeContextBoolean value.issueConfirmedNotifications 2
        ++ encodeContextUnsigned value.timeRemaining 3
        ++ value.covIncrement.elim [] (encodeContextReal · 4) := by
  simp only [CovSubscriptionValue.encode, bind_eq_ok, pure_eq_ok] at h
  obtain ⟨recipient, hrecipient, monitored, hmonitored, rfl⟩ := h
  refine ⟨recipient, monitored, hrecipient, hmonitored, ?_⟩
  cases value.covIncrement <;> simp only [Option.elim, List.append_assoc]

/-- A subscription is read back before anything that is not its increment. -/
theorem CovSubscriptionValue.reads {value : CovSubscriptionValue} {encoded rest : Bytes}
    (hfits : value.recipient.recipient.measured = true) (h : value.encode = .ok encoded)
    (hrest : contextTagMatches rest 4 (some 4) = false) :
    CovSubscriptionValue.decode (encoded ++ rest) = .ok (value, encoded.length) := by
  obtain ⟨process, monitored, hprocess, hmonitored, rfl⟩ := encode_eq_ok h
  have hread := RecipientProcess.reads hfits hprocess
  have hreference := reads_objectPropertyReference 1 hmonitored
  have hoptional : ∀ {data : Bytes} {consumed : Nat},
      Left data consumed (value.covIncrement.elim [] (encodeContextReal · 4) ++ rest) →
      readOptionalAt (contextTagMatches · 4 (some 4)) (decodeContextReal · 4) data consumed
        = .ok (value.covIncrement,
          consumed + (value.covIncrement.elim [] (encodeContextReal · 4)).length) := by
    intro data consumed hleft
    cases hincrement : value.covIncrement with
    | none =>
        rw [hincrement] at hleft
        exact readOptionalAt_absent hleft hrest
    | some real =>
        rw [hincrement] at hleft
        refine readOptionalAt_of_left hleft ?_ (reads_contextReal real 4 rest)
        show contextTagMatches (encodeContextReal real 4 ++ rest) 4 (some 4) = true
        unfold encodeContextReal
        rw [List.append_assoc, contextTagMatches_context (by decide)]
        rfl
  have h₀ := left_zero (process ++ ((encodeOpeningTag 1 ++ monitored ++ encodeClosingTag 1)
    ++ (encodeContextBoolean value.issueConfirmedNotifications 2
    ++ (encodeContextUnsigned value.timeRemaining 3
    ++ (value.covIncrement.elim [] (encodeContextReal · 4) ++ rest)))))
  have h₁ := h₀.next
  have h₂ := h₁.next
  have h₃ := h₂.next
  have h₄ := h₃.next
  rw [Nat.zero_add] at h₁ h₂ h₃ h₄
  rw [List.append_assoc, List.append_assoc, List.append_assoc, List.append_assoc]
  unfold CovSubscriptionValue.decode
  simp only [bind_eq_ok, pure_eq_ok]
  refine ⟨_, hread _, _, readAt_of_left h₁ (hreference _),
    _, readAt_of_left h₂ (reads_contextBoolean _ 2 _),
    _, readAt_of_left h₃ (reads_contextUnsigned _ 3 _), _, hoptional h₄, ?_⟩
  simp only [List.length_append, Nat.add_assoc]

/-! ## §5. Context dates -/

/-- Not the year whose octet is the one of the year nobody specified. -/
def yearCarried (date : DateValue) : Bool := decide (date.1 ≠ 2155)

def CalendarEntryValue.carried : CalendarEntryValue → Bool
  | .date day => yearCarried day
  | _ => true

def SpecialEventPeriod.carried : SpecialEventPeriod → Bool
  | .calendarEntry entry => entry.carried
  | .calendarReference _ => true

/-- But for that year, context dates have the year octets of the others. -/
theorem yearOctet_of_context {year : UInt16} {octet : UInt8} (hyear : year ≠ 2155)
    (h : contextYearOctet year = .ok octet) : yearOctet year = .ok octet := by
  unfold contextYearOctet at h
  unfold yearOctet
  by_cases hwildcard : year = 255
  · rw [if_pos hwildcard] at h ⊢
    exact h
  · rw [if_neg hwildcard] at h ⊢
    by_cases hrange : 1900 ≤ year ∧ year ≤ 2155
    · rw [if_pos hrange] at h
      have hbelow : 1900 ≤ year ∧ year ≤ 2154 := by
        refine ⟨hrange.1, ?_⟩
        have hle := UInt16.le_iff_toNat_le.mp hrange.2
        have hne : year.toNat ≠ 2155 := fun hsame => hyear (UInt16.toNat_inj.mp hsame)
        rw [UInt16.le_iff_toNat_le]
        show year.toNat ≤ 2154
        have hle' : year.toNat ≤ 2155 := hle
        omega
      rw [if_pos hbelow]
      exact h
    · rw [if_neg hrange] at h
      cases h

theorem encodeContextDate_eq_ok {tag : UInt8} {date : DateValue} {encoded : Bytes}
    (h : encodeContextDate tag date = .ok encoded) :
    ∃ octet, contextYearOctet date.1 = .ok octet
      ∧ encoded = encodeContextTag tag 4 ++ [octet, date.2.1, date.2.2.1, date.2.2.2] := by
  simp only [encodeContextDate, bind_eq_ok, pure_eq_ok] at h
  obtain ⟨octet, hoctet, rfl⟩ := h
  exact ⟨octet, hoctet, rfl⟩

theorem reads_contextDate {tag : UInt8} {date : DateValue} {encoded : Bytes}
    (hyear : yearCarried date = true) (h : encodeContextDate tag date = .ok encoded) :
    Reads (decodeContextDate · tag) encoded date := by
  obtain ⟨octet, hoctet, rfl⟩ := encodeContextDate_eq_ok h
  obtain ⟨year, month, day, weekday⟩ := date
  intro rest
  have hread := yearOctet_read (yearOctet_of_context (of_decide_eq_true hyear) hoctet)
  have hrange := range?_append (encodeContextTag tag 4) [octet, month, day, weekday] rest
  show decodeContextDate _ _ = _
  unfold decodeContextDate
  rw [List.append_assoc, decodeContextTag_append tag (by decide)]
  simp only [Checked.ofExcept, ok_bind]
  rw [if_neg (by simp)]
  show (Checked.orFail _ (range? _ _ (_ + [octet, month, day, weekday].length)) >>= _) = _
  rw [hrange]
  simp only [orFail, ok_bind, Octets.index, List.getElem?_cons_zero, List.getElem?_cons_succ, hread,
    List.length_append]
  rfl

/-- The year of a context date that was read. -/
theorem decodeContextDate_carried (data : Bytes) (tag : UInt8) :
    Ensures (decodeContextDate data tag) (fun decoded => yearCarried decoded.1 = true) := by
  intro decoded h
  simp only [decodeContextDate, bind_eq_ok, guard_eq_ok, pure_eq_ok] at h
  obtain ⟨_, _, _, _, _, octet, _, _, _, _, _, _, _, rfl⟩ := h
  have hall : ∀ octet : Fin 256, (if UInt8.ofNat octet = 255 then (255 : UInt16)
      else 1900 + (UInt8.ofNat octet).toUInt16) ≠ 2155 := by decide +kernel
  have hyear := hall ⟨octet.toNat, octet.toNat_lt⟩
  simp only [UInt8.ofNat_toNat] at hyear
  exact decide_eq_true hyear

theorem CalendarEntryValue.reads {value : CalendarEntryValue} {encoded : Bytes}
    (hcarried : value.carried = true) (h : value.encode = .ok encoded) :
    Reads CalendarEntryValue.decode encoded value := by
  intro rest
  cases value with
  | date day =>
      obtain ⟨octet, _, rfl⟩ := encodeContextDate_eq_ok h
      have hread : decodeContextDate _ 0 = _ := reads_contextDate hcarried h rest
      unfold CalendarEntryValue.decode
      simp only [List.append_assoc] at hread ⊢
      rw [decodeTag_encodeContextTag 0 (by decide)]
      simp only [Checked.ofExcept, ok_bind]
      rw [if_neg (not_not_intro rfl), hread]
      rfl
  | dateRange range =>
      simp only [CalendarEntryValue.encode, bind_eq_ok, pure_eq_ok] at h
      obtain ⟨octets, hoctets, rfl⟩ := h
      have h₁ := (left_zero (encodeOpeningTag 1 ++ (octets ++ (encodeClosingTag 1 ++ rest)))).next
      have h₂ := h₁.next
      rw [Nat.zero_add] at h₁ h₂
      unfold CalendarEntryValue.decode
      simp only [List.append_assoc]
      rw [decodeTag_encodeOpeningTag]
      simp only [Checked.ofExcept, ok_bind, bind_eq_ok, pure_eq_ok]
      refine ⟨_, readAt_of_left h₁ (DateRangeValue.reads hoctets _), _, closeAt_of_left h₂, ?_⟩
      simp only [List.length_append, Nat.add_assoc]
  | weekNDay week =>
      cases h
      have hrange := range?_append (encodeContextTag 2 3)
        [week.month, week.weekOfMonth, week.dayOfWeek] rest
      unfold CalendarEntryValue.decode
      rw [List.append_assoc, decodeTag_encodeContextTag 2 (by decide)]
      simp only [Checked.ofExcept, ok_bind]
      rw [if_neg (not_not_intro rfl)]
      show (Checked.orFail _ (range? _ _
        (_ + [week.month, week.weekOfMonth, week.dayOfWeek].length)) >>= _) = _
      rw [hrange]
      simp only [orFail, ok_bind, Octets.index, List.getElem?_cons_zero, List.getElem?_cons_succ,
        List.length_append]
      rfl

/-- Only an entry that is carried is read back. -/
theorem CalendarEntryValue.decode_carried (data : Bytes) :
    Ensures (CalendarEntryValue.decode data) (fun decoded => decoded.1.carried = true) := by
  unfold CalendarEntryValue.decode
  refine ensures_bind ?_
  rintro ⟨tag, length, header⟩
  simp only
  split
  · refine ensures_guard ((decodeContextDate_carried data 0).bind ?_)
    rintro ⟨day, consumed⟩ hday
    exact ensures_ok hday
  · refine ensures_bind (fun _ => ensures_bind (fun _ => ensures_ok rfl))
  · refine ensures_guard (ensures_bind (fun _ => ensures_bind (fun _ => ensures_bind (fun _ =>
      ensures_bind (fun _ => ensures_ok rfl)))))
  · exact ensures_fail _

theorem SpecialEventPeriod.reads {value : SpecialEventPeriod} {encoded : Bytes}
    (hcarried : value.carried = true) (h : value.encode = .ok encoded) :
    Reads SpecialEventPeriod.decode encoded value := by
  intro rest
  cases value with
  | calendarEntry entry =>
      simp only [SpecialEventPeriod.encode, bind_eq_ok, pure_eq_ok] at h
      obtain ⟨octets, hoctets, rfl⟩ := h
      have h₁ := (left_zero (encodeOpeningTag 0 ++ (octets ++ (encodeClosingTag 0 ++ rest)))).next
      have h₂ := h₁.next
      rw [Nat.zero_add] at h₁ h₂
      unfold SpecialEventPeriod.decode
      simp only [List.append_assoc]
      rw [decodeTag_encodeOpeningTag]
      simp only [Checked.ofExcept, ok_bind, bind_eq_ok, pure_eq_ok]
      refine ⟨_, readAt_of_left h₁ (CalendarEntryValue.reads hcarried hoctets _),
        _, closeAt_of_left h₂, ?_⟩
      simp only [List.length_append, Nat.add_assoc]
  | calendarReference calendar =>
      have hread : decodeContextObjectId (encoded ++ rest) 1 = .ok (calendar, encoded.length) :=
        reads_contextObjectId h rest
      have htag : ∃ header, decodeTag (encoded ++ rest) = .ok (.context 1, 4, header) := by
        simp only [SpecialEventPeriod.encode, encodeContextObjectId, bind_eq_ok, pure_eq_ok] at h
        obtain ⟨number, _, rfl⟩ := h
        rw [List.append_assoc, decodeTag_encodeContextTag 1 (by decide)]
        exact ⟨_, rfl⟩
      obtain ⟨header, htag⟩ := htag
      unfold SpecialEventPeriod.decode
      rw [htag]
      simp only [Checked.ofExcept, ok_bind]
      rw [if_neg (not_not_intro rfl), hread]
      rfl

theorem SpecialEventPeriod.decode_carried (data : Bytes) :
    Ensures (SpecialEventPeriod.decode data) (fun decoded => decoded.1.carried = true) := by
  unfold SpecialEventPeriod.decode
  refine ensures_bind ?_
  rintro ⟨tag, length, header⟩
  simp only
  split
  · refine Ensures.bind (P := fun decoded => decoded.1.carried = true) ?_ ?_
    · refine ensures_bind (fun _ => (CalendarEntryValue.decode_carried _).bind ?_)
      rintro ⟨entry, consumed⟩ hentry
      exact ensures_ok hentry
    · rintro ⟨entry, consumed⟩ hentry
      exact ensures_bind (fun _ => ensures_ok hentry)
  · exact ensures_guard (ensures_bind (fun _ => ensures_ok rfl))
  · exact ensures_fail _

/-! ## §6. Scheduled values -/

/-- What is scheduled are primitive values. -/
def allPrimitive (timeValues : List (TimeValueValue PropertyValue)) : Prop :=
  ∀ timeValue ∈ timeValues, Element.any.holds timeValue.value = true

section TimeValues

variable {tag : UInt8} {time : TimeValue} {value : PropertyValue} {octets rest : Bytes}

theorem encodeTime_tagged (time : TimeValue) : Tagged .time (encodeTime time) := by
  obtain ⟨hour, minute, second, hundredths⟩ := time
  exact ⟨_, _, rfl⟩

theorem reads_timeValue (hprimitive : Element.any.holds value = true)
    (hmeasured : measured value = true) (h : encodePropertyValue value = .ok octets) :
    Reads decodeTimeValue (encodeTime time ++ octets) ⟨time, value⟩ := by
  intro rest
  have h₀ := left_zero (encodeTime time ++ (octets ++ rest))
  have h₁ := h₀.next
  rw [List.append_assoc]
  unfold decodeTimeValue
  simp only [bind_eq_ok, pure_eq_ok]
  refine ⟨_, readSelected_of_left h₀ (reads_timeValueOf _) rfl,
    _, readAt_of_left h₁ (reads_primitive hprimitive hmeasured h _), ?_⟩
  simp only [List.length_append, Nat.zero_add]

/-- Only a value whose length its tag can say is read back. -/
theorem measured_of_timeValue {consumed : Nat} (hprimitive : Element.any.holds value = true)
    (h : encodePropertyValue value = .ok octets)
    (hread : decodeTimeValue (encodeTime time ++ octets ++ rest) = .ok (⟨time, value⟩, consumed)) :
    measured value = true := by
  have h₀ := left_zero (encodeTime time ++ (octets ++ rest))
  have h₁ := h₀.next
  rw [List.append_assoc] at hread
  have htime : readSelected asTime _ 0 = .ok (time, 0 + (encodeTime time).length) :=
    readSelected_of_left h₀ (reads_timeValueOf time) rfl
  unfold decodeTimeValue at hread
  simp only [htime, ok_bind, bind_eq_ok, pure_eq_ok] at hread
  obtain ⟨⟨found, next⟩, hfound, hsame⟩ := hread
  cases hsame
  obtain ⟨length, hdecode, _⟩ := (readAt_eq_ok_of_left h₁).mp hfound
  exact measured_of_read hprimitive h hdecode

/-- **Scheduled values are read back up to the closing tag.** -/
theorem reads_timeValues : ∀ {timeValues : List (TimeValueValue PropertyValue)} {encoded : Bytes},
    allPrimitive timeValues → allScheduledMeasured timeValues = true →
    encodeTimeValues timeValues = .ok encoded → isClosingTag rest tag = true →
      decodeTimeValues tag (encoded ++ rest) = .ok (timeValues, encoded.length)
  | [], encoded, _, _, h, hrest => by
      cases h
      exact readAll_stop decodeTimeValue_takes hrest
  | ⟨time, value⟩ :: others, encoded, hprimitive, hmeasured, h, hrest => by
      simp only [encodeTimeValues, bind_eq_ok, pure_eq_ok] at h
      obtain ⟨octets, hoctets, more, hmore, rfl⟩ := h
      obtain ⟨hvalue, hothers⟩ := List.forall_mem_cons.mp hprimitive
      rw [allScheduledMeasured, Bool.and_eq_true] at hmeasured
      rw [List.append_assoc (encodeTime time ++ octets), List.length_append]
      refine readAll_cons decodeTimeValue_takes ?_ (reads_timeValue hvalue hmeasured.1 hoctets _)
        (reads_timeValues hothers hmeasured.2 hmore hrest)
      rw [List.append_assoc]
      exact isClosingTag_tagged (encodeTime_tagged time) (by decide)

/-- And only if all of them are of a length their tags can say. -/
theorem allScheduledMeasured_of_read :
    ∀ {timeValues : List (TimeValueValue PropertyValue)} {encoded : Bytes} {consumed : Nat},
    allPrimitive timeValues → encodeTimeValues timeValues = .ok encoded →
    decodeTimeValues tag (encoded ++ rest) = .ok (timeValues, consumed) →
      allScheduledMeasured timeValues = true
  | [], _, _, _, _, _ => rfl
  | ⟨time, value⟩ :: others, encoded, consumed, hprimitive, h, hread => by
      simp only [encodeTimeValues, bind_eq_ok, pure_eq_ok] at h
      obtain ⟨octets, hoctets, more, hmore, rfl⟩ := h
      obtain ⟨hvalue, hothers⟩ := List.forall_mem_cons.mp hprimitive
      rw [List.append_assoc (encodeTime time ++ octets)] at hread
      obtain ⟨_, length, left, hfirst, hleft, _⟩ := readAll_eq_cons decodeTimeValue_takes hread
      have hmeasured := measured_of_timeValue hvalue hoctets hfirst
      rw [reads_timeValue hvalue hmeasured hoctets] at hfirst
      cases hfirst
      rw [List.drop_left] at hleft
      rw [allScheduledMeasured, hmeasured, allScheduledMeasured_of_read hothers hmore hleft]
      rfl

end TimeValues

theorem encode_dailySchedule {timeValues : List (TimeValueValue PropertyValue)} {encoded : Bytes}
    (h : encodePropertyValue (.dailySchedule ⟨timeValues⟩) = .ok encoded) :
    ∃ octets, encodeTimeValues timeValues = .ok octets
      ∧ encoded = encodeOpeningTag 0 ++ octets ++ encodeClosingTag 0 := by
  simp only [encodePropertyValue, bind_eq_ok, pure_eq_ok] at h
  obtain ⟨octets, hoctets, rfl⟩ := h
  exact ⟨octets, hoctets, rfl⟩

section Scheduled

variable {timeValues : List (TimeValueValue PropertyValue)} {encoded : Bytes}

theorem DailyScheduleValue.reads (hprimitive : allPrimitive timeValues)
    (hmeasured : allScheduledMeasured timeValues = true)
    (h : encodePropertyValue (.dailySchedule ⟨timeValues⟩) = .ok encoded) :
    Reads DailyScheduleValue.decode encoded ⟨timeValues⟩ := by
  obtain ⟨octets, hoctets, rfl⟩ := encode_dailySchedule h
  intro rest
  simp only [List.append_assoc]
  have h₀ := left_zero (encodeOpeningTag 0 ++ (octets ++ (encodeClosingTag 0 ++ rest)))
  have h₁ := h₀.next
  have h₂ := h₁.next
  unfold DailyScheduleValue.decode
  simp only [bind_eq_ok, pure_eq_ok]
  refine ⟨_, openAt_of_left h₀,
    _, readAt_of_left h₁ (reads_timeValues hprimitive hmeasured hoctets isClosingTag_closing),
    _, closeAt_of_left h₂, ?_⟩
  simp only [List.length_append, Nat.zero_add, Nat.add_assoc]

theorem dailySchedule_measured_of_read {rest : Bytes} {consumed : Nat}
    (hprimitive : allPrimitive timeValues)
    (h : encodePropertyValue (.dailySchedule ⟨timeValues⟩) = .ok encoded)
    (hread : DailyScheduleValue.decode (encoded ++ rest) = .ok (⟨timeValues⟩, consumed)) :
    allScheduledMeasured timeValues = true := by
  obtain ⟨octets, hoctets, rfl⟩ := encode_dailySchedule h
  simp only [List.append_assoc] at hread
  have h₀ := left_zero (encodeOpeningTag 0 ++ (octets ++ (encodeClosingTag 0 ++ rest)))
  have h₁ := h₀.next
  unfold DailyScheduleValue.decode at hread
  simp only [openAt_of_left h₀, ok_bind, bind_eq_ok, pure_eq_ok] at hread
  obtain ⟨⟨found, next⟩, hfound, _, _, hsame⟩ := hread
  cases hsame
  obtain ⟨length, hdecode, _⟩ := (readAt_eq_ok_of_left h₁).mp hfound
  exact allScheduledMeasured_of_read hprimitive hoctets hdecode

variable {period : SpecialEventPeriod} {priority : UInt32}

theorem encode_specialEvent
    (h : encodePropertyValue (.specialEvent ⟨period, timeValues, priority⟩) = .ok encoded) :
    ∃ head octets, period.encode = .ok head ∧ encodeTimeValues timeValues = .ok octets
      ∧ encoded = head ++ encodeOpeningTag 2 ++ octets ++ encodeClosingTag 2
        ++ encodeContextUnsigned priority 3 := by
  simp only [encodePropertyValue, bind_eq_ok, pure_eq_ok] at h
  obtain ⟨head, hhead, octets, hoctets, rfl⟩ := h
  exact ⟨head, octets, hhead, hoctets, rfl⟩

theorem SpecialEventValue.reads (hcarried : period.carried = true)
    (hprimitive : allPrimitive timeValues) (hmeasured : allScheduledMeasured timeValues = true)
    (h : encodePropertyValue (.specialEvent ⟨period, timeValues, priority⟩) = .ok encoded) :
    Reads SpecialEventValue.decode encoded ⟨period, timeValues, priority⟩ := by
  obtain ⟨head, octets, hhead, hoctets, rfl⟩ := encode_specialEvent h
  intro rest
  simp only [List.append_assoc]
  have h₁ := (left_zero (head ++ (encodeOpeningTag 2 ++ (octets ++ (encodeClosingTag 2
    ++ (encodeContextUnsigned priority 3 ++ rest)))))).next
  have h₂ := h₁.next
  have h₃ := h₂.next
  have h₄ := h₃.next
  rw [Nat.zero_add] at h₁ h₂ h₃ h₄
  unfold SpecialEventValue.decode
  simp only [bind_eq_ok, pure_eq_ok]
  refine ⟨_, SpecialEventPeriod.reads hcarried hhead _, _, openAt_of_left h₁,
    _, readAt_of_left h₂ (reads_timeValues hprimitive hmeasured hoctets isClosingTag_closing),
    _, closeAt_of_left h₃, _, readAt_of_left h₄ (reads_contextUnsigned priority 3 _), ?_⟩
  simp only [List.length_append, Nat.add_assoc]

theorem specialEvent_carried_of_read {rest : Bytes} {consumed : Nat}
    (hprimitive : allPrimitive timeValues)
    (h : encodePropertyValue (.specialEvent ⟨period, timeValues, priority⟩) = .ok encoded)
    (hread : SpecialEventValue.decode (encoded ++ rest)
      = .ok (⟨period, timeValues, priority⟩, consumed)) :
    period.carried = true ∧ allScheduledMeasured timeValues = true := by
  obtain ⟨head, octets, hhead, hoctets, rfl⟩ := encode_specialEvent h
  simp only [List.append_assoc] at hread
  have h₁ := (left_zero (head ++ (encodeOpeningTag 2 ++ (octets ++ (encodeClosingTag 2
    ++ (encodeContextUnsigned priority 3 ++ rest)))))).next
  have h₂ := h₁.next
  rw [Nat.zero_add] at h₁ h₂
  unfold SpecialEventValue.decode at hread
  simp only [bind_eq_ok, pure_eq_ok] at hread
  obtain ⟨⟨found, next⟩, hperiod, opened, hopened, ⟨values, after⟩, hvalues, _, _, _, _, hsame⟩ :=
    hread
  cases hsame
  -- The period is carried, so it ends where it was written to end.
  have hcarried : found.carried = true := SpecialEventPeriod.decode_carried _ _ hperiod
  rw [SpecialEventPeriod.reads hcarried hhead] at hperiod
  cases hperiod
  rw [openAt_of_left h₁] at hopened
  cases hopened
  obtain ⟨length, hdecode, _⟩ := (readAt_eq_ok_of_left h₂).mp hvalues
  exact ⟨hcarried, allScheduledMeasured_of_read hprimitive hoctets hdecode⟩

end Scheduled

/-! ## §7. Strings that are read back -/

section Short

variable {data : Bytes} {consumed : Nat}

/-- A string is of a length its tag can say. -/
def short : PropertyValue → Bool
  | .octetString value => octetsFit value
  | .bitString bits => bitsFit bits
  | _ => true

theorem ensures_wrap {α : Type} {wrap : α → PropertyValue} {x : Decoded (α × Nat)}
    (h : Ensures x (fun decoded => short (wrap decoded.1) = true)) :
    Ensures (Prod.map wrap id <$> x) (fun decoded => short decoded.1 = true) :=
  Ensures.map h

theorem decodePropertyValue_short (data : Bytes) :
    Ensures (decodePropertyValue data) (fun decoded => short decoded.1 = true) := by
  unfold decodePropertyValue
  refine ensures_guard (ensures_bind ?_)
  rintro ⟨tag, length, consumed⟩
  cases tag with
  | null => exact ensures_ok rfl
  | octetString =>
      exact ensures_wrap ((decodeOctetString_short data).mono (fun _ h => decide_eq_true h))
  | bitString =>
      exact ensures_wrap ((decodeBitString_short data).mono (fun _ h => decide_eq_true h))
  | reserved13 => exact ensures_bind (fun _ => ensures_ok rfl)
  | reserved14 => exact ensures_bind (fun _ => ensures_ok rfl)
  | reserved15 => exact ensures_bind (fun _ => ensures_ok rfl)
  | _ => exact ensures_wrap ((ensures_true _).mono (fun _ _ => rfl))

theorem readSelected_ensures {α : Type} {select : PropertyValue → Except EncodingError α}
    {P : α → Prop} (hselect : ∀ value, short value = true → ∀ a, select value = .ok a → P a) :
    Ensures (readSelected select data consumed) (fun decoded => P decoded.1) := by
  unfold readSelected readAt
  refine Ensures.bind (P := fun decoded => short decoded.1 = true) ?_ ?_
  · refine ensures_bind (fun _ => (decodePropertyValue_short _).bind ?_)
    rintro ⟨value, length⟩ hshort
    exact ensures_ok hshort
  · rintro ⟨value, next⟩ hshort
    exact (ensures_ofExcept (hselect value hshort)).bind (fun _ h => ensures_ok h)

theorem asOctetString_fits {error : EncodingError} : ∀ value, short value = true →
    ∀ octets, asOctetString error value = .ok octets → octetsFit octets = true := by
  intro value hshort octets h
  cases value with
  | octetString found =>
      cases h
      exact hshort
  | _ => cases h

theorem asBitString_fits : ∀ value, short value = true →
    ∀ bits, asBitString value = .ok bits → bitsFit bits = true := by
  intro value hshort bits h
  cases value with
  | bitString found =>
      cases h
      exact hshort
  | _ => cases h

theorem AddressBindingValue.decode_measured (data : Bytes) :
    Ensures (AddressBindingValue.decode data)
      (fun decoded => octetsFit decoded.1.address.macAddress = true) := by
  refine ensures_bind (fun _ => ensures_bind (fun _ => ?_))
  refine (readSelected_ensures asOctetString_fits).bind ?_
  rintro ⟨mac, next⟩ hmac
  exact ensures_ok hmac

theorem BacnetAddress.decodeAt_measured {network mac : EncodingError} :
    Ensures (BacnetAddress.decodeAt network mac data consumed)
      (fun decoded => octetsFit decoded.1.macAddress = true) := by
  refine ensures_bind (fun _ => ensures_bind (fun _ => ?_))
  refine (readSelected_ensures asOctetString_fits).bind ?_
  rintro ⟨address, next⟩ haddress
  exact ensures_bind (fun _ => ensures_ok haddress)

theorem Recipient.decode_measured (data : Bytes) :
    Ensures (Recipient.decode data) (fun decoded => decoded.1.measured = true) := by
  unfold Recipient.decode
  split
  · exact ensures_bind (fun _ => ensures_ok rfl)
  · refine BacnetAddress.decodeAt_measured.bind ?_
    rintro ⟨mac, next⟩ hmac
    exact ensures_ok hmac

theorem RecipientProcess.decodeRecipient_measured (data : Bytes) :
    Ensures (RecipientProcess.decodeRecipient data) (fun decoded => decoded.1.measured = true) := by
  unfold RecipientProcess.decodeRecipient
  split
  · exact ensures_bind (fun _ => ensures_ok rfl)
  · refine BacnetAddress.decodeAt_measured.bind ?_
    rintro ⟨mac, next⟩ hmac
    exact ensures_ok hmac

/-- What the field decoder ensures of a field. -/
theorem readAt_ensures {α : Type} {decode : Bytes → Decoded (α × Nat)} {P : α → Prop}
    (hdecode : ∀ rest, Ensures (decode rest) (fun decoded => P decoded.1)) :
    Ensures (readAt decode data consumed) (fun decoded => P decoded.1) := by
  refine ensures_bind (fun rest => (hdecode rest).bind ?_)
  rintro ⟨value, length⟩ hvalue
  exact ensures_ok hvalue

theorem RecipientProcess.decode_measured (tag : UInt8) (data : Bytes) :
    Ensures (RecipientProcess.decode tag data)
      (fun decoded => decoded.1.recipient.measured = true) := by
  refine ensures_bind (fun _ => ensures_bind (fun _ => ?_))
  refine (readAt_ensures (P := fun found => found.measured = true) decodeRecipient_measured).bind ?_
  rintro ⟨recipient, next⟩ hrecipient
  exact ensures_bind (fun _ => ensures_bind (fun _ => ensures_bind (fun _ => ensures_ok hrecipient)))

theorem CovSubscriptionValue.decode_measured (data : Bytes) :
    Ensures (CovSubscriptionValue.decode data)
      (fun decoded => decoded.1.recipient.recipient.measured = true) := by
  refine (RecipientProcess.decode_measured 0 data).bind ?_
  rintro ⟨recipient, next⟩ hrecipient
  exact ensures_bind (fun _ => ensures_bind (fun _ => ensures_bind (fun _ => ensures_bind (fun _ =>
    ensures_ok hrecipient))))

theorem DestinationValue.decode_measured (data : Bytes) :
    Ensures (DestinationValue.decode data) (fun decoded => decoded.1.measured = true) := by
  refine (readSelected_ensures asBitString_fits).bind ?_
  rintro ⟨validDays, _⟩ hdays
  refine ensures_bind (fun _ => ensures_bind (fun _ => ?_))
  refine (readAt_ensures (P := fun found => found.measured = true) Recipient.decode_measured).bind ?_
  rintro ⟨recipient, _⟩ hrecipient
  refine ensures_bind (fun _ => ensures_bind (fun _ => ?_))
  refine (readSelected_ensures asBitString_fits).bind ?_
  rintro ⟨transitions, _⟩ htransitions
  refine ensures_ok ?_
  simp only [DestinationValue.measured, Bool.and_eq_true]
  exact ⟨⟨hdays, hrecipient⟩, htransitions⟩

end Short

/-! ## §8. Runs of values -/

/-- What a value schedules. -/
def scheduled : PropertyValue → List (TimeValueValue PropertyValue)
  | .dailySchedule ⟨timeValues⟩ => timeValues
  | .specialEvent ⟨_, timeValues, _⟩ => timeValues
  | _ => []

/-- A value that its encoding carries: no string is longer than its tag can say, and no context
date is of the year 2155. -/
def carried : PropertyValue → Bool
  | .calendarEntry entry => entry.carried
  | .specialEvent ⟨period, timeValues, _⟩ => period.carried && allScheduledMeasured timeValues
  | value => measured value

namespace Element

variable {element : Element} {value : PropertyValue} {encoded rest : Bytes}

/-- What comes after a value is no optional field of it. -/
def Ends (self : Element) (rest : Bytes) : Prop :=
  match self with
  | objectPropertyReference => contextTagMatches rest 2 none = false
  | covSubscription => contextTagMatches rest 4 (some 4) = false
  | _ => True

theorem ends_nil (element : Element) : element.Ends [] := by
  cases element <;> first | rfl | trivial

/-- Nor is another value. -/
theorem ends_encoded (hholds : element.holds value = true)
    (h : encodePropertyValue value = .ok encoded) : element.Ends (encoded ++ rest) := by
  cases element with
  | objectPropertyReference =>
      cases value with
      | objectPropertyReference reference =>
          simp only [encodePropertyValue, ObjectPropertyReference.encode, encodeContextObjectId,
            bind_eq_ok, pure_eq_ok] at h
          obtain ⟨object, ⟨number, _, rfl⟩, rfl⟩ := h
          simp only [Ends, List.append_assoc]
          rw [contextTagMatches_context (by decide)]
          rfl
      | _ => cases hholds
  | covSubscription =>
      cases value with
      | covSubscription subscription =>
          simp only [encodePropertyValue, CovSubscriptionValue.encode, RecipientProcess.encode,
            bind_eq_ok, pure_eq_ok] at h
          obtain ⟨process, ⟨recipient, _, rfl⟩, monitored, _, rfl⟩ := h
          simp only [Ends, List.append_assoc]
          exact contextTagMatches_opening
      | _ => cases hholds
  | _ => trivial

/-- **A value is read back before what is no field of it.** -/
theorem reads (hconstructed : element ≠ any) (hholds : element.holds value = true)
    (hprimitive : allPrimitive (scheduled value)) (hcarried : carried value = true)
    (h : encodePropertyValue value = .ok encoded) (hrest : element.Ends rest) :
    element.decode (encoded ++ rest) = .ok (value, encoded.length) := by
  have hwrap : ∀ {α : Type} {wrap : α → PropertyValue} {x : Decoded (α × Nat)} {a : α},
      x = .ok (a, encoded.length) →
        Prod.map wrap id <$> x = .ok (wrap a, encoded.length) := by
    intro α wrap x a hx
    rw [hx]
    rfl
  -- A value the element does not hold is ruled out in each case.
  cases element with
  | any => exact absurd rfl hconstructed
  | covSubscription =>
      cases value with
      | covSubscription value => exact hwrap (CovSubscriptionValue.reads hcarried h hrest)
      | _ => cases hholds
  | addressBinding =>
      cases value with
      | addressBinding value => exact hwrap (AddressBindingValue.reads hcarried h rest)
      | _ => cases hholds
  | timestamp =>
      cases value with
      | timestamp value => exact hwrap (TimestampValue.reads h rest)
      | _ => cases hholds
  | objectPropertyReference =>
      cases value with
      | objectPropertyReference value => exact hwrap (ObjectPropertyReference.reads h hrest)
      | _ => cases hholds
  | destination =>
      cases value with
      | destination value => exact hwrap (DestinationValue.reads hcarried h rest)
      | _ => cases hholds
  | dailySchedule =>
      cases value with
      | dailySchedule value => exact hwrap (DailyScheduleValue.reads hprimitive hcarried h rest)
      | _ => cases hholds
  | calendarEntry =>
      cases value with
      | calendarEntry value => exact hwrap (CalendarEntryValue.reads hcarried h rest)
      | _ => cases hholds
  | specialEvent =>
      cases value with
      | specialEvent value =>
          obtain ⟨hperiod, hmeasured⟩ := Bool.and_eq_true_iff.mp hcarried
          exact hwrap (SpecialEventValue.reads hperiod hprimitive hmeasured h rest)
      | _ => cases hholds
  | dateRange =>
      cases value with
      | dateRange value => exact hwrap (DateRangeValue.reads h rest)
      | _ => cases hholds
  | valueSource =>
      cases value with
      | valueSource value =>
          cases h
          exact hwrap (ValueSourceValue.reads value rest)
      | _ => cases hholds

/-- **Only a value that its encoding carries is read back.** -/
theorem carried_of_read {consumed : Nat} (hconstructed : element ≠ any)
    (hholds : element.holds value = true) (hprimitive : allPrimitive (scheduled value))
    (h : encodePropertyValue value = .ok encoded)
    (hread : element.decode (encoded ++ rest) = .ok (value, consumed)) : carried value = true := by
  cases element with
  | any => exact absurd rfl hconstructed
  | covSubscription =>
      cases value with
      | covSubscription value =>
          obtain ⟨decoded, hdecoded, hsame⟩ := map_eq_ok.mp hread
          cases hsame
          exact CovSubscriptionValue.decode_measured _ _ hdecoded
      | _ => cases hholds
  | addressBinding =>
      cases value with
      | addressBinding value =>
          obtain ⟨decoded, hdecoded, hsame⟩ := map_eq_ok.mp hread
          cases hsame
          exact AddressBindingValue.decode_measured _ _ hdecoded
      | _ => cases hholds
  | destination =>
      cases value with
      | destination value =>
          obtain ⟨decoded, hdecoded, hsame⟩ := map_eq_ok.mp hread
          cases hsame
          exact DestinationValue.decode_measured _ _ hdecoded
      | _ => cases hholds
  | dailySchedule =>
      cases value with
      | dailySchedule value =>
          obtain ⟨decoded, hdecoded, hsame⟩ := map_eq_ok.mp hread
          cases hsame
          exact dailySchedule_measured_of_read hprimitive h hdecoded
      | _ => cases hholds
  | calendarEntry =>
      cases value with
      | calendarEntry value =>
          obtain ⟨decoded, hdecoded, hsame⟩ := map_eq_ok.mp hread
          cases hsame
          exact CalendarEntryValue.decode_carried _ _ hdecoded
      | _ => cases hholds
  | specialEvent =>
      cases value with
      | specialEvent value =>
          obtain ⟨decoded, hdecoded, hsame⟩ := map_eq_ok.mp hread
          cases hsame
          exact Bool.and_eq_true_iff.mpr (specialEvent_carried_of_read hprimitive h hdecoded)
      | _ => cases hholds
  -- These four hold no string, so there is nothing to measure.
  | timestamp | objectPropertyReference | dateRange | valueSource =>
      cases value <;> first | rfl | cases hholds

/-! ### One after another -/

theorem decodeAll_eq_ok {data : Bytes} {values : List PropertyValue} :
    element.decodeAll data = .ok values
      ↔ ∃ total, readAll List.isEmpty element.decodeSome data = .ok (values, total) := by
  unfold decodeAll
  rw [map_eq_ok]
  constructor
  · rintro ⟨⟨found, total⟩, hread, rfl⟩
    exact ⟨total, hread⟩
  · rintro ⟨total, hread⟩
    exact ⟨_, hread, rfl⟩

/-- What an encoded run starts with is no field of the value before it. -/
theorem ends_encodeValues {values : List PropertyValue}
    (hvalues : ∀ value ∈ values, element.holds value = true)
    (h : encodeValues values = .ok encoded) : element.Ends encoded := by
  cases values with
  | nil =>
      cases h
      exact element.ends_nil
  | cons value values =>
      obtain ⟨octets, more, hoctets, _, rfl⟩ := encodeValues_cons h
      exact ends_encoded (hvalues value List.mem_cons_self) hoctets

/-- **A run of values is read back if its encoding carries all of them.** -/
theorem readAll_encodeValues (hconstructed : element ≠ any) :
    ∀ {values : List PropertyValue} {encoded : Bytes},
    (∀ value ∈ values, element.holds value = true ∧ allPrimitive (scheduled value)) →
    (∀ value ∈ values, carried value = true) → encodeValues values = .ok encoded →
      ∃ total, readAll List.isEmpty element.decodeSome encoded = .ok (values, total)
  | [], encoded, _, _, h => by
      cases h
      exact ⟨0, readAll_stop element.decodeSome_takes rfl⟩
  | value :: values, encoded, hvalues, hcarried, h => by
      obtain ⟨octets, more, hoctets, hmore, rfl⟩ := encodeValues_cons h
      obtain ⟨⟨hholds, hprimitive⟩, hothers⟩ := List.forall_mem_cons.mp hvalues
      obtain ⟨hvalue, hrest⟩ := List.forall_mem_cons.mp hcarried
      obtain ⟨total, htotal⟩ := readAll_encodeValues hconstructed hothers hrest hmore
      have hread := reads hconstructed hholds hprimitive hvalue hoctets
        (ends_encodeValues (fun other hother => (hothers other hother).1) hmore)
      exact ⟨_, readAll_cons element.decodeSome_takes (isEmpty_of_takes element.decode_takes hread)
        ((element.decodeSome_eq _).trans hread) htotal⟩

/-- **And only then.** -/
theorem carried_of_readAll (hconstructed : element ≠ any) :
    ∀ {values : List PropertyValue} {encoded : Bytes} {total : Nat},
    (∀ value ∈ values, element.holds value = true ∧ allPrimitive (scheduled value)) →
    encodeValues values = .ok encoded →
    readAll List.isEmpty element.decodeSome encoded = .ok (values, total) →
      ∀ value ∈ values, carried value = true
  | [], _, _, _, _, _ => fun _ h => absurd h List.not_mem_nil
  | value :: values, encoded, total, hvalues, h, hread => by
      obtain ⟨octets, more, hoctets, hmore, rfl⟩ := encodeValues_cons h
      obtain ⟨⟨hholds, hprimitive⟩, hothers⟩ := List.forall_mem_cons.mp hvalues
      obtain ⟨_, length, left, hfirst, hleft, _⟩ := readAll_eq_cons element.decodeSome_takes hread
      rw [decodeSome_eq] at hfirst
      have hcarried := carried_of_read hconstructed hholds hprimitive hoctets hfirst
      -- So the first value ends where it was written to end, and the others come next.
      rw [reads hconstructed hholds hprimitive hcarried hoctets
        (ends_encodeValues (fun other hother => (hothers other hother).1) hmore)] at hfirst
      cases hfirst
      rw [List.drop_left] at hleft
      exact List.forall_mem_cons.mpr
        ⟨hcarried, carried_of_readAll hconstructed hothers hmore hleft⟩

end Element

/-- **A run of constructed values is read back exactly when its encoding carries all of them**: no
string is longer than its tag can say, and no context date is of the year 2155. -/
theorem constructed_roundTrip_iff {element : Element} (hconstructed : element ≠ .any)
    {values : List PropertyValue}
    (hvalues : ∀ value ∈ values, element.holds value = true ∧ allPrimitive (scheduled value))
    {encoded : Bytes} (h : encodeValues values = .ok encoded) :
    element.decodeAll encoded = .ok values ↔ ∀ value ∈ values, carried value = true := by
  rw [Element.decodeAll_eq_ok]
  constructor
  · rintro ⟨total, hread⟩
    exact Element.carried_of_readAll hconstructed hvalues h hread
  · intro hcarried
    exact Element.readAll_encodeValues hconstructed hvalues hcarried h

/-- Two references, the second with an array index: neither takes a part of the other. -/
theorem constructed_roundTrip_references :
    Element.objectPropertyReference.decodeAll
        [0x0C, 0, 128, 0, 1, 0x19, 85, 0x0C, 0, 128, 0, 2, 0x19, 87, 0x29, 3]
      = .ok [.objectPropertyReference ⟨⟨.analogValue, 1⟩, .presentValue, none⟩,
        .objectPropertyReference ⟨⟨.analogValue, 2⟩, .priorityArray, some 3⟩] :=
  (constructed_roundTrip_iff (by decide) (by simp [Element.holds, allPrimitive, scheduled])
    (by decide +kernel)).mpr (by decide)

/-- **A Date_List with a day of 2155**: its year octet is the one of the year nobody specified. -/
theorem year2155_misread :
    ¬(∀ (element : Element), element ≠ .any → ∀ (values : List PropertyValue),
      (∀ value ∈ values, element.holds value = true ∧ allPrimitive (scheduled value)) →
      ∀ encoded, encodeValues values = .ok encoded → element.decodeAll encoded = .ok values) := by
  intro h
  have hread := h .calendarEntry (by decide) [.calendarEntry (.date (2155, 1, 1, 1))]
    (by simp [Element.holds, allPrimitive, scheduled]) [0x0C, 255, 1, 1, 1] rfl
  obtain ⟨total, htotal⟩ := Element.decodeAll_eq_ok.mp hread
  have hcarried := Element.carried_of_readAll (by decide)
    (by simp [Element.holds, allPrimitive, scheduled]) rfl htotal
  exact absurd (hcarried _ List.mem_cons_self) (by decide)

end BacnetRs.Property
