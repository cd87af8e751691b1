/-
  BacnetRs.Service.Balance — where the values of a property end.

  The end of a bracket is found by keeping the tags that are open.  What opens
  and closes its own is balanced, whatever its tags are numbered, and the loop
  leaves it as it found it.  Every encoded value is balanced, but for octets
  nobody knows and strings whose tag cannot say their length.

    * `balanced_value`  — an encoded value is balanced.
    * `findConstructedValueEnd_balanced` — so its bracket closes where it ends.
-/
import BacnetRs.Property.ComplexCodec
import BacnetRs.Service.Values

namespace BacnetRs.Service

open BacnetRs.Encoding BacnetRs.Object BacnetRs.Property Checked Octets

/-! ## §1. The loop, one tag at a time -/

/-- The loop from `position` on, with rounds to spare. -/
def findFrom (data : Bytes) (position : Nat) (openTags : List UInt8) : Decoded Nat :=
  findEnd data (data.length + 1) position openTags

section Step

variable {data rest : Bytes} {position : Nat} {openTags : List UInt8}

theorem findFrom_of_step {next : Nat} {openTags' : List UInt8} (hposition : position < data.length)
    (hstep : findStep data position openTags = .ok (some (next, openTags'))) :
    findFrom data position openTags = findFrom data next openTags' := by
  obtain ⟨hnext, hwithin⟩ := (findStep_meets openTags hposition).ensures _ hstep _ rfl
  unfold findFrom
  rw [findEnd, if_pos hposition, hstep]
  exact (findEnd_succ data openTags' hwithin (by simp only at hnext; omega)).symm

/-- What is left at a position with something left is read there. -/
theorem lt_of_left {front : Bytes} (h : Left data position (front ++ rest))
    (hfront : 1 ≤ front.length) : position < data.length := by
  have hlength := h.length
  rw [List.length_append] at hlength
  omega

theorem findStep_of_left {tag : BACnetTag} {length header : Nat} (h : Left data position rest)
    (htag : decodeTag rest = .ok (tag, length, header)) :
    findStep data position openTags
      = match tag with
        | .application _ => do
            let (_, consumed) ← decodePropertyValue rest
            return some (position + consumed, openTags)
        | .opening tagNumber => .ok (some (position + header, tagNumber :: openTags))
        | .closing tagNumber =>
            match openTags with
            | [] => Checked.fail .invalidTag
            | last :: outer => do
                if last ≠ tagNumber then Checked.fail .invalidTag
                if outer.isEmpty then return none
                return some (position + header, outer)
        | .context _ => do
            if data.length < position + header + length then Checked.fail .bufferUnderflow
            return some (position + header + length, openTags) := by
  unfold findStep
  rw [h.dropFrom]
  simp only [ok_bind, htag, Checked.ofExcept]
  cases tag <;> rfl

/-- A tag that closes the last bracket ends the loop. -/
theorem findFrom_closed {tag : UInt8} {length : Nat} {closing : Bytes}
    (hclosing : IsTag closing (.closing tag) length) (h : Left data position (closing ++ rest)) :
    findFrom data position [tag] = .ok position := by
  unfold findFrom
  rw [findEnd, if_pos (lt_of_left h hclosing.length_pos), findStep_of_left h (hclosing.decodes rest)]
  simp only [ne_eq, not_true_eq_false, if_false, List.isEmpty_nil, if_true]
  rfl

end Step

/-! ## §2. Balanced octets -/

/-- The loop crosses `encoded` and leaves the open tags as they were. -/
def Balanced (encoded : Bytes) : Prop :=
  ∀ (data rest : Bytes) (position : Nat) (openTags : List UInt8),
    Left data position (encoded ++ rest) → openTags ≠ [] →
      findFrom data position openTags = findFrom data (position + encoded.length) openTags

theorem balanced_nil : Balanced [] := by
  intro data rest position openTags _ _
  rfl

theorem Balanced.append {front back : Bytes} (hfront : Balanced front) (hback : Balanced back) :
    Balanced (front ++ back) := by
  intro data rest position openTags h hopen
  rw [List.append_assoc] at h
  rw [hfront _ _ _ _ h hopen, hback _ _ _ _ h.next hopen, List.length_append, Nat.add_assoc]

/-- An application-tagged value takes what it takes. -/
theorem balanced_application {encoded : Bytes} {value : PropertyValue}
    (hread : Reads decodePropertyValue encoded value) : Balanced encoded := by
  intro data rest position openTags h _
  have htakes : 1 ≤ encoded.length := ((decodePropertyValue_takes _).2 _ (hread rest)).1
  obtain ⟨⟨tag, length, header⟩, hheader⟩ := decodeApplicationTag_of_value (hread rest)
  apply findFrom_of_step (lt_of_left h htakes)
  rw [findStep_of_left h (decodeApplicationTag_eq_ok.mp hheader)]
  simp only [hread rest]
  rfl

/-- A context-tagged primitive takes what its tag says. -/
theorem balanced_field {number : UInt8} {length : Nat} {header content : Bytes}
    (hheader : IsTag header (.context number) length) (hlength : content.length = length) :
    Balanced (header ++ content) := by
  intro data rest position openTags h _
  have hwithin := h.length
  rw [List.append_assoc] at h
  apply findFrom_of_step (lt_of_left h hheader.length_pos)
  rw [findStep_of_left h (hheader.decodes _)]
  simp only [List.length_append] at hwithin ⊢
  rw [if_neg (by omega), Nat.add_assoc, hlength]
  rfl

theorem balanced_context (tag : UInt8) (length : Nat) {content : Bytes}
    (hlength : length = content.length) (hbound : length < 2 ^ 32) :
    Balanced (encodeContextTag tag length ++ content) :=
  balanced_field (isTag_encodeContextTag tag hbound) hlength.symm

/-- **What is between two tags of one number** keeps the brackets around it. -/
theorem Balanced.between {number : UInt8} {before after : Nat} {opening inner closing : Bytes}
    (hinner : Balanced inner) (hopening : IsTag opening (.opening number) before)
    (hclosing : IsTag closing (.closing number) after) :
    Balanced (opening ++ inner ++ closing) := by
  intro data rest position openTags h hopen
  simp only [List.append_assoc] at h
  calc findFrom data position openTags
      = findFrom data (position + opening.length) (number :: openTags) := by
        apply findFrom_of_step (lt_of_left h hopening.length_pos)
        rw [findStep_of_left h (hopening.decodes _)]
    _ = findFrom data (position + opening.length + inner.length) (number :: openTags) :=
        hinner _ _ _ _ h.next (List.cons_ne_nil _ _)
    _ = findFrom data (position + opening.length + inner.length + closing.length) openTags := by
        apply findFrom_of_step (lt_of_left h.next.next hclosing.length_pos)
        rw [findStep_of_left h.next.next (hclosing.decodes rest)]
        cases openTags with
        | nil => exact absurd rfl hopen
        | cons last outer =>
            simp only [ne_eq, not_true_eq_false, if_false, List.isEmpty_cons, Bool.false_eq_true]
            rfl
    _ = _ := by
        simp only [List.length_append, Nat.add_assoc]

theorem Balanced.brackets {inner : Bytes} (hinner : Balanced inner) (tag : UInt8) :
    Balanced (encodeOpeningTag tag ++ inner ++ encodeClosingTag tag) :=
  hinner.between (isTag_encodeOpeningTag tag) (isTag_encodeClosingTag tag)

/-- **A bracket closes where what is balanced in it ends.** -/
theorem findConstructedValueEnd_balanced {data value rest : Bytes} {position : Nat} {tag : UInt8}
    (hvalue : Balanced value) (h : Left data position (value ++ (encodeClosingTag tag ++ rest))) :
    findConstructedValueEnd data position tag = .ok (position + value.length) := by
  show findFrom data position [tag] = _
  rw [hvalue _ _ _ _ h (List.cons_ne_nil _ _),
    findFrom_closed (isTag_encodeClosingTag tag) h.next]

/-! ## §3. Fields -/

section Fields

variable {encoded : Bytes}

theorem balanced_contextUnsigned (value : UInt32) (tag : UInt8) :
    Balanced (encodeContextUnsigned value tag) := by
  obtain ⟨width, _, hwidth, _, hoctets⟩ := unsignedOctets_eq value
  apply balanced_context tag _ rfl
  rw [hoctets, length_beOctets]
  omega

theorem balanced_contextObjectId {id : ObjectIdentifier} {tag : UInt8}
    (h : encodeContextObjectId id tag = .ok encoded) : Balanced encoded := by
  simp only [encodeContextObjectId, bind_eq_ok, pure_eq_ok] at h
  obtain ⟨number, _, rfl⟩ := h
  exact balanced_context tag 4 (length_beOctets 4 _).symm (by decide)

theorem balanced_contextDate {tag : UInt8} {date : DateValue}
    (h : encodeContextDate tag date = .ok encoded) : Balanced encoded := by
  obtain ⟨year, month, day, weekday⟩ := date
  simp only [encodeContextDate, bind_eq_ok, pure_eq_ok] at h
  obtain ⟨octet, _, rfl⟩ := h
  exact balanced_context tag 4 rfl (by decide)

theorem balanced_bacnetAddress {address : BacnetAddress}
    (hfits : octetsFit address.macAddress = true) : Balanced address.encode := by
  unfold BacnetAddress.encode
  rw [List.append_assoc (encodeOpeningTag 1)]
  exact ((balanced_application (reads_unsignedValue _)).append
    (balanced_application (reads_octetStringValue hfits))).brackets 1

theorem balanced_recipient {recipient : Recipient} (hfits : recipient.measured = true)
    (h : recipient.encode = .ok encoded) : Balanced encoded := by
  cases recipient with
  | device id => exact balanced_contextObjectId h
  | address mac =>
      cases h
      exact balanced_bacnetAddress hfits

theorem balanced_reference {reference : ObjectPropertyReference}
    (h : reference.encode = .ok encoded) : Balanced encoded := by
  simp only [ObjectPropertyReference.encode, bind_eq_ok, pure_eq_ok] at h
  obtain ⟨object, hobject, rfl⟩ := h
  apply ((balanced_contextObjectId hobject).append (balanced_contextUnsigned _ 1)).append
  cases reference.arrayIndex with
  | none => exact balanced_nil
  | some index => exact balanced_contextUnsigned index 2

theorem balanced_dateRange {range : DateRangeValue} (h : range.encode = .ok encoded) :
    Balanced encoded := by
  simp only [DateRangeValue.encode, bind_eq_ok, pure_eq_ok] at h
  obtain ⟨start, hstart, end_, hend, rfl⟩ := h
  exact (balanced_application (reads_dateValue hstart)).append
    (balanced_application (reads_dateValue hend))

theorem balanced_calendarEntry {entry : CalendarEntryValue} (h : entry.encode = .ok encoded) :
    Balanced encoded := by
  cases entry with
  | date day => exact balanced_contextDate h
  | dateRange range =>
      simp only [CalendarEntryValue.encode, bind_eq_ok, pure_eq_ok] at h
      obtain ⟨octets, hoctets, rfl⟩ := h
      exact (balanced_dateRange hoctets).brackets 1
  | weekNDay week =>
      cases h
      exact balanced_context 2 3 rfl (by decide)

theorem balanced_period {period : SpecialEventPeriod} (h : period.encode = .ok encoded) :
    Balanced encoded := by
  cases period with
  | calendarEntry entry =>
      simp only [SpecialEventPeriod.encode, bind_eq_ok, pure_eq_ok] at h
      obtain ⟨octets, hoctets, rfl⟩ := h
      exact (balanced_calendarEntry hoctets).brackets 0
  | calendarReference calendar => exact balanced_contextObjectId h

theorem balanced_timestamp {stamp : TimestampValue} (h : stamp.encode = .ok encoded) :
    Balanced encoded := by
  cases stamp with
  | time time =>
      obtain ⟨hour, minute, second, hundredths⟩ := time
      cases h
      exact balanced_context 0 4 rfl (by decide)
  | sequenceNumber sequence =>
      cases h
      exact balanced_contextUnsigned sequence 1
  | dateTime day time =>
      simp only [TimestampValue.encode, bind_eq_ok, pure_eq_ok] at h
      obtain ⟨octets, hoctets, rfl⟩ := h
      rw [List.append_assoc (encodeOpeningTag 2)]
      exact ((balanced_application (reads_dateValue hoctets)).append
        (balanced_application (reads_timeValueOf time))).brackets 2

theorem balanced_addressBinding {value : AddressBindingValue}
    (hfits : octetsFit value.address.macAddress = true) (h : value.encode = .ok encoded) :
    Balanced encoded := by
  simp only [AddressBindingValue.encode, bind_eq_ok, pure_eq_ok] at h
  obtain ⟨device, hdevice, rfl⟩ := h
  exact ((balanced_application (reads_objectIdentifierValue hdevice)).append
    (balanced_application (reads_unsignedValue _))).append
    (balanced_application (reads_octetStringValue hfits))

theorem balanced_destination {value : DestinationValue} (hfits : value.measured = true)
    (h : value.encode = .ok encoded) : Balanced encoded := by
  simp only [DestinationValue.measured, Bool.and_eq_true] at hfits
  obtain ⟨⟨hdays, hrecipient⟩, htransitions⟩ := hfits
  simp only [DestinationValue.encode, bind_eq_ok, pure_eq_ok] at h
  obtain ⟨recipient, hencoded, rfl⟩ := h
  have htimes := ((balanced_application (reads_bitStringValue hdays)).append
    (balanced_application (reads_timeValueOf value.fromTime))).append
    (balanced_application (reads_timeValueOf value.toTime))
  exact (((htimes.append (balanced_recipient hrecipient hencoded)).append
    (balanced_application (reads_unsignedValue _))).append
    (balanced_application (reads_booleanValue _))).append
    (balanced_application (reads_bitStringValue htransitions))

theorem balanced_covSubscription {value : CovSubscriptionValue}
    (hfits : value.recipient.recipient.measured = true) (h : value.encode = .ok encoded) :
    Balanced encoded := by
  simp only [CovSubscriptionValue.encode, RecipientProcess.encode, bind_eq_ok, pure_eq_ok] at h
  obtain ⟨process, ⟨recipient, hrecipient, rfl⟩, monitored, hmonitored, rfl⟩ := h
  have hprocess : Balanced (encodeOpeningTag 0 ++ (encodeOpeningTag 0 ++ recipient
      ++ encodeClosingTag 0 ++ encodeContextUnsigned value.recipient.processIdentifier 1)
      ++ encodeClosingTag 0) :=
    (((balanced_recipient hfits hrecipient).brackets 0).append
      (balanced_contextUnsigned _ 1)).brackets 0
  have hconfirmed : Balanced (encodeContextBoolean value.issueConfirmedNotifications 2) :=
    balanced_context 2 1 rfl (by decide)
  have hall := ((hprocess.append ((balanced_reference hmonitored).brackets 1)).append
    hconfirmed).append (balanced_contextUnsigned value.timeRemaining 3)
  cases value.covIncrement with
  | none => simpa only [List.append_assoc] using hall.append balanced_nil
  | some increment =>
      have hincrement : Balanced (encodeContextReal increment 4) :=
        balanced_context 4 4 (length_beOctets 4 _).symm (by decide)
      simpa only [List.append_assoc] using hall.append hincrement

end Fields

/-! ## §4. Values -/

mutual

/-- A value without octets nobody knows, however deep. -/
def known : PropertyValue → Bool
  | .unknown _ => false
  | .array values => allKnown values
  | .list values => allKnown values
  | .dailySchedule ⟨timeValues⟩ => allScheduledKnown timeValues
  | .specialEvent ⟨_, timeValues, _⟩ => allScheduledKnown timeValues
  | _ => true

def allKnown : List PropertyValue → Bool
  | [] => true
  | value :: rest => known value && allKnown rest

def allScheduledKnown : List (TimeValueValue PropertyValue) → Bool
  | [] => true
  | ⟨_, value⟩ :: rest => known value && allScheduledKnown rest

end

theorem balanced_primitive {value : PropertyValue} {encoded : Bytes}
    (hprimitive : Element.any.holds value = true) (hmeasured : measured value = true)
    (h : encodePropertyValue value = .ok encoded) : Balanced encoded :=
  balanced_application (reads_primitive hprimitive hmeasured h)

mutual

/-- **An encoded value is balanced**, if it is known and its tags can say its lengths. -/
theorem balanced_value : ∀ {value : PropertyValue} {encoded : Bytes}, known value = true →
    measured value = true → encodePropertyValue value = .ok encoded → Balanced encoded
  | .real _, _, _, hmeasured, h | .double _, _, _, hmeasured, h | .boolean _, _, _, hmeasured, h
  | .unsigned _, _, _, hmeasured, h | .signed _, _, _, hmeasured, h
  | .octetString _, _, _, hmeasured, h | .characterString _, _, _, hmeasured, h
  | .enumerated _, _, _, hmeasured, h | .bitString _, _, _, hmeasured, h
  | .date _, _, _, hmeasured, h | .time _, _, _, hmeasured, h
  | .objectIdentifier _, _, _, hmeasured, h | .null, _, _, hmeasured, h =>
      balanced_primitive rfl hmeasured h
  | .array values, _, hknown, hmeasured, h => balanced_values hknown hmeasured h
  | .list values, _, hknown, hmeasured, h => balanced_values hknown hmeasured h
  | .covSubscription _, _, _, hmeasured, h => balanced_covSubscription hmeasured h
  | .addressBinding _, _, _, hmeasured, h => balanced_addressBinding hmeasured h
  | .timestamp _, _, _, _, h => balanced_timestamp h
  | .objectPropertyReference _, _, _, _, h => balanced_reference h
  | .destination _, _, _, hmeasured, h => balanced_destination hmeasured h
  | .calendarEntry _, _, _, _, h => balanced_calendarEntry h
  | .dateRange _, _, _, _, h => balanced_dateRange h
  -- A context tag of no length is a whole item.
  | .valueSource .none, _, _, _, h => by
      cases h
      have hnone : Balanced (encodeContextTag 0 0 ++ []) := balanced_context 0 0 rfl (by decide)
      rwa [List.append_nil] at hnone
  | .dailySchedule ⟨timeValues⟩, _, hknown, hmeasured, h => by
      simp only [encodePropertyValue, bind_eq_ok, pure_eq_ok] at h
      obtain ⟨octets, hoctets, rfl⟩ := h
      exact (balanced_timeValues hknown hmeasured hoctets).brackets 0
  | .specialEvent ⟨period, timeValues, priority⟩, _, hknown, hmeasured, h => by
      simp only [encodePropertyValue, bind_eq_ok, pure_eq_ok] at h
      obtain ⟨start, hstart, octets, hoctets, rfl⟩ := h
      have hall := ((balanced_period hstart).append
        ((balanced_timeValues hknown hmeasured hoctets).brackets 2)).append
        (balanced_contextUnsigned priority 3)
      simpa only [List.append_assoc] using hall
  | .unknown _, _, hknown, _, _ => by cases hknown

theorem balanced_values : ∀ {values : List PropertyValue} {encoded : Bytes},
    allKnown values = true → allMeasured values = true → encodeValues values = .ok encoded →
      Balanced encoded
  | [], _, _, _, h => by
      cases h
      exact balanced_nil
  | value :: rest, _, hknown, hmeasured, h => by
      obtain ⟨hvalue, hothers⟩ := Bool.and_eq_true_iff.mp hknown
      obtain ⟨hfits, hothersFit⟩ := Bool.and_eq_true_iff.mp hmeasured
      obtain ⟨octets, more, hoctets, hmore, rfl⟩ := encodeValues_cons h
      exact (balanced_value hvalue hfits hoctets).append (balanced_values hothers hothersFit hmore)

theorem balanced_timeValues : ∀ {timeValues : List (TimeValueValue PropertyValue)}
    {encoded : Bytes}, allScheduledKnown timeValues = true →
    allScheduledMeasured timeValues = true → encodeTimeValues timeValues = .ok encoded →
      Balanced encoded
  | [], _, _, _, h => by
      cases h
      exact balanced_nil
  | ⟨time, value⟩ :: rest, _, hknown, hmeasured, h => by
      obtain ⟨hvalue, hothers⟩ := Bool.and_eq_true_iff.mp hknown
      obtain ⟨hfits, hothersFit⟩ := Bool.and_eq_true_iff.mp hmeasured
      simp only [encodeTimeValues, bind_eq_ok, pure_eq_ok] at h
      obtain ⟨octets, hoctets, more, hmore, rfl⟩ := h
      exact ((balanced_application (reads_timeValueOf time)).append
        (balanced_value hvalue hfits hoctets)).append
        (balanced_timeValues hothers hothersFit hmore)

end

end BacnetRs.Service
