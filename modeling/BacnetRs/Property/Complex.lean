/-
  BacnetRs.Property.Complex — constructed values on the wire
  (`property/complex.rs`).

  A constructed value is a run of context-tagged fields, some of them bracketed
  by an opening and a closing tag.  Each decoder reads its fields one after
  another; none panics, and what it takes is there (`…decode_takes`).  An
  encoder fails on a date or an object identifier that has no encoding, and on
  nothing else.
-/
import BacnetRs.Property.Value

namespace BacnetRs.Property

open BacnetRs.Encoding BacnetRs.Object

/-! ## §1. Encoding -/

/-- `AddressBindingValue::encode`. -/
def AddressBindingValue.encode (value : AddressBindingValue) : Except EncodingError Bytes := do
  let device ← encodeObjectIdentifier value.deviceIdentifier
  return device ++ encodeUnsigned value.address.network.toUInt32
    ++ encodeOctetString value.address.macAddress

/-- The address of a recipient, in context 1. -/
def BacnetAddress.encode (address : BacnetAddress) : Bytes :=
  encodeOpeningTag 1 ++ encodeUnsigned address.network.toUInt32
    ++ encodeOctetString address.macAddress ++ encodeClosingTag 1

/-- `encode_recipient`. -/
def Recipient.encode : Recipient → Except EncodingError Bytes
  | .device id => encodeContextObjectId id 0
  | .address mac => .ok mac.encode

/-- `encode_recipient_process`. -/
def RecipientProcess.encode (value : RecipientProcess) (tag : UInt8) :
    Except EncodingError Bytes := do
  let recipient ← value.recipient.encode
  return encodeOpeningTag tag ++ encodeOpeningTag 0 ++ recipient ++ encodeClosingTag 0
    ++ encodeContextUnsigned value.processIdentifier 1 ++ encodeClosingTag tag

/-- `DestinationValue::encode`. -/
def DestinationValue.encode (value : DestinationValue) : Except EncodingError Bytes := do
  let recipient ← value.recipient.encode
  return encodeBitString value.validDays ++ encodeTime value.fromTime ++ encodeTime value.toTime
    ++ recipient ++ encodeUnsigned value.processIdentifier
    ++ encodeBoolean value.issueConfirmedNotifications ++ encodeBitString value.transitions

/-- `DateRangeValue::encode`. -/
def DateRangeValue.encode (value : DateRangeValue) : Except EncodingError Bytes := do
  let start ← encodeDate value.start
  let end_ ← encodeDate value.end_
  return start ++ end_

/-- The octet a year is encoded as in a context-tagged date. -/
def contextYearOctet (year : UInt16) : Except EncodingError UInt8 :=
  if year = 255 then .ok 255
  else if 1900 ≤ year ∧ year ≤ 2155 then .ok (year - 1900).toUInt8
  else .error .valueOutOfRange

/-- `encode_context_date`. -/
def encodeContextDate (tag : UInt8) (date : DateValue) : Except EncodingError Bytes := do
  let (year, month, day, weekday) := date
  let octet ← contextYearOctet year
  return encodeContextTag tag 4 ++ [octet, month, day, weekday]

/-- `CalendarEntryValue::encode`. -/
def CalendarEntryValue.encode : CalendarEntryValue → Except EncodingError Bytes
  | .date day => encodeContextDate 0 day
  | .dateRange range => do
      let octets ← range.encode
      return encodeOpeningTag 1 ++ octets ++ encodeClosingTag 1
  | .weekNDay week =>
      .ok (encodeContextTag 2 3 ++ [week.month, week.weekOfMonth, week.dayOfWeek])

/-- The period of `SpecialEventValue::encode`. -/
def SpecialEventPeriod.encode : SpecialEventPeriod → Except EncodingError Bytes
  | .calendarEntry entry => do
      let octets ← entry.encode
      return encodeOpeningTag 0 ++ octets ++ encodeClosingTag 0
  -- A primitive context tag: this alternative is a bare object identifier.
  | .calendarReference calendar => encodeContextObjectId calendar 1

/-- `TimestampValue::encode`. -/
def TimestampValue.encode : TimestampValue → Except EncodingError Bytes
  | .time (hour, minute, second, hundredths) =>
      .ok (encodeContextTag 0 4 ++ [hour, minute, second, hundredths])
  | .sequenceNumber sequence => .ok (encodeContextUnsigned sequence 1)
  | .dateTime day at_ => do
      let octets ← encodeDate day
      return encodeOpeningTag 2 ++ octets ++ encodeTime at_ ++ encodeClosingTag 2

/-- `CovSubscriptionValue::encode`. -/
def CovSubscriptionValue.encode (value : CovSubscriptionValue) : Except EncodingError Bytes := do
  let recipient ← value.recipient.encode 0
  let monitored ← value.monitoredProperty.encode
  let increment :=
    match value.covIncrement with
    | some increment => encodeContextReal increment 4
    | none => []
  return recipient ++ encodeOpeningTag 1 ++ monitored ++ encodeClosingTag 1
    ++ encodeContextBoolean value.issueConfirmedNotifications 2
    ++ encodeContextUnsigned value.timeRemaining 3 ++ increment

/-- `ValueSourceValue::encode`. -/
def ValueSourceValue.encode : ValueSourceValue → Bytes
  | .none => encodeContextTag 0 0

/-! ## §2. Decoding -/

/-- The next application-tagged value, as `select` takes it. -/
def readSelected {α : Type} (select : PropertyValue → Except EncodingError α) (data : Bytes)
    (consumed : Nat) : Decoded (α × Nat) := do
  let (value, consumed) ← readAt decodePropertyValue data consumed
  let selected ← Checked.ofExcept (select value)
  return (selected, consumed)

def asTime : PropertyValue → Except EncodingError TimeValue
  | .time value => .ok value
  | _ => .error .invalidTag

def asDate : PropertyValue → Except EncodingError DateValue
  | .date value => .ok value
  | _ => .error .invalidTag

def asBitString : PropertyValue → Except EncodingError (List Bool)
  | .bitString bits => .ok bits
  | _ => .error .invalidTag

def asBoolean : PropertyValue → Except EncodingError Bool
  | .boolean value => .ok value
  | _ => .error .invalidTag

/-- An unsigned number that fits a `u32`. -/
def asUnsigned32 : PropertyValue → Except EncodingError UInt32
  | .unsigned value =>
      if value.toNat < 2 ^ 32 then .ok value.toUInt32 else .error .valueOutOfRange
  | _ => .error .invalidTag

/-- An unsigned number that fits a `u16`; one of another type is `error`. -/
def asUnsigned16 (error : EncodingError) : PropertyValue → Except EncodingError UInt16
  | .unsigned value =>
      if value.toNat < 2 ^ 16 then .ok value.toUInt16 else .error .valueOutOfRange
  | _ => .error error

def asOctetString (error : EncodingError) : PropertyValue → Except EncodingError Bytes
  | .octetString value => .ok value
  | _ => .error error

def asObjectIdentifier (error : EncodingError) :
    PropertyValue → Except EncodingError ObjectIdentifier
  | .objectIdentifier value => .ok value
  | _ => .error error

/-- `ValueSourceValue::decode`. -/
def ValueSourceValue.decode (data : Bytes) : Decoded (ValueSourceValue × Nat) := do
  let (tag, length, consumed) ← Checked.ofExcept (decodeContextTag data)
  if tag = 0 ∧ length = 0 then return (.none, consumed) else Checked.fail .invalidTag

/-- One time and what is scheduled then. -/
def decodeTimeValue (data : Bytes) : Decoded (TimeValueValue PropertyValue × Nat) := do
  let (time, consumed) ← readSelected asTime data 0
  let (value, consumed) ← readAt decodePropertyValue data consumed
  return (⟨time, value⟩, consumed)

/-- `decode_time_values`: up to closing tag `tag`, which is not consumed. -/
def decodeTimeValues (tag : UInt8) (data : Bytes) :
    Decoded (List (TimeValueValue PropertyValue) × Nat) :=
  readAll (isClosingTag · tag) decodeTimeValue data

/-- `DailyScheduleValue::decode`. -/
def DailyScheduleValue.decode (data : Bytes) :
    Decoded (DailyScheduleValue PropertyValue × Nat) := do
  let consumed ← openAt data 0 0
  let (timeValues, consumed) ← readAt (decodeTimeValues 0) data consumed
  let consumed ← closeAt data consumed 0
  return (⟨timeValues⟩, consumed)

/-- `DateRangeValue::decode`. -/
def DateRangeValue.decode (data : Bytes) : Decoded (DateRangeValue × Nat) := do
  let (start, consumed) ← decodeDate data
  let (end_, consumed) ← readAt decodeDate data consumed
  return (⟨start, end_⟩, consumed)

/-- `decode_context_date`: 255 is the year nobody specified. -/
def decodeContextDate (data : Bytes) (expectedTag : UInt8) : Decoded (DateValue × Nat) := do
  let (tag, length, header) ← Checked.ofExcept (decodeContextTag data)
  if tag ≠ expectedTag ∨ length ≠ 4 then Checked.fail .invalidTag
  let octets ← Checked.orFail .bufferUnderflow (Octets.range? data header (header + 4))
  let octet ← Octets.index octets 0
  let month ← Octets.index octets 1
  let day ← Octets.index octets 2
  let weekday ← Octets.index octets 3
  let year : UInt16 := if octet = 255 then 255 else 1900 + octet.toUInt16
  return ((year, month, day, weekday), header + 4)

/-- `CalendarEntryValue::decode`. -/
def CalendarEntryValue.decode (data : Bytes) : Decoded (CalendarEntryValue × Nat) := do
  let (tag, length, header) ← Checked.ofExcept (decodeTag data)
  match tag with
  | .context 0 =>
      if length ≠ 4 then Checked.fail .invalidTag
      let (day, consumed) ← decodeContextDate data 0
      return (.date day, consumed)
  | .opening 1 =>
      let (range, consumed) ← readAt DateRangeValue.decode data header
      let consumed ← closeAt data consumed 1
      return (.dateRange range, consumed)
  | .context 2 =>
      if length ≠ 3 then Checked.fail .invalidTag
      let week ← Checked.orFail .bufferUnderflow (Octets.range? data header (header + 3))
      let month ← Octets.index week 0
      let weekOfMonth ← Octets.index week 1
      let dayOfWeek ← Octets.index week 2
      return (.weekNDay ⟨month, weekOfMonth, dayOfWeek⟩, header + 3)
  | _ => Checked.fail .invalidTag

/-- The period of `SpecialEventValue::decode`. -/
def SpecialEventPeriod.decode (data : Bytes) : Decoded (SpecialEventPeriod × Nat) := do
  let (tag, length, header) ← Checked.ofExcept (decodeTag data)
  match tag with
  | .opening 0 =>
      let (entry, consumed) ← readAt CalendarEntryValue.decode data header
      let consumed ← closeAt data consumed 0
      return (.calendarEntry entry, consumed)
  | .context 1 =>
      if length ≠ 4 then Checked.fail .invalidTag
      let (calendar, consumed) ← decodeContextObjectId data 1
      return (.calendarReference calendar, consumed)
  | _ => Checked.fail .invalidTag

/-- `SpecialEventValue::decode`. -/
def SpecialEventValue.decode (data : Bytes) : Decoded (SpecialEventValue PropertyValue × Nat) := do
  let (period, consumed) ← SpecialEventPeriod.decode data
  let consumed ← openAt data consumed 2
  let (timeValues, consumed) ← readAt (decodeTimeValues 2) data consumed
  let consumed ← closeAt data consumed 2
  let (priority, consumed) ← readAt (decodeContextUnsigned · 3) data consumed
  return (⟨period, timeValues, priority⟩, consumed)

/-- A `BacnetAddress` in context 1; `error` says which form was expected of its parts. -/
def BacnetAddress.decodeAt (network mac : EncodingError) (data : Bytes) (consumed : Nat) :
    Decoded (BacnetAddress × Nat) := do
  let consumed ← openAt data consumed 1
  let (network, consumed) ← readSelected (asUnsigned16 network) data consumed
  let (macAddress, consumed) ← readSelected (asOctetString mac) data consumed
  let consumed ← closeAt data consumed 1
  return (⟨network, macAddress⟩, consumed)

/-- `decode_recipient`. -/
def Recipient.decode (data : Bytes) : Decoded (Recipient × Nat) :=
  if contextTagMatches data 0 (some 4) then do
    let (id, consumed) ← decodeContextObjectId data 0
    return (.device id, consumed)
  else do
    let (mac, consumed) ← BacnetAddress.decodeAt .invalidTag .invalidTag data 0
    return (.address mac, consumed)

/-- The recipient of `decode_recipient_process`, which reports its own errors. -/
def RecipientProcess.decodeRecipient (data : Bytes) : Decoded (Recipient × Nat) :=
  if contextTagMatches data 0 (some 4) then do
    let (id, consumed) ← decodeContextObjectId data 0
    return (.device id, consumed)
  else do
    let (mac, consumed) ← BacnetAddress.decodeAt
      (.invalidFormat "BACnetAddress network is not unsigned")
      (.invalidFormat "BACnetAddress MAC is not an octet string") data 0
    return (.address mac, consumed)

/-- `decode_recipient_process`. -/
def RecipientProcess.decode (tag : UInt8) (data : Bytes) : Decoded (RecipientProcess × Nat) := do
  let consumed ← openAt data 0 tag
  let consumed ← openAt data consumed 0
  let (recipient, consumed) ← readAt RecipientProcess.decodeRecipient data consumed
  let consumed ← closeAt data consumed 0
  let (processIdentifier, consumed) ← readAt (decodeContextUnsigned · 1) data consumed
  let consumed ← closeAt data consumed tag
  return (⟨recipient, processIdentifier⟩, consumed)

/-- `decode_object_property_reference`. -/
def decodeObjectPropertyReference (tag : UInt8) (data : Bytes) :
    Decoded (ObjectPropertyReference × Nat) := do
  let consumed ← openAt data 0 tag
  let (reference, consumed) ← readAt ObjectPropertyReference.decode data consumed
  let consumed ← closeAt data consumed tag
  return (reference, consumed)

/-- `DestinationValue::decode`. -/
def DestinationValue.decode (data : Bytes) : Decoded (DestinationValue × Nat) := do
  let (validDays, consumed) ← readSelected asBitString data 0
  let (fromTime, consumed) ← readSelected asTime data consumed
  let (toTime, consumed) ← readSelected asTime data consumed
  let (recipient, consumed) ← readAt Recipient.decode data consumed
  let (processIdentifier, consumed) ← readSelected asUnsigned32 data consumed
  let (issueConfirmedNotifications, consumed) ← readSelected asBoolean data consumed
  let (transitions, consumed) ← readSelected asBitString data consumed
  return (⟨validDays, fromTime, toTime, recipient, processIdentifier,
    issueConfirmedNotifications, transitions⟩, consumed)

/-- `TimestampValue::decode`. -/
def TimestampValue.decode (data : Bytes) : Decoded (TimestampValue × Nat) := do
  let (tag, length, header) ← Checked.ofExcept (decodeTag data)
  match tag with
  | .context 0 =>
      if length ≠ 4 ∨ data.length < header + 4 then Checked.fail .invalidTag
      let hour ← Octets.index data header
      let minute ← Octets.index data (header + 1)
      let second ← Octets.index data (header + 2)
      let hundredths ← Octets.index data (header + 3)
      return (.time (hour, minute, second, hundredths), header + 4)
  | .context 1 =>
      let (sequence, consumed) ← decodeContextUnsigned data 1
      return (.sequenceNumber sequence, consumed)
  | .opening 2 =>
      let (day, consumed) ← readSelected asDate data header
      let (at_, consumed) ← readSelected asTime data consumed
      let consumed ← closeAt data consumed 2
      return (.dateTime day at_, consumed)
  | _ => Checked.fail .invalidTag

/-- `CovSubscriptionValue::decode`. -/
def CovSubscriptionValue.decode (data : Bytes) : Decoded (CovSubscriptionValue × Nat) := do
  let (recipient, consumed) ← RecipientProcess.decode 0 data
  let (monitoredProperty, consumed) ← readAt (decodeObjectPropertyReference 1) data consumed
  let (issueConfirmedNotifications, consumed) ← readAt (decodeContextBoolean · 2) data consumed
  let (timeRemaining, consumed) ← readAt (decodeContextUnsigned · 3) data consumed
  let (covIncrement, consumed) ← readOptionalAt (contextTagMatches · 4 (some 4))
    (decodeContextReal · 4) data consumed
  return (⟨recipient, monitoredProperty, issueConfirmedNotifications, timeRemaining,
    covIncrement⟩, consumed)

/-- `AddressBindingValue::decode`. -/
def AddressBindingValue.decode (data : Bytes) : Decoded (AddressBindingValue × Nat) := do
  let (device, consumed) ← readSelected
    (asObjectIdentifier (.invalidFormat "address binding device is not an object identifier")) data 0
  let (network, consumed) ← readSelected
    (asUnsigned16 (.invalidFormat "address binding network is not unsigned")) data consumed
  let (macAddress, consumed) ← readSelected
    (asOctetString (.invalidFormat "address binding MAC is not an octet string")) data consumed
  return (⟨device, ⟨network, macAddress⟩⟩, consumed)

/-! ## §3. No decoder panics -/

section Takes

open Checked

/-- What begins at the front took something if it got past there. -/
theorem takes_of_advances {α : Type} {data : Bytes} {consumed : Nat} {decoded : α × Nat}
    (h : Advances data consumed decoded) : Takes data decoded :=
  ⟨Nat.lt_of_le_of_lt (Nat.zero_le consumed) h.1, h.2⟩

theorem readValueAt_meets {data : Bytes} {consumed : Nat} (h : consumed ≤ data.length) :
    Meets (readAt decodePropertyValue data consumed) (Advances data consumed) :=
  readAt_meets decodePropertyValue_takes h

theorem readSelected_meets {α : Type} (select : PropertyValue → Except EncodingError α)
    {data : Bytes} {consumed : Nat} (h : consumed ≤ data.length) :
    Meets (readSelected select data consumed) (Advances data consumed) := by
  refine (readValueAt_meets h).bind ?_
  rintro ⟨value, next⟩ hnext
  exact (meets_ofExcept (fun _ _ => trivial)).bind (fun _ _ => meets_ok hnext)

theorem ValueSourceValue.decode_takes (data : Bytes) :
    Meets (ValueSourceValue.decode data) (Takes data) := by
  refine (meets_ofExcept (P := fun tag => 1 ≤ tag.2.2 ∧ tag.2.2 ≤ data.length)
    (fun _ h => decodeContextTag_takes h)).bind ?_
  rintro ⟨tag, length, consumed⟩ htakes
  simp only
  split
  · exact meets_ok htakes
  · exact meets_fail _

theorem decodeTimeValue_takes (data : Bytes) : Meets (decodeTimeValue data) (Takes data) := by
  refine (readSelected_meets asTime (Nat.zero_le _)).bind ?_
  rintro ⟨time, consumed⟩ htime
  refine (readValueAt_meets htime.2).bind ?_
  rintro ⟨value, next⟩ hvalue
  exact meets_ok (takes_of_advances hvalue)

theorem decodeTimeValuesAt_meets (tag : UInt8) {data : Bytes} {consumed : Nat}
    (h : consumed ≤ data.length) :
    Meets (readAt (decodeTimeValues tag) data consumed)
      (fun decoded => consumed ≤ decoded.2 ∧ decoded.2 ≤ data.length) :=
  readAllAt_meets decodeTimeValue_takes h

theorem DailyScheduleValue.decode_takes (data : Bytes) :
    Meets (DailyScheduleValue.decode data) (Takes data) := by
  refine (openAt_meets 0 (Nat.zero_le _)).bind (fun opened hopened => ?_)
  refine (decodeTimeValuesAt_meets 0 hopened.2).bind ?_
  rintro ⟨timeValues, consumed⟩ ⟨hlow, hhigh⟩
  refine (closeAt_meets 0 hhigh).bind (fun closed hclosed => ?_)
  exact meets_ok ⟨by simp only at *; omega, hclosed.2⟩

theorem DateRangeValue.decode_takes (data : Bytes) :
    Meets (DateRangeValue.decode data) (Takes data) := by
  refine (decodeDate_takes data).bind ?_
  rintro ⟨start, consumed⟩ hstart
  refine (readAt_meets decodeDate_takes hstart.2).bind ?_
  rintro ⟨end_, next⟩ hend
  exact meets_ok (takes_of_advances hend)

theorem decodeContextDate_takes (data : Bytes) (expectedTag : UInt8) :
    Meets (decodeContextDate data expectedTag) (Takes data) := by
  refine (meets_ofExcept (P := fun tag => 1 ≤ tag.2.2 ∧ tag.2.2 ≤ data.length)
    (fun _ h => decodeContextTag_takes h)).bind ?_
  rintro ⟨tag, length, header⟩ ⟨hheader, _⟩
  refine meets_guard (fun _ => ?_)
  refine (meets_orFail (P := fun octets => octets.length = 4 ∧ header + 4 ≤ data.length) ?_).bind
    (fun octets hoctets => ?_)
  · intro octets hoctets
    exact ⟨Octets.length_of_range? hoctets (by omega), (Octets.range?_within hoctets).2⟩
  · refine (Octets.index_meets (by omega)).bind (fun year _ => ?_)
    refine (Octets.index_meets (by omega)).bind (fun month _ => ?_)
    refine (Octets.index_meets (by omega)).bind (fun day _ => ?_)
    exact (Octets.index_meets (by omega)).bind (fun _ _ => takes_ok hheader hoctets.2)

theorem CalendarEntryValue.decode_takes (data : Bytes) :
    Meets (CalendarEntryValue.decode data) (Takes data) := by
  refine (meets_ofExcept (P := fun tag => 1 ≤ tag.2.2 ∧ tag.2.2 ≤ data.length)
    (fun _ h => decodeTag_takes h)).bind ?_
  rintro ⟨tag, length, header⟩ ⟨hheader, hwithin⟩
  simp only
  split
  · refine meets_guard (fun _ => ?_)
    refine (decodeContextDate_takes data 0).bind ?_
    rintro ⟨day, consumed⟩ hday
    exact meets_ok hday
  · refine (readAt_meets DateRangeValue.decode_takes hwithin).bind ?_
    rintro ⟨range, consumed⟩ hrange
    refine (closeAt_meets 1 hrange.2).bind (fun closed hclosed => ?_)
    exact meets_ok ⟨Nat.lt_of_le_of_lt (Nat.zero_le _) hclosed.1, hclosed.2⟩
  · refine meets_guard (fun _ => ?_)
    refine (meets_orFail (P := fun week => week.length = 3 ∧ header + 3 ≤ data.length) ?_).bind
      (fun week hweek => ?_)
    · intro week hweek
      exact ⟨Octets.length_of_range? hweek (by omega), (Octets.range?_within hweek).2⟩
    · refine (Octets.index_meets (by omega)).bind (fun month _ => ?_)
      refine (Octets.index_meets (by omega)).bind (fun weekOfMonth _ => ?_)
      exact (Octets.index_meets (by omega)).bind (fun _ _ => takes_ok hheader hweek.2)
  · exact meets_fail _

theorem SpecialEventPeriod.decode_takes (data : Bytes) :
    Meets (SpecialEventPeriod.decode data) (Takes data) := by
  refine (meets_ofExcept (P := fun tag => 1 ≤ tag.2.2 ∧ tag.2.2 ≤ data.length)
    (fun _ h => decodeTag_takes h)).bind ?_
  rintro ⟨tag, length, header⟩ ⟨_, hwithin⟩
  simp only
  split
  · refine (readAt_meets CalendarEntryValue.decode_takes hwithin).bind ?_
    rintro ⟨entry, consumed⟩ hentry
    refine (closeAt_meets 0 hentry.2).bind (fun closed hclosed => ?_)
    exact meets_ok ⟨Nat.lt_of_le_of_lt (Nat.zero_le _) hclosed.1, hclosed.2⟩
  · refine meets_guard (fun _ => ?_)
    refine (decodeContextObjectId_takes data 1).bind ?_
    rintro ⟨calendar, consumed⟩ hcalendar
    exact meets_ok hcalendar
  · exact meets_fail _

theorem SpecialEventValue.decode_takes (data : Bytes) :
    Meets (SpecialEventValue.decode data) (Takes data) := by
  refine (SpecialEventPeriod.decode_takes data).bind ?_
  rintro ⟨period, consumed⟩ ⟨_, hperiod⟩
  refine (openAt_meets 2 hperiod).bind (fun opened hopened => ?_)
  refine (decodeTimeValuesAt_meets 2 hopened.2).bind ?_
  rintro ⟨timeValues, consumed⟩ ⟨_, hvalues⟩
  refine (closeAt_meets 2 hvalues).bind (fun closed hclosed => ?_)
  refine (readAt_meets (decodeContextUnsigned_takes · 3) hclosed.2).bind ?_
  rintro ⟨priority, consumed⟩ hpriority
  exact meets_ok (takes_of_advances hpriority)

theorem BacnetAddress.decodeAt_meets (network mac : EncodingError) {data : Bytes} {consumed : Nat}
    (h : consumed ≤ data.length) :
    Meets (BacnetAddress.decodeAt network mac data consumed) (Advances data consumed) := by
  refine (openAt_meets 1 h).bind (fun opened hopened => ?_)
  refine (readSelected_meets _ hopened.2).bind ?_
  rintro ⟨net, afterNetwork⟩ hnetwork
  refine (readSelected_meets _ hnetwork.2).bind ?_
  rintro ⟨address, afterMac⟩ hmac
  refine (closeAt_meets 1 hmac.2).bind (fun closed hclosed => ?_)
  refine meets_ok ⟨?_, hclosed.2⟩
  exact Nat.lt_trans hopened.1 (Nat.lt_trans hnetwork.1 (Nat.lt_trans hmac.1 hclosed.1))

theorem Recipient.decode_takes (data : Bytes) : Meets (Recipient.decode data) (Takes data) := by
  unfold Recipient.decode
  split
  · refine (decodeContextObjectId_takes data 0).bind ?_
    rintro ⟨device, consumed⟩ hdevice
    exact meets_ok hdevice
  · refine (BacnetAddress.decodeAt_meets _ _ (Nat.zero_le _)).bind ?_
    rintro ⟨address, consumed⟩ haddress
    exact meets_ok (takes_of_advances haddress)

theorem RecipientProcess.decodeRecipient_takes (data : Bytes) :
    Meets (RecipientProcess.decodeRecipient data) (Takes data) := by
  unfold RecipientProcess.decodeRecipient
  split
  · refine (decodeContextObjectId_takes data 0).bind ?_
    rintro ⟨device, consumed⟩ hdevice
    exact meets_ok hdevice
  · refine (BacnetAddress.decodeAt_meets _ _ (Nat.zero_le _)).bind ?_
    rintro ⟨address, consumed⟩ haddress
    exact meets_ok (takes_of_advances haddress)

theorem RecipientProcess.decode_takes (tag : UInt8) (data : Bytes) :
    Meets (RecipientProcess.decode tag data) (Takes data) := by
  refine (openAt_meets tag (Nat.zero_le _)).bind (fun outer houter => ?_)
  refine (openAt_meets 0 houter.2).bind (fun inner hinner => ?_)
  refine (readAt_meets RecipientProcess.decodeRecipient_takes hinner.2).bind ?_
  rintro ⟨recipient, consumed⟩ hrecipient
  refine (closeAt_meets 0 hrecipient.2).bind (fun closed hclosed => ?_)
  refine (readAt_meets (decodeContextUnsigned_takes · 1) hclosed.2).bind ?_
  rintro ⟨process, consumed⟩ hprocess
  refine (closeAt_meets tag hprocess.2).bind (fun last hlast => ?_)
  exact meets_ok ⟨Nat.lt_of_le_of_lt (Nat.zero_le _) hlast.1, hlast.2⟩

theorem ObjectPropertyReference.decode_takes (data : Bytes) :
    Meets (ObjectPropertyReference.decode data) (Takes data) := by
  refine (decodeContextObjectId_takes data 0).bind ?_
  rintro ⟨object, consumed⟩ ⟨hlow, hhigh⟩
  refine (Octets.dropFrom_meets hhigh).bind (fun rest hrest => ?_)
  refine (decodeContextUnsigned_takes rest 1).bind ?_
  rintro ⟨property, length⟩ ⟨_, hlength⟩
  have hwithin : consumed + length ≤ data.length := by
    simp only at *
    omega
  refine (Octets.dropFrom_meets hwithin).bind (fun rest' hrest' => ?_)
  split
  · refine (decodeContextUnsigned_takes rest' 2).bind ?_
    rintro ⟨index, length'⟩ ⟨_, hlength'⟩
    exact meets_ok ⟨by simp only at *; omega, by simp only at *; omega⟩
  · exact meets_ok ⟨by simp only at *; omega, hwithin⟩

theorem decodeObjectPropertyReference_takes (tag : UInt8) (data : Bytes) :
    Meets (decodeObjectPropertyReference tag data) (Takes data) := by
  refine (openAt_meets tag (Nat.zero_le _)).bind (fun opened hopened => ?_)
  refine (readAt_meets ObjectPropertyReference.decode_takes hopened.2).bind ?_
  rintro ⟨reference, consumed⟩ hreference
  refine (closeAt_meets tag hreference.2).bind (fun closed hclosed => ?_)
  exact meets_ok ⟨Nat.lt_of_le_of_lt (Nat.zero_le _) hclosed.1, hclosed.2⟩

theorem DestinationValue.decode_takes (data : Bytes) :
    Meets (DestinationValue.decode data) (Takes data) := by
  refine (readSelected_meets asBitString (Nat.zero_le _)).bind ?_
  rintro ⟨validDays, p₁⟩ h₁
  refine (readSelected_meets asTime h₁.2).bind ?_
  rintro ⟨fromTime, p₂⟩ h₂
  refine (readSelected_meets asTime h₂.2).bind ?_
  rintro ⟨toTime, p₃⟩ h₃
  refine (readAt_meets Recipient.decode_takes h₃.2).bind ?_
  rintro ⟨recipient, p₄⟩ h₄
  refine (readSelected_meets asUnsigned32 h₄.2).bind ?_
  rintro ⟨process, p₅⟩ h₅
  refine (readSelected_meets asBoolean h₅.2).bind ?_
  rintro ⟨confirmed, p₆⟩ h₆
  refine (readSelected_meets asBitString h₆.2).bind ?_
  rintro ⟨transitions, p₇⟩ h₇
  exact meets_ok (takes_of_advances h₇)

theorem TimestampValue.decode_takes (data : Bytes) :
    Meets (TimestampValue.decode data) (Takes data) := by
  refine (meets_ofExcept (P := fun tag => 1 ≤ tag.2.2 ∧ tag.2.2 ≤ data.length)
    (fun _ h => decodeTag_takes h)).bind ?_
  rintro ⟨tag, length, header⟩ ⟨hheader, hwithin⟩
  simp only
  split
  · refine meets_guard (fun hlength => ?_)
    refine (Octets.index_meets (by omega)).bind (fun hour _ => ?_)
    refine (Octets.index_meets (by omega)).bind (fun minute _ => ?_)
    refine (Octets.index_meets (by omega)).bind (fun second _ => ?_)
    exact (Octets.index_meets (by omega)).bind (fun _ _ => takes_ok hheader (by omega))
  · refine (decodeContextUnsigned_takes data 1).bind ?_
    rintro ⟨sequence, consumed⟩ hsequence
    exact meets_ok hsequence
  · refine (readSelected_meets asDate hwithin).bind ?_
    rintro ⟨day, afterDate⟩ hday
    refine (readSelected_meets asTime hday.2).bind ?_
    rintro ⟨time, afterTime⟩ htime
    refine (closeAt_meets 2 htime.2).bind (fun closed hclosed => ?_)
    exact meets_ok ⟨Nat.lt_of_le_of_lt (Nat.zero_le _) hclosed.1, hclosed.2⟩
  · exact meets_fail _

theorem CovSubscriptionValue.decode_takes (data : Bytes) :
    Meets (CovSubscriptionValue.decode data) (Takes data) := by
  refine (RecipientProcess.decode_takes 0 data).bind ?_
  rintro ⟨recipient, p₁⟩ ⟨_, h₁⟩
  refine (readAt_meets (decodeObjectPropertyReference_takes 1) h₁).bind ?_
  rintro ⟨monitored, p₂⟩ h₂
  refine (readAt_meets (decodeContextBoolean_takes · 2) h₂.2).bind ?_
  rintro ⟨confirmed, p₃⟩ h₃
  refine (readAt_meets (decodeContextUnsigned_takes · 3) h₃.2).bind ?_
  rintro ⟨remaining, p₄⟩ h₄
  refine (readOptionalAt_meets (decodeContextReal_takes · 4) h₄.2).bind ?_
  rintro ⟨increment, p₅⟩ ⟨hlow, hhigh⟩
  refine meets_ok ⟨?_, hhigh⟩
  exact Nat.lt_of_lt_of_le (Nat.lt_of_le_of_lt (Nat.zero_le _) h₄.1) hlow

theorem AddressBindingValue.decode_takes (data : Bytes) :
    Meets (AddressBindingValue.decode data) (Takes data) := by
  refine (readSelected_meets _ (Nat.zero_le _)).bind ?_
  rintro ⟨device, p₁⟩ h₁
  refine (readSelected_meets _ h₁.2).bind ?_
  rintro ⟨network, p₂⟩ h₂
  refine (readSelected_meets _ h₂.2).bind ?_
  rintro ⟨mac, p₃⟩ h₃
  exact meets_ok (takes_of_advances h₃)

end Takes

end BacnetRs.Property
