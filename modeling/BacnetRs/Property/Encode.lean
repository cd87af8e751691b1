/-
  BacnetRs.Property.Encode — property values on the wire (`property.rs`).

  A value of any type is encoded after its own fashion, a collection as its
  members one after another.  Not every value has an encoding: a year is one
  octet from 1900, an object type ten bits and an instance twenty-two.  A value
  that holds none beyond these, however deep, is `encodable`.

    * `encodePropertyValue_isOk` — a value is encoded exactly when it is encodable.
-/
import BacnetRs.Property.Complex

namespace BacnetRs.Property

open BacnetRs.Encoding BacnetRs.Object

/-! ## §1. Encoding -/

mutual

/-- `encode_property_value`. -/
def encodePropertyValue : PropertyValue → Except EncodingError Bytes
  | .real value => .ok (encodeReal value)
  | .double value => .ok (encodeDouble value)
  | .boolean value => .ok (encodeBoolean value)
  | .unsigned value => .ok (encodeUnsigned64 value)
  | .signed value => .ok (encodeSigned64 value)
  | .octetString value => .ok (encodeOctetString value)
  | .characterString value => .ok (encodeCharacterString value)
  | .enumerated value => .ok (encodeEnumerated value)
  | .bitString bits => .ok (encodeBitString bits)
  | .date value => encodeDate value
  | .time value => .ok (encodeTime value)
  | .objectIdentifier value => encodeObjectIdentifier value
  | .array values => encodeValues values
  | .list values => encodeValues values
  | .covSubscription value => value.encode
  | .addressBinding value => value.encode
  | .timestamp value => value.encode
  | .objectPropertyReference value => value.encode
  | .destination value => value.encode
  | .dailySchedule ⟨timeValues⟩ => do
      let octets ← encodeTimeValues timeValues
      return encodeOpeningTag 0 ++ octets ++ encodeClosingTag 0
  | .calendarEntry value => value.encode
  | .specialEvent ⟨period, timeValues, priority⟩ => do
      let period ← period.encode
      let octets ← encodeTimeValues timeValues
      return period ++ encodeOpeningTag 2 ++ octets ++ encodeClosingTag 2
        ++ encodeContextUnsigned priority 3
  | .dateRange value => value.encode
  | .valueSource value => .ok value.encode
  | .null => .ok (encodeApplicationTag .null 0)
  | .unknown encoded => .ok encoded

/-- The members of a collection, one after another. -/
def encodeValues : List PropertyValue → Except EncodingError Bytes
  | [] => .ok []
  | value :: rest => do
      let octets ← encodePropertyValue value
      let more ← encodeValues rest
      return octets ++ more

/-- `encode_time_values`. -/
def encodeTimeValues : List (TimeValueValue PropertyValue) → Except EncodingError Bytes
  | [] => .ok []
  | ⟨time, value⟩ :: rest => do
      let octets ← encodePropertyValue value
      let more ← encodeTimeValues rest
      return encodeTime time ++ octets ++ more

end

/-! ## §2. What has an encoding -/

/-- A year that is an octet from 1900, or the wildcard. -/
def dateFits (date : DateValue) : Bool :=
  decide (date.1 = 255 ∨ 1900 ≤ date.1 ∧ date.1 ≤ 2154)

/-- The same, of a context-tagged date, which takes one year more. -/
def contextDateFits (date : DateValue) : Bool :=
  decide (date.1 = 255 ∨ 1900 ≤ date.1 ∧ date.1 ≤ 2155)

def Recipient.fits : Recipient → Bool
  | .device id => id.fits
  | .address _ => true

def DateRangeValue.fits (range : DateRangeValue) : Bool := dateFits range.start && dateFits range.end_

def CalendarEntryValue.fits : CalendarEntryValue → Bool
  | .date day => contextDateFits day
  | .dateRange range => range.fits
  | .weekNDay _ => true

def SpecialEventPeriod.fits : SpecialEventPeriod → Bool
  | .calendarEntry entry => entry.fits
  | .calendarReference calendar => calendar.fits

def TimestampValue.fits : TimestampValue → Bool
  | .time _ => true
  | .sequenceNumber _ => true
  | .dateTime day _ => dateFits day

mutual

/-- Every date and every object identifier in a value has an encoding. -/
def encodable : PropertyValue → Bool
  | .date value => dateFits value
  | .objectIdentifier value => value.fits
  | .array values => allEncodable values
  | .list values => allEncodable values
  | .covSubscription value =>
      value.recipient.recipient.fits && value.monitoredProperty.objectIdentifier.fits
  | .addressBinding value => value.deviceIdentifier.fits
  | .timestamp value => value.fits
  | .objectPropertyReference value => value.objectIdentifier.fits
  | .destination value => value.recipient.fits
  | .dailySchedule ⟨timeValues⟩ => allScheduled timeValues
  | .calendarEntry value => value.fits
  | .specialEvent ⟨period, timeValues, _⟩ => period.fits && allScheduled timeValues
  | .dateRange value => value.fits
  | _ => true

def allEncodable : List PropertyValue → Bool
  | [] => true
  | value :: rest => encodable value && allEncodable rest

def allScheduled : List (TimeValueValue PropertyValue) → Bool
  | [] => true
  | ⟨_, value⟩ :: rest => encodable value && allScheduled rest

end

/-! ## §3. A value is encoded exactly when it is encodable -/

section IsOk

variable {ε α β : Type}

/-- A step succeeds and so does what follows, which does or does not whatever the step made. -/
theorem isOk_bind {x : Except ε α} {f : α → Except ε β} {b : Bool} (h : ∀ a, (f a).isOk = b) :
    (x >>= f).isOk = (x.isOk && b) := by
  cases x with
  | error e => rfl
  | ok a => exact (h a).trans (Bool.true_and b).symm

/-- What follows cannot fail. -/
theorem isOk_bind_pure {x : Except ε α} {f : α → Except ε β} (h : ∀ a, (f a).isOk = true) :
    (x >>= f).isOk = x.isOk := by
  rw [isOk_bind h, Bool.and_true]

theorem isOk_iff {x : Except ε α} : x.isOk = true ↔ ∃ a, x = .ok a := by
  cases x with
  | error e => simp [Except.isOk, Except.toBool]
  | ok a => simp [Except.isOk, Except.toBool]

end IsOk

theorem toUInt32_isOk (id : ObjectIdentifier) : id.toUInt32.isOk = id.fits := by
  unfold ObjectIdentifier.toUInt32 ObjectIdentifier.fits
  split
  · next h =>
      have hfits : ¬ (id.objectType.value ≤ 0x3FF ∧ id.instanceNumber ≤ 0x3FFFFF) := by
        rintro ⟨htype, hinstance⟩
        rcases h with h | h
        · exact UInt32.not_lt.mpr htype h
        · exact UInt32.not_lt.mpr hinstance h
      rw [decide_eq_false hfits]
      rfl
  · next h =>
      have hfits : id.objectType.value ≤ 0x3FF ∧ id.instanceNumber ≤ 0x3FFFFF :=
        ⟨UInt32.not_lt.mp (fun hlt => h (.inl hlt)), UInt32.not_lt.mp (fun hlt => h (.inr hlt))⟩
      rw [decide_eq_true hfits]
      rfl

theorem encodeObjectIdentifier_isOk (id : ObjectIdentifier) :
    (encodeObjectIdentifier id).isOk = id.fits := by
  rw [← toUInt32_isOk]
  exact isOk_bind_pure (fun _ => rfl)

theorem encodeContextObjectId_isOk (id : ObjectIdentifier) (tag : UInt8) :
    (encodeContextObjectId id tag).isOk = id.fits := by
  rw [← toUInt32_isOk]
  exact isOk_bind_pure (fun _ => rfl)

theorem yearOctet_isOk (year : UInt16) :
    (yearOctet year).isOk = decide (year = 255 ∨ 1900 ≤ year ∧ year ≤ 2154) := by
  unfold yearOctet
  by_cases hwild : year = 255
  · simp [hwild, Except.isOk, Except.toBool]
  · by_cases hrange : 1900 ≤ year ∧ year ≤ 2154
    · simp [hwild, hrange, Except.isOk, Except.toBool]
    · rw [if_neg hwild, if_neg hrange, decide_eq_false (by simp [hwild, hrange])]
      rfl

theorem encodeDate_isOk (date : DateValue) : (encodeDate date).isOk = dateFits date := by
  obtain ⟨year, month, day, weekday⟩ := date
  exact (isOk_bind_pure (fun _ => rfl)).trans (yearOctet_isOk year)

theorem encodeContextDate_isOk (tag : UInt8) (date : DateValue) :
    (encodeContextDate tag date).isOk = contextDateFits date := by
  obtain ⟨year, month, day, weekday⟩ := date
  refine (isOk_bind_pure (fun _ => rfl)).trans ?_
  unfold contextYearOctet contextDateFits
  by_cases hwild : year = 255
  · simp [hwild, Except.isOk, Except.toBool]
  · by_cases hrange : 1900 ≤ year ∧ year ≤ 2155
    · simp [hwild, hrange, Except.isOk, Except.toBool]
    · rw [if_neg hwild, if_neg hrange, decide_eq_false (by simp [hwild, hrange])]
      rfl

theorem ObjectPropertyReference.encode_isOk (reference : ObjectPropertyReference) :
    reference.encode.isOk = reference.objectIdentifier.fits := by
  rw [← encodeContextObjectId_isOk _ 0]
  exact isOk_bind_pure (fun _ => rfl)

theorem Recipient.encode_isOk (recipient : Recipient) : recipient.encode.isOk = recipient.fits := by
  cases recipient with
  | device id => exact encodeContextObjectId_isOk id 0
  | address mac => rfl

theorem RecipientProcess.encode_isOk (value : RecipientProcess) (tag : UInt8) :
    (value.encode tag).isOk = value.recipient.fits := by
  rw [← Recipient.encode_isOk]
  exact isOk_bind_pure (fun _ => rfl)

theorem DateRangeValue.encode_isOk (range : DateRangeValue) : range.encode.isOk = range.fits := by
  unfold DateRangeValue.fits
  rw [← encodeDate_isOk, ← encodeDate_isOk]
  exact isOk_bind (fun _ => isOk_bind_pure (fun _ => rfl))

theorem CalendarEntryValue.encode_isOk (entry : CalendarEntryValue) :
    entry.encode.isOk = entry.fits := by
  cases entry with
  | date day => exact encodeContextDate_isOk 0 day
  | dateRange range => exact (isOk_bind_pure (fun _ => rfl)).trans range.encode_isOk
  | weekNDay week => rfl

theorem SpecialEventPeriod.encode_isOk (period : SpecialEventPeriod) :
    period.encode.isOk = period.fits := by
  cases period with
  | calendarEntry entry => exact (isOk_bind_pure (fun _ => rfl)).trans entry.encode_isOk
  | calendarReference calendar => exact encodeContextObjectId_isOk calendar 1

theorem TimestampValue.encode_isOk (stamp : TimestampValue) : stamp.encode.isOk = stamp.fits := by
  cases stamp with
  | time value => rfl
  | sequenceNumber sequence => rfl
  | dateTime day value => exact (isOk_bind_pure (fun _ => rfl)).trans (encodeDate_isOk day)

theorem CovSubscriptionValue.encode_isOk (value : CovSubscriptionValue) :
    value.encode.isOk
      = (value.recipient.recipient.fits && value.monitoredProperty.objectIdentifier.fits) := by
  rw [← RecipientProcess.encode_isOk _ 0, ← ObjectPropertyReference.encode_isOk]
  exact isOk_bind (fun _ => isOk_bind_pure (fun _ => rfl))

mutual

/-- **A value is encoded exactly when it is encodable.** -/
theorem encodePropertyValue_isOk : ∀ value : PropertyValue,
    (encodePropertyValue value).isOk = encodable value
  | .real _ | .double _ | .boolean _ | .unsigned _ | .signed _ | .octetString _
  | .characterString _ | .enumerated _ | .bitString _ | .time _ | .valueSource _ | .null
  | .unknown _ => rfl
  | .date value => encodeDate_isOk value
  | .objectIdentifier value => encodeObjectIdentifier_isOk value
  | .array values => encodeValues_isOk values
  | .list values => encodeValues_isOk values
  | .covSubscription value => value.encode_isOk
  | .addressBinding value =>
      (isOk_bind_pure (fun _ => rfl)).trans (encodeObjectIdentifier_isOk value.deviceIdentifier)
  | .timestamp value => value.encode_isOk
  | .objectPropertyReference value => value.encode_isOk
  | .destination value => (isOk_bind_pure (fun _ => rfl)).trans value.recipient.encode_isOk
  | .dailySchedule ⟨timeValues⟩ =>
      (isOk_bind_pure (fun _ => rfl)).trans (encodeTimeValues_isOk timeValues)
  | .calendarEntry value => value.encode_isOk
  | .specialEvent ⟨period, timeValues, _⟩ => by
      show (encodePropertyValue (.specialEvent ⟨period, timeValues, _⟩)).isOk
        = (period.fits && allScheduled timeValues)
      rw [← SpecialEventPeriod.encode_isOk, ← encodeTimeValues_isOk timeValues]
      exact isOk_bind (fun _ => isOk_bind_pure (fun _ => rfl))
  | .dateRange value => value.encode_isOk

theorem encodeValues_isOk : ∀ values : List PropertyValue,
    (encodeValues values).isOk = allEncodable values
  | [] => rfl
  | value :: rest => by
      show (encodeValues (value :: rest)).isOk = (encodable value && allEncodable rest)
      rw [← encodePropertyValue_isOk value, ← encodeValues_isOk rest]
      exact isOk_bind (fun _ => isOk_bind_pure (fun _ => rfl))

theorem encodeTimeValues_isOk : ∀ timeValues : List (TimeValueValue PropertyValue),
    (encodeTimeValues timeValues).isOk = allScheduled timeValues
  | [] => rfl
  | ⟨time, value⟩ :: rest => by
      show (encodeTimeValues (⟨time, value⟩ :: rest)).isOk = (encodable value && allScheduled rest)
      rw [← encodePropertyValue_isOk value, ← encodeTimeValues_isOk rest]
      exact isOk_bind (fun _ => isOk_bind_pure (fun _ => rfl))

end

end BacnetRs.Property
