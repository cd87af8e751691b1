/-
  BacnetRs.Property.Value — property values (`property.rs`, `property/complex.rs`).

  A property value is a primitive, a collection of values or one of the
  constructed types the objects carry.  Equality is the derived `PartialEq` of
  the source: structural, except that floating-point parts compare as numbers,
  so a value that holds a NaN is not equal to itself.
-/
import BacnetRs.Encoding.Consumption

namespace BacnetRs.Property

open BacnetRs.Encoding BacnetRs.Object

/-! ## §1. Constructed values -/

/-- A BACnet address inside a constructed value. -/
structure BacnetAddress where
  network : UInt16
  macAddress : Bytes
  deriving Repr, DecidableEq

/-- One entry of Device_Address_Binding. -/
structure AddressBindingValue where
  deviceIdentifier : ObjectIdentifier
  address : BacnetAddress
  deriving Repr, DecidableEq

/-- Who a notification goes to. -/
inductive Recipient where
  | device (id : ObjectIdentifier)
  | address (address : BacnetAddress)
  deriving Repr, DecidableEq

/-- Destination and process identifier for notifications. -/
structure RecipientProcess where
  recipient : Recipient
  processIdentifier : UInt32
  deriving Repr, DecidableEq

/-- One entry of a Recipient_List. -/
structure DestinationValue where
  validDays : List Bool
  fromTime : TimeValue
  toTime : TimeValue
  recipient : Recipient
  processIdentifier : UInt32
  issueConfirmedNotifications : Bool
  transitions : List Bool
  deriving Repr, DecidableEq

/-- An inclusive span between two dates. -/
structure DateRangeValue where
  start : DateValue
  end_ : DateValue
  deriving Repr, DecidableEq

/-- A recurring month, week-of-month and weekday pattern. -/
structure WeekNDayValue where
  month : UInt8
  weekOfMonth : UInt8
  dayOfWeek : UInt8
  deriving Repr, DecidableEq

/-- A calendar entry. -/
inductive CalendarEntryValue where
  | date (date : DateValue)
  | dateRange (range : DateRangeValue)
  | weekNDay (week : WeekNDayValue)
  deriving Repr, DecidableEq

/-- The period a special event applies to. -/
inductive SpecialEventPeriod where
  | calendarEntry (entry : CalendarEntryValue)
  | calendarReference (calendar : ObjectIdentifier)
  deriving Repr, DecidableEq

/-- A value source; `None` is the only choice the source names. -/
inductive ValueSourceValue where
  | none
  deriving Repr, DecidableEq

/-- A time stamp. -/
inductive TimestampValue where
  | time (time : TimeValue)
  | sequenceNumber (sequence : UInt32)
  | dateTime (date : DateValue) (time : TimeValue)
  deriving Repr, DecidableEq

/-- A reference to a property of an object. -/
structure ObjectPropertyReference where
  objectIdentifier : ObjectIdentifier
  propertyIdentifier : PropertyIdentifier
  arrayIndex : Option UInt32
  deriving Repr, DecidableEq

/-- One entry of Active_COV_Subscriptions. -/
structure CovSubscriptionValue where
  recipient : RecipientProcess
  monitoredProperty : ObjectPropertyReference
  issueConfirmedNotifications : Bool
  timeRemaining : UInt32
  covIncrement : Option F32
  deriving Repr, DecidableEq

/-- A scheduled value at a time of day; `ν` is the type of property values. -/
structure TimeValueValue (ν : Type) where
  time : TimeValue
  value : ν

/-- One day of a Weekly_Schedule. -/
structure DailyScheduleValue (ν : Type) where
  timeValues : List (TimeValueValue ν)

/-- One entry of an Exception_Schedule. -/
structure SpecialEventValue (ν : Type) where
  period : SpecialEventPeriod
  timeValues : List (TimeValueValue ν)
  priority : UInt32

/-! ## §2. Property values -/

/-- A decoded property value. -/
inductive PropertyValue where
  | real (value : F32)
  | double (value : F64)
  | boolean (value : Bool)
  | unsigned (value : UInt64)
  | signed (value : Int64)
  | octetString (value : Bytes)
  | characterString (value : String)
  | enumerated (value : UInt32)
  | bitString (bits : List Bool)
  | date (value : DateValue)
  | time (value : TimeValue)
  | objectIdentifier (value : ObjectIdentifier)
  /-- An ordered array of property values. -/
  | array (values : List PropertyValue)
  /-- An ordered list of property values. -/
  | list (values : List PropertyValue)
  | covSubscription (value : CovSubscriptionValue)
  | addressBinding (value : AddressBindingValue)
  | timestamp (value : TimestampValue)
  | objectPropertyReference (value : ObjectPropertyReference)
  | destination (value : DestinationValue)
  | dailySchedule (value : DailyScheduleValue PropertyValue)
  | calendarEntry (value : CalendarEntryValue)
  | specialEvent (value : SpecialEventValue PropertyValue)
  | dateRange (value : DateRangeValue)
  | valueSource (value : ValueSourceValue)
  | null
  /-- An encoded value of a type this implementation does not decode. -/
  | unknown (encoded : Bytes)

/-- `==` on an optional `f32`. -/
def optionF32Eq : Option F32 → Option F32 → Bool
  | none, none => true
  | some x, some y => x.eq y
  | _, _ => false

/-- `==` on `CovSubscriptionValue`. -/
def CovSubscriptionValue.eq (x y : CovSubscriptionValue) : Bool :=
  x.recipient == y.recipient && x.monitoredProperty == y.monitoredProperty
    && x.issueConfirmedNotifications == y.issueConfirmedNotifications
    && x.timeRemaining == y.timeRemaining && optionF32Eq x.covIncrement y.covIncrement

namespace PropertyValue

mutual

/-- `==` on property values. -/
def eq : PropertyValue → PropertyValue → Bool
  | .real x, .real y => x.eq y
  | .double x, .double y => x.eq y
  | .boolean x, .boolean y => x == y
  | .unsigned x, .unsigned y => x == y
  | .signed x, .signed y => x == y
  | .octetString x, .octetString y => x == y
  | .characterString x, .characterString y => x == y
  | .enumerated x, .enumerated y => x == y
  | .bitString x, .bitString y => x == y
  | .date x, .date y => x == y
  | .time x, .time y => x == y
  | .objectIdentifier x, .objectIdentifier y => x == y
  | .array xs, .array ys => eqList xs ys
  | .list xs, .list ys => eqList xs ys
  | .covSubscription x, .covSubscription y => x.eq y
  | .addressBinding x, .addressBinding y => x == y
  | .timestamp x, .timestamp y => x == y
  | .objectPropertyReference x, .objectPropertyReference y => x == y
  | .destination x, .destination y => x == y
  | .dailySchedule ⟨xs⟩, .dailySchedule ⟨ys⟩ => eqTimeValues xs ys
  | .calendarEntry x, .calendarEntry y => x == y
  | .specialEvent ⟨period, xs, priority⟩, .specialEvent ⟨period', ys, priority'⟩ =>
      period == period' && eqTimeValues xs ys && priority == priority'
  | .dateRange x, .dateRange y => x == y
  | .valueSource x, .valueSource y => x == y
  | .null, .null => true
  | .unknown x, .unknown y => x == y
  | _, _ => false

/-- `==` on collections of values, element by element. -/
def eqList : List PropertyValue → List PropertyValue → Bool
  | [], [] => true
  | x :: xs, y :: ys => eq x y && eqList xs ys
  | _, _ => false

/-- `==` on scheduled values, element by element. -/
def eqTimeValues : List (TimeValueValue PropertyValue) → List (TimeValueValue PropertyValue) → Bool
  | [], [] => true
  | ⟨t, x⟩ :: xs, ⟨t', y⟩ :: ys => t == t' && eq x y && eqTimeValues xs ys
  | _, _ => false

end

end PropertyValue

/-! ## §3. Decoding one value -/

/-- `decode_property_value`: by the application tag in front. -/
def decodePropertyValue (data : Bytes) : Decoded (PropertyValue × Nat) := do
  if data.isEmpty then Checked.fail .invalidTag
  let (tag, length, consumed) ← Checked.ofExcept (decodeApplicationTag data)
  match tag with
  | .null => return (.null, consumed)
  | .boolean => Prod.map .boolean id <$> decodeBoolean data
  | .unsignedInt => Prod.map .unsigned id <$> decodeUnsigned64 data
  | .signedInt => Prod.map .signed id <$> decodeSigned64 data
  | .real => Prod.map .real id <$> decodeReal data
  | .double => Prod.map .double id <$> decodeDouble data
  | .octetString => Prod.map .octetString id <$> decodeOctetString data
  | .characterString => Prod.map .characterString id <$> decodeCharacterString data
  | .bitString => Prod.map .bitString id <$> decodeBitString data
  | .enumerated => Prod.map .enumerated id <$> decodeEnumerated data
  | .date => Prod.map .date id <$> decodeDate data
  | .time => Prod.map .time id <$> decodeTime data
  | .objectIdentifier => Prod.map .objectIdentifier id <$> decodeObjectIdentifier data
  | .reserved13 | .reserved14 | .reserved15 =>
      -- Exactly this encoded value is kept; the remainder belongs to the next.
      let raw ← Checked.orFail .bufferUnderflow (Octets.range? data 0 (consumed + length))
      return (.unknown raw, consumed + length)

/-- A value takes at least the octet of its tag, and no more than there is. -/
theorem decodePropertyValue_takes (data : Bytes) :
    Checked.Meets (decodePropertyValue data) (Takes data) := by
  unfold decodePropertyValue
  refine Checked.meets_guard (fun _ => ?_)
  refine (Checked.meets_ofExcept (P := fun tag => 1 ≤ tag.2.2 ∧ tag.2.2 ≤ data.length)
    (fun _ h => decodeApplicationTag_takes h)).bind ?_
  rintro ⟨tag, length, consumed⟩ ⟨hconsumed, hwithin⟩
  have hraw : Checked.Meets (Checked.orFail (ε := EncodingError) .bufferUnderflow
        (Octets.range? data 0 (consumed + length))
      >>= fun raw => .ok (PropertyValue.unknown raw, consumed + length)) (Takes data) :=
    (Checked.meets_orFail (P := fun _ => consumed + length ≤ data.length)
      (fun _ h => (Octets.range?_within h).2)).bind (fun _ hlength => takes_ok hconsumed hlength)
  cases tag with
  | null => exact Checked.meets_ok ⟨hconsumed, hwithin⟩
  | boolean => exact takes_map (decodeBoolean_takes data)
  | unsignedInt => exact takes_map (decodeUnsigned64_takes data)
  | signedInt => exact takes_map (decodeSigned64_takes data)
  | real => exact takes_map (decodeReal_takes data)
  | double => exact takes_map (decodeDouble_takes data)
  | octetString => exact takes_map (decodeOctetString_takes data)
  | characterString => exact takes_map (decodeCharacterString_takes data)
  | bitString => exact takes_map (decodeBitString_takes data)
  | enumerated => exact takes_map (decodeUnsigned32_takes data .enumerated)
  | date => exact takes_map (decodeDate_takes data)
  | time => exact takes_map (decodeTime_takes data)
  | objectIdentifier => exact takes_map (decodeObjectIdentifier_takes data)
  | reserved13 => exact hraw
  | reserved14 => exact hraw
  | reserved15 => exact hraw

/-! ## §4. Object property references -/

/-- `context_tag_matches`: whether the next tag is primitive context `tag`, and of
the given length when one is given. -/
def contextTagMatches (data : Bytes) (tag : UInt8) (length : Option Nat) : Bool :=
  match decodeContextTag data with
  | .ok (actual, actualLength, _) =>
      actual == tag && length.all (fun expected => actualLength == expected)
  | .error _ => false

namespace ObjectPropertyReference

/-- `ObjectPropertyReference::encode`. -/
def encode (reference : ObjectPropertyReference) : Except EncodingError Bytes := do
  let object ← encodeContextObjectId reference.objectIdentifier 0
  let property := encodeContextEnumerated reference.propertyIdentifier.value 1
  let index :=
    match reference.arrayIndex with
    | some index => encodeContextUnsigned index 2
    | none => []
  return object ++ property ++ index

/-- `ObjectPropertyReference::decode`. -/
def decode (data : Bytes) : Decoded (ObjectPropertyReference × Nat) := do
  let (objectIdentifier, consumed) ← decodeContextObjectId data 0
  let rest ← Octets.dropFrom data consumed
  let (property, length) ← decodeContextUnsigned rest 1
  let consumed := consumed + length
  let rest ← Octets.dropFrom data consumed
  if contextTagMatches rest 2 none then
    let (index, length) ← decodeContextUnsigned rest 2
    return (⟨objectIdentifier, ⟨property⟩, some index⟩, consumed + length)
  else
    return (⟨objectIdentifier, ⟨property⟩, none⟩, consumed)

end ObjectPropertyReference

end BacnetRs.Property
