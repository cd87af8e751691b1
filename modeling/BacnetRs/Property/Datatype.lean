/-
  BacnetRs.Property.Datatype — which datatype a property holds
  (`property/datatype.rs`).

  The encoding of a constructed value does not say what it is.  The property
  does, and whether a run of values is an array, a list or a single value.  A
  property that is absent from the table holds application-tagged values, which
  describe themselves.
-/
import BacnetRs.Property.Complex

namespace BacnetRs.Property

open BacnetRs.Encoding BacnetRs.Object

/-- What one value of a property is. -/
inductive Element where
  /-- Application-tagged, whichever primitive it is. -/
  | any
  | covSubscription
  | addressBinding
  | timestamp
  | objectPropertyReference
  | destination
  | dailySchedule
  | calendarEntry
  | specialEvent
  | dateRange
  | valueSource
  deriving Repr, DecidableEq

/-- How a property holds its values. -/
inductive Datatype where
  | single (element : Element)
  /-- Indexable from 1; element 0 is the length. -/
  | array (element : Element)
  /-- Written and read whole. -/
  | list (element : Element)
  deriving Repr, DecidableEq

/-- `datatype`: of `property`, or `none` for one whose values are application-tagged. -/
def datatype (property : PropertyIdentifier) : Option Datatype :=
  match property with
  | .activeCovSubscriptions => some (.list .covSubscription)
  | .deviceAddressBinding => some (.list .addressBinding)
  | .eventTimeStamps => some (.array .timestamp)
  | .commandTimeArray => some (.array .timestamp)
  | .lastCommandTime => some (.single .timestamp)
  | .listOfObjectPropertyReferences => some (.list .objectPropertyReference)
  | .eventAlgorithmInhibitRef => some (.single .objectPropertyReference)
  | .objectPropertyReference => some (.single .objectPropertyReference)
  | .recipientList => some (.list .destination)
  | .weeklySchedule => some (.array .dailySchedule)
  | .dateList => some (.list .calendarEntry)
  | .exceptionSchedule => some (.array .specialEvent)
  | .effectivePeriod => some (.single .dateRange)
  | .valueSource => some (.single .valueSource)
  | .valueSourceArray => some (.array .valueSource)
  | .priorityArray => some (.array .any)
  | _ => none

namespace Datatype

/-- `Datatype::element`. -/
def element : Datatype → Element
  | single element => element
  | array element => element
  | list element => element

/-- `Datatype::collect`: the values of a property as it holds them. -/
def collect : Datatype → List PropertyValue → Option PropertyValue
  | single _, [value] => some value
  | single _, _ => none
  | array _, values => some (.array values)
  | list _, values => some (.list values)

end Datatype

namespace Element

/-- `Element::decode`. -/
def decode (self : Element) (data : Bytes) : Decoded (PropertyValue × Nat) :=
  match self with
  | any => decodePropertyValue data
  | covSubscription => Prod.map .covSubscription id <$> CovSubscriptionValue.decode data
  | addressBinding => Prod.map .addressBinding id <$> AddressBindingValue.decode data
  | timestamp => Prod.map .timestamp id <$> TimestampValue.decode data
  | objectPropertyReference =>
      Prod.map .objectPropertyReference id <$> ObjectPropertyReference.decode data
  | destination => Prod.map .destination id <$> DestinationValue.decode data
  | dailySchedule => Prod.map .dailySchedule id <$> DailyScheduleValue.decode data
  | calendarEntry => Prod.map .calendarEntry id <$> CalendarEntryValue.decode data
  | specialEvent => Prod.map .specialEvent id <$> SpecialEventValue.decode data
  | dateRange => Prod.map .dateRange id <$> DateRangeValue.decode data
  | valueSource => Prod.map .valueSource id <$> ValueSourceValue.decode data

/-- `Element::holds`. -/
def holds (self : Element) (value : PropertyValue) : Bool :=
  match self, value with
  | any, .array _ | any, .list _ | any, .covSubscription _ | any, .addressBinding _
  | any, .timestamp _ | any, .objectPropertyReference _ | any, .destination _
  | any, .dailySchedule _ | any, .calendarEntry _ | any, .specialEvent _ | any, .dateRange _
  | any, .valueSource _ | any, .unknown _ => false
  | any, _ => true
  | covSubscription, .covSubscription _ => true
  | addressBinding, .addressBinding _ => true
  | timestamp, .timestamp _ => true
  | objectPropertyReference, .objectPropertyReference _ => true
  | destination, .destination _ => true
  | dailySchedule, .dailySchedule _ => true
  | calendarEntry, .calendarEntry _ => true
  | specialEvent, .specialEvent _ => true
  | dateRange, .dateRange _ => true
  | valueSource, .valueSource _ => true
  | _, _ => false

/-- A round of `decode_all`: a value that took nothing is an error. -/
def decodeSome (self : Element) (data : Bytes) : Decoded (PropertyValue × Nat) := do
  let (value, length) ← self.decode data
  if length = 0 then Checked.fail .invalidLength
  return (value, length)

/-- `Element::decode_all`: a run of elements that fills `data`. -/
def decodeAll (self : Element) (data : Bytes) : Decoded (List PropertyValue) :=
  Prod.fst <$> readAll List.isEmpty self.decodeSome data

theorem decode_takes (self : Element) (data : Bytes) :
    Checked.Meets (self.decode data) (Takes data) := by
  cases self with
  | any => exact decodePropertyValue_takes data
  | covSubscription => exact takes_map (CovSubscriptionValue.decode_takes data)
  | addressBinding => exact takes_map (AddressBindingValue.decode_takes data)
  | timestamp => exact takes_map (TimestampValue.decode_takes data)
  | objectPropertyReference => exact takes_map (ObjectPropertyReference.decode_takes data)
  | destination => exact takes_map (DestinationValue.decode_takes data)
  | dailySchedule => exact takes_map (DailyScheduleValue.decode_takes data)
  | calendarEntry => exact takes_map (CalendarEntryValue.decode_takes data)
  | specialEvent => exact takes_map (SpecialEventValue.decode_takes data)
  | dateRange => exact takes_map (DateRangeValue.decode_takes data)
  | valueSource => exact takes_map (ValueSourceValue.decode_takes data)

/-- No element takes nothing, so the check never fires. -/
theorem decodeSome_eq (self : Element) (data : Bytes) : self.decodeSome data = self.decode data := by
  unfold decodeSome
  rcases (self.decode_takes data).cases with ⟨⟨value, length⟩, hvalue, htakes⟩ | ⟨e, he⟩
  · have hlength : length ≠ 0 := Nat.pos_iff_ne_zero.mp htakes.1
    rw [hvalue]
    show (if length = 0 then _ else _) = _
    rw [if_neg hlength]
    rfl
  · rw [he]
    rfl

theorem decodeSome_takes (self : Element) (data : Bytes) :
    Checked.Meets (self.decodeSome data) (Takes data) := by
  rw [decodeSome_eq]
  exact self.decode_takes data

/-- Decoding a run of elements does not panic. -/
theorem decodeAll_meets (self : Element) (data : Bytes) :
    Checked.Meets (self.decodeAll data) (fun _ => True) :=
  ((readAll_meets self.decodeSome_takes data).mono (fun _ _ => trivial)).map

end Element

end BacnetRs.Property
