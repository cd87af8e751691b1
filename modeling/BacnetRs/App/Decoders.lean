/-
  BacnetRs.App.Decoders — every decoder of what comes from the network.

  A datagram is taken apart by some sixty functions, each slicing on the
  strength of counts that others returned and of lengths that the datagram
  itself announces.  They are listed here as one type, so that what holds of
  all of them is one statement:

    * `Decoder`        — the decoders, with the arguments they take beside the data.
    * `Decoder.run`    — what one makes of some data: the count it reports, if it reports one.
    * `decoders_sound` — none panics, and a count is at least one and at most what there was.
-/
import BacnetRs.App.ApduCodec
import BacnetRs.Encoding.Stream
import BacnetRs.Network.Npdu
import BacnetRs.Service.AcknowledgeAlarm
import BacnetRs.Service.Choice
import BacnetRs.Service.CovNotification
import BacnetRs.Service.ReadResponse
import BacnetRs.Service.SubscribeCov
import BacnetRs.Service.TimeSynchronization
import BacnetRs.Service.WriteProperty

namespace BacnetRs.App

open BacnetRs.Encoding BacnetRs.Network BacnetRs.Object BacnetRs.Property BacnetRs.Service
open Checked

/-! ## §1. The decoders -/

/-- A decoder of untrusted octets, with its other arguments. -/
inductive Decoder where
  -- `network/mod.rs` and `app/mod.rs`
  | npdu
  | apdu
  -- `encoding/mod.rs`
  | tag
  | applicationTag
  | contextTag
  | openingTag (expected : UInt8)
  | closingTag (expected : UInt8)
  | boolean
  | unsigned
  | unsigned64
  | signed
  | signed64
  | real
  | double
  | octetString
  | characterString
  | characterSet (set : CharacterSet)
  | enumerated
  | bitString
  | date
  | time
  | objectIdentifier
  | contextUnsigned (expected : UInt8)
  | contextBoolean (expected : UInt8)
  | contextReal (expected : UInt8)
  | contextEnumerated (expected : UInt8)
  | contextObjectId (expected : UInt8)
  /-- The `decode_` methods of a stream, called one after another. -/
  | stream (values : List StreamValue)
  -- `property.rs`, `property/complex.rs` and `property/datatype.rs`
  | propertyValue
  | valueSource
  | dailySchedule
  | dateRange
  | calendarEntry
  | specialEvent
  | destination
  | objectPropertyReference
  | timestamp
  | covSubscription
  | addressBinding
  | recipient
  | recipientProcess (outerTag : UInt8)
  | nestedReference (outerTag : UInt8)
  | contextDate (expected : UInt8)
  | element (kind : Element)
  | elements (kind : Element)
  -- `service/mod.rs` and its modules
  | constructedValueEnd (position : Nat) (outerTag : UInt8)
  | propertyResultValues
  | valuesFor (property : PropertyIdentifier)
  | whoIs
  | iAm
  | readProperty
  | readPropertyResponse
  | writeProperty
  | writePropertyMultiple
  | writeAccessSpecification
  | propertyWrite
  | readPropertyMultiple
  | readAccessSpecification
  | propertyReference
  | readPropertyMultipleResponse
  | readAccessResult
  | propertyResult
  | subscribeCov
  | subscriptionHeader
  | subscribeCovProperty
  | dateTime
  | timeSynchronization
  | utcTimeSynchronization
  | covNotification
  | acknowledgeAlarm
  deriving Repr, DecidableEq

/-- The count of a decoder that reports one beside its value. -/
def counted {ε α : Type} (decoded : Checked ε (α × Nat)) : Checked Unit (Option Nat) :=
  (fun decoded => some decoded.2) <$> decoded.mapErr (fun _ => ())

/-- A decoder that reports no count. -/
def uncounted {ε α : Type} (decoded : Checked ε α) : Checked Unit (Option Nat) :=
  (fun _ => none) <$> decoded.mapErr (fun _ => ())

/-- The count of a header, which comes last. -/
def headed {α : Type} (decoded : Except EncodingError (α × Nat × Nat)) :
    Checked Unit (Option Nat) :=
  (fun decoded => some decoded.2.2) <$> (Checked.ofExcept decoded).mapErr (fun _ => ())

/-- The count of a marker, which is all that it returns. -/
def marked (decoded : Except EncodingError Nat) : Checked Unit (Option Nat) :=
  (fun consumed => some consumed) <$> (Checked.ofExcept decoded).mapErr (fun _ => ())

namespace Decoder

/-- What the decoder makes of `data`: the count it reports, if it reports one. -/
def run (data : Bytes) : Decoder → Checked Unit (Option Nat)
  | npdu => counted (Npdu.decode data)
  | apdu => uncounted (Apdu.decode data)
  | tag => headed (decodeTag data)
  | applicationTag => headed (decodeApplicationTag data)
  | contextTag => headed (decodeContextTag data)
  | openingTag expected => marked (decodeOpeningTag data expected)
  | closingTag expected => marked (decodeClosingTag data expected)
  | boolean => counted (decodeBoolean data)
  | unsigned => counted (decodeUnsigned data)
  | unsigned64 => counted (decodeUnsigned64 data)
  | signed => counted (decodeSigned data)
  | signed64 => counted (decodeSigned64 data)
  | real => counted (decodeReal data)
  | double => counted (decodeDouble data)
  | octetString => counted (decodeOctetString data)
  | characterString => counted (decodeCharacterString data)
  | characterSet set => uncounted (Checked.ofExcept (set.decode data))
  | enumerated => counted (decodeEnumerated data)
  | bitString => counted (decodeBitString data)
  | date => counted (decodeDate data)
  | time => counted (decodeTime data)
  | objectIdentifier => counted (decodeObjectIdentifier data)
  | contextUnsigned expected => counted (decodeContextUnsigned data expected)
  | contextBoolean expected => counted (decodeContextBoolean data expected)
  | contextReal expected => counted (decodeContextReal data expected)
  -- An enumerated context field is read as an unsigned one.
  | contextEnumerated expected => counted (decodeContextUnsigned data expected)
  | contextObjectId expected => counted (decodeContextObjectId data expected)
  | stream values => uncounted ((DecodingStream.new data).run values)
  | propertyValue => counted (decodePropertyValue data)
  | valueSource => counted (ValueSourceValue.decode data)
  | dailySchedule => counted (DailyScheduleValue.decode data)
  | dateRange => counted (DateRangeValue.decode data)
  | calendarEntry => counted (CalendarEntryValue.decode data)
  | specialEvent => counted (SpecialEventValue.decode data)
  | destination => counted (DestinationValue.decode data)
  | objectPropertyReference => counted (ObjectPropertyReference.decode data)
  | timestamp => counted (TimestampValue.decode data)
  | covSubscription => counted (CovSubscriptionValue.decode data)
  | addressBinding => counted (AddressBindingValue.decode data)
  | recipient => counted (Recipient.decode data)
  | recipientProcess outerTag => counted (RecipientProcess.decode outerTag data)
  | nestedReference outerTag => counted (decodeObjectPropertyReference outerTag data)
  | contextDate expected => counted (decodeContextDate data expected)
  | element kind => counted (kind.decode data)
  | elements kind => uncounted (kind.decodeAll data)
  | constructedValueEnd position outerTag =>
      uncounted (findConstructedValueEnd data position outerTag)
  | propertyResultValues => uncounted (decodePropertyResultValues data)
  | valuesFor property => uncounted (decodeValuesFor property data)
  | whoIs => uncounted (WhoIsRequest.decode data)
  | iAm => uncounted (IAmRequest.decode data)
  | readProperty => uncounted (ReadPropertyRequest.decode data)
  | readPropertyResponse => uncounted (ReadPropertyResponse.decode data)
  | writeProperty => uncounted (WritePropertyRequest.decode data)
  | writePropertyMultiple => uncounted (WritePropertyMultipleRequest.decode data)
  | writeAccessSpecification => counted (WriteAccessSpecification.decode data)
  | propertyWrite => counted (PropertyWrite.decode data)
  | readPropertyMultiple => uncounted (ReadPropertyMultipleRequest.decode data)
  | readAccessSpecification => counted (ReadAccessSpecification.decode data)
  | propertyReference => counted (PropertyReference.decode data)
  | readPropertyMultipleResponse => uncounted (ReadPropertyMultipleResponse.decode data)
  | readAccessResult => counted (ReadAccessResult.decode data)
  | propertyResult => counted (PropertyResult.decode data)
  | subscribeCov => uncounted (SubscribeCovRequest.decode data)
  | subscriptionHeader => counted (SubscriptionHeader.decode data)
  | subscribeCovProperty => uncounted (SubscribeCovPropertyRequest.decode data)
  | dateTime => counted (BacnetDateTime.decode data)
  | timeSynchronization => uncounted (TimeSynchronizationRequest.decode data)
  | utcTimeSynchronization => uncounted (UtcTimeSynchronizationRequest.decode data)
  | covNotification => uncounted (CovNotification.decode data)
  | acknowledgeAlarm => uncounted (AcknowledgeAlarmRequest.decode data)

end Decoder

/-! ## §2. What holds of them all -/

/-- What a count may be: at least one octet, and no more than there are. -/
def CountWithin (data : Bytes) (count : Option Nat) : Prop :=
  ∀ consumed, count = some consumed → 1 ≤ consumed ∧ consumed ≤ data.length

section Counts

variable {ε α : Type} {data : Bytes}

theorem counted_meets {decoded : Checked ε (α × Nat)} (h : Meets decoded (Takes data)) :
    Meets (counted decoded) (CountWithin data) := by
  refine Meets.map (h.mapErr.mono ?_)
  rintro ⟨_, consumed⟩ htakes _ ⟨rfl⟩
  exact htakes

theorem uncounted_meets {P : α → Prop} {decoded : Checked ε α} (h : Meets decoded P) :
    Meets (uncounted decoded) (CountWithin data) := by
  refine Meets.map (h.mapErr.mono ?_)
  rintro _ _ _ ⟨⟩

theorem headed_meets {decoded : Except EncodingError (α × Nat × Nat)}
    (h : ∀ {value length consumed}, decoded = .ok (value, length, consumed) →
      1 ≤ consumed ∧ consumed ≤ data.length) :
    Meets (headed decoded) (CountWithin data) := by
  refine Meets.map ((meets_ofExcept (fun _ hok => ?_)).mapErr)
  rintro _ ⟨rfl⟩
  exact h hok

theorem marked_meets {decoded : Except EncodingError Nat}
    (h : ∀ {consumed}, decoded = .ok consumed → 1 ≤ consumed ∧ consumed ≤ data.length) :
    Meets (marked decoded) (CountWithin data) := by
  refine Meets.map ((meets_ofExcept (fun _ hok => ?_)).mapErr)
  rintro _ ⟨rfl⟩
  exact h hok

end Counts

theorem Npdu.decode_takes (data : Bytes) : Meets (Npdu.decode data) (Takes data) :=
  (Npdu.decode_meets data).mono (fun _ h => ⟨by omega, h.2⟩)

/-- **No decoder panics**, and a count is at least one and at most what there was. -/
theorem Decoder.run_meets (data : Bytes) (decoder : Decoder) :
    Meets (decoder.run data) (CountWithin data) := by
  -- Each decoder by the fact its own module states, in the form its result takes.
  cases decoder with
  | npdu => exact counted_meets (Npdu.decode_takes data)
  | apdu => exact uncounted_meets (Apdu.decode_meets data)
  | tag => exact headed_meets decodeTag_takes
  | applicationTag => exact headed_meets decodeApplicationTag_takes
  | contextTag => exact headed_meets decodeContextTag_takes
  | openingTag expected => exact marked_meets decodeOpeningTag_takes
  | closingTag expected => exact marked_meets decodeClosingTag_takes
  | boolean => exact counted_meets (decodeBoolean_takes data)
  | unsigned => exact counted_meets (decodeUnsigned32_takes data .unsignedInt)
  | unsigned64 => exact counted_meets (decodeUnsigned64_takes data)
  | signed => exact counted_meets (decodeSigned_takes data)
  | signed64 => exact counted_meets (decodeSigned64_takes data)
  | real => exact counted_meets (decodeReal_takes data)
  | double => exact counted_meets (decodeDouble_takes data)
  | octetString => exact counted_meets (decodeOctetString_takes data)
  | characterString => exact counted_meets (decodeCharacterString_takes data)
  | characterSet set =>
      exact uncounted_meets (P := fun _ => True) (meets_ofExcept (fun _ _ => trivial))
  | enumerated => exact counted_meets (decodeUnsigned32_takes data .enumerated)
  | bitString => exact counted_meets (decodeBitString_takes data)
  | date => exact counted_meets (decodeDate_takes data)
  | time => exact counted_meets (decodeTime_takes data)
  | objectIdentifier => exact counted_meets (decodeObjectIdentifier_takes data)
  | contextUnsigned expected => exact counted_meets (decodeContextUnsigned_takes data expected)
  | contextBoolean expected => exact counted_meets (decodeContextBoolean_takes data expected)
  | contextReal expected => exact counted_meets (decodeContextReal_takes data expected)
  | contextEnumerated expected => exact counted_meets (decodeContextUnsigned_takes data expected)
  | contextObjectId expected => exact counted_meets (decodeContextObjectId_takes data expected)
  | stream values => exact uncounted_meets (DecodingStream.run_within data values)
  | propertyValue => exact counted_meets (decodePropertyValue_takes data)
  | valueSource => exact counted_meets (ValueSourceValue.decode_takes data)
  | dailySchedule => exact counted_meets (DailyScheduleValue.decode_takes data)
  | dateRange => exact counted_meets (DateRangeValue.decode_takes data)
  | calendarEntry => exact counted_meets (CalendarEntryValue.decode_takes data)
  | specialEvent => exact counted_meets (SpecialEventValue.decode_takes data)
  | destination => exact counted_meets (DestinationValue.decode_takes data)
  | objectPropertyReference => exact counted_meets (ObjectPropertyReference.decode_takes data)
  | timestamp => exact counted_meets (TimestampValue.decode_takes data)
  | covSubscription => exact counted_meets (CovSubscriptionValue.decode_takes data)
  | addressBinding => exact counted_meets (AddressBindingValue.decode_takes data)
  | recipient => exact counted_meets (Recipient.decode_takes data)
  | recipientProcess tag => exact counted_meets (RecipientProcess.decode_takes tag data)
  | nestedReference tag => exact counted_meets (decodeObjectPropertyReference_takes tag data)
  | contextDate tag => exact counted_meets (decodeContextDate_takes data tag)
  | element kind => exact counted_meets (kind.decode_takes data)
  | elements kind => exact uncounted_meets (kind.decodeAll_meets data)
  | constructedValueEnd position outerTag =>
      exact uncounted_meets (findConstructedValueEnd_meets data position outerTag)
  | propertyResultValues => exact uncounted_meets (decodePropertyResultValues_meets data)
  | valuesFor property => exact uncounted_meets (decodeValuesFor_meets property data)
  | whoIs => exact uncounted_meets (WhoIsRequest.decode_meets data)
  | iAm => exact uncounted_meets (IAmRequest.decode_meets data)
  | readProperty => exact uncounted_meets (ReadPropertyRequest.decode_meets data)
  | readPropertyResponse => exact uncounted_meets (ReadPropertyResponse.decode_meets data)
  | writeProperty => exact uncounted_meets (WritePropertyRequest.decode_meets data)
  | writePropertyMultiple => exact uncounted_meets (WritePropertyMultipleRequest.decode_meets data)
  | writeAccessSpecification => exact counted_meets (WriteAccessSpecification.decode_takes data)
  | propertyWrite => exact counted_meets (PropertyWrite.decode_takes data)
  | readPropertyMultiple => exact uncounted_meets (ReadPropertyMultipleRequest.decode_meets data)
  | readAccessSpecification =>
      exact counted_meets ((ReadAccessSpecification.decode_meets data).mono (fun _ h => h.1))
  | propertyReference => exact counted_meets (PropertyReference.decode_takes data)
  | readPropertyMultipleResponse =>
      exact uncounted_meets (ReadPropertyMultipleResponse.decode_meets data)
  | readAccessResult => exact counted_meets (ReadAccessResult.decode_takes data)
  | propertyResult => exact counted_meets (PropertyResult.decode_takes data)
  | subscribeCov => exact uncounted_meets (SubscribeCovRequest.decode_meets data)
  | subscriptionHeader => exact counted_meets (SubscriptionHeader.decode_takes data)
  | subscribeCovProperty => exact uncounted_meets (SubscribeCovPropertyRequest.decode_meets data)
  | dateTime => exact counted_meets (BacnetDateTime.decode_takes data)
  | timeSynchronization => exact uncounted_meets (TimeSynchronizationRequest.decode_meets data)
  | utcTimeSynchronization =>
      exact uncounted_meets (UtcTimeSynchronizationRequest.decode_meets data)
  | covNotification => exact uncounted_meets (CovNotification.decode_meets data)
  | acknowledgeAlarm => exact uncounted_meets (AcknowledgeAlarmRequest.decode_meets data)

theorem Decoder.run_within {data : Bytes} {decoder : Decoder} {consumed : Nat}
    (h : decoder.run data = .ok (some consumed)) : 1 ≤ consumed ∧ consumed ≤ data.length :=
  (Decoder.run_meets data decoder).ensures _ h consumed rfl

/-- **What is decoded from a position on stays within the data.** -/
theorem Decoder.run_drop {data : Bytes} {decoder : Decoder} {position consumed : Nat}
    (hposition : position ≤ data.length)
    (h : decoder.run (data.drop position) = .ok (some consumed)) :
    position + consumed ≤ data.length := by
  have hwithin := (Decoder.run_within h).2
  rw [List.length_drop] at hwithin
  omega

/-- A header read at a position announces an end that a 64-bit address reaches. -/
theorem header_end_lt {data : Bytes} (hlength : data.length < 2 ^ 63) {position : Nat}
    (hposition : position ≤ data.length) {tag : BACnetTag} {length consumed : Nat}
    (h : decodeTag (data.drop position) = .ok (tag, length, consumed)) :
    position + consumed + length < 2 ^ 64 := by
  obtain ⟨hannounced, hheader⟩ := decodeTag_bounds h
  omega

/-- **Decoding is total and safe**: for any octets a 64-bit address space holds, no decoder
panics and a count it reports is at least one and at most the octets there were; the sums it
forms, of a position and a count or of a position and what a header announces, do not wrap;
and the loops end by themselves, whatever bound above the number of octets they are run with.

`decode_time_values`, which stops before its closing tag, is the one helper that may take
nothing at all. -/
theorem decoders_sound (data : Bytes) (hlength : data.length < 2 ^ 63) :
    (∀ decoder : Decoder, (decoder.run data).panics = false
      ∧ ∀ consumed, decoder.run data = .ok (some consumed) →
          1 ≤ consumed ∧ consumed ≤ data.length)
    ∧ (∀ tag : UInt8, (decodeTimeValues tag data).panics = false
      ∧ ∀ values consumed, decodeTimeValues tag data = .ok (values, consumed) →
          consumed ≤ data.length)
    ∧ (∀ position ≤ data.length,
        (∀ tag length consumed, decodeTag (data.drop position) = .ok (tag, length, consumed) →
          position + consumed + length < 2 ^ 64)
        ∧ ∀ (decoder : Decoder) (consumed : Nat),
            decoder.run (data.drop position) = .ok (some consumed) →
              position + consumed ≤ data.length)
    ∧ ∀ fuel, data.length < fuel →
        (∀ {α : Type} (stop : Bytes → Bool) (decode : Bytes → Decoded (α × Nat)),
          (∀ rest, Meets (decode rest) (Takes rest)) →
            readUntil stop decode fuel data = readAll stop decode data)
        ∧ (∀ position outerTag, findEnd data fuel position [outerTag]
            = findConstructedValueEnd data position outerTag)
        ∧ decodeValues fuel data = decodeValues (data.length + 1) data
        ∧ decodeEntries fuel data = decodeEntries (data.length + 1) data := by
  refine ⟨fun decoder => ⟨?_, fun consumed h => Decoder.run_within h⟩, fun tag => ⟨?_, ?_⟩,
    fun position hposition => ⟨fun _ _ _ h => header_end_lt hlength hposition h,
      fun decoder consumed h => Decoder.run_drop hposition h⟩, fun fuel hfuel => ?_⟩
  · exact (Decoder.run_meets data decoder).panics_eq
  · exact (readAll_meets decodeTimeValue_takes data).panics_eq
  · intro values consumed h
    exact (readAll_meets decodeTimeValue_takes data).ensures _ h
  · refine ⟨fun stop decode hdecode => readUntil_of_lt hdecode hfuel,
      fun position outerTag => findEnd_of_lt hfuel position outerTag, ?_, ?_⟩
    · exact settled_of_succ (f := fun fuel => decodeValues fuel data) decodeValues_succ hfuel
    · exact settled_of_succ (f := fun fuel => decodeEntries fuel data) decodeEntries_succ
        hfuel

/-- A context field whose header announces `2 ^ 32 - 1` octets that are not there. -/
theorem decoders_sound_announced :
    [0x0D, 0xFF, 0xFF, 0xFF, 0xFF, 0xFF].length < 2 ^ 63
      ∧ ((Decoder.contextUnsigned 0).run [0x0D, 0xFF, 0xFF, 0xFF, 0xFF, 0xFF]).panics = false :=
  ⟨by decide,
    ((decoders_sound [0x0D, 0xFF, 0xFF, 0xFF, 0xFF, 0xFF] (by decide)).1 (.contextUnsigned 0)).1⟩

end BacnetRs.App
