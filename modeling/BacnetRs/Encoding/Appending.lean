/-
  BacnetRs.Encoding.Appending — encoders that write to a caller's buffer (`encoding/mod.rs`).

  An encoder appends to a buffer which the caller goes on filling, whatever the
  encoder returned.  What matters to the caller is that a value is there whole
  or not at all: a tag without its content takes the octets of the next value
  for its own.

    * `Complete`         — one tag with as much content as it announces.
    * `complete_application_iff`, `complete_context`
                         — a tag in front of what it counts.
    * `appendsWhole_iff` — which calls append a whole value or nothing.
-/
import BacnetRs.Encoding.PrimitiveCodec
import BacnetRs.Library.Attempt

namespace BacnetRs.Encoding

open BacnetRs.Object Octets Attempt

/-! ## §1. Complete values -/

/-- The octets of content behind a tag: a Boolean has its value in the length's place. -/
def contentLength (tag : BACnetTag) (length : Nat) : Nat :=
  if tag = .application .boolean then 0 else length

/-- `octets` is a tag and as much content as it announces, whatever comes next. -/
def Complete (octets : Bytes) : Prop :=
  ∃ tag length header, (∀ rest, decodeTag (octets ++ rest) = .ok (tag, length, header)) ∧
    octets.length = header + contentLength tag length

theorem complete_boolean (value : Bool) : Complete (encodeBoolean value) := by
  have hlength : (if value then 1 else 0) < 2 ^ 32 := by cases value <;> decide
  refine ⟨_, _, _, fun rest => decodeTag_encodeApplicationTag (by decide) hlength rest, ?_⟩
  rfl

/-- A tag's four length octets count the content behind it, if there are less than 2^32. -/
theorem complete_application_iff {tag : ApplicationTag} (htag : tag ≠ .reserved15)
    (hvalue : tag ≠ .boolean) (content : Bytes) :
    Complete (encodeApplicationTag tag content.length ++ content) ↔ content.length < 2 ^ 32 := by
  have hcounted (length : Nat) : contentLength (.application tag) length = length :=
    if_neg fun h => hvalue (BACnetTag.application.inj h)
  constructor
  · -- What the tag announces is the length modulo 2^32, and that is to be the length.
    rintro ⟨found, length, header, hread, hlength⟩
    have htaken := hread []
    rw [List.append_assoc, decodeTag_encodeApplicationTag_mod htag] at htaken
    cases htaken
    rw [List.length_append, hcounted] at hlength
    have hmod : content.length % 2 ^ 32 < 2 ^ 32 := Nat.mod_lt _ (by decide)
    omega
  · intro hbound
    refine ⟨.application tag, content.length, (encodeApplicationTag tag content.length).length,
      ?_, ?_⟩
    · intro rest
      rw [List.append_assoc, decodeTag_encodeApplicationTag htag hbound]
    · rw [hcounted, List.length_append]

theorem complete_context (tagNumber : UInt8) {content : Bytes} (h : content.length < 2 ^ 32) :
    Complete (encodeContextTag tagNumber content.length ++ content) := by
  refine ⟨.context tagNumber, content.length, (encodeContextTag tagNumber content.length).length,
    ?_, ?_⟩
  · intro rest
    rw [List.append_assoc, decodeTag_encodeContextTag tagNumber h]
  · rw [List.length_append]
    rfl

/-! ## §2. The encoders -/

/-- A call of an encoder, but for the buffer it is handed. -/
inductive EncoderCall where
  | boolean (value : Bool)
  | unsigned (value : UInt32)
  | unsigned64 (value : UInt64)
  | signed (value : Int32)
  | signed64 (value : Int64)
  | real (value : F32)
  | double (value : F64)
  | octetString (value : Bytes)
  | characterString (value : String)
  | enumerated (value : UInt32)
  | date (value : DateValue)
  | time (value : TimeValue)
  | objectIdentifier (objectId : ObjectIdentifier)
  | bitString (bits : List Bool)
  | contextBoolean (tagNumber : UInt8) (value : Bool)
  | contextReal (tagNumber : UInt8) (value : F32)
  deriving DecidableEq

/-- `encode_date`: the tag is written before the year is looked at. -/
def encodeDateTo (buffer : Bytes) (date : DateValue) : Attempt EncodingError Bytes :=
  let (year, month, day, weekday) := date
  let buffer := buffer ++ encodeApplicationTag .date 4
  Attempt.store buffer (fun octet => buffer ++ [octet, month, day, weekday]) (yearOctet year)

/-- `encode_object_identifier`: nothing is written before the identifier is converted. -/
def encodeObjectIdentifierTo (buffer : Bytes) (objectId : ObjectIdentifier) :
    Attempt EncodingError Bytes :=
  Attempt.store buffer
    (fun value => buffer ++ encodeApplicationTag .objectIdentifier 4 ++ beOctets 4 value.toNat)
    objectId.toUInt32

/-- The call, with a buffer.  Most encoders have nothing to check, and write. -/
def EncoderCall.appendTo (buffer : Bytes) : EncoderCall → Attempt EncodingError Bytes
  | .boolean value => done (buffer ++ encodeBoolean value)
  | .unsigned value => done (buffer ++ encodeUnsigned value)
  | .unsigned64 value => done (buffer ++ encodeUnsigned64 value)
  | .signed value => done (buffer ++ encodeSigned value)
  | .signed64 value => done (buffer ++ encodeSigned64 value)
  | .real value => done (buffer ++ encodeReal value)
  | .double value => done (buffer ++ encodeDouble value)
  | .octetString value => done (buffer ++ encodeOctetString value)
  | .characterString value => done (buffer ++ encodeCharacterString value)
  | .enumerated value => done (buffer ++ encodeEnumerated value)
  | .date value => encodeDateTo buffer value
  | .time value => done (buffer ++ encodeTime value)
  | .objectIdentifier objectId => encodeObjectIdentifierTo buffer objectId
  | .bitString bits => done (buffer ++ encodeBitString bits)
  | .contextBoolean tagNumber value => done (buffer ++ encodeContextBoolean value tagNumber)
  | .contextReal tagNumber value => done (buffer ++ encodeContextReal value tagNumber)

/-! ## §3. Whole or not at all -/

/-- The attempt leaves `buffer` as it was, or with one complete value after it. -/
def AppendsWhole (buffer : Bytes) (attempt : Attempt EncodingError Bytes) : Prop :=
  Atomic buffer attempt ∧
    ∀ buffer', attempt = done buffer' → ∃ value, buffer' = buffer ++ value ∧ Complete value

/-- The year has an octet, and the content can be counted. -/
def EncoderCall.Fits : EncoderCall → Prop
  | .date (year, _, _, _) => year = 255 ∨ (1900 ≤ year ∧ year ≤ 2154)
  | .octetString value => value.length < 2 ^ 32
  | .characterString value => value.toUTF8.toList.length + 1 < 2 ^ 32
  | .bitString bits => (bits.length + 7) / 8 + 1 < 2 ^ 32
  | _ => True

/-- What only writes appends a whole value when what it writes is one. -/
theorem appendsWhole_done (buffer octets : Bytes) :
    AppendsWhole buffer (done (buffer ++ octets)) ↔ Complete octets := by
  constructor
  · rintro ⟨-, hdone⟩
    obtain ⟨value, hsame, hcomplete⟩ := hdone _ rfl
    rwa [List.append_cancel_left hsame]
  · intro hcomplete
    refine ⟨atomic_done _ _, ?_⟩
    intro buffer' h
    cases h
    exact ⟨octets, rfl, hcomplete⟩

/-- What checks before it writes leaves the buffer when it fails. -/
theorem appendsWhole_store {α : Type} (buffer : Bytes) {write : α → Bytes}
    {converted : Except EncodingError α} (h : ∀ a, converted = .ok a → Complete (write a)) :
    AppendsWhole buffer (Attempt.store buffer (fun a => buffer ++ write a) converted) := by
  cases converted with
  | error e =>
      refine ⟨atomic_refused _ _, ?_⟩
      intro buffer' hdone
      cases hdone
  | ok a => exact (appendsWhole_done buffer (write a)).mpr (h a rfl)

theorem complete_unsigned {tag : ApplicationTag} (htag : tag ≠ .reserved15)
    (hvalue : tag ≠ .boolean) (value : UInt32) :
    Complete (encodeApplicationTag tag (unsignedOctets value).length ++ unsignedOctets value) := by
  obtain ⟨width, _, hwidth, _, hoctets⟩ := unsignedOctets_eq value
  refine (complete_application_iff htag hvalue _).mpr ?_
  rw [hoctets, length_beOctets]
  omega

/-- A numeral of a few octets behind its tag. -/
theorem complete_beOctets {tag : ApplicationTag} (htag : tag ≠ .reserved15)
    (hvalue : tag ≠ .boolean) {width : Nat} (hwidth : width ≤ 8) (n : Nat) :
    Complete (encodeApplicationTag tag width ++ beOctets width n) := by
  have hcomplete := complete_application_iff htag hvalue (beOctets width n)
  rw [length_beOctets] at hcomplete
  exact hcomplete.mpr (by omega)

theorem complete_context_beOctets (tagNumber : UInt8) {width : Nat} (hwidth : width ≤ 8) (n : Nat) :
    Complete (encodeContextTag tagNumber width ++ beOctets width n) := by
  have hlength : (beOctets width n).length < 2 ^ 32 := by
    rw [length_beOctets]
    omega
  have hcomplete := complete_context tagNumber hlength
  rwa [length_beOctets] at hcomplete

/-- Four octets behind their tag. -/
theorem complete_quad {tag : ApplicationTag} (htag : tag ≠ .reserved15) (hvalue : tag ≠ .boolean)
    (a b c d : UInt8) : Complete (encodeApplicationTag tag 4 ++ [a, b, c, d]) := by
  refine (complete_application_iff htag hvalue [a, b, c, d]).mpr ?_
  show 4 < 2 ^ 32
  decide

theorem year_fits_iff (year : UInt16) :
    (∃ octet, yearOctet year = .ok octet) ↔ year = 255 ∨ (1900 ≤ year ∧ year ≤ 2154) := by
  unfold yearOctet
  by_cases hwildcard : year = 255
  · rw [if_pos hwildcard]
    exact iff_of_true ⟨_, rfl⟩ (.inl hwildcard)
  · by_cases hrange : 1900 ≤ year ∧ year ≤ 2154
    · rw [if_neg hwildcard, if_pos hrange]
      exact iff_of_true ⟨_, rfl⟩ (.inr hrange)
    · rw [if_neg hwildcard, if_neg hrange]
      refine iff_of_false ?_ (not_or.mpr ⟨hwildcard, hrange⟩)
      rintro ⟨octet, h⟩
      cases h

/-- **A date is appended whole exactly when its year has an octet**: the tag is there before
the year is refused. -/
theorem appendsWhole_date_iff (buffer : Bytes) (date : DateValue) :
    AppendsWhole buffer (encodeDateTo buffer date)
      ↔ date.1 = 255 ∨ (1900 ≤ date.1 ∧ date.1 ≤ 2154) := by
  obtain ⟨year, month, day, weekday⟩ := date
  rw [← year_fits_iff]
  show AppendsWhole buffer (Attempt.store (buffer ++ encodeApplicationTag .date 4)
    (fun octet => buffer ++ encodeApplicationTag .date 4 ++ [octet, month, day, weekday])
    (yearOctet year)) ↔ ∃ octet, yearOctet year = .ok octet
  cases yearOctet year with
  | ok octet =>
      refine iff_of_true ?_ ⟨octet, rfl⟩
      show AppendsWhole buffer (done (buffer ++ encodeApplicationTag .date 4 ++
        [octet, month, day, weekday]))
      rw [List.append_assoc, appendsWhole_done]
      exact complete_quad (by decide) (by decide) octet month day weekday
  | error e =>
      refine iff_of_false ?_ ?_
      · -- The tag's octet is in the buffer.
        rintro ⟨hatomic, -⟩
        have hlength := congrArg List.length (hatomic e rfl)
        have htag : (encodeApplicationTag .date 4).length = 1 := rfl
        rw [show (Attempt.store (buffer ++ encodeApplicationTag .date 4)
          (fun octet => buffer ++ encodeApplicationTag .date 4 ++ [octet, month, day, weekday])
          (.error e)).1 = buffer ++ encodeApplicationTag .date 4 from rfl, List.length_append,
          htag] at hlength
        omega
      · rintro ⟨octet, h⟩
        cases h

/-- **Which calls append a whole value or nothing.** -/
theorem appendsWhole_iff (call : EncoderCall) (buffer : Bytes) :
    AppendsWhole buffer (call.appendTo buffer) ↔ call.Fits := by
  cases call with
  -- A boolean or a number is always whole: any tag counts its few octets.
  | boolean value => exact iff_of_true ((appendsWhole_done ..).mpr (complete_boolean value)) trivial
  | unsigned value | enumerated value =>
      exact iff_of_true ((appendsWhole_done ..).mpr
        (complete_unsigned (by decide) (by decide) value)) trivial
  | unsigned64 value =>
      obtain ⟨width, _, hwidth, _, hoctets⟩ := unsigned64Octets_eq value
      refine iff_of_true ((appendsWhole_done ..).mpr ?_) trivial
      unfold encodeUnsigned64
      rw [hoctets, length_beOctets]
      exact complete_beOctets (by decide) (by decide) hwidth _
  | signed value =>
      have hwidth := (signedWidth_bounds value.le_toInt (Int.lt_add_one_iff.mp value.toInt_lt)).1.2
      exact iff_of_true ((appendsWhole_done ..).mpr
        (complete_beOctets (by decide) (by decide) (by omega) _)) trivial
  | signed64 value =>
      have hwidth := (signed64Width_bounds value.le_toInt
        (Int.lt_add_one_iff.mp value.toInt_lt)).1.2
      exact iff_of_true ((appendsWhole_done ..).mpr
        (complete_beOctets (by decide) (by decide) hwidth _)) trivial
  | real value | double value =>
      exact iff_of_true ((appendsWhole_done ..).mpr
        (complete_beOctets (by decide) (by decide) (by decide) _)) trivial
  -- A string is whole as long as its length is written without loss.
  | octetString value =>
      exact (appendsWhole_done ..).trans (complete_application_iff (by decide) (by decide) value)
  | characterString value =>
      exact (appendsWhole_done ..).trans
        (complete_application_iff (by decide) (by decide) (0 :: value.toUTF8.toList))
  | date value => exact appendsWhole_date_iff buffer value
  | time value =>
      obtain ⟨hour, minute, second, hundredths⟩ := value
      exact iff_of_true ((appendsWhole_done ..).mpr
        (complete_quad (by decide) (by decide) hour minute second hundredths)) trivial
  | objectIdentifier objectId =>
      refine iff_of_true ?_ trivial
      show AppendsWhole buffer (encodeObjectIdentifierTo buffer objectId)
      unfold encodeObjectIdentifierTo
      simp only [List.append_assoc]
      -- An identifier out of range fails before an octet is written.
      exact appendsWhole_store buffer fun value _ =>
        complete_beOctets (by decide) (by decide) (by decide) _
  | bitString bits =>
      refine (appendsWhole_done ..).trans ?_
      have hcounted := complete_application_iff
        (show ApplicationTag.bitString ≠ .reserved15 by decide) (by decide)
        (UInt8.ofNat (if bits.length % 8 = 0 then 0 else 8 - bits.length % 8) ::
          (chunks 8 bits).map bitsOctet)
      rw [List.length_cons, List.length_map, length_chunks 8 (by decide)] at hcounted
      exact hcounted
  | contextBoolean tagNumber value =>
      have hlength : [if value then (1 : UInt8) else 0].length < 2 ^ 32 := by
        rw [List.length_singleton]
        decide
      exact iff_of_true ((appendsWhole_done ..).mpr (complete_context tagNumber hlength)) trivial
  | contextReal tagNumber value =>
      exact iff_of_true ((appendsWhole_done ..).mpr
        (complete_context_beOctets tagNumber (by decide) _)) trivial

theorem complete_contextUnsigned (value : UInt32) (tagNumber : UInt8) :
    Complete (encodeContextUnsigned value tagNumber) := by
  obtain ⟨width, _, hwidth, _, hoctets⟩ := unsignedOctets_eq value
  unfold encodeContextUnsigned
  rw [hoctets, length_beOctets]
  exact complete_context_beOctets tagNumber (by omega) _

theorem complete_contextObjectId {objectId : ObjectIdentifier} {tagNumber : UInt8} {octets : Bytes}
    (h : encodeContextObjectId objectId tagNumber = .ok octets) : Complete octets := by
  obtain ⟨value, _, h⟩ := Checked.bind_eq_ok.mp h
  cases h
  exact complete_context_beOctets tagNumber (by decide) _

/-- **An encoder appends a whole value or leaves the buffer as it was**, but for a date whose
year has no octet and for what is too long to be counted.  What the encoders of context fields
return for the caller to append is a whole value. -/
theorem encoders_append_whole (call : EncoderCall) (buffer : Bytes) :
    (AppendsWhole buffer (call.appendTo buffer) ↔ call.Fits) ∧
    (∀ (value : UInt32) (tagNumber : UInt8),
      Complete (encodeContextUnsigned value tagNumber) ∧
      Complete (encodeContextEnumerated value tagNumber)) ∧
    (∀ (objectId : ObjectIdentifier) (tagNumber : UInt8) (octets : Bytes),
      encodeContextObjectId objectId tagNumber = .ok octets → Complete octets) :=
  ⟨appendsWhole_iff call buffer,
    fun value tagNumber =>
      ⟨complete_contextUnsigned value tagNumber, complete_contextUnsigned value tagNumber⟩,
    fun _ _ _ => complete_contextObjectId⟩

/-- The year 1899 is refused behind a date's tag. -/
theorem date_1899_leaves_tag :
    (EncoderCall.date (1899, 1, 1, 1)).appendTo [] = refused [0xA4] .valueOutOfRange ∧
    ¬ ∀ (call : EncoderCall) (buffer : Bytes), AppendsWhole buffer (call.appendTo buffer) := by
  have hrefused : (EncoderCall.date (1899, 1, 1, 1)).appendTo []
      = refused [0xA4] .valueOutOfRange := rfl
  refine ⟨hrefused, ?_⟩
  intro hall
  have hatomic := (hall (.date (1899, 1, 1, 1)) []).1
  rw [hrefused] at hatomic
  exact absurd (hatomic _ rfl) (by decide)

end BacnetRs.Encoding
