/-
  BacnetRs.Encoding.EncodingStream — values written to a bounded stream (`encoding/mod.rs`).

  The stream looks whether its bound is reached and then lets the value encode
  itself, however many octets that takes.  What is in the stream stays within
  the bound when every value has the room it needs, and the room a value needs
  can be told before it is encoded.

    * `EncodableValue.length_encodeTo`, `length_encodeContextTo`
                             — how many octets a value takes.
    * `stream_bounded_iff`   — which runs stay within the bound.
-/
import BacnetRs.Encoding.Encodable
import BacnetRs.Encoding.Integers
import BacnetRs.Library.Attempt
import BacnetRs.Library.Machine

namespace BacnetRs.Encoding

open Octets Attempt

/-! ## §1. The stream -/

/-- `encode_to`: no value looks at the tag it is asked to use. -/
def EncodableValue.encodeTo (value : EncodableValue) (_tag : ApplicationTag) : Bytes :=
  match value with
  | .bool value => encodeBoolean value
  | .u32 value => encodeUnsigned value
  | .i32 value => encodeSigned value
  | .f32 value => encodeReal value
  | .f64 value => encodeDouble value
  | .str value => encodeCharacterString value

/-- The octets written, and how many there may be. -/
structure EncodingStream where
  buffer : Bytes
  maxSize : Nat
  deriving Repr, DecidableEq

namespace EncodingStream

def new (maxSize : Nat) : EncodingStream := ⟨[], maxSize⟩

/-- Write, unless the bound is reached already. -/
def write (stream : EncodingStream) (octets : Bytes) : Attempt EncodingError EncodingStream :=
  -- How many octets there are to write is not asked.
  if stream.buffer.length ≥ stream.maxSize then refused stream .bufferOverflow
  else done { stream with buffer := stream.buffer ++ octets }

/-- `encode_tagged`. -/
def encodeTagged (stream : EncodingStream) (tag : ApplicationTag) (value : EncodableValue) :
    Attempt EncodingError EncodingStream :=
  stream.write (value.encodeTo tag)

/-- `encode_context`. -/
def encodeContext (stream : EncodingStream) (tagNumber : UInt8) (value : EncodableValue) :
    Attempt EncodingError EncodingStream :=
  stream.write (value.encodeContextTo tagNumber)

/-- `data`. -/
def data (stream : EncodingStream) : Bytes := stream.buffer

/-- `clear`. -/
def clear (stream : EncodingStream) : EncodingStream := { stream with buffer := [] }

/-- What the stream's owner may call. -/
inductive Call where
  | encodeTagged (tag : ApplicationTag) (value : EncodableValue)
  | encodeContext (tagNumber : UInt8) (value : EncodableValue)
  | clear

/-- What a call leaves, and whether it failed. -/
def call (stream : EncodingStream) : Call → Attempt EncodingError EncodingStream
  | .encodeTagged tag value => stream.encodeTagged tag value
  | .encodeContext tagNumber value => stream.encodeContext tagNumber value
  | .clear => done stream.clear

/-- The stream as a machine: a failed call is a step too. -/
def step (stream : EncodingStream) (made : Call) : Option EncodingStream :=
  some (stream.call made).1

end EncodingStream

/-! ## §2. The room a value needs -/

/-- The octets that a length takes behind the tag's first. -/
def lengthSize (length : Nat) : Nat :=
  if length < 5 then 0 else if length < 254 then 1 else if length < 65536 then 3 else 5

theorem length_lengthOctets (length : Nat) : (lengthOctets length).length = lengthSize length := by
  unfold lengthOctets lengthSize writeExtendedLength
  split
  · rfl
  split
  · rfl
  split
  · rw [List.length_cons, length_beOctets]
  · rw [List.length_cons, length_beOctets]

theorem length_encodeApplicationTag (tag : ApplicationTag) (length : Nat) :
    (encodeApplicationTag tag length).length = 1 + lengthSize length := by
  rw [encodeApplicationTag_eq, List.length_cons, length_lengthOctets, Nat.add_comm]

theorem length_encodeContextTag (tagNumber : UInt8) (length : Nat) :
    (encodeContextTag tagNumber length).length
      = 1 + (if tagNumber > 14 then 1 else 0) + lengthSize length := by
  have hnumber : (contextTagNumber tagNumber).2.length = if tagNumber > 14 then 1 else 0 := by
    unfold contextTagNumber
    split <;> rfl
  rw [encodeContextTag_eq, List.cons_append, List.length_cons, List.length_append, hnumber,
    length_lengthOctets]
  omega

/-- The length a value's tag announces; a Boolean's is its value. -/
def EncodableValue.announced : EncodableValue → Nat
  | .bool value => if value then 1 else 0
  | .u32 value => unsignedWidth value.toNat
  | .i32 value => signedWidth value.toInt
  | .f32 _ => 4
  | .f64 _ => 8
  | .str value => value.toUTF8.toList.length + 1

/-- The octets behind a value's tag. -/
def EncodableValue.contentSize : EncodableValue → Nat
  | .bool _ => 0
  | value => value.announced

/-- An application tag counts no content of its own. -/
theorem EncodableValue.length_encodeTo (value : EncodableValue) (tag : ApplicationTag) :
    (value.encodeTo tag).length = 1 + lengthSize value.announced + value.contentSize := by
  cases value with
  | bool value => exact length_encodeApplicationTag .boolean _
  | u32 value =>
      show (encodeUnsigned value).length = _
      unfold encodeUnsigned
      rw [unsignedOctets_eq_width, List.length_append, length_beOctets, length_encodeApplicationTag]
      rfl
  | i32 value =>
      show (encodeSigned value).length = _
      unfold encodeSigned
      rw [List.length_append, length_beOctets, length_encodeApplicationTag]
      rfl
  | f32 value =>
      show (encodeReal value).length = _
      unfold encodeReal
      rw [List.length_append, length_beOctets, length_encodeApplicationTag]
      rfl
  | f64 value =>
      show (encodeDouble value).length = _
      unfold encodeDouble
      rw [List.length_append, length_beOctets, length_encodeApplicationTag]
      rfl
  | str value =>
      show (encodeCharacterString value).length = _
      unfold encodeCharacterString
      rw [List.length_append, length_encodeApplicationTag]
      rfl

/-- A context tag has its number behind it from 15 on. -/
theorem EncodableValue.length_encodeContextTo (value : EncodableValue) (tagNumber : UInt8) :
    (value.encodeContextTo tagNumber).length
      = 1 + (if tagNumber > 14 then 1 else 0) + lengthSize value.announced + value.contentSize := by
  have htagged (content : Bytes) : (encodeContextTag tagNumber content.length ++ content).length
      = 1 + (if tagNumber > 14 then 1 else 0) + lengthSize content.length + content.length := by
    rw [List.length_append, length_encodeContextTag]
  cases value with
  | bool value => exact length_encodeContextTag tagNumber _
  | u32 value =>
      have hoctets : (unsignedOctets value).length = unsignedWidth value.toNat := by
        rw [unsignedOctets_eq_width, length_beOctets]
      have hshort : (unsignedOctets value).length < 5 := by
        rw [hoctets]
        exact Nat.lt_succ_of_le (unsignedWidth_le value.toNat)
      show (retag (encodeUnsigned value) tagNumber).length = _
      unfold encodeUnsigned
      rw [retag_short .unsignedInt hshort, htagged, hoctets]
      rfl
  | i32 value =>
      -- One octet is taken off for the application tag, which is one for fewer than five octets.
      have hoctets := length_beOctets (signedWidth value.toInt) value.toUInt32.toNat
      have hwidth := (signedWidth_bounds value.le_toInt (Int.lt_add_one_iff.mp value.toInt_lt)).1.2
      have hshort : (beOctets (signedWidth value.toInt) value.toUInt32.toNat).length < 5 := by
        omega
      have hretag := retag_short .signedInt hshort tagNumber
      rw [hoctets] at hretag
      have hlength := htagged (beOctets (signedWidth value.toInt) value.toUInt32.toNat)
      rw [hoctets] at hlength
      show (retag (encodeSigned value) tagNumber).length = _
      unfold encodeSigned
      rw [hretag, hlength]
      rfl
  | f32 value => exact htagged (beOctets 4 value.bits.toNat)
  | f64 value => exact htagged (beOctets 8 value.bits.toNat)
  | str value => exact htagged (0 :: value.toUTF8.toList)

/-! ## §3. Runs -/

namespace EncodingStream

/-- The octets a call appends, unless the bound is reached. -/
def Call.size : Call → Nat
  | .encodeTagged _ value => 1 + lengthSize value.announced + value.contentSize
  | .encodeContext tagNumber value =>
      1 + (if tagNumber > 14 then 1 else 0) + lengthSize value.announced + value.contentSize
  | .clear => 0

/-- A value finds room for all of its octets, if it finds room at all. -/
def Fits (stream : EncodingStream) (made : Call) : Prop :=
  stream.buffer.length < stream.maxSize → stream.buffer.length + made.size ≤ stream.maxSize

/-- What a call leaves is within the bound. -/
def StaysWithin (stream : EncodingStream) (made : Call) : Prop :=
  (stream.call made).1.buffer.length ≤ (stream.call made).1.maxSize

/-- What is refused is refused without a change. -/
theorem atomic_write (stream : EncodingStream) (octets : Bytes) :
    Atomic stream (stream.write octets) := by
  unfold write
  split
  · exact atomic_refused _ _
  · exact atomic_done _ _

theorem atomic_call (stream : EncodingStream) (made : Call) :
    Atomic stream (stream.call made) := by
  cases made with
  | encodeTagged tag value => exact atomic_write stream _
  | encodeContext tagNumber value => exact atomic_write stream _
  | clear => exact atomic_done _ _

theorem write_within_iff {stream : EncodingStream} (h : stream.buffer.length ≤ stream.maxSize)
    (octets : Bytes) :
    (stream.write octets).1.buffer.length ≤ (stream.write octets).1.maxSize
      ↔ (stream.buffer.length < stream.maxSize →
        stream.buffer.length + octets.length ≤ stream.maxSize) := by
  unfold write
  by_cases hfull : stream.buffer.length ≥ stream.maxSize
  · rw [if_pos hfull]
    exact iff_of_true h fun hroom => absurd hroom (Nat.not_lt.mpr hfull)
  · rw [if_neg hfull]
    show (stream.buffer ++ octets).length ≤ stream.maxSize ↔ _
    rw [List.length_append]
    exact ⟨fun hwithin _ => hwithin, fun hwithin => hwithin (Nat.lt_of_not_le hfull)⟩

/-- From within the bound, a call stays within it exactly when its value fits. -/
theorem staysWithin_iff {stream : EncodingStream} (h : stream.buffer.length ≤ stream.maxSize)
    (made : Call) : stream.StaysWithin made ↔ stream.Fits made := by
  cases made with
  | encodeTagged tag value =>
      have hwithin := write_within_iff h (value.encodeTo tag)
      rwa [EncodableValue.length_encodeTo] at hwithin
  | encodeContext tagNumber value =>
      have hwithin := write_within_iff h (value.encodeContextTo tagNumber)
      rwa [EncodableValue.length_encodeContextTo] at hwithin
  | clear => exact iff_of_true (Nat.zero_le _) fun _ => h

/-- **The stream stays within its bound through every call of a run exactly when every value of
the run finds the room it needs**, or none at all: then it is refused, and what is refused
leaves the stream as it was. -/
theorem stream_bounded_iff (maxSize : Nat) (calls : List Call) :
    (Machine.Throughout step StaysWithin (new maxSize) calls
      ↔ Machine.Throughout step Fits (new maxSize) calls) ∧
    ∀ (stream : EncodingStream) (made : Call),
      (stream.call made).2 = .error .bufferOverflow → (stream.call made).1 = stream := by
  refine ⟨?_, fun stream made => atomic_call stream made .bufferOverflow⟩
  refine Machine.throughout_iff (P := fun stream => stream.buffer.length ≤ stream.maxSize)
    (fun stream made h => staysWithin_iff h made) ?_ (Nat.zero_le _)
  intro stream made stream' hfits hwithin hstep
  cases hstep
  exact (staysWithin_iff hwithin made).mpr hfits

/-- One octet of room is room for a number that takes two. -/
theorem number_past_bound :
    ((new 1).encodeTagged .unsignedInt (.u32 5)).1.data = [0x21, 0x05] ∧
    ¬ ∀ (maxSize : Nat) (calls : List Call),
      Machine.Throughout step StaysWithin (new maxSize) calls := by
  refine ⟨rfl, ?_⟩
  intro hall
  have hwithin : 2 ≤ 1 := (hall 1 [.encodeTagged .unsignedInt (.u32 5)]).1
  omega

end EncodingStream

end BacnetRs.Encoding
