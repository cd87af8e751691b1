/-
  BacnetRs.Encoding.Tag — BACnet tags (`encoding/mod.rs`).

  Every encoded value starts with a tag: an application tag names a primitive
  type, a context tag a field of a constructed one, and opening and closing
  tags bracket constructed data.  Decoders return what they read with the
  number of octets consumed; encoders return the octets they append.  An
  encoder whose `Result` is always `Ok` in the source is a plain function.
-/
import BacnetRs.Library.Octets

namespace BacnetRs.Encoding

/-! ## §1. Errors and tags -/

/-- Errors of encoding and decoding. -/
inductive EncodingError where
  | bufferOverflow
  | bufferUnderflow
  | invalidTag
  | invalidLength
  | unexpectedEndOfData
  | invalidFormat (message : String)
  | valueOutOfRange
  deriving Repr, DecidableEq

/-- A decoder's outcome. -/
abbrev Decoded (α : Type) := Checked EncodingError α

/-- BACnet application tag numbers. -/
inductive ApplicationTag where
  | null
  | boolean
  | unsignedInt
  | signedInt
  | real
  | double
  | octetString
  | characterString
  | bitString
  | enumerated
  | date
  | time
  | objectIdentifier
  | reserved13
  | reserved14
  | reserved15
  deriving Repr, DecidableEq

/-- `tag as u8`. -/
def ApplicationTag.toByte : ApplicationTag → UInt8
  | .null => 0
  | .boolean => 1
  | .unsignedInt => 2
  | .signedInt => 3
  | .real => 4
  | .double => 5
  | .octetString => 6
  | .characterString => 7
  | .bitString => 8
  | .enumerated => 9
  | .date => 10
  | .time => 11
  | .objectIdentifier => 12
  | .reserved13 => 13
  | .reserved14 => 14
  | .reserved15 => 15

/-- `ApplicationTag::try_from`; 15 is no tag number, it announces an extended one. -/
def ApplicationTag.tryFrom (value : UInt8) : Except EncodingError ApplicationTag :=
  match value.toNat with
  | 0 => .ok .null
  | 1 => .ok .boolean
  | 2 => .ok .unsignedInt
  | 3 => .ok .signedInt
  | 4 => .ok .real
  | 5 => .ok .double
  | 6 => .ok .octetString
  | 7 => .ok .characterString
  | 8 => .ok .bitString
  | 9 => .ok .enumerated
  | 10 => .ok .date
  | 11 => .ok .time
  | 12 => .ok .objectIdentifier
  | 13 => .ok .reserved13
  | 14 => .ok .reserved14
  | _ => .error .invalidTag

/-- A decoded tag. -/
inductive BACnetTag where
  /-- An application tag introducing a primitive value. -/
  | application (tag : ApplicationTag)
  /-- A context-specific tag introducing a primitive value. -/
  | context (number : UInt8)
  /-- The opening marker of constructed data. -/
  | opening (number : UInt8)
  /-- The closing marker of constructed data. -/
  | closing (number : UInt8)
  deriving Repr, DecidableEq

/-- Class bit of the initial octet: set for context-specific tags. -/
def contextClassBit : UInt8 := 0x08

/-- Length-value-type nibble: the length follows in extended form. -/
def lvtExtendedLength : UInt8 := 5

/-- Length-value-type nibble of an opening tag. -/
def lvtOpeningTag : UInt8 := 6

/-- Length-value-type nibble of a closing tag. -/
def lvtClosingTag : UInt8 := 7

/-- Tag-number nibble B'1111': the real number follows the initial octet. -/
def extendedTagNumber : UInt8 := 15

/-! ## §2. Decoding -/

/-- Read the extended length octets at `offset`: the length, and how many octets
it occupied. -/
def readExtendedLength (data : Bytes) (offset : Nat) : Except EncodingError (Nat × Nat) :=
  match data[offset]? with
  | none => .error .bufferUnderflow
  | some first =>
      -- One, two or four octets of length, as the first of them says.
      if first.toNat ≤ 253 then
        .ok (first.toNat, 1)
      else if first = 254 then
        match Octets.range? data (offset + 1) (offset + 3) with
        | none => .error .bufferUnderflow
        | some octets => .ok (Octets.beNat octets, 3)
      else
        match Octets.range? data (offset + 1) (offset + 5) with
        | none => .error .bufferUnderflow
        | some octets => .ok (Octets.beNat octets, 5)

/-- The tag, the length of the value after it, and the octets the tag occupied,
once the tag number is known to end at `consumed`. -/
def decodeTagValue (data : Bytes) (isContext : Bool) (lvt tagNumber : UInt8) (consumed : Nat) :
    Except EncodingError (BACnetTag × Nat × Nat) := do
  if isContext && lvt == lvtOpeningTag then
    return (.opening tagNumber, 0, consumed)
  if isContext && lvt == lvtClosingTag then
    return (.closing tagNumber, 0, consumed)
  -- These two values mark brackets, which no application tag is.
  if !isContext && decide (lvtOpeningTag ≤ lvt) then
    throw .invalidTag
  let (length, extra) ←
    if lvt = lvtExtendedLength then readExtendedLength data consumed else .ok (lvt.toNat, 0)
  let tag ←
    if isContext then .ok (.context tagNumber)
    else BACnetTag.application <$> ApplicationTag.tryFrom tagNumber
  return (tag, length, consumed + extra)

/-- Decode any tag from the front of `data`. -/
def decodeTag (data : Bytes) : Except EncodingError (BACnetTag × Nat × Nat) :=
  match data.head? with
  | none => .error .invalidTag
  | some tagByte =>
      let isContext := tagByte &&& contextClassBit != 0
      let lvt := tagByte &&& 0x07
      if tagByte >>> 4 = extendedTagNumber then
        -- Application tag numbers only run to 12, so the extended form is
        -- context-specific by construction.
        if !isContext then .error .invalidTag
        else
          match data[1]? with
          | none => .error .bufferUnderflow
          | some tagNumber => decodeTagValue data isContext lvt tagNumber 2
      else decodeTagValue data isContext lvt (tagByte >>> 4) 1

/-- Decode an application tag; context-specific tags are rejected. -/
def decodeApplicationTag (data : Bytes) : Except EncodingError (ApplicationTag × Nat × Nat) :=
  match decodeTag data with
  | .ok (.application tag, length, consumed) => .ok (tag, length, consumed)
  | .ok _ => .error .invalidTag
  | .error e => .error e

/-- Decode a primitive context-specific tag. -/
def decodeContextTag (data : Bytes) : Except EncodingError (UInt8 × Nat × Nat) :=
  match decodeTag data with
  | .ok (.context tagNumber, length, consumed) => .ok (tagNumber, length, consumed)
  | .ok _ => .error .invalidTag
  | .error e => .error e

/-- Decode the opening tag of context `expected`: how many octets it occupied. -/
def decodeOpeningTag (data : Bytes) (expected : UInt8) : Except EncodingError Nat :=
  match decodeTag data with
  | .ok (.opening tagNumber, _, consumed) =>
      if tagNumber = expected then .ok consumed else .error .invalidTag
  | .ok _ => .error .invalidTag
  | .error e => .error e

/-- Decode the closing tag of context `expected`: how many octets it occupied. -/
def decodeClosingTag (data : Bytes) (expected : UInt8) : Except EncodingError Nat :=
  match decodeTag data with
  | .ok (.closing tagNumber, _, consumed) =>
      if tagNumber = expected then .ok consumed else .error .invalidTag
  | .ok _ => .error .invalidTag
  | .error e => .error e

/-- Whether the next tag opens constructed context `tag`. -/
def isOpeningTag (data : Bytes) (tag : UInt8) : Bool :=
  match decodeTag data with
  | .ok (.opening actual, _, _) => actual == tag
  | _ => false

/-- Whether the next tag closes constructed context `tag`. -/
def isClosingTag (data : Bytes) (tag : UInt8) : Bool :=
  match decodeTag data with
  | .ok (.closing actual, _, _) => actual == tag
  | _ => false

/-- Whether the next tag is context `tag` carrying a primitive value. -/
def isContextTag (data : Bytes) (tag : UInt8) : Bool :=
  match decodeTag data with
  | .ok (.context actual, _, _) => actual == tag
  | _ => false

/-! ## §3. Encoding -/

/-- The extended length octets for a value of `length` octets. -/
def writeExtendedLength (length : Nat) : Bytes :=
  if length < 254 then [UInt8.ofNat length]
  else if length < 65536 then 254 :: Octets.beOctets 2 length
  else 255 :: Octets.beOctets 4 length

/-- An application tag. -/
def encodeApplicationTag (tag : ApplicationTag) (length : Nat) : Bytes :=
  if length < lvtExtendedLength.toNat then
    [tag.toByte <<< 4 ||| UInt8.ofNat length]
  else
    (tag.toByte <<< 4 ||| lvtExtendedLength) :: writeExtendedLength length

/-- The tag-number nibble of a context tag, and the octet an extended number
takes after it. -/
def contextTagNumber (tagNumber : UInt8) : UInt8 × Bytes :=
  if tagNumber > 14 then (extendedTagNumber <<< 4, [tagNumber]) else (tagNumber <<< 4, [])

/-- A context-specific tag. -/
def encodeContextTag (tagNumber : UInt8) (length : Nat) : Bytes :=
  let (tagNibble, number) := contextTagNumber tagNumber
  if length < lvtExtendedLength.toNat then
    (contextClassBit ||| tagNibble ||| UInt8.ofNat length) :: number
  else
    (contextClassBit ||| tagNibble ||| lvtExtendedLength) :: number ++ writeExtendedLength length

/-- The opening tag of constructed context-specific data. -/
def encodeOpeningTag (tagNumber : UInt8) : Bytes :=
  let (tagNibble, number) := contextTagNumber tagNumber
  (tagNibble ||| contextClassBit ||| lvtOpeningTag) :: number

/-- The closing tag of constructed context-specific data. -/
def encodeClosingTag (tagNumber : UInt8) : Bytes :=
  let (tagNibble, number) := contextTagNumber tagNumber
  (tagNibble ||| contextClassBit ||| lvtClosingTag) :: number

end BacnetRs.Encoding
