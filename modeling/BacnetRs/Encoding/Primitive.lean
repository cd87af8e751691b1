/-
  BacnetRs.Encoding.Primitive — the primitive values (`encoding/mod.rs`).

  Application-tagged values carry their type in the tag, context-tagged ones
  only a field number.  A decoder returns the value and the octets consumed.
  Floating-point values are the bit patterns the codec moves; their
  arithmetic, where the program does some, is Lean's own `Float32` and
  `Float`, which are the same IEEE 754 formats.
-/
import BacnetRs.Object.Identifier

namespace BacnetRs.Encoding

open BacnetRs.Object

/-! ## §1. Floating-point values -/

/-- An `f32`, by its bits. -/
structure F32 where
  bits : UInt32
  deriving Repr, DecidableEq

/-- An `f64`, by its bits. -/
structure F64 where
  bits : UInt64
  deriving Repr, DecidableEq

/-- The number a bit pattern denotes. -/
def F32.toFloat (x : F32) : Float32 := Float32.ofBits x.bits

/-- The number a bit pattern denotes. -/
def F64.toFloat (x : F64) : Float := Float.ofBits x.bits

/-- `==` on `f32`: a NaN equals nothing, the two zeros equal each other. -/
def F32.eq (x y : F32) : Bool := x.toFloat == y.toFloat

/-- `>= 0.0` on `f32`: not a NaN, and either the sign bit is clear or the number is a zero. -/
def F32.nonNegative (x : F32) : Bool :=
  x.bits &&& 0x7FFFFFFF ≤ 0x7F800000 && (x.bits < 0x80000000 || x.bits &&& 0x7FFFFFFF == 0)

/-- `==` on `f64`. -/
def F64.eq (x y : F64) : Bool := x.toFloat == y.toFloat

/-! ## §2. Unsigned and enumerated values -/

/-- The shortest big-endian form of a `u32`, at least one octet. -/
def unsignedOctets (value : UInt32) : Bytes :=
  if value ≤ 0xFF then Octets.beOctets 1 value.toNat
  else if value ≤ 0xFFFF then Octets.beOctets 2 value.toNat
  else if value ≤ 0xFFFFFF then Octets.beOctets 3 value.toNat
  else Octets.beOctets 4 value.toNat

/-- `encode_unsigned`. -/
def encodeUnsigned (value : UInt32) : Bytes :=
  encodeApplicationTag .unsignedInt (unsignedOctets value).length ++ unsignedOctets value

/-- The octets that `encode_unsigned64` writes of a `u64`. -/
def unsigned64Octets (value : UInt64) : Bytes :=
  if value ≤ 0xFF then Octets.beOctets 1 value.toNat
  else if value ≤ 0xFFFF then Octets.beOctets 2 value.toNat
  -- All of its eight octets but the first, where `encode_unsigned` has but one of four to drop.
  else if value ≤ 0xFFFFFF then Octets.beOctets 7 value.toNat
  else if value ≤ 0xFFFFFFFF then Octets.beOctets 4 value.toNat
  else Octets.beOctets 8 value.toNat

/-- `encode_unsigned64`. -/
def encodeUnsigned64 (value : UInt64) : Bytes :=
  encodeApplicationTag .unsignedInt (unsigned64Octets value).length ++ unsigned64Octets value

/-- The fewest octets a signed number of up to 32 bits takes. -/
def signedWidth (value : Int) : Nat :=
  if -128 ≤ value ∧ value ≤ 127 then 1
  else if -32768 ≤ value ∧ value ≤ 32767 then 2
  else if -8388608 ≤ value ∧ value ≤ 8388607 then 3
  else 4

/-- `encode_signed`. -/
def encodeSigned (value : Int32) : Bytes :=
  encodeApplicationTag .signedInt (signedWidth value.toInt) ++
    Octets.beOctets (signedWidth value.toInt) value.toUInt32.toNat

/-- How many octets `encode_signed64` writes of an `i64`. -/
def signed64Width (value : Int) : Nat :=
  if -128 ≤ value ∧ value ≤ 127 then 1
  else if -32768 ≤ value ∧ value ≤ 32767 then 2
  -- As above, seven and not three.
  else if -8388608 ≤ value ∧ value ≤ 8388607 then 7
  else if -2147483648 ≤ value ∧ value ≤ 2147483647 then 4
  else 8

/-- `encode_signed64`. -/
def encodeSigned64 (value : Int64) : Bytes :=
  encodeApplicationTag .signedInt (signed64Width value.toInt) ++
    Octets.beOctets (signed64Width value.toInt) value.toUInt64.toNat

/-- `encode_boolean`: the value is the length nibble. -/
def encodeBoolean (value : Bool) : Bytes :=
  encodeApplicationTag .boolean (if value then 1 else 0)

/-- `encode_enumerated`. -/
def encodeEnumerated (value : UInt32) : Bytes :=
  encodeApplicationTag .enumerated (unsignedOctets value).length ++ unsignedOctets value

/-- `encode_context_unsigned`. -/
def encodeContextUnsigned (value : UInt32) (tagNumber : UInt8) : Bytes :=
  encodeContextTag tagNumber (unsignedOctets value).length ++ unsignedOctets value

/-- `encode_context_enumerated`: as an unsigned integer. -/
def encodeContextEnumerated (value : UInt32) (tagNumber : UInt8) : Bytes :=
  encodeContextUnsigned value tagNumber

/-- A context-tagged unsigned field that may be left out. -/
def encodeOptionalUnsigned (value : Option UInt32) (tagNumber : UInt8) : Bytes :=
  match value with
  | some value => encodeContextUnsigned value tagNumber
  | none => []

/-- `encode_object_identifier`. -/
def encodeObjectIdentifier (objectId : ObjectIdentifier) : Except EncodingError Bytes := do
  let value ← objectId.toUInt32
  return encodeApplicationTag .objectIdentifier 4 ++ Octets.beOctets 4 value.toNat

/-- `encode_context_object_id`. -/
def encodeContextObjectId (objectId : ObjectIdentifier) (tagNumber : UInt8) :
    Except EncodingError Bytes := do
  let value ← objectId.toUInt32
  return encodeContextTag tagNumber 4 ++ Octets.beOctets 4 value.toNat

/-- The tag of an application value of type `expected`: the length of the value
and the octets the tag occupied. -/
def expectApplicationTag (data : Bytes) (expected : ApplicationTag) : Decoded (Nat × Nat) := do
  let (tag, length, consumed) ← Checked.ofExcept (decodeApplicationTag data)
  if tag ≠ expected then Checked.fail .invalidTag
  return (length, consumed)

/-- `decode_boolean`: the value is the length nibble. -/
def decodeBoolean (data : Bytes) : Decoded (Bool × Nat) := do
  let (length, consumed) ← expectApplicationTag data .boolean
  match length with
  | 0 => return (false, consumed)
  | 1 => return (true, consumed)
  | _ => Checked.fail .invalidLength

/-- A `u32` in one to four octets, as `decode_unsigned` and `decode_enumerated`
both read it. -/
def decodeUnsigned32 (data : Bytes) (expected : ApplicationTag) : Decoded (UInt32 × Nat) := do
  let (length, consumed) ← expectApplicationTag data expected
  if data.length < consumed + length then Checked.fail .bufferUnderflow
  if 1 ≤ length ∧ length ≤ 4 then
    let value ← Octets.natAt data consumed length
    return (UInt32.ofNat value, consumed + length)
  else Checked.fail .invalidLength

/-- `decode_unsigned`. -/
def decodeUnsigned (data : Bytes) : Decoded (UInt32 × Nat) :=
  decodeUnsigned32 data .unsignedInt

/-- `decode_enumerated`. -/
def decodeEnumerated (data : Bytes) : Decoded (UInt32 × Nat) :=
  decodeUnsigned32 data .enumerated

/-- `decode_unsigned64`: no octets at all are zero. -/
def decodeUnsigned64 (data : Bytes) : Decoded (UInt64 × Nat) := do
  let (length, consumed) ← expectApplicationTag data .unsignedInt
  if length > 8 then Checked.fail .invalidLength
  if data.length < consumed + length then Checked.fail .bufferUnderflow
  let value ← Octets.natAt data consumed length
  return (UInt64.ofNat value, consumed + length)

/-- `decode_signed`: one to four octets, the leading octet's sign extended. -/
def decodeSigned (data : Bytes) : Decoded (Int32 × Nat) := do
  let (length, consumed) ← expectApplicationTag data .signedInt
  if data.length < consumed + length then Checked.fail .bufferUnderflow
  if 1 ≤ length ∧ length ≤ 4 then
    let first ← Octets.index data consumed
    let signExtend : UInt8 := if first &&& 0x80 ≠ 0 then 0xFF else 0x00
    let octets ← Octets.range data consumed (consumed + length)
    -- The missing octets on the left repeat the sign bit.
    let bits := Octets.beNat (List.replicate (4 - length) signExtend ++ octets)
    return ((UInt32.ofNat bits).toInt32, consumed + length)
  else Checked.fail .invalidLength

/-- `decode_signed64`: the leading octet's sign extends into the unused ones. -/
def decodeSigned64 (data : Bytes) : Decoded (Int64 × Nat) := do
  let (length, consumed) ← expectApplicationTag data .signedInt
  if length = 0 ∨ length > 8 then Checked.fail .invalidLength
  if data.length < consumed + length then Checked.fail .bufferUnderflow
  let first ← Octets.index data consumed
  let signExtend : UInt8 := if first &&& 0x80 ≠ 0 then 0xFF else 0x00
  let octets ← Octets.range data consumed (consumed + length)
  let bits := Octets.beNat (List.replicate (8 - length) signExtend ++ octets)
  return ((UInt64.ofNat bits).toInt64, consumed + length)

/-! ## §3. Reals, strings and identifiers -/

/-- `encode_real`. -/
def encodeReal (value : F32) : Bytes :=
  encodeApplicationTag .real 4 ++ Octets.beOctets 4 value.bits.toNat

/-- `encode_double`. -/
def encodeDouble (value : F64) : Bytes :=
  encodeApplicationTag .double 8 ++ Octets.beOctets 8 value.bits.toNat

/-- `encode_octet_string`. -/
def encodeOctetString (value : Bytes) : Bytes :=
  encodeApplicationTag .octetString value.length ++ value

/-- `encode_character_string`: character set 0, then the text as UTF-8. -/
def encodeCharacterString (value : String) : Bytes :=
  let text := value.toUTF8.toList
  encodeApplicationTag .characterString (text.length + 1) ++ 0 :: text

/-- Up to eight bits in an octet, most significant first. -/
def bitsOctet (bits : List Bool) : UInt8 :=
  bits.zipIdx.foldl (fun octet (bit, pos) =>
    if bit then octet ||| (1 <<< UInt8.ofNat (7 - pos)) else octet) 0

/-- `encode_bit_string`: the unused bits of the last octet come first. -/
def encodeBitString (bits : List Bool) : Bytes :=
  let octets := (Octets.chunks 8 bits).map bitsOctet
  let unusedBits := if bits.length % 8 = 0 then 0 else 8 - bits.length % 8
  encodeApplicationTag .bitString ((bits.length + 7) / 8 + 1) ++ UInt8.ofNat unusedBits :: octets

/-- `decode_real`. -/
def decodeReal (data : Bytes) : Decoded (F32 × Nat) := do
  let (length, consumed) ← expectApplicationTag data .real
  if length ≠ 4 then Checked.fail .invalidLength
  if data.length < consumed + 4 then Checked.fail .bufferUnderflow
  let bits ← Octets.natAt data consumed 4
  return (⟨UInt32.ofNat bits⟩, consumed + 4)

/-- `decode_double`. -/
def decodeDouble (data : Bytes) : Decoded (F64 × Nat) := do
  let (length, consumed) ← expectApplicationTag data .double
  if length ≠ 8 ∨ data.length < consumed + 8 then Checked.fail .invalidLength
  let bits ← Octets.natAt data consumed 8
  return (⟨UInt64.ofNat bits⟩, consumed + 8)

/-- `decode_octet_string`. -/
def decodeOctetString (data : Bytes) : Decoded (Bytes × Nat) := do
  let (length, consumed) ← expectApplicationTag data .octetString
  if data.length < consumed + length then Checked.fail .bufferUnderflow
  let value ← Octets.range data consumed (consumed + length)
  return (value, consumed + length)

/-- The character set a CharacterString declares in its first octet. -/
inductive CharacterSet where
  | utf8
  | dbcs
  | jisX0208
  | ucs4
  | ucs2
  | latin1
  deriving Repr, DecidableEq

/-- `CharacterSet::try_from`. -/
def CharacterSet.tryFrom (value : UInt8) : Except EncodingError CharacterSet :=
  match value.toNat with
  | 0 => .ok .utf8
  | 1 => .ok .dbcs
  | 2 => .ok .jisX0208
  | 3 => .ok .ucs4
  | 4 => .ok .ucs2
  | 5 => .ok .latin1
  | _ => .error (.invalidFormat "unknown character set")

/-- The code point `n`, unless it is a surrogate or out of range. -/
def charFromU32 (n : Nat) : Option Char :=
  if h : n.isValidChar then some (Char.ofNatAux n h) else none

/-- `char::decode_utf16`, all or nothing. -/
def decodeUtf16 : List Nat → Option (List Char)
  | [] => some []
  | unit :: rest =>
      -- A unit outside the surrogates is a scalar value by itself.
      if unit < 0xD800 ∨ 0xDFFF < unit then
        (charFromU32 unit).bind (fun c => (decodeUtf16 rest).map (c :: ·))
      else
        match rest with
        | [] => none
        | low :: rest =>
            -- A high surrogate must be followed by a low one.
            if unit < 0xDC00 ∧ 0xDC00 ≤ low ∧ low ≤ 0xDFFF then
              (charFromU32 (0x10000 + (unit - 0xD800) * 0x400 + (low - 0xDC00))).bind
                (fun c => (decodeUtf16 rest).map (c :: ·))
            else none

/-- `CharacterSet::decode`. -/
def CharacterSet.decode (set : CharacterSet) (data : Bytes) : Except EncodingError String :=
  match set with
  | .utf8 =>
      match String.fromUTF8? ⟨data.toArray⟩ with
      | some s => .ok s
      | none => .error (.invalidFormat "Invalid UTF-8 string")
  -- The octets are the first 256 code points.
  | .latin1 => .ok (String.ofList (data.map (fun octet => Char.ofNat octet.toNat)))
  | .ucs2 =>
      if data.length % 2 ≠ 0 then
        .error (.invalidFormat "UCS-2 string has an odd octet count")
      else
        match decodeUtf16 ((Octets.chunks 2 data).map Octets.beNat) with
        | some chars => .ok (String.ofList chars)
        | none => .error (.invalidFormat "Invalid UCS-2 string")
  | .ucs4 =>
      if data.length % 4 ≠ 0 then
        .error (.invalidFormat "UCS-4 string is not a whole number of code points")
      else
        match (Octets.chunks 4 data).mapM (fun quad => charFromU32 (Octets.beNat quad)) with
        | some chars => .ok (String.ofList chars)
        | none => .error (.invalidFormat "Invalid UCS-4 string")
  | .dbcs | .jisX0208 =>
      .error (.invalidFormat "character set needs an out-of-band code page")

/-- `decode_character_string`. -/
def decodeCharacterString (data : Bytes) : Decoded (String × Nat) := do
  let (length, consumed) ← expectApplicationTag data .characterString
  if data.length < consumed + length ∨ length = 0 then Checked.fail .bufferUnderflow
  let octet ← Octets.index data consumed
  let set ← Checked.ofExcept (CharacterSet.tryFrom octet)
  let text ← Octets.range data (consumed + 1) (consumed + length)
  let value ← Checked.ofExcept (set.decode text)
  return (value, consumed + length)

/-- The bits of an octet, most significant first. -/
def octetBits (octet : UInt8) : List Bool :=
  (List.range 8).map (fun pos => octet &&& (1 <<< UInt8.ofNat (7 - pos)) != 0)

/-- `decode_bit_string`: the last octet ends with the declared unused bits. -/
def decodeBitString (data : Bytes) : Decoded (List Bool × Nat) := do
  let (length, consumed) ← expectApplicationTag data .bitString
  if length = 0 ∨ data.length < consumed + length then Checked.fail .bufferUnderflow
  let unusedBits ← Octets.index data consumed
  if unusedBits.toNat > 7 then
    Checked.fail (.invalidFormat "Invalid unused bits count")
  let octets ← Octets.range data (consumed + 1) (consumed + length)
  let bits := (octets.map octetBits).flatten
  return (bits.take (bits.length - unusedBits.toNat), consumed + length)

/-- A date as (year, month, day, weekday). -/
abbrev DateValue := UInt16 × UInt8 × UInt8 × UInt8

/-- A time as (hour, minute, second, hundredths). -/
abbrev TimeValue := UInt8 × UInt8 × UInt8 × UInt8

/-- The octet a year is encoded as: 255 is the wildcard. -/
def yearOctet (year : UInt16) : Except EncodingError UInt8 :=
  if year = 255 then .ok 255
  else if 1900 ≤ year ∧ year ≤ 2154 then .ok (year - 1900).toUInt8
  else .error .valueOutOfRange

/-- `encode_date`. -/
def encodeDate (date : DateValue) : Except EncodingError Bytes := do
  let (year, month, day, weekday) := date
  let octet ← yearOctet year
  return encodeApplicationTag .date 4 ++ [octet, month, day, weekday]

/-- `encode_time`. -/
def encodeTime (time : TimeValue) : Bytes :=
  let (hour, minute, second, hundredths) := time
  encodeApplicationTag .time 4 ++ [hour, minute, second, hundredths]

/-- `decode_date`: the year octet 255 is a wildcard and stays 255. -/
def decodeDate (data : Bytes) : Decoded (DateValue × Nat) := do
  let (length, consumed) ← expectApplicationTag data .date
  if length ≠ 4 ∨ data.length < consumed + 4 then Checked.fail .invalidLength
  let octet ← Octets.index data consumed
  let year : UInt16 := if octet = 255 then 255 else 1900 + octet.toUInt16
  let month ← Octets.index data (consumed + 1)
  let day ← Octets.index data (consumed + 2)
  let weekday ← Octets.index data (consumed + 3)
  return ((year, month, day, weekday), consumed + 4)

/-- `decode_time`. -/
def decodeTime (data : Bytes) : Decoded (TimeValue × Nat) := do
  let (length, consumed) ← expectApplicationTag data .time
  if length ≠ 4 ∨ data.length < consumed + 4 then Checked.fail .invalidLength
  let hour ← Octets.index data consumed
  let minute ← Octets.index data (consumed + 1)
  let second ← Octets.index data (consumed + 2)
  let hundredths ← Octets.index data (consumed + 3)
  return ((hour, minute, second, hundredths), consumed + 4)

/-- `decode_object_identifier`. -/
def decodeObjectIdentifier (data : Bytes) : Decoded (ObjectIdentifier × Nat) := do
  let (length, consumed) ← expectApplicationTag data .objectIdentifier
  if length ≠ 4 ∨ data.length < consumed + 4 then Checked.fail .invalidLength
  let value ← Octets.natAt data consumed 4
  return (ObjectIdentifier.ofUInt32 (UInt32.ofNat value), consumed + 4)

/-! ## §4. Context-tagged values -/

/-- The tag of context field `expected`: the length of the value and the octets
the tag occupied. -/
def expectContextTag (data : Bytes) (expected : UInt8) : Decoded (Nat × Nat) := do
  let (tagNumber, length, consumed) ← Checked.ofExcept (decodeContextTag data)
  if tagNumber ≠ expected then Checked.fail .invalidTag
  return (length, consumed)

/-- `decode_context_unsigned`: no octets at all are zero. -/
def decodeContextUnsigned (data : Bytes) (expectedTag : UInt8) : Decoded (UInt32 × Nat) := do
  let (length, consumed) ← expectContextTag data expectedTag
  if data.length < consumed + length then Checked.fail .bufferUnderflow
  if length ≤ 4 then
    let value ← Octets.natAt data consumed length
    return (UInt32.ofNat value, consumed + length)
  else Checked.fail .invalidLength

/-- `decode_context_object_id`. -/
def decodeContextObjectId (data : Bytes) (expectedTag : UInt8) :
    Decoded (ObjectIdentifier × Nat) := do
  let (length, consumed) ← expectContextTag data expectedTag
  if length ≠ 4 then Checked.fail .invalidLength
  if data.length < consumed + 4 then Checked.fail .bufferUnderflow
  let value ← Octets.natAt data consumed 4
  return (ObjectIdentifier.ofUInt32 (UInt32.ofNat value), consumed + 4)

/-- `encode_context_boolean`: the value is an octet of its own. -/
def encodeContextBoolean (value : Bool) (tagNumber : UInt8) : Bytes :=
  encodeContextTag tagNumber 1 ++ [if value then 1 else 0]

/-- `decode_context_boolean`. -/
def decodeContextBoolean (data : Bytes) (expectedTag : UInt8) : Decoded (Bool × Nat) := do
  let (tagNumber, length, consumed) ← Checked.ofExcept (decodeContextTag data)
  if tagNumber ≠ expectedTag ∨ length ≠ 1 then Checked.fail .invalidTag
  let octet ← Checked.orFail .bufferUnderflow data[consumed]?
  match octet.toNat with
  | 0 => return (false, consumed + 1)
  | 1 => return (true, consumed + 1)
  | _ => Checked.fail (.invalidFormat "context Boolean is not zero or one")

/-- `encode_context_real`. -/
def encodeContextReal (value : F32) (tagNumber : UInt8) : Bytes :=
  encodeContextTag tagNumber 4 ++ Octets.beOctets 4 value.bits.toNat

/-- `decode_context_real`. -/
def decodeContextReal (data : Bytes) (expectedTag : UInt8) : Decoded (F32 × Nat) := do
  let (length, consumed) ← expectContextTag data expectedTag
  if length ≠ 4 then Checked.fail .invalidLength
  let octets ← Checked.orFail .bufferUnderflow (Octets.range? data consumed (consumed + 4))
  return (⟨UInt32.ofNat (Octets.beNat octets)⟩, consumed + 4)

/-! ## §5. Fields one after another -/

/-- What `decode` reads from `data[consumed..]`, and where that ends. -/
def readAt {α : Type} (decode : Bytes → Decoded (α × Nat)) (data : Bytes) (consumed : Nat) :
    Decoded (α × Nat) := do
  let rest ← Octets.dropFrom data consumed
  let (value, length) ← decode rest
  return (value, consumed + length)

/-- Where the opening tag at `consumed` ends. -/
def openAt (data : Bytes) (consumed : Nat) (tag : UInt8) : Decoded Nat := do
  let rest ← Octets.dropFrom data consumed
  let length ← Checked.ofExcept (decodeOpeningTag rest tag)
  return consumed + length

/-- Where the closing tag at `consumed` ends. -/
def closeAt (data : Bytes) (consumed : Nat) (tag : UInt8) : Decoded Nat := do
  let rest ← Octets.dropFrom data consumed
  let length ← Checked.ofExcept (decodeClosingTag rest tag)
  return consumed + length

/-- An optional field, read when `present` says that it is there. -/
def readOptionalAt {α : Type} (present : Bytes → Bool) (decode : Bytes → Decoded (α × Nat))
    (data : Bytes) (consumed : Nat) : Decoded (Option α × Nat) := do
  let rest ← Octets.dropFrom data consumed
  if present rest then
    let (value, length) ← decode rest
    return (some value, consumed + length)
  else
    return (none, consumed)

/-- Values one after another until `stop`, and where they end.  The first argument bounds
the number of rounds. -/
def readUntil {α : Type} (stop : Bytes → Bool) (decode : Bytes → Decoded (α × Nat)) :
    Nat → Bytes → Decoded (List α × Nat)
  | 0, _ => Checked.fail .unexpectedEndOfData
  | fuel + 1, data =>
      if stop data then .ok ([], 0)
      else do
        let (value, length) ← decode data
        let rest ← Octets.dropFrom data length
        let (values, more) ← readUntil stop decode fuel rest
        return (value :: values, length + more)

/-- `readUntil`, with a round for each octet and one more. -/
def readAll {α : Type} (stop : Bytes → Bool) (decode : Bytes → Decoded (α × Nat)) (data : Bytes) :
    Decoded (List α × Nat) :=
  readUntil stop decode (data.length + 1) data

end BacnetRs.Encoding
