/-
  BacnetRs.Util.DebugFormat — captured octets as text for a log
  (`util::debug` in `util/mod.rs`).

  The octets are whatever came off the wire, so each formatter checks how many
  there are before it indexes.  Two of the checks are one short: a character
  string's length counts the octet of its character set, and with a length of
  zero its text would end before it starts; an Error of four octets has no
  code.

    * `formatPropertyValue_returns_iff` — values, all but the first of these;
    * `formatApduStructure_returns_iff` — APDUs, all but the second;
    * `formatters_return`               — and every other formatter always returns.
-/
import BacnetRs.Object.Identifier
import BacnetRs.Library.Text
import BacnetRs.Library.Utf16

namespace BacnetRs.Util.DebugFormat

open BacnetRs.Encoding BacnetRs.Object Octets

/-! ## §1. Numbers, names and octets -/

/-- What a formatter comes to: a text, unless it panics. -/
abbrev Formatted := Checked Empty Text

/-- A number in some radix, capital letters for digits above nine, zeros in front up to `width`. -/
def padded (radix width n : Nat) : Text :=
  let digits := (Nat.toDigits radix n).map Char.toUpper
  List.replicate (width - digits.length) '0' ++ digits

/-- `{}` of an unsigned number. -/
def decimal (n : Nat) : Text := padded 10 1 n

/-- `{}` of a signed number. -/
def signed : Int → Text
  | .ofNat n => decimal n
  | .negSucc n => '-' :: decimal (n + 1)

/-- `{}` of a Boolean. -/
def boolean (b : Bool) : Text := if b then "true".toList else "false".toList

/-- `{:02X}` of an octet. -/
def hexOctet (octet : UInt8) : Text := padded 16 2 octet.toNat

/-- `{:02X?}` of octets. -/
def hexOctets (octets : Bytes) : Text :=
  '[' :: [',', ' '].intercalate (octets.map hexOctet) ++ [']']

/-- `is_ascii_graphic`, or a space. -/
def printable (octet : UInt8) : Bool := 0x20 ≤ octet && octet ≤ 0x7E

/-- One line of `hex_dump`: sixteen octets at most, a gap behind the eighth. -/
def hexLine (start : Text) (offset : Nat) (chunk : Bytes) : Text :=
  start ++ padded 16 4 offset ++ [':', ' ']
    ++ (chunk.mapIdx (fun j octet =>
      (if j = 8 then [' '] else []) ++ hexOctet octet ++ [' '])).flatten
    ++ ((List.range' chunk.length (16 - chunk.length)).map (fun j =>
      (if j = 8 then [' '] else []) ++ [' ', ' ', ' '])).flatten
    ++ [' ', '|']
    ++ chunk.map (fun octet => if printable octet then Char.ofNat octet.toNat else '.')
    ++ ['|', '\n']

/-- `hex_dump`. -/
def hexDump (data : Bytes) (start : Text) : Text :=
  ((chunks 16 data).mapIdx (fun i chunk => hexLine start (i * 16) chunk)).flatten

/-- `bacnet_error_class_name`. -/
def bacnetErrorClassName : Nat → Option Text
  | 0 => some "device".toList
  | 1 => some "object".toList
  | 2 => some "property".toList
  | 3 => some "resources".toList
  | 4 => some "security".toList
  | 5 => some "services".toList
  | 6 => some "vt".toList
  | 7 => some "communication".toList
  | _ => none

/-- The names of `format_service_choice`, by their number. -/
def serviceNames : List String :=
  ["acknowledgeAlarm", "confirmedCOVNotification", "confirmedEventNotification",
    "getAlarmSummary", "getEnrollmentSummary", "getEventInformation", "atomicReadFile",
    "atomicWriteFile", "addListElement", "removeListElement", "createObject", "deleteObject",
    "readProperty", "readPropertyConditional", "readPropertyMultiple", "writeProperty",
    "writePropertyMultiple", "deviceCommunicationControl", "confirmedPrivateTransfer",
    "confirmedTextMessage", "reinitializeDevice", "vtOpen", "vtClose", "vtData", "authenticate",
    "requestKey", "readRange", "lifeSafetyOperation", "subscribeCOV", "subscribeCOVProperty",
    "getEventInformation"]

/-- `format_service_choice`. -/
def formatServiceChoice (serviceChoice : UInt8) : Text :=
  (serviceNames.getD serviceChoice.toNat "unknown").toList ++ ['(']
    ++ decimal serviceChoice.toNat ++ [')']

/-- `format_bacnet_error`. -/
def formatBacnetError (errorClass errorCode : UInt8) : Text :=
  "Error(".toList ++ (bacnetErrorClassName errorClass.toNat).getD "unknown".toList
    ++ " class, code ".toList ++ decimal errorCode.toNat ++ [')']

/-- The variants of `ObjectType`, by their number. -/
def objectTypeNames : List (Nat × String) :=
  [(0, "AnalogInput"), (1, "AnalogOutput"), (2, "AnalogValue"), (3, "BinaryInput"),
    (4, "BinaryOutput"), (5, "BinaryValue"), (6, "Calendar"), (7, "Command"), (8, "Device"),
    (9, "EventEnrollment"), (10, "File"), (11, "Group"), (12, "Loop"), (13, "MultiStateInput"),
    (14, "MultiStateOutput"), (15, "NotificationClass"), (16, "Program"), (17, "Schedule"),
    (18, "Averaging"), (19, "MultiStateValue"), (20, "TrendLog"), (21, "LifeSafetyPoint"),
    (22, "LifeSafetyZone"), (23, "Accumulator"), (24, "PulseConverter"), (25, "EventLog"),
    (26, "GlobalGroup"), (27, "TrendLogMultiple"), (28, "LoadControl"), (29, "StructuredView"),
    (30, "AccessDoor"), (31, "Timer"), (32, "AccessCredential"), (33, "AccessPoint"),
    (34, "AccessRights"), (35, "AccessUser"), (36, "AccessZone"), (37, "CredentialDataInput"),
    (39, "BitstringValue"), (40, "CharacterstringValue"), (41, "DatepatternValue"),
    (42, "DateValue"), (43, "DatetimepatternValue"), (44, "DatetimeValue"), (45, "IntegerValue"),
    (46, "LargeAnalogValue"), (47, "OctetstringValue"), (48, "PositiveIntegerValue"),
    (49, "TimepatternValue"), (50, "TimeValue"), (51, "NotificationForwarder"),
    (52, "AlertEnrollment"), (53, "Channel"), (54, "LightingOutput"),
    (55, "BinaryLightingOutput"), (56, "NetworkPort"), (57, "ElevatorGroup"), (58, "Escalator"),
    (59, "Lift"), (60, "Staging"), (61, "AuditLog"), (62, "AuditReporter"), (63, "Color"),
    (64, "ColorTemperature")]

/-- `{}` of an `ObjectType`. -/
def objectTypeName (objectType : ObjectType) : Text :=
  match objectTypeNames.lookup objectType.value.toNat with
  | some name => name.toList
  | none =>
      (if 128 ≤ objectType.value ∧ objectType.value ≤ 1023 then "Custom(".toList
        else "Reserved(".toList) ++ decimal objectType.value.toNat ++ [')']

/-- A part of a date or a time: 255 stands for any. -/
def wildcard (shown : UInt8 → Text) (octet : UInt8) : Text :=
  if octet = 255 then ['*'] else shown octet

/-- The month in `bacnet_date_to_string`. -/
def monthName (month : UInt8) : Text :=
  if month = 13 then "odd".toList
  else if month = 14 then "even".toList
  else decimal month.toNat

/-- The day in `bacnet_date_to_string`. -/
def dayName (day : UInt8) : Text := if day = 32 then "last".toList else decimal day.toNat

/-- The day of the week in `bacnet_date_to_string`. -/
def weekdayName (weekday : UInt8) : Text :=
  ((["?", "Mon", "Tue", "Wed", "Thu", "Fri", "Sat", "Sun"] : List String).getD
    weekday.toNat "?").toList

/-- `bacnet_date_to_string`. -/
def bacnetDateToString (year : Nat) (month day weekday : UInt8) : Text :=
  (if year = 255 then ['*'] else decimal year) ++ ['/'] ++ wildcard monthName month ++ ['/']
    ++ wildcard dayName day ++ [' ', '('] ++ wildcard weekdayName weekday ++ [')']

/-- `bacnet_time_to_string`. -/
def bacnetTimeToString (hour minute second hundredths : UInt8) : Text :=
  let part := wildcard (fun octet => padded 10 2 octet.toNat)
  part hour ++ [':'] ++ part minute ++ [':'] ++ part second ++ ['.'] ++ part hundredths

/-- `String::from_utf16_lossy`: a surrogate that has no other half is replaced. -/
def fromUtf16Lossy : List Nat → Text
  | [] => []
  | [unit] => [if unit < 0xD800 ∨ 0xDFFF < unit then Char.ofNat unit else Utf8.replacement]
  | unit :: low :: rest =>
      -- What follows a half without its other half is read anew.
      if unit < 0xD800 ∨ 0xDFFF < unit then Char.ofNat unit :: fromUtf16Lossy (low :: rest)
      else if unit < 0xDC00 ∧ 0xDC00 ≤ low ∧ low ≤ 0xDFFF then
        Char.ofNat (Utf16.paired unit low) :: fromUtf16Lossy rest
      else Utf8.replacement :: fromUtf16Lossy (low :: rest)

/-! ## §2. Property values -/

/-- `format_unsigned_integer`. -/
def formatUnsignedInteger (data : Bytes) : Formatted :=
  if data.length < 2 then .ok "UnsignedInt(invalid)".toList
  else do
    let first ← index data 0
    let length := (first &&& 0x07).toNat
    if data.length < 1 + length then return "UnsignedInt(invalid length)".toList
    else do
      let value ← (List.range length).foldlM (fun (value : UInt64) i => do
        let octet ← index data (1 + i)
        return (value <<< 8) ||| octet.toUInt64) 0
      return "UnsignedInt(".toList ++ decimal value.toNat ++ [')']

/-- `format_signed_integer`.  A shift by the whole width overflows. -/
def formatSignedInteger (data : Bytes) : Formatted :=
  if data.length < 2 then .ok "SignedInt(invalid)".toList
  else do
    let first ← index data 0
    let length := (first &&& 0x07).toNat
    if data.length < 1 + length then return "SignedInt(invalid length)".toList
    else do
      let high ← index data 1
      let value ← (List.range length).foldlM (fun (value : Int64) i => do
        let octet ← index data (1 + i)
        return (value <<< 8) ||| Int64.ofNat octet.toNat) 0
      -- The sign is that of the first octet, also where the tag counts none.
      let shift := 64 - length * 8
      if high &&& 0x80 ≠ 0 then
        if shift < 64 then
          let value := (value <<< Int64.ofNat shift) >>> Int64.ofNat shift
          return "SignedInt(".toList ++ signed value.toInt ++ [')']
        else .error .panic
      else return "SignedInt(".toList ++ signed value.toInt ++ [')']

/-- The text of `format_character_string`, in the sets it knows. -/
def decodedString (encoding : UInt8) (stringData : Bytes) : Text :=
  if encoding = 0 then Utf8.lossy stringData
  else if encoding = 4 then
    fromUtf16Lossy (((chunks 2 stringData).filter (fun chunk => chunk.length == 2)).map beNat)
  else "<encoding=".toList ++ decimal encoding.toNat ++ ['>']

/-- `format_character_string`. -/
def formatCharacterString (data : Bytes) : Formatted :=
  if data.length < 3 then .ok "CharString(invalid)".toList
  else do
    let length ← index data 1
    if data.length < 2 + length.toNat then return "CharString(invalid length)".toList
    else do
      -- The length counts the octet of the set, so with 0 this range ends before it starts.
      let encoding ← index data 2
      let stringData ← range data 3 (2 + length.toNat)
      return "CharString(\"".toList ++ decodedString encoding stringData ++ ['"', ')']

/-- `format_octet_string`. -/
def formatOctetString (data : Bytes) : Formatted :=
  if data.isEmpty then .ok "OctetString(invalid)".toList
  else do
    let first ← index data 0
    let length := (first &&& 0x07).toNat
    if data.length < 1 + length then return "OctetString(invalid length)".toList
    else do
      let octets ← range data 1 (1 + length)
      return "OctetString([".toList ++ [' '].intercalate (octets.map hexOctet) ++ [']', ')']

/-- `format_enumerated`. -/
def formatEnumerated (data : Bytes) : Formatted :=
  if data.length < 2 then .ok "Enumerated(invalid)".toList
  else do
    let value ← index data 1
    return "Enumerated(".toList ++ decimal value.toNat ++ [')']

/-- A value of four octets behind its tag. -/
def formatFour (invalid : Text) (shown : UInt8 → UInt8 → UInt8 → UInt8 → Text) (data : Bytes) :
    Formatted :=
  if data.length < 5 then .ok invalid
  else do
    let a ← index data 1
    let b ← index data 2
    let c ← index data 3
    let d ← index data 4
    return shown a b c d

/-- `format_date`. -/
def formatDate : Bytes → Formatted :=
  formatFour "Date(invalid)".toList (fun year month day weekday =>
    "Date(".toList ++ bacnetDateToString (year.toNat + 1900) month day weekday ++ [')'])

/-- `format_time`. -/
def formatTime : Bytes → Formatted :=
  formatFour "Time(invalid)".toList (fun hour minute second hundredths =>
    "Time(".toList ++ bacnetTimeToString hour minute second hundredths ++ [')'])

/-- `format_object_identifier`. -/
def formatObjectIdentifier : Bytes → Formatted :=
  formatFour "ObjectID(invalid)".toList (fun a b c d =>
    let id := ObjectIdentifier.ofUInt32 (UInt32.ofNat (beNat [a, b, c, d]))
    "ObjectID(".toList ++ objectTypeName id.objectType ++ [' ']
      ++ decimal id.instanceNumber.toNat ++ [')'])

section Values

-- `{}` of a float, from its bits.
variable (real : UInt32 → Text) (double : UInt64 → Text)

/-- The arm for a Boolean. -/
def formatBoolean (data : Bytes) : Formatted :=
  if 2 ≤ data.length then do
    let value ← index data 1
    return "Boolean(".toList ++ boolean (value != 0) ++ [')']
  else .ok "Boolean(invalid)".toList

/-- The arm for a Real. -/
def formatReal : Bytes → Formatted :=
  formatFour "Real(invalid)".toList (fun a b c d =>
    "Real(".toList ++ real (UInt32.ofNat (beNat [a, b, c, d])) ++ [')'])

/-- The arm for a Double. -/
def formatDouble (data : Bytes) : Formatted :=
  if 9 ≤ data.length then do
    let octets ← range data 1 9
    return "Double(".toList ++ double (UInt64.ofNat (beNat octets)) ++ [')']
  else .ok "Double(invalid)".toList

/-- `match tag` in `format_property_value`. -/
def formatTagged (tag : UInt8) (data : Bytes) : Formatted :=
  if tag = 0x11 then formatBoolean data
  else if tag = 0x21 then formatUnsignedInteger data
  else if tag = 0x31 then formatSignedInteger data
  else if tag = 0x44 then formatReal real data
  else if tag = 0x55 then formatDouble double data
  else if tag = 0x75 then formatCharacterString data
  else if 0x81 ≤ tag ∧ tag ≤ 0x8F then formatOctetString data
  else if tag = 0x91 then formatEnumerated data
  else if tag = 0xA1 then formatDate data
  else if tag = 0xB1 then formatTime data
  else if tag = 0xC4 then formatObjectIdentifier data
  else
    .ok ("Unknown(tag=0x".toList ++ hexOctet tag ++ ", data=".toList ++ hexDump data [] ++ [')'])

/-- `format_property_value`. -/
def formatPropertyValue (data : Bytes) : Formatted :=
  match data with
  | [] => .ok "[empty]".toList
  | tag :: _ => formatTagged real double tag data

end Values

/-! ## §3. APDUs -/

/-- The PDU types in `format_apdu_structure`. -/
def pduTypeName (pduType : UInt8) : Text :=
  ((["Confirmed-Request", "Unconfirmed-Request", "Simple-ACK", "Complex-ACK", "Segment-ACK",
    "Error", "Reject", "Abort"] : List String).getD pduType.toNat "Reserved").toList

/-- A line of a structure. -/
def line (label value : Text) : Text := label ++ [':', ' '] ++ value ++ ['\n']

/-- The service of a request, in the octet at `pos`. -/
def formatService (data : Bytes) (pos : Nat) : Formatted :=
  if pos < data.length then do
    let serviceChoice ← index data pos
    return line "  Service Choice".toList (formatServiceChoice serviceChoice)
  else .ok []

/-- The arm of `format_apdu_structure` for a Confirmed-Request. -/
def formatConfirmedRequest (pduFlags : UInt8) (data : Bytes) : Formatted :=
  if 4 ≤ data.length then do
    let octet ← index data 1
    let window : UInt8 := (octet &&& 0xF0) >>> 3
    let maxApdu := (pduFlags &&& 0x01) ||| window
    let service ← formatService data 2
    return line "  Max Segments".toList (decimal ((pduFlags >>> 1) &&& 0x07).toNat)
      ++ line "  Max APDU".toList (decimal maxApdu.toNat)
      ++ line "  Invoke ID".toList (decimal (octet &&& 0x0F).toNat) ++ service
  else .ok []

/-- The arm for an Unconfirmed-Request. -/
def formatUnconfirmedRequest (data : Bytes) : Formatted := formatService data 1

/-- The invoke id and the service an acknowledgement or an error is about. -/
def formatAbout (data : Bytes) : Formatted := do
  let invokeId ← index data 1
  let serviceChoice ← index data 2
  return line "  Invoke ID".toList (decimal invokeId.toNat)
    ++ line "  Service Choice".toList (formatServiceChoice serviceChoice)

/-- The arm for a Complex-ACK. -/
def formatComplexAck (data : Bytes) : Formatted :=
  if 3 ≤ data.length then formatAbout data else .ok []

/-- The arm for an Error: four octets are checked for and five are read. -/
def formatError (data : Bytes) : Formatted :=
  if 4 ≤ data.length then do
    let about ← formatAbout data
    let errorClass ← index data 3
    let errorCode ← index data 4
    return about ++ line "  Error".toList (formatBacnetError errorClass errorCode)
  else .ok []

/-- The arms of `format_apdu_structure`. -/
def formatApduBody (pduType pduFlags : UInt8) (data : Bytes) : Formatted :=
  if pduType = 0 then formatConfirmedRequest pduFlags data
  else if pduType = 1 then formatUnconfirmedRequest data
  else if pduType = 3 then formatComplexAck data
  else if pduType = 5 then formatError data
  else do
    let raw ← dropFrom data 1
    pure (line "  Raw data".toList (hexDump raw "    ".toList))

/-- `format_apdu_structure`. -/
def formatApduStructure (data : Bytes) : Formatted :=
  match data with
  | [] => .ok "Empty APDU".toList
  | first :: _ => do
      let pduType := (first >>> 4) &&& 0x0F
      let pduFlags := first &&& 0x0F
      let body ← formatApduBody pduType pduFlags data
      return "APDU Structure:\n  PDU Type: ".toList ++ decimal pduType.toNat ++ [' ', '(']
        ++ pduTypeName pduType ++ [')']
        ++ line "  PDU Flags".toList ("0x".toList ++ padded 16 1 pduFlags.toNat) ++ body

/-! ## §4. Network and link layers -/

/-- One address of `format_npdu_structure`, read at `pos` if it is there: its lines, and where
what follows it starts. -/
def formatNetworkAddress (side : Text) (present : Bool) (data : Bytes) (pos : Nat) :
    Checked Empty (Text × Nat) :=
  if present ∧ pos + 2 < data.length then do
    let high ← index data pos
    let low ← index data (pos + 1)
    let network := line ([' ', ' '] ++ side ++ " Network".toList) (decimal (beNat [high, low]))
    -- The source asks again once it has moved past the network number.
    if pos + 2 < data.length then do
      let length ← index data (pos + 2)
      if pos + 3 + length.toNat ≤ data.length then do
        let address ← range data (pos + 3) (pos + 3 + length.toNat)
        return (network ++ line ([' ', ' '] ++ side ++ " Address".toList) (hexOctets address),
          pos + 3 + length.toNat)
      else return (network, pos + 3)
    else return (network, pos + 2)
  else return ([], pos)

/-- The hop count, read at `pos` if anything is there. -/
def formatHopCount (data : Bytes) (pos : Nat) : Checked Empty (Text × Nat) :=
  if pos < data.length then do
    let hopCount ← index data pos
    return (line "  Hop Count".toList (decimal hopCount.toNat), pos + 1)
  else return ([], pos)

/-- The priorities in `format_npdu_structure`. -/
def priorityName (priority : UInt8) : Text :=
  ((["Normal", "Urgent", "Critical", "Life Safety"] : List String).getD
    priority.toNat "Unknown").toList

/-- `format_npdu_structure`. -/
def formatNpduStructure (data : Bytes) : Formatted :=
  match data with
  | [] => .ok "Empty NPDU".toList
  | version :: _ =>
      let header := "NPDU Structure:\n".toList ++ line "  Version".toList (decimal version.toNat)
      if data.length < 2 then .ok header
      else do
        let control ← index data 1
        let (destination, pos) ←
          formatNetworkAddress "Destination".toList ((control &&& 0x20) != 0) data 2
        let (source, pos) ← formatNetworkAddress "Source".toList ((control &&& 0x08) != 0) data pos
        let (hops, pos) ← formatHopCount data pos
        let apdu := if pos < data.length then
            line "  APDU Length".toList (decimal (data.length - pos) ++ " bytes".toList)
          else []
        return header
          ++ line "  Control".toList ("0x".toList ++ hexOctet control)
          ++ line "    Destination Present".toList (boolean ((control &&& 0x20) != 0))
          ++ line "    Source Present".toList (boolean ((control &&& 0x08) != 0))
          ++ line "    Expecting Reply".toList (boolean ((control &&& 0x04) != 0))
          ++ line "    Priority".toList (decimal (control &&& 0x03).toNat ++ [' ', '(']
            ++ priorityName (control &&& 0x03) ++ [')'])
          ++ destination ++ source ++ hops ++ apdu

/-- The functions in `format_bvll_structure`. -/
def bvllFunctionName (function : UInt8) : Text :=
  ((["Result", "Write-BDT", "Read-BDT", "Read-BDT-Ack", "Forwarded-NPDU",
    "Register-Foreign-Device", "Read-FDT", "Read-FDT-Ack", "Delete-FDT-Entry",
    "Distribute-Broadcast-To-Network", "Original-Unicast-NPDU", "Original-Broadcast-NPDU",
    "Secure-BVLL"] : List String).getD function.toNat "Unknown").toList

/-- `format_bvll_structure`. -/
def formatBvllStructure (data : Bytes) : Formatted :=
  if data.length < 4 then .ok "Invalid BVLL (too short)".toList
  else do
    let bvllType ← index data 0
    let function ← index data 1
    let high ← index data 2
    let low ← index data 3
    let length := beNat [high, low]
    return "BVLL Structure:\n".toList
      ++ line "  Type".toList ("0x".toList ++ hexOctet bvllType ++ [' ', '(']
        ++ (if bvllType = 0x81 then "BACnet/IP".toList else "Unknown".toList) ++ [')'])
      ++ line "  Function".toList ("0x".toList ++ hexOctet function ++ [' ', '(']
        ++ bvllFunctionName function ++ [')'])
      ++ line "  Length".toList (decimal length ++ " bytes".toList)
      ++ (if data.length ≠ length then
        line "  WARNING".toList ("Actual length ".toList ++ decimal data.length ++ " bytes".toList)
        else [])
      ++ (if 4 < data.length then
        line "  Data Length".toList (decimal (data.length - 4) ++ " bytes".toList) else [])

/-! ## §5. What returns -/

/-- A formatter reports no errors, so without a panic it returns. -/
theorem returns_of_meets {x : Formatted} (h : Checked.Meets x (fun _ => True)) :
    ∃ text, x = .ok text := by
  rcases h.cases with ⟨text, htext, _⟩ | ⟨e, _⟩
  · exact ⟨text, htext⟩
  · exact e.elim

theorem meets_ite {α : Type} {c : Prop} [Decidable c] {x y : Checked Empty α} {P : α → Prop}
    (hx : c → Checked.Meets x P) (hy : ¬ c → Checked.Meets y P) :
    Checked.Meets (if c then x else y) P := by
  by_cases h : c
  · rw [if_pos h]
    exact hx h
  · rw [if_neg h]
    exact hy h

/-- A loop whose steps do not panic does not. -/
theorem foldlM_meets {α β : Type} {f : β → α → Checked Empty β} {as : List α}
    (h : ∀ b, ∀ a ∈ as, Checked.Meets (f b a) (fun _ => True)) :
    ∀ {b : β}, Checked.Meets (as.foldlM f b) (fun _ => True) := by
  induction as with
  | nil => exact Checked.meets_ok trivial
  | cons a as ih =>
      intro b
      rw [List.foldlM_cons]
      exact (h b a List.mem_cons_self).bind
        (fun next _ => ih (fun b later hlater => h b later (List.mem_cons_of_mem _ hlater)))

theorem formatUnsignedInteger_meets (data : Bytes) :
    Checked.Meets (formatUnsignedInteger data) (fun _ => True) := by
  unfold formatUnsignedInteger
  split
  · exact Checked.meets_ok trivial
  · next hlong =>
    refine (index_meets (by omega)).bind (fun first _ => ?_)
    simp only
    split
    · exact Checked.meets_ok trivial
    · next hwhole =>
      refine (foldlM_meets (fun value i hi => ?_)).bind (fun value _ => Checked.meets_ok trivial)
      have hlt := List.mem_range.mp hi
      exact (index_meets (by omega)).bind (fun octet _ => Checked.meets_ok trivial)

/-- With a tag of length one: `format_property_value` calls it with no other. -/
theorem formatSignedInteger_meets {data : Bytes} (h : data[0]? = some 0x31) :
    Checked.Meets (formatSignedInteger data) (fun _ => True) := by
  have hfirst : (index data 0 : Checked Empty UInt8) = .ok 0x31 := index_eq_ok.mpr h
  have hlength : ((0x31 : UInt8) &&& 0x07).toNat = 1 := rfl
  unfold formatSignedInteger
  split
  · exact Checked.meets_ok trivial
  · next hlong =>
    rw [hfirst, Checked.ok_bind]
    simp only [hlength]
    split
    · exact Checked.meets_ok trivial
    · refine (index_meets (by omega)).bind (fun high _ => ?_)
      refine (foldlM_meets (fun value i hi => ?_)).bind (fun value _ => ?_)
      · have hlt := List.mem_range.mp hi
        exact (index_meets (by omega)).bind (fun octet _ => Checked.meets_ok trivial)
      · split
        · exact Checked.meets_ok trivial
        · exact Checked.meets_ok trivial

/-- A length that counts the character set leaves the text where it starts or behind it. -/
theorem formatCharacterString_meets {data : Bytes} (h : data.length < 3 ∨ data[1]? ≠ some 0) :
    Checked.Meets (formatCharacterString data) (fun _ => True) := by
  unfold formatCharacterString
  split
  · exact Checked.meets_ok trivial
  · next hlong =>
    have hlength := (index_meets (ε := Empty) (show 1 < data.length by omega)).and
      (index_ensures data 1)
    refine hlength.bind (fun length hlength => ?_)
    split
    · exact Checked.meets_ok trivial
    · next hwhole =>
      have hcounts : length ≠ 0 := by
        rintro rfl
        exact (h.resolve_left hlong) hlength.2.1
      have hpos : 1 ≤ length.toNat :=
        Nat.pos_of_ne_zero (fun hzero => hcounts (UInt8.toNat_inj.mp hzero))
      refine (index_meets (by omega)).bind (fun encoding _ => ?_)
      refine (range_meets (by omega) (by omega)).bind (fun stringData _ => ?_)
      exact Checked.meets_ok trivial

/-- **A length of zero** starts the text behind its end. -/
theorem formatCharacterString_panics (tag next : UInt8) (rest : Bytes) :
    formatCharacterString (tag :: 0x00 :: next :: rest) = .error .panic := by
  have hlong : ¬ (tag :: 0x00 :: next :: rest).length < 3 := by
    simp only [List.length_cons]
    omega
  have hwhole : ¬ (tag :: 0x00 :: next :: rest).length < 2 + (0x00 : UInt8).toNat := by
    simp only [List.length_cons]
    exact Nat.not_lt.mpr (Nat.le_add_left 2 _)
  have hlength : (index (tag :: 0x00 :: next :: rest) 1 : Checked Empty UInt8) = .ok 0x00 := rfl
  unfold formatCharacterString
  rw [if_neg hlong, hlength, Checked.ok_bind, if_neg hwhole]
  rfl

theorem formatOctetString_meets (data : Bytes) :
    Checked.Meets (formatOctetString data) (fun _ => True) := by
  unfold formatOctetString
  split
  · exact Checked.meets_ok trivial
  · next hnonempty =>
    have hpos : 0 < data.length := by
      rw [List.isEmpty_iff] at hnonempty
      exact List.length_pos_of_ne_nil hnonempty
    refine (index_meets hpos).bind (fun first _ => ?_)
    simp only
    split
    · exact Checked.meets_ok trivial
    · next hwhole =>
      exact (range_meets (by omega) (by omega)).bind (fun octets _ => Checked.meets_ok trivial)

theorem formatEnumerated_meets (data : Bytes) :
    Checked.Meets (formatEnumerated data) (fun _ => True) := by
  unfold formatEnumerated
  split
  · exact Checked.meets_ok trivial
  · exact (index_meets (by omega)).bind (fun value _ => Checked.meets_ok trivial)

theorem formatFour_meets (invalid : Text) (shown : UInt8 → UInt8 → UInt8 → UInt8 → Text)
    (data : Bytes) : Checked.Meets (formatFour invalid shown data) (fun _ => True) := by
  unfold formatFour
  split
  · exact Checked.meets_ok trivial
  · refine (index_meets (by omega)).bind (fun a _ => ?_)
    refine (index_meets (by omega)).bind (fun b _ => ?_)
    refine (index_meets (by omega)).bind (fun c _ => ?_)
    exact (index_meets (by omega)).bind (fun d _ => Checked.meets_ok trivial)

theorem formatBoolean_meets (data : Bytes) :
    Checked.Meets (formatBoolean data) (fun _ => True) := by
  unfold formatBoolean
  split
  · exact (index_meets (by omega)).bind (fun value _ => Checked.meets_ok trivial)
  · exact Checked.meets_ok trivial

theorem formatDouble_meets (double : UInt64 → Text) (data : Bytes) :
    Checked.Meets (formatDouble double data) (fun _ => True) := by
  unfold formatDouble
  split
  · exact (range_meets (by omega) (by omega)).bind (fun octets _ => Checked.meets_ok trivial)
  · exact Checked.meets_ok trivial

/-- **A property value is formatted**, unless it is a character string of length zero with
anything behind its length. -/
theorem formatPropertyValue_returns_iff (real : UInt32 → Text) (double : UInt64 → Text)
    (data : Bytes) :
    (∃ text, formatPropertyValue real double data = .ok text)
      ↔ ¬ ∃ next rest, data = 0x75 :: 0x00 :: next :: rest := by
  constructor
  · rintro ⟨text, htext⟩ ⟨next, rest, rfl⟩
    have hpanics : formatPropertyValue real double (0x75 :: 0x00 :: next :: rest)
        = formatCharacterString (0x75 :: 0x00 :: next :: rest) := rfl
    rw [hpanics, formatCharacterString_panics] at htext
    cases htext
  · intro hcounts
    refine returns_of_meets ?_
    cases data with
    | nil => exact Checked.meets_ok trivial
    | cons tag rest =>
        show Checked.Meets (formatTagged real double tag (tag :: rest)) (fun _ => True)
        unfold formatTagged
        refine meets_ite (fun _ => formatBoolean_meets _) (fun _ => ?_)
        refine meets_ite (fun _ => formatUnsignedInteger_meets _) (fun _ => ?_)
        refine meets_ite (fun hsigned => formatSignedInteger_meets (congrArg some hsigned))
          (fun _ => ?_)
        refine meets_ite (fun _ => formatFour_meets _ _ _) (fun _ => ?_)
        refine meets_ite (fun _ => formatDouble_meets _ _) (fun _ => ?_)
        refine meets_ite (fun hstring => formatCharacterString_meets ?_) (fun _ => ?_)
        · match rest, hcounts with
          | [], _ => exact .inl (by simp)
          | [length], _ => exact .inl (by simp)
          | length :: next :: rest, hcounts =>
              refine .inr (fun hzero => hcounts ⟨next, rest, ?_⟩)
              rw [hstring, Option.some.inj hzero]
        · refine meets_ite (fun _ => formatOctetString_meets _) (fun _ => ?_)
          refine meets_ite (fun _ => formatEnumerated_meets _) (fun _ => ?_)
          refine meets_ite (fun _ => formatFour_meets _ _ _) (fun _ => ?_)
          refine meets_ite (fun _ => formatFour_meets _ _ _) (fun _ => ?_)
          refine meets_ite (fun _ => formatFour_meets _ _ _) (fun _ => ?_)
          exact Checked.meets_ok trivial

theorem formatService_meets (data : Bytes) (pos : Nat) :
    Checked.Meets (formatService data pos) (fun _ => True) := by
  unfold formatService
  refine meets_ite (fun hmore => ?_) (fun _ => Checked.meets_ok trivial)
  exact (index_meets hmore).bind (fun serviceChoice _ => Checked.meets_ok trivial)

theorem formatConfirmedRequest_meets (pduFlags : UInt8) (data : Bytes) :
    Checked.Meets (formatConfirmedRequest pduFlags data) (fun _ => True) := by
  unfold formatConfirmedRequest
  refine meets_ite (fun hlong => ?_) (fun _ => Checked.meets_ok trivial)
  refine (index_meets (by omega)).bind (fun octet _ => ?_)
  exact (formatService_meets data 2).bind (fun service _ => Checked.meets_ok trivial)

theorem formatAbout_meets {data : Bytes} (h : 3 ≤ data.length) :
    Checked.Meets (formatAbout data) (fun _ => True) := by
  unfold formatAbout
  refine (index_meets (by omega)).bind (fun invokeId _ => ?_)
  exact (index_meets (by omega)).bind (fun serviceChoice _ => Checked.meets_ok trivial)

theorem formatError_meets {data : Bytes} (h : data.length ≠ 4) :
    Checked.Meets (formatError data) (fun _ => True) := by
  unfold formatError
  refine meets_ite (fun hlong => ?_) (fun _ => Checked.meets_ok trivial)
  refine (formatAbout_meets (by omega)).bind (fun about _ => ?_)
  refine (index_meets (by omega)).bind (fun errorClass _ => ?_)
  exact (index_meets (by omega)).bind (fun errorCode _ => Checked.meets_ok trivial)

/-- The high half of an octet is a number below sixteen. -/
theorem pduType_eq (first : UInt8) : (first >>> (4 : UInt8)) &&& 0x0F = first >>> (4 : UInt8) := by
  have hall : ∀ n : Fin 256,
      (UInt8.ofNat n >>> (4 : UInt8)) &&& 0x0F = UInt8.ofNat n >>> (4 : UInt8) := by
    decide +kernel
  have hfirst := hall ⟨first.toNat, first.toNat_lt⟩
  rwa [UInt8.ofNat_toNat] at hfirst

theorem formatApduBody_meets {pduType : UInt8} (pduFlags : UInt8) {data : Bytes}
    (hdata : data ≠ []) (h : pduType = 5 → data.length ≠ 4) :
    Checked.Meets (formatApduBody pduType pduFlags data) (fun _ => True) := by
  unfold formatApduBody
  refine meets_ite (fun _ => formatConfirmedRequest_meets _ _) (fun _ => ?_)
  refine meets_ite (fun _ => formatService_meets _ _) (fun _ => ?_)
  refine meets_ite (fun _ => ?_) (fun _ => ?_)
  · unfold formatComplexAck
    exact meets_ite (fun hlong => formatAbout_meets hlong) (fun _ => Checked.meets_ok trivial)
  · refine meets_ite (fun herror => formatError_meets (h herror)) (fun _ => ?_)
    exact (dropFrom_meets (List.length_pos_of_ne_nil hdata)).bind
      (fun raw _ => Checked.meets_ok trivial)

/-- **An APDU is formatted**, unless it is an Error of four octets. -/
theorem formatApduStructure_returns_iff (data : Bytes) :
    (∃ text, formatApduStructure data = .ok text)
      ↔ ¬ ∃ first invokeId serviceChoice errorClass,
        data = [first, invokeId, serviceChoice, errorClass] ∧ first >>> 4 = 5 := by
  constructor
  · rintro ⟨text, htext⟩ ⟨first, invokeId, serviceChoice, errorClass, rfl, herror⟩
    have hbody : formatApduBody ((first >>> 4) &&& 0x0F) (first &&& 0x0F)
        [first, invokeId, serviceChoice, errorClass] = .error .panic := by
      rw [pduType_eq, herror]
      rfl
    unfold formatApduStructure at htext
    simp only [hbody] at htext
    cases htext
  · intro hcoded
    refine returns_of_meets ?_
    cases data with
    | nil => exact Checked.meets_ok trivial
    | cons first rest =>
        refine (formatApduBody_meets _ (List.cons_ne_nil first rest)
          (fun herror hlength => ?_)).bind (fun body _ => Checked.meets_ok trivial)
        rw [pduType_eq] at herror
        match rest, hlength with
        | [invokeId, serviceChoice, errorClass], _ =>
            exact hcoded ⟨first, invokeId, serviceChoice, errorClass, rfl, herror⟩

theorem formatNetworkAddress_meets (side : Text) (present : Bool) (data : Bytes) (pos : Nat) :
    Checked.Meets (formatNetworkAddress side present data pos) (fun _ => True) := by
  unfold formatNetworkAddress
  split
  · next hpresent =>
    have hlong := hpresent.2
    refine (index_meets (by omega)).bind (fun high _ => ?_)
    refine (index_meets (by omega)).bind (fun low _ => ?_)
    simp only [if_pos hlong]
    refine (index_meets hlong).bind (fun length _ => ?_)
    split
    · exact (range_meets (Nat.le_add_right _ _) (by omega)).bind
        (fun address _ => Checked.meets_ok trivial)
    · exact Checked.meets_ok trivial
  · exact Checked.meets_ok trivial

theorem formatHopCount_meets (data : Bytes) (pos : Nat) :
    Checked.Meets (formatHopCount data pos) (fun _ => True) := by
  unfold formatHopCount
  refine meets_ite (fun hmore => ?_) (fun _ => Checked.meets_ok trivial)
  exact (index_meets hmore).bind (fun hopCount _ => Checked.meets_ok trivial)

/-- **An NPDU is always formatted.** -/
theorem formatNpduStructure_returns (data : Bytes) :
    ∃ text, formatNpduStructure data = .ok text := by
  refine returns_of_meets ?_
  cases data with
  | nil => exact Checked.meets_ok trivial
  | cons version rest =>
      unfold formatNpduStructure
      simp only
      refine meets_ite (fun _ => Checked.meets_ok trivial) (fun hcontrol => ?_)
      refine (index_meets (by omega)).bind (fun control _ => ?_)
      refine (formatNetworkAddress_meets _ _ _ _).bind (fun destination _ => ?_)
      refine (formatNetworkAddress_meets _ _ _ _).bind (fun source _ => ?_)
      exact (formatHopCount_meets _ _).bind (fun hops _ => Checked.meets_ok trivial)

theorem formatBvllStructure_returns (data : Bytes) :
    ∃ text, formatBvllStructure data = .ok text := by
  refine returns_of_meets ?_
  unfold formatBvllStructure
  refine meets_ite (fun _ => Checked.meets_ok trivial) (fun hlong => ?_)
  refine (index_meets (by omega)).bind (fun bvllType _ => ?_)
  refine (index_meets (by omega)).bind (fun function _ => ?_)
  refine (index_meets (by omega)).bind (fun high _ => ?_)
  exact (index_meets (by omega)).bind (fun low _ => Checked.meets_ok trivial)

/-- **Which captured octets are formatted.**  Every formatter returns on all of them, but for
two kinds: a character string whose length is zero, with anything behind it, unwinds
`format_property_value`, and an Error of four octets unwinds `format_apdu_structure`. -/
theorem formatters_return (real : UInt32 → Text) (double : UInt64 → Text) (data : Bytes) :
    ((∃ text, formatPropertyValue real double data = .ok text)
        ↔ ¬ ∃ next rest, data = 0x75 :: 0x00 :: next :: rest)
      ∧ ((∃ text, formatApduStructure data = .ok text)
        ↔ ¬ ∃ first invokeId serviceChoice errorClass,
          data = [first, invokeId, serviceChoice, errorClass] ∧ first >>> 4 = 5)
      ∧ (∃ text, formatNpduStructure data = .ok text)
      ∧ ∃ text, formatBvllStructure data = .ok text :=
  ⟨formatPropertyValue_returns_iff real double data, formatApduStructure_returns_iff data,
    formatNpduStructure_returns data, formatBvllStructure_returns data⟩

example : formatPropertyValue (fun _ => []) (fun _ => []) [0x11, 0x01]
    = .ok "Boolean(true)".toList := rfl

/-- An empty character string without its set, and an Error without its code. -/
theorem formatters_panic :
    formatPropertyValue (fun _ => []) (fun _ => []) [0x75, 0x00, 0x00] = .error .panic
      ∧ formatApduStructure [0x50, 0x01, 0x0C, 0x00] = .error .panic :=
  ⟨rfl, rfl⟩

end BacnetRs.Util.DebugFormat
