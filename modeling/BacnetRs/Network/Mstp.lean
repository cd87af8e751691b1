/-
  BacnetRs.Network.Mstp — frames on an MS/TP line (`datalink/mstp.rs`,
  `util/mod.rs`).

  A header of eight octets, closed by a check octet, and behind it the data, if
  there are any, closed by two.  The decoder takes every frame whose checks are
  right; the length a frame may have is looked at where frames are made only:

    * `decode_eq_ok_iff`      — what is decoded is what is encoded, of any length.
    * `accepts_encoded_iff`   — which of it could have been made.
-/
import BacnetRs.Library.ShiftRegister
import BacnetRs.Library.Words
import BacnetRs.Network.Bvlc

namespace BacnetRs.Network

open Octets Checked

/-! ## §1. Frames -/

/-- `MSTP_MAX_DATA_LENGTH`. -/
def mstpMaxDataLength : Nat := 501

/-- `MSTP_HEADER_SIZE`. -/
def mstpHeaderSize : Nat := 8

/-- `MSTP_MAX_FRAME_SIZE`. -/
def mstpMaxFrameSize : Nat := mstpHeaderSize + mstpMaxDataLength + 2

/-- MS/TP frame types. -/
inductive MstpFrameType where
  | token
  | pollForMaster
  | replyToPollForMaster
  | testRequest
  | testResponse
  | bacnetDataExpectingReply
  | bacnetDataNotExpectingReply
  | replyPostponed
  deriving Repr, DecidableEq

namespace MstpFrameType

/-- `frame_type as u8`. -/
def toByte : MstpFrameType → UInt8
  | token => 0
  | pollForMaster => 1
  | replyToPollForMaster => 2
  | testRequest => 3
  | testResponse => 4
  | bacnetDataExpectingReply => 5
  | bacnetDataNotExpectingReply => 6
  | replyPostponed => 7

/-- `MstpFrameType::from_u8`. -/
def fromU8 (value : UInt8) : Option MstpFrameType :=
  if value = 0 then some token
  else if value = 1 then some pollForMaster
  else if value = 2 then some replyToPollForMaster
  else if value = 3 then some testRequest
  else if value = 4 then some testResponse
  else if value = 5 then some bacnetDataExpectingReply
  else if value = 6 then some bacnetDataNotExpectingReply
  else if value = 7 then some replyPostponed
  else none

theorem fromU8_eq_some {value : UInt8} {frameType : MstpFrameType} :
    fromU8 value = some frameType ↔ value = frameType.toByte := by
  constructor
  · have hall : ∀ octet : Fin 256, ∀ known, fromU8 (.ofNat octet) = some known →
        UInt8.ofNat octet = known.toByte := by
      decide +kernel
    have hvalue := hall ⟨value.toNat, value.toNat_lt⟩ frameType
    simpa only [UInt8.ofNat_toNat] using hvalue
  · rintro rfl
    cases frameType <;> rfl

end MstpFrameType

/-- `calculate_header_crc`. -/
def calculateHeaderCrc (header : Bytes) : UInt8 :=
  .ofBitVec (~~~ ShiftRegister.register 0x55#8 0xFF#8 header)

/-- `crc16_mstp`. -/
def crc16Mstp (data : Bytes) : UInt16 :=
  .ofBitVec (~~~ ShiftRegister.register 0xA001#16 0xFFFF#16 data)

/-- `MstpFrame`. -/
structure MstpFrame where
  frameType : MstpFrameType
  destination : UInt8
  source : UInt8
  dataLength : UInt16
  headerCrc : UInt8
  data : Bytes
  /-- There is one where there are data. -/
  dataCrc : Option UInt16
  deriving Repr, DecidableEq

namespace MstpFrame

/-- What `new` puts together, of data of any length. -/
def assemble (frameType : MstpFrameType) (destination source : UInt8) (data : Bytes) :
    MstpFrame :=
  let dataLength := UInt16.ofNat data.length
  { frameType
    destination
    source
    dataLength
    headerCrc := calculateHeaderCrc
      [frameType.toByte, destination, source, highOctet dataLength, lowOctet dataLength]
    data
    dataCrc := if data.isEmpty then none else some (crc16Mstp data) }

/-- `MstpFrame::new`. -/
def new (frameType : MstpFrameType) (destination source : UInt8) (data : Bytes) :
    Except DataLinkError MstpFrame :=
  if data.length > mstpMaxDataLength then .error .invalidFrame
  else .ok (assemble frameType destination source data)

/-- `MstpFrame::encode`. -/
def encode (self : MstpFrame) : Bytes :=
  let header := [0x55, 0xFF, self.frameType.toByte, self.destination, self.source,
    highOctet self.dataLength, lowOctet self.dataLength, self.headerCrc]
  if self.data.isEmpty then header
  else
    match self.dataCrc with
    | some crc => header ++ self.data ++ [lowOctet crc, highOctet crc]
    | none => header ++ self.data

/-- `MstpFrame::decode`. -/
def decode (data : Bytes) : Checked DataLinkError MstpFrame := do
  if data.length < mstpHeaderSize then Checked.fail .invalidFrame
  let first ← index data 0
  let second ← index data 1
  if first ≠ 0x55 ∨ second ≠ 0xFF then Checked.fail .invalidFrame
  let typeOctet ← index data 2
  let frameType ← Checked.orFail .invalidFrame (MstpFrameType.fromU8 typeOctet)
  let destination ← index data 3
  let source ← index data 4
  let lengthHigh ← index data 5
  let lengthLow ← index data 6
  let dataLength := wordOf lengthHigh lengthLow
  let headerCrc ← index data 7
  -- The preamble has no part in the header's checksum.
  if calculateHeaderCrc [typeOctet, destination, source, lengthHigh, lengthLow] ≠ headerCrc then
    Checked.fail .crcError
  let expectedSize :=
    mstpHeaderSize + dataLength.toNat + if dataLength.toNat > 0 then 2 else 0
  if data.length ≠ expectedSize then Checked.fail .invalidFrame
  if dataLength.toNat > 0 then
    let dataEnd := mstpHeaderSize + dataLength.toNat
    let frameData ← range data mstpHeaderSize dataEnd
    -- The data's checksum comes low octet first, unlike the length.
    let crcLow ← index data dataEnd
    let crcHigh ← index data (dataEnd + 1)
    let dataCrc := wordOf crcHigh crcLow
    if crc16Mstp frameData ≠ dataCrc then Checked.fail .crcError
    return ⟨frameType, destination, source, dataLength, headerCrc, frameData, some dataCrc⟩
  else
    return ⟨frameType, destination, source, dataLength, headerCrc, [], none⟩

end MstpFrame

/-! ## §2. What is decoded -/

namespace MstpFrame

/-- The octets in front of the data. -/
def header (frameType : MstpFrameType) (destination source lengthHigh lengthLow : UInt8) : Bytes :=
  [0x55, 0xFF, frameType.toByte, destination, source, lengthHigh, lengthLow,
    calculateHeaderCrc [frameType.toByte, destination, source, lengthHigh, lengthLow]]

/-- The octets behind the header. -/
def body (data : Bytes) : Bytes :=
  if data.isEmpty then [] else data ++ [lowOctet (crc16Mstp data), highOctet (crc16Mstp data)]

variable {frameType : MstpFrameType} {destination source high low : UInt8} {data : Bytes}

theorem assemble_eq (hlength : data.length = (wordOf high low).toNat) :
    assemble frameType destination source data
      = ⟨frameType, destination, source, wordOf high low,
          calculateHeaderCrc [frameType.toByte, destination, source, high, low], data,
          if data.isEmpty then none else some (crc16Mstp data)⟩ := by
  unfold assemble
  simp only [hlength, UInt16.ofNat_toNat, highOctet_wordOf, lowOctet_wordOf]

theorem encode_assemble (hlength : data.length = (wordOf high low).toNat) :
    (assemble frameType destination source data).encode
      = header frameType destination source high low ++ body data := by
  rw [assemble_eq hlength]
  unfold encode header body
  simp only [highOctet_wordOf, lowOctet_wordOf]
  cases data with
  | nil => rfl
  | cons octet data => rfl

theorem length_body (data : Bytes) :
    (body data).length = data.length + if data.length > 0 then 2 else 0 := by
  cases data with
  | nil => rfl
  | cons octet data =>
      show (octet :: data ++ [_, _]).length = _
      rw [List.length_append, if_pos (show (octet :: data).length > 0 from Nat.succ_pos _)]
      rfl

theorem body_of_pos (h : 0 < data.length) :
    body data = data ++ [lowOctet (crc16Mstp data), highOctet (crc16Mstp data)] := by
  cases data with
  | nil => exact absurd h (Nat.lt_irrefl 0)
  | cons octet data => rfl

/-- Frames are made of data that a line can carry, and of no others. -/
theorem new_eq_ok_iff {frame : MstpFrame} : new frameType destination source data = .ok frame
    ↔ data.length ≤ mstpMaxDataLength ∧ frame = assemble frameType destination source data := by
  unfold new
  split
  next hlong =>
    constructor
    · intro h
      cases h
    · rintro ⟨hfits, _⟩
      omega
  next hfits =>
    constructor
    · intro h
      cases h
      exact ⟨Nat.le_of_not_lt hfits, rfl⟩
    · rintro ⟨_, rfl⟩
      rfl

/-- A frame of eight octets or more has a header. -/
theorem exists_header {octets : Bytes} (h : ¬ octets.length < mstpHeaderSize) :
    ∃ a b c d e f g i rest, octets = a :: b :: c :: d :: e :: f :: g :: i :: rest := by
  match octets with
  | a :: b :: c :: d :: e :: f :: g :: i :: rest => exact ⟨a, b, c, d, e, f, g, i, rest, rfl⟩
  | [] | [_] | [_, _] | [_, _, _] | [_, _, _, _] | [_, _, _, _, _] | [_, _, _, _, _, _]
  | [_, _, _, _, _, _, _] => exact absurd (by simp [mstpHeaderSize]) h

theorem getElem?_behind {a b c d e f g i : UInt8} (rest : Bytes) (n : Nat) :
    (a :: b :: c :: d :: e :: f :: g :: i :: rest)[mstpHeaderSize + n]? = rest[n]? := by
  rw [Nat.add_comm]
  rfl

/-- The data and their check are all there is behind the header. -/
theorem rest_of_slices {a b c d e f g i crcLow crcHigh : UInt8} {rest frameData : Bytes} {n : Nat}
    (hsize : (a :: b :: c :: d :: e :: f :: g :: i :: rest).length = mstpHeaderSize + n + 2)
    (hdata : (range (a :: b :: c :: d :: e :: f :: g :: i :: rest) mstpHeaderSize
      (mstpHeaderSize + n) : Checked DataLinkError Bytes) = .ok frameData)
    (hlow : (index (a :: b :: c :: d :: e :: f :: g :: i :: rest) (mstpHeaderSize + n)
      : Checked DataLinkError UInt8) = .ok crcLow)
    (hhigh : (index (a :: b :: c :: d :: e :: f :: g :: i :: rest) (mstpHeaderSize + n + 1)
      : Checked DataLinkError UInt8) = .ok crcHigh) :
    frameData.length = n ∧ rest = frameData ++ [crcLow, crcHigh] := by
  have hrest : rest.length = n + 2 := by
    simp only [List.length_cons, mstpHeaderSize] at hsize
    omega
  obtain ⟨_, _, rfl⟩ := range_eq_ok.mp hdata
  rw [index_eq_ok, getElem?_behind] at hlow
  rw [index_eq_ok, Nat.add_assoc, getElem?_behind] at hhigh
  rw [List.getElem?_eq_getElem (by omega), Option.some.injEq] at hlow hhigh
  have htaken : ((a :: b :: c :: d :: e :: f :: g :: i :: rest).drop mstpHeaderSize).take
      (mstpHeaderSize + n - mstpHeaderSize) = rest.take n := by
    rw [Nat.add_sub_cancel_left]
    rfl
  rw [htaken, ← hlow, ← hhigh]
  constructor
  · rw [List.length_take]
    omega
  · have hend : rest.drop (n + 1 + 1) = [] := List.drop_of_length_le (by omega)
    conv => lhs; rw [← List.take_append_drop n rest]
    rw [List.drop_eq_getElem_cons (show n < rest.length by omega),
      List.drop_eq_getElem_cons (show n + 1 < rest.length by omega), hend]

theorem decode_encode (hshort : data.length < 2 ^ 16) :
    decode (assemble frameType destination source data).encode
      = .ok (assemble frameType destination source data) := by
  obtain ⟨high, low, hlength⟩ := exists_wordOf hshort
  rw [encode_assemble hlength, assemble_eq hlength]
  have hsize := length_body data
  rw [hlength] at hsize
  unfold decode header
  refine guard_eq_ok.mpr ⟨?_, ?_⟩
  · show ¬ (body data).length + 8 < 8
    omega
  refine bind_eq_ok.mpr ⟨0x55, rfl, bind_eq_ok.mpr ⟨0xFF, rfl, guard_eq_ok.mpr ⟨by decide, ?_⟩⟩⟩
  refine bind_eq_ok.mpr ⟨frameType.toByte, rfl, ?_⟩
  refine bind_eq_ok.mpr ⟨frameType, orFail_eq_ok.mpr (MstpFrameType.fromU8_eq_some.mpr rfl), ?_⟩
  refine bind_eq_ok.mpr ⟨destination, rfl, bind_eq_ok.mpr ⟨source, rfl, ?_⟩⟩
  refine bind_eq_ok.mpr ⟨high, rfl, bind_eq_ok.mpr ⟨low, rfl, bind_eq_ok.mpr ⟨_, rfl, ?_⟩⟩⟩
  refine guard_eq_ok.mpr ⟨not_not.mpr rfl, guard_eq_ok.mpr ⟨not_not.mpr ?_, ?_⟩⟩
  · show (body data).length + 8 = 8 + (wordOf high low).toNat + _
    omega
  by_cases hdata : (wordOf high low).toNat > 0
  · rw [if_pos hdata]
    have hbehind : ∀ n, (header frameType destination source high low
        ++ (data ++ [lowOctet (crc16Mstp data), highOctet (crc16Mstp data)]))[mstpHeaderSize + n]?
          = (data ++ [lowOctet (crc16Mstp data), highOctet (crc16Mstp data)])[n]? :=
      getElem?_behind _
    -- The slice that is announced holds the data, and the two octets behind it their check.
    rw [body_of_pos (by omega)]
    refine bind_eq_ok.mpr ⟨data, range_eq_ok.mpr ⟨Nat.le_add_right _ _, ?_, ?_⟩, ?_⟩
    · show 8 + (wordOf high low).toNat ≤ (data ++ [_, _]).length + 8
      rw [List.length_append]
      omega
    · rw [Nat.add_sub_cancel_left]
      show data = (data ++ _).take (wordOf high low).toNat
      rw [← hlength, List.take_left]
    refine bind_eq_ok.mpr ⟨lowOctet (crc16Mstp data), index_eq_ok.mpr ?_, ?_⟩
    · refine (hbehind _).trans ?_
      rw [← hlength, List.getElem?_append_right (Nat.le_refl _), Nat.sub_self]
      rfl
    refine bind_eq_ok.mpr ⟨highOctet (crc16Mstp data), index_eq_ok.mpr ?_, ?_⟩
    · refine (hbehind ((wordOf high low).toNat + 1)).trans ?_
      rw [← hlength, List.getElem?_append_right (Nat.le_add_right _ 1), Nat.add_sub_cancel_left]
      rfl
    rw [wordOf_octets]
    refine guard_eq_ok.mpr ⟨not_not.mpr rfl, ?_⟩
    have hsome : data.isEmpty = false := List.isEmpty_eq_false_iff.mpr
      (List.ne_nil_of_length_pos (by omega))
    rw [hsome]
    rfl
  · obtain rfl : data = [] := List.eq_nil_of_length_eq_zero (by omega)
    rw [if_neg hdata]
    rfl

/-- **What is decoded is what is encoded**, of any length that two octets can announce. -/
theorem decode_eq_ok_iff {octets : Bytes} {frame : MstpFrame} :
    decode octets = .ok frame
      ↔ ∃ frameType destination source data, data.length < 2 ^ 16
        ∧ frame = assemble frameType destination source data ∧ octets = frame.encode := by
  constructor
  · intro h
    unfold decode at h
    obtain ⟨hheader, h⟩ := guard_eq_ok.mp h
    obtain ⟨first, second, typeOctet, destination, source, high, low, crc, rest, rfl⟩ :=
      exists_header hheader
    obtain ⟨_, hfirst, h⟩ := bind_eq_ok.mp h
    cases hfirst
    obtain ⟨_, hsecond, h⟩ := bind_eq_ok.mp h
    cases hsecond
    obtain ⟨hpreamble, h⟩ := guard_eq_ok.mp h
    obtain ⟨_, htypeOctet, h⟩ := bind_eq_ok.mp h
    cases htypeOctet
    obtain ⟨frameType, htype, h⟩ := bind_eq_ok.mp h
    obtain ⟨_, hdestination, h⟩ := bind_eq_ok.mp h
    cases hdestination
    obtain ⟨_, hsource, h⟩ := bind_eq_ok.mp h
    cases hsource
    obtain ⟨_, hhigh, h⟩ := bind_eq_ok.mp h
    cases hhigh
    obtain ⟨_, hlow, h⟩ := bind_eq_ok.mp h
    cases hlow
    obtain ⟨_, hcrc, h⟩ := bind_eq_ok.mp h
    cases hcrc
    obtain ⟨hchecked, h⟩ := guard_eq_ok.mp h
    obtain ⟨hsize, h⟩ := guard_eq_ok.mp h
    obtain rfl := MstpFrameType.fromU8_eq_some.mp (orFail_eq_ok.mp htype)
    obtain ⟨rfl, rfl⟩ : first = 0x55 ∧ second = 0xFF := by simpa using hpreamble
    obtain rfl := not_not.mp hchecked
    have hbound := (wordOf high low).toNat_lt
    -- Nothing follows what the header announces: all octets are the frame's.
    by_cases hdata : (wordOf high low).toNat > 0
    · rw [if_pos hdata] at h hsize
      obtain ⟨frameData, hframeData, h⟩ := bind_eq_ok.mp h
      obtain ⟨crcLow, hcrcLow, h⟩ := bind_eq_ok.mp h
      obtain ⟨crcHigh, hcrcHigh, h⟩ := bind_eq_ok.mp h
      obtain ⟨hsame, h⟩ := guard_eq_ok.mp h
      cases h
      obtain ⟨hlength, rfl⟩ := rest_of_slices (not_not.mp hsize) hframeData hcrcLow hcrcHigh
      have hcrc : wordOf crcHigh crcLow = crc16Mstp frameData := (not_not.mp hsame).symm
      have hsome : frameData.isEmpty = false := List.isEmpty_eq_false_iff.mpr
        (List.ne_nil_of_length_pos (by omega))
      refine ⟨frameType, destination, source, frameData, by omega, ?_, ?_⟩
      · rw [assemble_eq hlength, hsome, hcrc]
        rfl
      · simp only [encode, hsome, highOctet_wordOf, lowOctet_wordOf]
        rfl
    · rw [if_neg hdata] at h hsize
      cases h
      obtain rfl : rest = [] := by
        refine List.eq_nil_of_length_eq_zero ?_
        have hlength := not_not.mp hsize
        simp only [List.length_cons, mstpHeaderSize] at hlength
        omega
      refine ⟨frameType, destination, source, [], Nat.zero_lt_succ _, ?_, ?_⟩
      · have hnone : ([] : Bytes).length = (wordOf high low).toNat := by
          show 0 = _
          omega
        rw [assemble_eq hnone]
        rfl
      · unfold encode
        rw [highOctet_wordOf, lowOctet_wordOf]
        rfl
  · rintro ⟨frameType, destination, source, data, hshort, rfl, rfl⟩
    exact decode_encode hshort

theorem length_encode (hshort : data.length < 2 ^ 16) :
    (assemble frameType destination source data).encode.length
      = mstpHeaderSize + data.length + if data.length > 0 then 2 else 0 := by
  obtain ⟨high, low, hlength⟩ := exists_wordOf hshort
  rw [encode_assemble hlength, List.length_append, length_body]
  exact (Nat.add_assoc _ _ _).symm

/-- **What is encoded is decoded to the frame that was made, and what is decoded could have been
made exactly when it is no longer than a frame may be.** -/
theorem accepts_encoded_iff (frameType : MstpFrameType) (destination source : UInt8)
    (data octets : Bytes) :
    (data.length ≤ mstpMaxDataLength →
      ∃ frame, new frameType destination source data = .ok frame
        ∧ decode frame.encode = .ok frame ∧ frame.frameType = frameType
        ∧ frame.destination = destination ∧ frame.source = source ∧ frame.data = data) ∧
    ∀ decoded, decode octets = .ok decoded →
      ((∃ frame, new decoded.frameType decoded.destination decoded.source decoded.data = .ok frame
          ∧ frame.encode = octets)
        ↔ octets.length ≤ mstpMaxFrameSize) := by
  constructor
  · intro hlength
    refine ⟨assemble frameType destination source data, new_eq_ok_iff.mpr ⟨hlength, rfl⟩,
      decode_encode ?_, rfl, rfl, rfl, rfl⟩
    exact Nat.lt_of_le_of_lt hlength (by decide)
  · intro decoded hdecoded
    obtain ⟨frameType, destination, source, data, hshort, rfl, rfl⟩ := decode_eq_ok_iff.mp hdecoded
    have hlength : (assemble frameType destination source data).encode.length ≤ mstpMaxFrameSize
        ↔ data.length ≤ mstpMaxDataLength := by
      rw [length_encode hshort]
      unfold mstpMaxFrameSize mstpMaxDataLength mstpHeaderSize
      split <;> omega
    rw [hlength]
    constructor
    · rintro ⟨frame, hnew, _⟩
      exact (new_eq_ok_iff.mp hnew).1
    · intro hfits
      exact ⟨_, new_eq_ok_iff.mpr ⟨hfits, rfl⟩, rfl⟩

/-- A data frame that a line cannot carry. -/
def oversized : MstpFrame :=
  assemble .bacnetDataExpectingReply 0 1 (List.replicate (mstpMaxDataLength + 1) 0)

/-- It is decoded from its octets, and cannot be made. -/
theorem oversized_accepted :
    decode oversized.encode = .ok oversized
      ∧ ¬ ∃ frame, new oversized.frameType oversized.destination oversized.source oversized.data
        = .ok frame ∧ frame.encode = oversized.encode := by
  have hlong : (List.replicate (mstpMaxDataLength + 1) (0 : UInt8)).length
      = mstpMaxDataLength + 1 := List.length_replicate
  refine ⟨decode_encode ?_, ?_⟩
  · rw [hlong]
    decide
  · rintro ⟨frame, hnew, _⟩
    have hfits : (List.replicate (mstpMaxDataLength + 1) (0 : UInt8)).length
        ≤ mstpMaxDataLength := (new_eq_ok_iff.mp hnew).1
    omega

end MstpFrame

end BacnetRs.Network
