/-
  BacnetRs.App.ApduCodec — an APDU that was decoded is encoded and decoded again.

  The decoder accepts more than the encoder writes: reserved sizes, an error
  wrapped without need, octets after the last field.  What it returns is
  canonical, though: the fields a segmented PDU has are there exactly when it
  is segmented, and a first failed write comes with WritePropertyMultiple and
  names an object that can be encoded.  Canonical APDUs are the fixed points.

    * `Apdu.decode_meets`          — no octets make the decoder panic, and what it returns
                                     is canonical.
    * `Apdu.decode_encode`         — a canonical APDU is decoded as it was encoded.
    * `Apdu.encode_length_le`      — no APDU takes more octets than it advertises.
    * `Apdu.reencoded`             — for every octet string that decodes.
-/
import BacnetRs.App.Apdu
import BacnetRs.Property.ComplexCodec

namespace BacnetRs.App

open BacnetRs.Encoding BacnetRs.Property BacnetRs.Service Checked

/-! ## §1. Canonical APDUs -/

/-- The two octets of a segmented PDU are there exactly when it is segmented. -/
def SegmentFieldsAgree (segmented : Bool) (sequenceNumber windowSize : Option UInt8) : Prop :=
  sequenceNumber.isSome = segmented ∧ windowSize.isSome = segmented

/-- What the decoder returns. -/
def Apdu.Canonical : Apdu → Prop
  | .confirmedRequest request =>
      SegmentFieldsAgree request.segmented request.sequenceNumber request.proposedWindowSize
  | .complexAck ack => SegmentFieldsAgree ack.segmented ack.sequenceNumber ack.proposedWindowSize
  | .error _ serviceChoice _ _ (some reference) =>
      serviceChoice = .writePropertyMultiple ∧ reference.objectIdentifier.fits = true
  | _ => True

theorem serviceDataFrom_meets (data : Bytes) (pos : Nat) :
    Meets (serviceDataFrom data pos) (fun _ => True) := by
  unfold serviceDataFrom
  split
  · next hwithin =>
      exact (Octets.dropFrom_meets (Nat.le_of_lt hwithin)).mono (fun _ _ => trivial)
  · exact meets_ok trivial

theorem serviceChoiceAt_meets {data : Bytes} {pos : Nat} (h : pos < data.length) :
    Meets (serviceChoiceAt data pos) (fun _ => True) :=
  (Octets.index_meets h).bind (fun _ _ => meets_orFail (fun _ _ => trivial))

/-- When there is an octet after them, the segment fields were read. -/
theorem segmentFields_agree {segmented : Bool} {data : Bytes} {pos : Nat}
    (h : (segmentFields segmented data pos).2.2 < data.length) :
    SegmentFieldsAgree segmented (segmentFields segmented data pos).1
      (segmentFields segmented data pos).2.1 := by
  cases segmented with
  | false => exact ⟨rfl, rfl⟩
  | true =>
      have hwithin : pos + 2 < data.length := h
      show data[pos]?.isSome = true ∧ data[pos + 1]?.isSome = true
      rw [List.getElem?_eq_getElem (by omega), List.getElem?_eq_getElem (by omega)]
      exact ⟨rfl, rfl⟩

theorem decodeConfirmedRequest_meets (data : Bytes) (first : UInt8) :
    Meets (decodeConfirmedRequest data first) Apdu.Canonical := by
  refine meets_guard (fun hlength => ?_)
  refine (Octets.index_meets (by omega)).bind (fun maxInfo _ => ?_)
  refine (Octets.index_meets (by omega)).bind (fun invokeId _ => ?_)
  refine meets_guard (fun hpos => ?_)
  have hwithin : (segmentFields (first &&& 0x08 != 0) data 3).2.2 < data.length :=
    Nat.not_le.mp hpos
  refine (serviceChoiceAt_meets hwithin).bind (fun serviceChoice _ => ?_)
  exact (serviceDataFrom_meets data _).bind (fun _ _ => meets_ok (segmentFields_agree hwithin))

theorem decodeComplexAck_meets (data : Bytes) (first : UInt8) :
    Meets (decodeComplexAck data first) Apdu.Canonical := by
  refine meets_guard (fun hlength => ?_)
  refine (Octets.index_meets (by omega)).bind (fun invokeId _ => ?_)
  refine meets_guard (fun hpos => ?_)
  have hwithin : (segmentFields (first &&& 0x08 != 0) data 2).2.2 < data.length :=
    Nat.not_le.mp hpos
  refine (serviceChoiceAt_meets hwithin).bind (fun serviceChoice _ => ?_)
  exact (serviceDataFrom_meets data _).bind (fun _ _ => meets_ok (segmentFields_agree hwithin))

theorem ObjectPropertyReference.decode_fits (data : Bytes) :
    Ensures (ObjectPropertyReference.decode data)
      (fun decoded => decoded.1.objectIdentifier.fits = true) := by
  refine (decodeContextObjectId_fits data 0).bind ?_
  rintro ⟨objectIdentifier, consumed⟩ hfits
  refine ensures_bind (fun rest => ensures_bind ?_)
  rintro ⟨property, length⟩
  refine ensures_bind (fun rest' => ?_)
  split
  · refine ensures_bind ?_
    rintro ⟨index, length'⟩
    exact ensures_ok hfits
  · exact ensures_ok hfits

theorem decodeFirstFailedWrite_meets (rest : Bytes) :
    Meets (decodeFirstFailedWrite rest) (fun reference => reference.objectIdentifier.fits = true) := by
  refine (Meets.mapErr (meets_ofExcept (fun _ h => decodeOpeningTag_takes h))).bind ?_
  rintro offset ⟨_, hoffset⟩
  refine (Octets.dropFrom_meets hoffset).bind (fun rest' _ => ?_)
  refine (Meets.mapErr ((ObjectPropertyReference.decode_takes rest').and
    (ObjectPropertyReference.decode_fits rest'))).bind ?_
  rintro ⟨reference, offset'⟩ ⟨⟨_, hoffset'⟩, hfits⟩
  refine (Octets.dropFrom_meets hoffset').bind (fun rest'' _ => ?_)
  exact (Meets.mapErr (meets_ofExcept (fun _ _ => trivial))).bind (fun _ _ => meets_ok hfits)

/-- The error arm from the error class on. -/
def errorFields (invokeId : UInt8) (serviceChoice : ConfirmedServiceChoice) (extended : Bool)
    (rest : Bytes) : DecodedApdu Apdu := do
  let (errorClass, offset) ← invalidPart "error class" (decodeEnumerated rest)
  let rest ← Octets.dropFrom rest offset
  let (errorCode, offset) ← invalidPart "error code" (decodeEnumerated rest)
  let rest ← Octets.dropFrom rest offset
  if extended then
    let offset ← invalidPart "error" (Checked.ofExcept (decodeClosingTag rest 0))
    if serviceChoice = .writePropertyMultiple then
      let rest ← Octets.dropFrom rest offset
      let reference ← decodeFirstFailedWrite rest
      return .error invokeId serviceChoice errorClass errorCode (some reference)
    else return .error invokeId serviceChoice errorClass errorCode none
  else return .error invokeId serviceChoice errorClass errorCode none

theorem decodeError_eq (data : Bytes) :
    decodeError data = (do
      if data.length < 5 then Checked.fail (.invalidApdu "Error PDU too short")
      let invokeId ← Octets.index data 1
      let serviceChoice ← serviceChoiceAt data 2
      let rest ← Octets.dropFrom data 3
      if isOpeningTag rest 0 then
        let offset ← invalidPart "error" (Checked.ofExcept (decodeOpeningTag rest 0))
        let unwrapped ← Octets.dropFrom rest offset
        errorFields invokeId serviceChoice (isOpeningTag rest 0) unwrapped
      else errorFields invokeId serviceChoice (isOpeningTag rest 0) rest) :=
  rfl

theorem errorFields_meets (invokeId : UInt8) (serviceChoice : ConfirmedServiceChoice)
    (extended : Bool) (rest : Bytes) :
    Meets (errorFields invokeId serviceChoice extended rest) Apdu.Canonical := by
  refine (Meets.mapErr (decodeUnsigned32_takes rest .enumerated)).bind ?_
  rintro ⟨errorClass, offset⟩ ⟨_, hoffset⟩
  refine (Octets.dropFrom_meets hoffset).bind (fun rest₁ _ => ?_)
  refine (Meets.mapErr (decodeUnsigned32_takes rest₁ .enumerated)).bind ?_
  rintro ⟨errorCode, offset'⟩ ⟨_, hoffset'⟩
  refine (Octets.dropFrom_meets hoffset').bind (fun rest₂ _ => ?_)
  split
  · refine (Meets.mapErr (meets_ofExcept (fun _ h => decodeClosingTag_takes h))).bind ?_
    rintro closed ⟨_, hclosed⟩
    split
    · next hchoice =>
        refine (Octets.dropFrom_meets hclosed).bind (fun rest₃ _ => ?_)
        exact (decodeFirstFailedWrite_meets rest₃).bind (fun _ hfits => meets_ok ⟨hchoice, hfits⟩)
    · exact meets_ok trivial
  · exact meets_ok trivial

theorem decodeError_meets (data : Bytes) : Meets (decodeError data) Apdu.Canonical := by
  rw [decodeError_eq]
  refine meets_guard (fun hlength => ?_)
  refine (Octets.index_meets (by omega)).bind (fun invokeId _ => ?_)
  refine (serviceChoiceAt_meets (by omega)).bind (fun serviceChoice _ => ?_)
  refine (Octets.dropFrom_meets (by omega)).bind (fun rest _ => ?_)
  split
  · refine (Meets.mapErr (meets_ofExcept (fun _ h => decodeOpeningTag_takes h))).bind ?_
    rintro offset ⟨_, hoffset⟩
    exact (Octets.dropFrom_meets hoffset).bind (fun _ _ => errorFields_meets _ _ _ _)
  · exact errorFields_meets _ _ _ _

/-- **The decoder never panics**, and returns canonical APDUs. -/
theorem Apdu.decode_meets (data : Bytes) : Meets (Apdu.decode data) Apdu.Canonical := by
  refine meets_guard (fun hempty => ?_)
  have hpos : 0 < data.length := by
    cases data with
    | nil => exact absurd rfl hempty
    | cons octet rest => exact Nat.succ_pos _
  refine (Octets.index_meets hpos).bind (fun first _ => ?_)
  split
  · exact decodeConfirmedRequest_meets data first
  · refine meets_guard (fun hlength => ?_)
    refine (Octets.index_meets (by omega)).bind (fun octet _ => ?_)
    refine (serviceDataFrom_meets data 2).bind (fun serviceData _ => ?_)
    exact (meets_orFail (fun _ _ => trivial)).bind (fun _ _ => meets_ok trivial)
  · refine meets_guard (fun hlength => ?_)
    refine (Octets.index_meets (by omega)).bind (fun invokeId _ => ?_)
    exact (Octets.index_meets (by omega)).bind (fun _ _ => meets_ok trivial)
  · exact decodeComplexAck_meets data first
  · refine meets_guard (fun hlength => ?_)
    refine (Octets.index_meets (by omega)).bind (fun invokeId _ => ?_)
    refine (Octets.index_meets (by omega)).bind (fun sequenceNumber _ => ?_)
    exact (Octets.index_meets (by omega)).bind (fun _ _ => meets_ok trivial)
  · exact decodeError_meets data
  · refine meets_guard (fun hlength => ?_)
    refine (Octets.index_meets (by omega)).bind (fun invokeId _ => ?_)
    exact (Octets.index_meets (by omega)).bind (fun _ _ => meets_ok trivial)
  · refine meets_guard (fun hlength => ?_)
    refine (Octets.index_meets (by omega)).bind (fun invokeId _ => ?_)
    exact (Octets.index_meets (by omega)).bind (fun _ _ => meets_ok trivial)
  · exact meets_fail _

/-! ## §2. The advertised length -/

theorem length_segmentOctets_le (segmented : Bool) (sequenceNumber windowSize : Option UInt8) :
    (segmentOctets segmented sequenceNumber windowSize).length
      ≤ (if segmented then 1 else 0) * 2 := by
  cases segmented <;> cases sequenceNumber <;> cases windowSize <;> simp [segmentOctets]

theorem length_segmentOctets {segmented : Bool} {sequenceNumber windowSize : Option UInt8}
    (h : SegmentFieldsAgree segmented sequenceNumber windowSize) :
    (segmentOctets segmented sequenceNumber windowSize).length
      = (if segmented then 1 else 0) * 2 := by
  obtain ⟨hsequence, hwindow⟩ := h
  cases segmented <;> cases sequenceNumber <;> cases windowSize <;> simp_all [segmentOctets]

theorem length_encodeEnumerated (value : UInt32) :
    (encodeEnumerated value).length = encodedEnumeratedLen value := by
  unfold encodeEnumerated encodedEnumeratedLen unsignedOctets encodeApplicationTag
  by_cases hone : value ≤ 0xFF
  · simp [hone, Octets.length_beOctets, lvtExtendedLength]
  by_cases htwo : value ≤ 0xFFFF
  · simp [hone, htwo, Octets.length_beOctets, lvtExtendedLength]
  by_cases hthree : value ≤ 0xFFFFFF
  · simp [hone, htwo, hthree, Octets.length_beOctets, lvtExtendedLength]
  · simp [hone, htwo, hthree, Octets.length_beOctets, lvtExtendedLength]

/-- An error takes the octets it advertises, wrapped or not. -/
theorem length_encode_error (invokeId : UInt8) (serviceChoice : ConfirmedServiceChoice)
    (errorClass errorCode : UInt32) (firstFailedWrite : Option ObjectPropertyReference) :
    (Apdu.error invokeId serviceChoice errorClass errorCode firstFailedWrite).encode.length
      = (Apdu.error invokeId serviceChoice errorClass errorCode firstFailedWrite).encodedLen := by
  have hopening : ∀ tag : Fin 2, (encodeOpeningTag (UInt8.ofNat tag)).length = 1 := by decide
  have hclosing : ∀ tag : Fin 2, (encodeClosingTag (UInt8.ofNat tag)).length = 1 := by decide
  have hopening0 : (encodeOpeningTag 0).length = 1 := hopening 0
  have hopening1 : (encodeOpeningTag 1).length = 1 := hopening 1
  have hclosing0 : (encodeClosingTag 0).length = 1 := hclosing 0
  have hclosing1 : (encodeClosingTag 1).length = 1 := hclosing 1
  cases firstFailedWrite with
  | none =>
      simp only [Apdu.encode, Apdu.encodedLen, List.length_cons, List.length_append,
        length_encodeEnumerated, Option.elim_none]
      omega
  | some reference =>
      simp only [Apdu.encode, Apdu.encodedLen, List.length_cons, List.length_append,
        length_encodeEnumerated, Option.elim_some]
      omega

/-- **No APDU takes more octets than it advertises.** -/
theorem Apdu.encode_length_le (apdu : Apdu) : apdu.encode.length ≤ apdu.encodedLen := by
  cases apdu with
  | confirmedRequest request =>
      have hfields := length_segmentOctets_le request.segmented request.sequenceNumber
        request.proposedWindowSize
      simp only [encode, encodedLen, List.length_cons, List.length_append]
      omega
  | complexAck ack =>
      have hfields := length_segmentOctets_le ack.segmented ack.sequenceNumber
        ack.proposedWindowSize
      simp only [encode, encodedLen, List.length_cons, List.length_append]
      omega
  | error invokeId serviceChoice errorClass errorCode firstFailedWrite =>
      exact Nat.le_of_eq (length_encode_error _ _ _ _ _)
  | unconfirmedRequest serviceChoice serviceData =>
      simp only [encode, encodedLen, List.length_cons]
      omega
  | simpleAck invokeId serviceChoice => exact Nat.le_refl 3
  | segmentAck negative server invokeId sequenceNumber windowSize => exact Nat.le_refl 4
  | reject invokeId rejectReason => exact Nat.le_refl 3
  | abort server invokeId abortReason => exact Nat.le_refl 3

/-- A canonical one takes exactly that. -/
theorem Apdu.encode_length {apdu : Apdu} (h : apdu.Canonical) :
    apdu.encode.length = apdu.encodedLen := by
  cases apdu with
  | confirmedRequest request =>
      have hfields := length_segmentOctets h
      simp only [encode, encodedLen, List.length_cons, List.length_append]
      omega
  | complexAck ack =>
      have hfields := length_segmentOctets h
      simp only [encode, encodedLen, List.length_cons, List.length_append]
      omega
  | error invokeId serviceChoice errorClass errorCode firstFailedWrite =>
      exact length_encode_error _ _ _ _ _
  | unconfirmedRequest serviceChoice serviceData =>
      simp only [encode, encodedLen, List.length_cons]
      omega
  | simpleAck invokeId serviceChoice => rfl
  | segmentAck negative server invokeId sequenceNumber windowSize => rfl
  | reject invokeId rejectReason => rfl
  | abort server invokeId abortReason => rfl

/-! ## §3. Canonical APDUs are decoded as they were encoded -/

/-- The flags of a confirmed request's first octet. -/
theorem requestOctet_fields (segmented moreFollows accepted : Bool) :
    let octet := pduType 0 ||| flag segmented 0x08 ||| flag moreFollows 0x04 ||| flag accepted 0x02
    ((octet >>> 4) &&& 0x0F).toNat = 0 ∧ (octet &&& 0x08 != 0) = segmented ∧
      (octet &&& 0x04 != 0) = moreFollows ∧ (octet &&& 0x02 != 0) = accepted := by
  cases segmented <;> cases moreFollows <;> cases accepted <;> decide

/-- The flags of a complex acknowledgement's first octet. -/
theorem ackOctet_fields (segmented moreFollows : Bool) :
    let octet := pduType 3 ||| flag segmented 0x08 ||| flag moreFollows 0x04
    ((octet >>> 4) &&& 0x0F).toNat = 3 ∧ (octet &&& 0x08 != 0) = segmented ∧
      (octet &&& 0x04 != 0) = moreFollows := by
  cases segmented <;> cases moreFollows <;> decide

/-- The sizes in a confirmed request's second octet. -/
theorem sizeOctet_fields (maxSegments : MaxSegments) (maxResponseSize : MaxApduSize) :
    let octet := maxSegments.toByte <<< 4 ||| maxResponseSize.toByte
    MaxSegments.ofByte ((octet >>> 4) &&& 0x07) = maxSegments ∧
      MaxApduSize.ofByte (octet &&& 0x0F) = maxResponseSize := by
  cases maxSegments <;> cases maxResponseSize <;> decide

theorem serviceChoiceAt_append (before : Bytes) (choice : ConfirmedServiceChoice) (after : Bytes) :
    serviceChoiceAt (before ++ choice.toByte :: after) before.length = .ok choice := by
  unfold serviceChoiceAt
  rw [Octets.index_append]
  show Checked.orFail _ (ConfirmedServiceChoice.tryFrom choice.toByte) = _
  rw [ConfirmedServiceChoice.tryFrom_toByte]
  rfl

theorem serviceDataFrom_append (before after : Bytes) :
    serviceDataFrom (before ++ after) before.length = .ok after := by
  unfold serviceDataFrom
  by_cases hmore : before.length < (before ++ after).length
  · rw [if_pos hmore, Octets.dropFrom, if_pos (Nat.le_of_lt hmore), List.drop_left]
  · have hnil : after = [] := by
      apply List.eq_nil_of_length_eq_zero
      rw [List.length_append] at hmore
      omega
    rw [if_neg hmore, hnil]
    rfl

/-- The fields behind `before` that only a segmented PDU has. -/
theorem segmentFields_append {segmented : Bool} {sequenceNumber windowSize : Option UInt8}
    (h : SegmentFieldsAgree segmented sequenceNumber windowSize) (before after : Bytes) :
    segmentFields segmented (before ++ (segmentOctets segmented sequenceNumber windowSize ++ after))
        before.length
      = (sequenceNumber, windowSize,
          (before ++ segmentOctets segmented sequenceNumber windowSize).length) := by
  obtain ⟨hsequence, hwindow⟩ := h
  cases segmented with
  | false =>
      cases sequenceNumber <;> cases windowSize <;> simp_all [segmentFields, segmentOctets]
  | true =>
      cases sequenceNumber <;> cases windowSize <;> simp_all [segmentFields, segmentOctets]

/-- Everything behind the header, read back. -/
theorem service_append {segmented : Bool} {sequenceNumber windowSize : Option UInt8}
    (h : SegmentFieldsAgree segmented sequenceNumber windowSize) (before : Bytes)
    (choice : ConfirmedServiceChoice) (serviceData : Bytes) :
    let data := before ++ (segmentOctets segmented sequenceNumber windowSize
      ++ choice.toByte :: serviceData)
    let fields := segmentFields segmented data before.length
    fields.1 = sequenceNumber ∧ fields.2.1 = windowSize ∧ ¬ fields.2.2 ≥ data.length ∧
      serviceChoiceAt data fields.2.2 = .ok choice ∧
      serviceDataFrom data (fields.2.2 + 1) = .ok serviceData := by
  have hfields := segmentFields_append h before (choice.toByte :: serviceData)
  have hchoice := serviceChoiceAt_append
    (before ++ segmentOctets segmented sequenceNumber windowSize) choice serviceData
  have hdata := serviceDataFrom_append
    (before ++ segmentOctets segmented sequenceNumber windowSize ++ [choice.toByte]) serviceData
  simp only [hfields]
  refine ⟨trivial, trivial, ?_, ?_, ?_⟩
  · simp only [List.length_append, List.length_cons]
    omega
  · rw [← List.append_assoc]
    exact hchoice
  · rw [List.length_append, List.length_singleton, List.append_assoc, List.append_assoc] at hdata
    exact hdata

theorem decode_encode_confirmedRequest {request : ConfirmedRequest}
    (h : SegmentFieldsAgree request.segmented request.sequenceNumber request.proposedWindowSize) :
    Apdu.decode (Apdu.confirmedRequest request).encode = .ok (.confirmedRequest request) := by
  obtain ⟨segmented, moreFollows, accepted, maxSegments, maxResponseSize, invokeId, sequenceNumber,
    window, choice, data⟩ := request
  obtain ⟨hpdu, hsegmented, hmore, haccepted⟩ := requestOctet_fields segmented moreFollows accepted
  obtain ⟨hsegments, hsize⟩ := sizeOctet_fields maxSegments maxResponseSize
  unfold Apdu.encode
  simp only
  generalize pduType 0 ||| flag segmented 0x08 ||| flag moreFollows 0x04 ||| flag accepted 0x02
    = first at *
  generalize maxSegments.toByte <<< 4 ||| maxResponseSize.toByte = sizes at *
  obtain ⟨hsequence, hwindow, hwithin, hchoice, hdata⟩ :=
    service_append h [first, sizes, invokeId] choice data
  have hheader : ([first, sizes, invokeId] : Bytes).length = 3 := rfl
  simp only [List.cons_append, List.nil_append, hheader] at hsequence hwindow hwithin hchoice hdata
  unfold Apdu.decode
  simp only [List.isEmpty_cons, Octets.index, bind, Except.bind, pure, Except.pure,
    List.getElem?_cons_zero, Bool.false_eq_true, if_false]
  rw [hpdu]
  simp only [decodeConfirmedRequest, Octets.index, bind, Except.bind, pure, Except.pure,
    List.getElem?_cons_zero, List.getElem?_cons_succ, hsegmented, hmore, haccepted, hsegments, hsize]
  rw [if_neg (by simp; omega), if_neg hwithin, hchoice]
  simp only [hdata, hsequence, hwindow]

theorem decode_encode_complexAck {ack : ComplexAck}
    (h : SegmentFieldsAgree ack.segmented ack.sequenceNumber ack.proposedWindowSize) :
    Apdu.decode (Apdu.complexAck ack).encode = .ok (.complexAck ack) := by
  obtain ⟨segmented, moreFollows, invokeId, sequenceNumber, window, choice, data⟩ := ack
  obtain ⟨hpdu, hsegmented, hmore⟩ := ackOctet_fields segmented moreFollows
  unfold Apdu.encode
  simp only
  generalize pduType 3 ||| flag segmented 0x08 ||| flag moreFollows 0x04 = first at *
  obtain ⟨hsequence, hwindow, hwithin, hchoice, hdata⟩ :=
    service_append h [first, invokeId] choice data
  have hheader : ([first, invokeId] : Bytes).length = 2 := rfl
  simp only [List.cons_append, List.nil_append, hheader] at hsequence hwindow hwithin hchoice hdata
  unfold Apdu.decode
  simp only [List.isEmpty_cons, Octets.index, bind, Except.bind, pure, Except.pure,
    List.getElem?_cons_zero, Bool.false_eq_true, if_false]
  rw [hpdu]
  simp only [decodeComplexAck, Octets.index, bind, Except.bind, pure, Except.pure,
    List.getElem?_cons_zero, List.getElem?_cons_succ, hsegmented, hmore]
  rw [if_neg (by simp; omega), if_neg hwithin, hchoice]
  simp only [hdata, hsequence, hwindow]

/-! ### Errors -/

theorem dropFrom_append {ε : Type} (before after : Bytes) :
    (Octets.dropFrom (before ++ after) before.length : Checked ε Bytes) = .ok after := by
  unfold Octets.dropFrom
  rw [if_pos (by simp), List.drop_left]

/-- The two numbers of an error, read back. -/
theorem errorFields_append (invokeId : UInt8) (choice : ConfirmedServiceChoice) (extended : Bool)
    (errorClass errorCode : UInt32) (rest : Bytes) :
    errorFields invokeId choice extended
        (encodeEnumerated errorClass ++ (encodeEnumerated errorCode ++ rest)) =
      (if extended then do
        let offset ← invalidPart "error" (Checked.ofExcept (decodeClosingTag rest 0))
        if choice = .writePropertyMultiple then
          let rest ← Octets.dropFrom rest offset
          let reference ← decodeFirstFailedWrite rest
          return .error invokeId choice errorClass errorCode (some reference)
        else return .error invokeId choice errorClass errorCode none
      else return .error invokeId choice errorClass errorCode none) := by
  have hclass := reads_enumerated errorClass (encodeEnumerated errorCode ++ rest)
  have hcode := reads_enumerated errorCode rest
  unfold errorFields invalidPart
  rw [hclass]
  simp only [Checked.mapErr, bind, Except.bind]
  rw [dropFrom_append]
  simp only
  rw [hcode]
  simp only
  rw [dropFrom_append]

/-- A first failed write, read back. -/
theorem decodeFirstFailedWrite_append {reference : ObjectPropertyReference} {encoded : Bytes}
    (h : reference.encode = .ok encoded) :
    decodeFirstFailedWrite (encodeOpeningTag 1 ++ (encoded ++ encodeClosingTag 1))
      = .ok reference := by
  have hclosing : contextTagMatches (encodeClosingTag 1) 2 none = false := by decide
  have hlast := decodeClosingTag_append 1 []
  rw [List.append_nil] at hlast
  unfold decodeFirstFailedWrite invalidPart
  rw [decodeOpeningTag_append]
  simp only [Checked.ofExcept, Checked.mapErr, bind, Except.bind]
  rw [dropFrom_append]
  simp only
  rw [ObjectPropertyReference.reads h hclosing]
  simp only
  rw [dropFrom_append]
  simp only
  rw [hlast]
  rfl

/-- An error's first octet is no opening tag, so a plain error is not taken for a wrapped one. -/
theorem isOpeningTag_encodeEnumerated (value : UInt32) (rest : Bytes) (tag : UInt8) :
    isOpeningTag (encodeEnumerated value ++ rest) tag = false := by
  obtain ⟨width, _, hwidth, _, hoctets⟩ := unsignedOctets_eq value
  have hlength : (unsignedOctets value).length < 2 ^ 32 := by
    rw [hoctets, Octets.length_beOctets]
    omega
  unfold isOpeningTag encodeEnumerated
  rw [List.append_assoc, decodeTag_encodeApplicationTag (by decide) hlength]

/-- Past the three octets of its header, an error is its fields. -/
theorem decode_error_header (invokeId : UInt8) (choice : ConfirmedServiceChoice) {rest : Bytes}
    (hrest : 2 ≤ rest.length) :
    Apdu.decode (pduType 5 :: invokeId :: choice.toByte :: rest) =
      (if isOpeningTag rest 0 then do
        let offset ← invalidPart "error" (Checked.ofExcept (decodeOpeningTag rest 0))
        let unwrapped ← Octets.dropFrom rest offset
        errorFields invokeId choice (isOpeningTag rest 0) unwrapped
      else errorFields invokeId choice (isOpeningTag rest 0) rest) := by
  have hchoice := serviceChoiceAt_append [pduType 5, invokeId] choice rest
  have hdrop := dropFrom_append (ε := ApplicationError) [pduType 5, invokeId, choice.toByte] rest
  have hshort : ¬ (pduType 5 :: invokeId :: choice.toByte :: rest).length < 5 := by
    simp only [List.length_cons]
    omega
  show decodeError (pduType 5 :: invokeId :: choice.toByte :: rest) = _
  rw [decodeError_eq]
  simp only [bind, Except.bind]
  rw [if_neg hshort]
  rw [show Octets.index (pduType 5 :: invokeId :: choice.toByte :: rest) 1
    = (.ok invokeId : DecodedApdu UInt8) from rfl]
  simp only
  rw [show serviceChoiceAt (pduType 5 :: invokeId :: choice.toByte :: rest) 2 = .ok choice
    from hchoice]
  simp only
  rw [show Octets.dropFrom (pduType 5 :: invokeId :: choice.toByte :: rest) 3
    = (.ok rest : DecodedApdu Bytes) from hdrop]

theorem two_le_length_encodeEnumerated (value : UInt32) : 2 ≤ (encodeEnumerated value).length := by
  rw [length_encodeEnumerated]
  unfold encodedEnumeratedLen
  split
  · omega
  split
  · omega
  split <;> omega

theorem decode_encode_error {invokeId : UInt8} {choice : ConfirmedServiceChoice}
    {errorClass errorCode : UInt32} {firstFailedWrite : Option ObjectPropertyReference}
    (h : (Apdu.error invokeId choice errorClass errorCode firstFailedWrite).Canonical) :
    Apdu.decode (Apdu.error invokeId choice errorClass errorCode firstFailedWrite).encode
      = .ok (.error invokeId choice errorClass errorCode firstFailedWrite) := by
  have hlong := two_le_length_encodeEnumerated errorClass
  cases firstFailedWrite with
  | none =>
      -- Without a failed write the class stands bare, and its tag is no opening tag.
      have hplain := isOpeningTag_encodeEnumerated errorClass (encodeEnumerated errorCode) 0
      have hfields := errorFields_append invokeId choice false errorClass errorCode []
      rw [List.append_nil] at hfields
      unfold Apdu.encode
      simp only
      rw [decode_error_header invokeId choice (by rw [List.length_append]; omega), hplain,
        if_neg (by decide), hfields]
      rfl
  | some reference =>
      obtain ⟨hchoice, hfits⟩ := h
      obtain ⟨encoded, hencoded⟩ : ∃ encoded, reference.encode = .ok encoded := by
        have hok := ObjectPropertyReference.encode_isOk reference
        rw [hfits] at hok
        cases hencode : reference.encode with
        | error e =>
            rw [hencode] at hok
            cases hok
        | ok encoded => exact ⟨encoded, rfl⟩
      have hignored : encodeIgnored reference = encoded := by
        unfold encodeIgnored
        rw [hencoded]
      -- With one the class and the code are wrapped, which is how the decoder tells the two apart.
      have hwrapped : isOpeningTag (encodeOpeningTag 0 ++ (encodeEnumerated errorClass ++
          (encodeEnumerated errorCode ++ (encodeClosingTag 0 ++
            (encodeOpeningTag 1 ++ (encoded ++ encodeClosingTag 1)))))) 0 = true := by
        unfold isOpeningTag
        rw [decodeTag_encodeOpeningTag]
        rfl
      have hfields := errorFields_append invokeId choice true errorClass errorCode
        (encodeClosingTag 0 ++ (encodeOpeningTag 1 ++ (encoded ++ encodeClosingTag 1)))
      unfold Apdu.encode
      simp only [List.append_assoc, hignored]
      rw [decode_error_header invokeId choice (by simp only [List.length_append]; omega), hwrapped,
        if_pos rfl, decodeOpeningTag_append]
      simp only [invalidPart, Checked.ofExcept, Checked.mapErr, bind, Except.bind]
      rw [dropFrom_append]
      simp only
      rw [hfields, if_pos rfl, decodeClosingTag_append]
      simp only [invalidPart, Checked.ofExcept, Checked.mapErr, bind, Except.bind]
      rw [if_pos hchoice, dropFrom_append]
      simp only
      rw [decodeFirstFailedWrite_append hencoded]
      rfl

/-! ## §4. The fixed points -/

/-- **A canonical APDU is decoded as it was encoded.** -/
theorem Apdu.decode_encode {apdu : Apdu} (h : apdu.Canonical) :
    Apdu.decode apdu.encode = .ok apdu := by
  cases apdu with
  | confirmedRequest request => exact decode_encode_confirmedRequest h
  | unconfirmedRequest serviceChoice serviceData =>
      have hdata := serviceDataFrom_append [pduType 1, serviceChoice.toByte] serviceData
      unfold encode decode
      simp only [List.isEmpty_cons, Octets.index, bind, Except.bind, pure, Except.pure,
        List.getElem?_cons_zero, List.getElem?_cons_succ, Bool.false_eq_true, if_false]
      rw [show (((pduType 1 >>> 4) &&& 0x0F).toNat) = 1 from rfl]
      simp only
      rw [if_neg (by simp)]
      rw [show serviceDataFrom (pduType 1 :: serviceChoice.toByte :: serviceData) 2
        = .ok serviceData from hdata]
      cases serviceChoice <;> rfl
  | simpleAck invokeId serviceChoice => rfl
  | complexAck ack => exact decode_encode_complexAck h
  | segmentAck negative server invokeId sequenceNumber windowSize =>
      cases negative <;> cases server <;> rfl
  | error invokeId serviceChoice errorClass errorCode firstFailedWrite =>
      exact decode_encode_error h
  | reject invokeId rejectReason => rfl
  | abort server invokeId abortReason => cases server <;> rfl

/-- **Decoding and encoding again is a fixed point**: for every octet string that decodes, the
encoding of what it decodes to has the length advertised, and decodes to the same. -/
theorem Apdu.reencoded {data : Bytes} {apdu : Apdu} (h : Apdu.decode data = .ok apdu) :
    apdu.encode.length = apdu.encodedLen ∧ Apdu.decode apdu.encode = .ok apdu := by
  have hcanonical : apdu.Canonical := (Apdu.decode_meets data).ensures apdu h
  exact ⟨Apdu.encode_length hcanonical, Apdu.decode_encode hcanonical⟩

/-- A segmented acknowledgement with one octet of service data. -/
theorem Apdu.reencoded_segmentedAck :
    (Apdu.complexAck ⟨true, true, 7, some 3, some 16, .readProperty, [0xFF]⟩).encode.length = 6 ∧
      Apdu.decode (Apdu.complexAck ⟨true, true, 7, some 3, some 16, .readProperty, [0xFF]⟩).encode
        = .ok (.complexAck ⟨true, true, 7, some 3, some 16, .readProperty, [0xFF]⟩) :=
  Apdu.reencoded (show Apdu.decode [0x3C, 7, 3, 16, 12, 0xFF]
    = .ok (.complexAck ⟨true, true, 7, some 3, some 16, .readProperty, [0xFF]⟩) from rfl)

end BacnetRs.App
