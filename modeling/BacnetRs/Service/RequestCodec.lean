/-
  BacnetRs.Service.RequestCodec — read and write requests are decoded as they
  were encoded.

  Optional fields are told apart by the tag that comes next, lists end at a
  closing tag, and the value of a write ends where its bracket closes.  A value
  may open and close brackets of the same number.

    * `WritePropertyRequest.decode_encode`, `ReadPropertyRequest.decode_encode`,
      `WritePropertyMultipleRequest.decode_encode`, `ReadPropertyMultipleRequest.decode_encode`
                            — one request of each kind.
    * `requests_roundTrip`  — the four together.
    * `writes_cut_short`    — what is written and not found to end where it ends.
-/
import BacnetRs.Service.Balance
import BacnetRs.Service.ReadProperty
import BacnetRs.Service.WriteProperty

namespace BacnetRs.Service

open BacnetRs.Encoding BacnetRs.Object BacnetRs.Property Checked Octets

/-! ## §1. ReadProperty -/

/-- The fields of an encoded request, read where they stand, and what is left for the index. -/
theorem ReadPropertyRequest.fields {request : ReadPropertyRequest} {encoded : Bytes}
    (h : request.encode = .ok encoded) :
    ∃ p₁ p₂, decodeContextObjectId encoded 0 = .ok (request.objectIdentifier, p₁)
      ∧ readAt (decodeContextUnsigned · 1) encoded p₁ = .ok (request.propertyIdentifier.value, p₂)
      ∧ Left encoded p₂ (encodeOptionalUnsigned request.propertyArrayIndex 2) := by
  obtain ⟨object, ⟨property⟩, index⟩ := request
  simp only [ReadPropertyRequest.encode, bind_eq_ok, pure_eq_ok] at h
  obtain ⟨octets, hobject, rfl⟩ := h
  unfold encodeContextEnumerated
  rw [List.append_assoc]
  have h₁ := (left_zero (octets ++ (encodeContextUnsigned property 1
    ++ encodeOptionalUnsigned index 2))).next
  rw [Nat.zero_add] at h₁
  exact ⟨_, _, reads_contextObjectId hobject _, readUnsignedAt_of_left h₁, h₁.next⟩

theorem ReadPropertyRequest.decode_encode {request : ReadPropertyRequest} {encoded : Bytes}
    (h : request.encode = .ok encoded) : ReadPropertyRequest.decode encoded = .ok request := by
  obtain ⟨p₁, p₂, hobject, hproperty, hindex⟩ := ReadPropertyRequest.fields h
  obtain ⟨object, ⟨property⟩, index⟩ := request
  have hend := hindex.length
  unfold ReadPropertyRequest.decode
  simp only [hobject, ok_bind, hproperty]
  cases index with
  | none =>
      simp only [encodeOptionalUnsigned, List.length_nil] at hend
      rw [if_neg (by omega)]
      rfl
  | some index =>
      have htakes : 1 ≤ (encodeContextUnsigned index 2).length :=
        ((decodeContextUnsigned_takes _ 2).2 _ (reads_contextUnsigned index 2 [])).1
      simp only [encodeOptionalUnsigned] at hend hindex
      rw [← List.append_nil (encodeContextUnsigned index 2)] at hindex
      rw [if_pos (by omega), readUnsignedAt_of_left hindex]
      rfl

/-! ## §2. Encoded values and priorities -/

section Fields

variable {data rest : Bytes} {consumed : Nat} {tag : UInt8}

/-- **The value between its brackets**, and nothing of what is around them. -/
theorem readEncodedAt_of_left {value : Bytes} (hvalue : Balanced value)
    (h : Left data consumed (encodeOpeningTag tag ++ (value ++ (encodeClosingTag tag ++ rest)))) :
    readEncodedAt data consumed tag
      = .ok (value, consumed + (encodeOpeningTag tag).length + value.length
        + (encodeClosingTag tag).length) := by
  unfold readEncodedAt
  simp only [openAt_of_left h, ok_bind, findConstructedValueEnd_balanced hvalue h.next,
    h.next.range, closeAt_of_left h.next.next]
  rfl

/-- A priority is read back before anything that is not it. -/
theorem readPriorityAt_of_left {priority : Option UInt8}
    (h : Left data consumed (encodePriority priority tag ++ rest))
    (hrest : isContextTag rest tag = false) :
    readPriorityAt data consumed tag
      = .ok (priority, consumed + (encodePriority priority tag).length) := by
  unfold readPriorityAt encodePriority at *
  simp only [readOptionalUnsigned_of_left h hrest, ok_bind]
  cases priority with
  | none => rfl
  | some priority =>
      have hbound : priority.toUInt32.toNat < 2 ^ 8 := by
        rw [UInt8.toNat_toUInt32]
        exact priority.toNat_lt
      simp only [Option.map_some]
      rw [if_pos hbound, UInt8.toUInt8_toUInt32]
      rfl

end Fields

/-! ## §3. WriteProperty -/

/-- The fields of an encoded request, read where they stand.  The priority ends it. -/
theorem WritePropertyRequest.fields {request : WritePropertyRequest} {encoded : Bytes}
    (hvalue : Balanced request.propertyValue) (h : request.encode = .ok encoded) :
    ∃ p₁ p₂ p₃ p₄, decodeContextObjectId encoded 0 = .ok (request.objectIdentifier, p₁)
      ∧ readAt (decodeContextUnsigned · 1) encoded p₁ = .ok (request.propertyIdentifier, p₂)
      ∧ readOptionalAt (isContextTag · 2) (decodeContextUnsigned · 2) encoded p₂
        = .ok (request.propertyArrayIndex, p₃)
      ∧ readEncodedAt encoded p₃ 3 = .ok (request.propertyValue, p₄)
      ∧ readPriorityAt encoded p₄ 4 = .ok (request.priority, encoded.length) := by
  obtain ⟨object, property, index, value, priority⟩ := request
  simp only [WritePropertyRequest.encode, bind_eq_ok, pure_eq_ok] at h
  obtain ⟨octets, hobject, rfl⟩ := h
  unfold encodeContextEnumerated
  rw [← List.append_nil (_ ++ encodePriority priority 4)]
  simp only [List.append_assoc]
  have h₁ := (left_zero (octets ++ (encodeContextUnsigned property 1
    ++ (encodeOptionalUnsigned index 2 ++ (encodeOpeningTag 3 ++ (value ++ (encodeClosingTag 3
    ++ (encodePriority priority 4 ++ [])))))))).next
  rw [Nat.zero_add] at h₁
  have h₂ := h₁.next
  have h₃ := h₂.next
  have h₄ := h₃.next.next.next
  have hpriority := readPriorityAt_of_left h₄ rfl
  rw [(Nat.add_zero _).symm.trans h₄.next.length] at hpriority
  exact ⟨_, _, _, _, reads_contextObjectId hobject _, readUnsignedAt_of_left h₁,
    readOptionalUnsigned_of_left h₂ isContextTag_opening, readEncodedAt_of_left hvalue h₃,
    hpriority⟩

theorem WritePropertyRequest.decode_encode {request : WritePropertyRequest} {encoded : Bytes}
    (hvalue : Balanced request.propertyValue) (h : request.encode = .ok encoded) :
    WritePropertyRequest.decode encoded = .ok request := by
  obtain ⟨_, _, _, _, hobject, hproperty, hindex, hread, hpriority⟩ :=
    WritePropertyRequest.fields hvalue h
  unfold WritePropertyRequest.decode
  simp only [hobject, ok_bind, hproperty, hindex, hread, hpriority]
  rfl

theorem PropertyWrite.decode_encode {write : PropertyWrite} {rest : Bytes}
    (hvalue : Balanced write.value) (hrest : isContextTag rest 3 = false) :
    PropertyWrite.decode (write.encode ++ rest) = .ok (write, write.encode.length) := by
  obtain ⟨⟨property⟩, index, value, priority⟩ := write
  simp only [PropertyWrite.encode, encodeContextEnumerated, List.append_assoc]
  have hread : ∀ rest, decodeContextUnsigned (encodeContextUnsigned property 0 ++ rest) 0
      = .ok (property, (encodeContextUnsigned property 0).length) := reads_contextUnsigned property 0
  have h₁ := (left_zero (encodeContextUnsigned property 0 ++ (encodeOptionalUnsigned index 1
    ++ (encodeOpeningTag 2 ++ (value ++ (encodeClosingTag 2
    ++ (encodePriority priority 3 ++ rest))))))).next
  rw [Nat.zero_add] at h₁
  have h₂ := h₁.next
  have h₃ := h₂.next.next.next
  unfold PropertyWrite.decode
  simp only [hread, ok_bind, readOptionalUnsigned_of_left h₁ isContextTag_opening,
    readEncodedAt_of_left hvalue h₂, readPriorityAt_of_left h₃ hrest]
  simp only [List.length_append, Nat.add_assoc]
  rfl

/-! ## §4. Lists -/

theorem item_write {write : PropertyWrite} (hvalue : Balanced write.value) :
    Item (isClosingTag · 1) PropertyWrite.decode (fun rest => isContextTag rest 3 = false) write
      write.encode where
  goes more := by
    simp only [PropertyWrite.encode, encodeContextEnumerated, List.append_assoc]
    exact isClosingTag_contextUnsigned
  next more := by
    simp only [PropertyWrite.encode, encodeContextEnumerated, List.append_assoc]
    rw [isContextTag_contextUnsigned]
    rfl
  reads _ hmore := PropertyWrite.decode_encode hvalue hmore

theorem item_reference (reference : PropertyReference) :
    Item (isClosingTag · 1) PropertyReference.decode (fun rest => isContextTag rest 1 = false)
      reference reference.encode where
  goes more := by
    simp only [PropertyReference.encode, encodeContextEnumerated, List.append_assoc]
    exact isClosingTag_contextUnsigned
  next more := by
    simp only [PropertyReference.encode, encodeContextEnumerated, List.append_assoc]
    rw [isContextTag_contextUnsigned]
    rfl
  reads more hmore := by
    obtain ⟨⟨property⟩, index⟩ := reference
    simp only [PropertyReference.encode, encodeContextEnumerated, List.append_assoc]
    have hread : ∀ rest, decodeContextUnsigned (encodeContextUnsigned property 0 ++ rest) 0
        = .ok (property, (encodeContextUnsigned property 0).length) :=
      reads_contextUnsigned property 0
    have h₁ := (left_zero (encodeContextUnsigned property 0
      ++ (encodeOptionalUnsigned index 1 ++ more))).next
    rw [Nat.zero_add] at h₁
    unfold PropertyReference.decode
    simp only [hread, ok_bind, readOptionalUnsigned_of_left h₁ hmore, List.length_append]
    rfl

/-- A specification with a write, all of whose values are balanced. -/
theorem item_writeSpecification {specification : WriteAccessSpecification} {octets : Bytes}
    (hsome : specification.listOfProperties ≠ [])
    (hvalues : ∀ write ∈ specification.listOfProperties, Balanced write.value)
    (h : specification.encode = .ok octets) :
    Item List.isEmpty WriteAccessSpecification.decode (fun _ => True) specification octets := by
  have hread : ∀ more, WriteAccessSpecification.decode (octets ++ more)
      = .ok (specification, octets.length) := by
    intro more
    obtain ⟨object, writes⟩ := specification
    simp only [WriteAccessSpecification.encode, bind_eq_ok, pure_eq_ok] at h
    obtain ⟨front, hobject, rfl⟩ := h
    have hlist : readAll (isClosingTag · 1) PropertyWrite.decode
        (writes.flatMap PropertyWrite.encode ++ (encodeClosingTag 1 ++ more))
          = .ok (writes, (writes.flatMap PropertyWrite.encode).length) :=
      readAll_flatMap PropertyWrite.decode_takes isClosingTag_closing isContextTag_closing
        (fun write hwrite => item_write (hvalues write hwrite))
    obtain ⟨opened, hfront, hopen, hwrites, hclose⟩ := readBracketed hobject hlist rfl
    have hempty : ¬ writes.isEmpty = true := by
      rw [List.isEmpty_iff]
      exact hsome
    unfold WriteAccessSpecification.decode
    simp only [hfront, ok_bind, hopen, hwrites, hclose]
    rw [if_neg hempty]
    rfl
  exact ⟨fun more => isEmpty_of_takes WriteAccessSpecification.decode_takes (hread more),
    fun _ => trivial, fun more _ => hread more⟩

/-- A specification with a reference. -/
theorem item_readSpecification {specification : ReadAccessSpecification} {octets : Bytes}
    (hsome : specification.propertyReferences ≠ []) (h : specification.encode = .ok octets) :
    Item List.isEmpty ReadAccessSpecification.decode (fun _ => True) specification octets := by
  have hread : ∀ more, ReadAccessSpecification.decode (octets ++ more)
      = .ok (specification, octets.length) := by
    intro more
    obtain ⟨object, references⟩ := specification
    simp only [ReadAccessSpecification.encode, bind_eq_ok, pure_eq_ok] at h
    obtain ⟨front, hobject, rfl⟩ := h
    rw [show front ++ 0x1E :: references.flatMap PropertyReference.encode ++ [0x1F]
      = front ++ (encodeOpeningTag 1 ++ references.flatMap PropertyReference.encode)
        ++ encodeClosingTag 1 from rfl, ← List.append_assoc front]
    have hlist : readAll (isClosingTag · 1) PropertyReference.decode
        (references.flatMap PropertyReference.encode ++ (encodeClosingTag 1 ++ more))
          = .ok (references, (references.flatMap PropertyReference.encode).length) :=
      readAll_flatMap PropertyReference.decode_takes isClosingTag_closing isContextTag_closing
        (fun reference _ => item_reference reference)
    obtain ⟨opened, hfront, hopen, hreferences, hclose⟩ := readBracketed hobject hlist rfl
    have hempty : ¬ references.isEmpty = true := by
      rw [List.isEmpty_iff]
      exact hsome
    unfold ReadAccessSpecification.decode
    simp only [hfront, ok_bind, hopen, hreferences, hclose]
    rw [if_neg hempty]
    rfl
  exact ⟨fun more => isEmpty_of_takes ReadAccessSpecification.decode_takes (hread more),
    fun _ => trivial, fun more _ => hread more⟩

/-! ## §5. Requests about many properties -/

theorem WritePropertyMultipleRequest.decode_encode {request : WritePropertyMultipleRequest}
    {encoded : Bytes} (hsome : request.writeAccessSpecifications ≠ [])
    (hspecifications : ∀ specification ∈ request.writeAccessSpecifications,
      specification.listOfProperties ≠ []
        ∧ ∀ write ∈ specification.listOfProperties, Balanced write.value)
    (h : request.encode = .ok encoded) :
    WritePropertyMultipleRequest.decode encoded = .ok request := by
  obtain ⟨octets, hoctets, rfl⟩ := map_eq_ok.mp h
  have hlist : readAll List.isEmpty WriteAccessSpecification.decode (octets.flatten ++ [])
      = .ok (request.writeAccessSpecifications, octets.flatten.length) :=
    readAll_items WriteAccessSpecification.decode_takes rfl trivial hoctets
      (fun specification hmem _ hone =>
        item_writeSpecification (hspecifications _ hmem).1 (hspecifications _ hmem).2 hone)
  rw [List.append_nil] at hlist
  have hempty : ¬ request.writeAccessSpecifications.isEmpty = true := by
    rw [List.isEmpty_iff]
    exact hsome
  unfold WritePropertyMultipleRequest.decode
  simp only [hlist, ok_bind]
  rw [if_neg hempty]
  rfl

theorem ReadPropertyMultipleRequest.decode_encode {request : ReadPropertyMultipleRequest}
    {encoded : Bytes} (hsome : request.readAccessSpecifications ≠ [])
    (hspecifications : ∀ specification ∈ request.readAccessSpecifications,
      specification.propertyReferences ≠ [])
    (h : request.encode = .ok encoded) :
    ReadPropertyMultipleRequest.decode encoded = .ok request := by
  obtain ⟨octets, hoctets, rfl⟩ := map_eq_ok.mp h
  have hlist : readAll List.isEmpty ReadAccessSpecification.decode (octets.flatten ++ [])
      = .ok (request.readAccessSpecifications, octets.flatten.length) :=
    readAll_items ReadAccessSpecification.decode_takes rfl trivial hoctets
      (fun specification hmem _ hone => item_readSpecification (hspecifications _ hmem) hone)
  rw [List.append_nil] at hlist
  have hempty : ¬ request.readAccessSpecifications.isEmpty = true := by
    rw [List.isEmpty_iff]
    exact hsome
  unfold ReadPropertyMultipleRequest.decode
  simp only [hlist, ok_bind]
  rw [if_neg hempty]
  rfl

/-! ## §6. Every request -/

/-- Octets a client writes: encoded values, one after another, of which none holds octets nobody
knows and none a string whose tag cannot say its length. -/
def Written (encoded : Bytes) : Prop :=
  ∃ values, encodeValues values = .ok encoded ∧ allKnown values = true ∧ allMeasured values = true

theorem Written.balanced {encoded : Bytes} (h : Written encoded) : Balanced encoded := by
  obtain ⟨values, hencoded, hknown, hmeasured⟩ := h
  exact balanced_values hknown hmeasured hencoded

/-- A request that is encoded is decoded to itself. -/
def RoundTrips {α : Type} (encode : α → Except EncodingError Bytes) (decode : Bytes → Decoded α)
    (request : α) : Prop :=
  ∃ encoded, encode request = .ok encoded ∧ decode encoded = .ok request

theorem isOk_of_object {object : ObjectIdentifier} (hfits : object.fits = true) {tag : UInt8}
    {f : Bytes → Bytes} :
    (encodeContextObjectId object tag >>= fun octets => pure (f octets)
      : Except EncodingError Bytes).isOk = true :=
  (isOk_bind_pure (fun _ => rfl)).trans ((encodeContextObjectId_isOk object tag).trans hfits)

/-- A list of specifications is encoded when each is. -/
theorem encode_specifications {α : Type} {encode : α → Except EncodingError Bytes} {values : List α}
    (h : ∀ value ∈ values, (encode value).isOk = true) :
    ∃ encoded, (List.flatten <$> values.mapM encode : Except EncodingError Bytes)
      = .ok encoded := by
  obtain ⟨octets, hoctets⟩ := isOk_iff.mp ((mapM_isOk encode values).trans (List.all_eq_true.mpr h))
  exact ⟨octets.flatten, by rw [hoctets]; rfl⟩

/-- **Every request is decoded as it was encoded.**  Its object identifiers have an encoding, what
it writes is `Written`, and its lists are not empty. -/
theorem requests_roundTrip :
    (∀ request : ReadPropertyRequest, request.objectIdentifier.fits = true →
      RoundTrips ReadPropertyRequest.encode ReadPropertyRequest.decode request)
    ∧ (∀ request : WritePropertyRequest, request.objectIdentifier.fits = true →
      Written request.propertyValue →
      RoundTrips WritePropertyRequest.encode WritePropertyRequest.decode request)
    ∧ (∀ request : WritePropertyMultipleRequest, request.writeAccessSpecifications ≠ [] →
      (∀ specification ∈ request.writeAccessSpecifications,
        specification.objectIdentifier.fits = true ∧ specification.listOfProperties ≠ []
          ∧ ∀ write ∈ specification.listOfProperties, Written write.value) →
      RoundTrips WritePropertyMultipleRequest.encode WritePropertyMultipleRequest.decode request)
    ∧ ∀ request : ReadPropertyMultipleRequest, request.readAccessSpecifications ≠ [] →
      (∀ specification ∈ request.readAccessSpecifications,
        specification.objectIdentifier.fits = true ∧ specification.propertyReferences ≠ []) →
      RoundTrips ReadPropertyMultipleRequest.encode ReadPropertyMultipleRequest.decode request := by
  refine ⟨?_, ?_, ?_, ?_⟩
  · intro request hfits
    obtain ⟨encoded, hencoded⟩ := isOk_iff.mp (show request.encode.isOk = true from
      isOk_of_object hfits)
    exact ⟨encoded, hencoded, ReadPropertyRequest.decode_encode hencoded⟩
  · intro request hfits hwritten
    obtain ⟨encoded, hencoded⟩ := isOk_iff.mp (show request.encode.isOk = true from
      isOk_of_object hfits)
    exact ⟨encoded, hencoded, WritePropertyRequest.decode_encode hwritten.balanced hencoded⟩
  · intro request hsome hspecifications
    obtain ⟨encoded, hencoded⟩ := encode_specifications (fun specification hmem =>
      (show specification.encode.isOk = true from isOk_of_object (hspecifications _ hmem).1))
    exact ⟨encoded, hencoded, WritePropertyMultipleRequest.decode_encode hsome
      (fun specification hmem => ⟨(hspecifications _ hmem).2.1, fun write hwrite =>
        ((hspecifications _ hmem).2.2 write hwrite).balanced⟩) hencoded⟩
  · intro request hsome hspecifications
    obtain ⟨encoded, hencoded⟩ := encode_specifications (fun specification hmem =>
      (show specification.encode.isOk = true from isOk_of_object (hspecifications _ hmem).1))
    exact ⟨encoded, hencoded, ReadPropertyMultipleRequest.decode_encode hsome
      (fun specification hmem => (hspecifications _ hmem).2) hencoded⟩

/-- An Exception_Schedule entry in a WritePropertyMultiple: it opens and closes a bracket of the
number of the one around it. -/
theorem requests_roundTrip_specialEvent :
    RoundTrips WritePropertyMultipleRequest.encode WritePropertyMultipleRequest.decode
      ⟨[⟨⟨.schedule, 1⟩, [⟨.exceptionSchedule, some 1, [0x0E, 0x2B, 255, 255, 1, 0x0F, 0x2E, 0xB4, 8,
        0, 0, 0, 0x00, 0x2F, 0x39, 10], none⟩]⟩]⟩ := by
  have hwritten : Written [0x0E, 0x2B, 255, 255, 1, 0x0F, 0x2E, 0xB4, 8, 0, 0, 0, 0x00, 0x2F, 0x39,
      10] :=
    ⟨[.specialEvent ⟨.calendarEntry (.weekNDay ⟨255, 255, 1⟩), [⟨(8, 0, 0, 0), .null⟩], 10⟩], rfl,
      rfl, rfl⟩
  apply requests_roundTrip.2.2.1 _ (List.cons_ne_nil _ _)
  intro specification hspecification
  obtain rfl := List.mem_singleton.mp hspecification
  refine ⟨by decide, List.cons_ne_nil _ _, fun write hwrite => ?_⟩
  obtain rfl := List.mem_singleton.mp hwrite
  exact hwritten

/-! ## §7. What is not found to end where it ends -/

/-- A write of `value` to a Present_Value. -/
def writeOf (value : Bytes) : WritePropertyRequest :=
  ⟨⟨.analogValue, 1⟩, PropertyIdentifier.presentValue.value, none, value, none⟩

/-- The tag of an octet string of 2^32 octets counts none of them. -/
theorem decodePropertyValue_wrapped {octets : Bytes} (hlength : octets.length = 2 ^ 32)
    (rest : Bytes) :
    decodePropertyValue (encodeOctetString octets ++ rest)
      = .ok (.octetString [], (encodeApplicationTag .octetString octets.length).length) := by
  have hread : decodeOctetString (encodeOctetString octets ++ rest)
      = .ok ([], (encodeApplicationTag .octetString octets.length).length) := by
    unfold decodeOctetString encodeOctetString
    rw [List.append_assoc, expectApplicationTag_encode_mod (by decide), hlength, Nat.mod_self]
    simp only [ok_bind, Nat.add_zero, List.length_append]
    rw [if_neg (by omega)]
    unfold range
    rw [if_pos ⟨Nat.le_refl _, by simp⟩, Nat.sub_self, List.take_zero]
    rfl
  have htagged : Tagged .octetString (encodeOctetString octets) := ⟨_, _, rfl⟩
  rw [decodePropertyValue_tagged (by decide) htagged decodePropertyValue_of_tag, hread]
  rfl

/-- So its bracket closes where its first octet would close it. -/
theorem findConstructedValueEnd_wrapped {data more rest : Bytes} {position : Nat} {tag : UInt8}
    (hlength : (encodeClosingTag tag ++ more).length = 2 ^ 32)
    (h : Left data position (encodeOctetString (encodeClosingTag tag ++ more) ++ rest)) :
    findConstructedValueEnd data position tag
      = .ok (position + (encodeApplicationTag .octetString (2 ^ 32)).length) := by
  have hvalue := decodePropertyValue_wrapped hlength rest
  obtain ⟨⟨found, length, header⟩, hheader⟩ := decodeApplicationTag_of_value hvalue
  have hnext : Left data position (encodeApplicationTag .octetString (2 ^ 32)
      ++ (encodeClosingTag tag ++ (more ++ rest))) := by
    have hleft := h
    unfold encodeOctetString at hleft
    rw [hlength] at hleft
    simpa only [List.append_assoc] using hleft
  have hposition := lt_of_left hnext (by decide)
  have hstep : findStep data position [tag]
      = .ok (some (position + (encodeApplicationTag .octetString (2 ^ 32)).length, [tag])) := by
    rw [findStep_of_left h (decodeApplicationTag_eq_ok.mp hheader)]
    simp only [hvalue, hlength]
    rfl
  show findFrom data position [tag] = _
  rw [findFrom_of_step hposition hstep, findFrom_closed (isTag_encodeClosingTag tag) hnext.next]

/-- **A write of an octet string of 2^32 octets that starts like a closing tag**, behind its
value: the value read is the tag of the string, whatever ends the request. -/
theorem writeOf_wrapped {more : Bytes} (hlength : (encodeClosingTag 3 ++ more).length = 2 ^ 32)
    (hmore : ∀ rest, isContextTag (more ++ rest) 4 = false) :
    ∃ front, (writeOf (encodeOctetString (encodeClosingTag 3 ++ more))).encode
        = .ok (front ++ (encodeOctetString (encodeClosingTag 3 ++ more) ++ encodeClosingTag 3))
      ∧ ∀ rest, WritePropertyRequest.decode
        (front ++ (encodeOctetString (encodeClosingTag 3 ++ more) ++ rest))
          = .ok (writeOf (encodeApplicationTag .octetString (2 ^ 32))) := by
  obtain ⟨octets, hobject⟩ : ∃ octets,
      encodeContextObjectId (⟨.analogValue, 1⟩ : ObjectIdentifier) 0 = .ok octets := ⟨_, rfl⟩
  refine ⟨octets ++ (encodeContextUnsigned PropertyIdentifier.presentValue.value 1
    ++ encodeOpeningTag 3), ?_, ?_⟩
  · simp only [writeOf, WritePropertyRequest.encode, hobject, ok_bind, encodeContextEnumerated,
      encodeOptionalUnsigned, encodePriority, Option.map_none, List.append_nil, List.append_assoc]
    rfl
  · intro rest
    simp only [List.append_assoc]
    have hread := reads_contextObjectId hobject (encodeContextUnsigned
      PropertyIdentifier.presentValue.value 1 ++ (encodeOpeningTag 3
        ++ (encodeOctetString (encodeClosingTag 3 ++ more) ++ rest)))
    have h₁ := (left_zero (octets ++ (encodeContextUnsigned PropertyIdentifier.presentValue.value 1
      ++ (encodeOpeningTag 3
        ++ (encodeOctetString (encodeClosingTag 3 ++ more) ++ rest))))).next
    rw [Nat.zero_add] at h₁
    generalize octets ++ (encodeContextUnsigned PropertyIdentifier.presentValue.value 1
      ++ (encodeOpeningTag 3 ++ (encodeOctetString (encodeClosingTag 3 ++ more) ++ rest))) = data
      at hread h₁ ⊢
    have h₂ := h₁.next
    have h₃ := h₂.next
    have habsent : readOptionalAt (isContextTag · 2) (decodeContextUnsigned · 2) data
        (octets.length + (encodeContextUnsigned PropertyIdentifier.presentValue.value 1).length)
          = .ok (none, _) := readOptionalAt_absent h₂ isContextTag_opening
    have hend := findConstructedValueEnd_wrapped hlength h₃
    -- Behind the tag of the string comes what closes the bracket.
    unfold encodeOctetString at h₃
    rw [hlength, List.append_assoc, List.append_assoc] at h₃
    have hpriority : readPriorityAt data _ 4 = .ok (none, _) :=
      readPriorityAt_of_left (show Left data _ (encodePriority none 4 ++ (more ++ rest)) from
        h₃.next.next) (hmore rest)
    have hvalue : readEncodedAt data (octets.length
        + (encodeContextUnsigned PropertyIdentifier.presentValue.value 1).length) 3
          = .ok (encodeApplicationTag .octetString (2 ^ 32), octets.length
            + (encodeContextUnsigned PropertyIdentifier.presentValue.value 1).length
            + (encodeOpeningTag 3).length + (encodeApplicationTag .octetString (2 ^ 32)).length
            + (encodeClosingTag 3).length) := by
      unfold readEncodedAt
      simp only [openAt_of_left h₂, ok_bind, hend, h₃.range, closeAt_of_left h₃.next]
      rfl
    unfold WritePropertyRequest.decode
    simp only [hread, ok_bind, readUnsignedAt_of_left h₁, habsent, hvalue, hpriority]
    rfl

/-- 2^32 octets that each look like the tag that closes a value. -/
def closingOctets : Bytes := encodeClosingTag 3 ++ List.replicate (2 ^ 32 - 1) 0x3F

theorem length_closingOctets : closingOctets.length = 2 ^ 32 := by
  unfold closingOctets
  rw [List.length_append, List.length_replicate]
  rfl

/-- The tag of a string is not the string. -/
theorem tag_ne_closingOctets :
    encodeApplicationTag .octetString (2 ^ 32) ≠ encodeOctetString closingOctets := by
  intro h
  unfold encodeOctetString at h
  rw [length_closingOctets] at h
  have hempty := congrArg List.length (List.self_eq_append_right.mp h)
  rw [length_closingOctets] at hempty
  cases hempty

/-- **A value that is not Unknown may hold octets nobody knows**, and an octet string be longer than
its tag can say: neither write is decoded as it was encoded. -/
theorem writes_cut_short :
    (∃ values encoded, encodeValues values = .ok encoded
      ∧ (∀ value ∈ values, ∀ raw, value ≠ .unknown raw) ∧ allMeasured values = true
      ∧ ¬ RoundTrips WritePropertyRequest.encode WritePropertyRequest.decode (writeOf encoded))
    ∧ ∃ values encoded, encodeValues values = .ok encoded ∧ allKnown values = true
      ∧ ¬ RoundTrips WritePropertyRequest.encode WritePropertyRequest.decode (writeOf encoded) := by
  constructor
  · refine ⟨[.array [.unknown [0x3F]]], [0x3F], rfl, ?_, rfl, ?_⟩
    · intro value hvalue raw
      obtain rfl := List.mem_singleton.mp hvalue
      intro h
      cases h
    · rintro ⟨encoded, hencoded, hread⟩
      cases hencoded
      have hvalue := congrArg (fun decoded => decoded.okPart.map WritePropertyRequest.propertyValue)
        hread
      exact absurd hvalue (by decide +kernel)
  · refine ⟨[.octetString closingOctets], _, encodeValues_singleton _, rfl, ?_⟩
    obtain ⟨front, hencoded, hread⟩ := writeOf_wrapped length_closingOctets (fun _ => rfl)
    rintro ⟨encoded, hsame, hback⟩
    obtain rfl := Except.ok.inj (hencoded.symm.trans hsame)
    have hvalue := Except.ok.inj ((hread _).symm.trans hback)
    exact tag_ne_closingOctets (congrArg WritePropertyRequest.propertyValue hvalue)

end BacnetRs.Service
