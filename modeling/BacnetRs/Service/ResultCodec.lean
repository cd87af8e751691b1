/-
  BacnetRs.Service.ResultCodec — what a server read is what a client decodes.

  The values of a property are written one after another between two brackets,
  without what collects them, and read back by the datatype the property names.
  The length of an array is no value of any of the constructed datatypes: what
  expects one of these fails on it, and the fallback reads it.

    * `decodeValuesFor_encoded` — the values of a property.
    * `ReadPropertyResponse.decode_encode`, `PropertyResult.decode_encode`,
      `ReadPropertyMultipleResponse.decode_encode` — an answer, and one of many.
-/
import BacnetRs.Object.Datatypes
import BacnetRs.Service.Balance
import BacnetRs.Service.ReadResponse

namespace BacnetRs.Service

open BacnetRs.Encoding BacnetRs.Object BacnetRs.Property Checked Octets

/-! ## §1. No constructed datatype begins with a number -/

section Number

variable {data : Bytes} {count : UInt64}

/-- Octets that begin with an unsigned number. -/
def BeginsWith (count : UInt64) (data : Bytes) : Prop :=
  ∃ consumed, decodePropertyValue data = .ok (.unsigned count, consumed)

theorem BeginsWith.decodeTag (h : BeginsWith count data) :
    ∃ tag length header, decodeTag data = .ok (.application tag, length, header) := by
  obtain ⟨consumed, hread⟩ := h
  obtain ⟨⟨tag, length, header⟩, hheader⟩ := decodeApplicationTag_of_value hread
  exact ⟨tag, length, header, decodeApplicationTag_eq_ok.mp hheader⟩

theorem BeginsWith.decodeContextTag (h : BeginsWith count data) :
    decodeContextTag data = .error .invalidTag := by
  obtain ⟨tag, length, header, htag⟩ := h.decodeTag
  unfold Encoding.decodeContextTag
  rw [htag]

theorem BeginsWith.openAt (h : BeginsWith count data) (tag : UInt8) :
    openAt data 0 tag = .error (.error .invalidTag) := by
  obtain ⟨_, length, header, htag⟩ := h.decodeTag
  unfold Encoding.openAt decodeOpeningTag
  rw [(left_zero data).dropFrom]
  simp only [ok_bind, htag]
  rfl

/-- A field that is to be of another type. -/
theorem BeginsWith.readSelected {α : Type} {error : EncodingError} (h : BeginsWith count data)
    (select : PropertyValue → Except EncodingError α)
    (hselect : select (.unsigned count) = .error error) :
    readSelected select data 0 = .error (.error error) := by
  obtain ⟨consumed, hread⟩ := h
  unfold Property.readSelected readAt
  rw [(left_zero data).dropFrom]
  simp only [ok_bind, hread]
  show (Checked.ofExcept (select (.unsigned count)) >>= _) = _
  rw [hselect]
  rfl

theorem BeginsWith.decodeDate (h : BeginsWith count data) (found : DateValue × Nat) :
    decodeDate data ≠ .ok found := by
  intro hdate
  obtain ⟨consumed, hread⟩ := h
  obtain ⟨⟨length, header⟩, htag, _⟩ := bind_eq_ok.mp hdate
  rw [decodePropertyValue_of_tag (expectApplicationTag_eq_ok.mp htag), hdate] at hread
  cases hread

/-- **No constructed datatype begins with a number.** -/
theorem BeginsWith.not_decoded {element : Element} (h : BeginsWith count data)
    (hconstructed : element ≠ .any) (found : PropertyValue × Nat) :
    element.decode data ≠ .ok found := by
  intro hread
  -- Every constructed element begins with another tag than the one that is there.
  obtain ⟨tag, length, header, htag⟩ := h.decodeTag
  cases element with
  | any => exact hconstructed rfl
  | covSubscription =>
      simp only [Element.decode, CovSubscriptionValue.decode, RecipientProcess.decode,
        h.openAt] at hread
      cases hread
  | addressBinding =>
      simp only [Element.decode, AddressBindingValue.decode,
        h.readSelected (asObjectIdentifier _) rfl] at hread
      cases hread
  | timestamp =>
      simp only [Element.decode, TimestampValue.decode, htag] at hread
      cases hread
  | objectPropertyReference =>
      simp only [Element.decode, ObjectPropertyReference.decode, decodeContextObjectId,
        expectContextTag, h.decodeContextTag] at hread
      cases hread
  | destination =>
      simp only [Element.decode, DestinationValue.decode,
        h.readSelected asBitString rfl] at hread
      cases hread
  | dailySchedule =>
      simp only [Element.decode, DailyScheduleValue.decode, h.openAt] at hread
      cases hread
  | calendarEntry =>
      simp only [Element.decode, CalendarEntryValue.decode, htag] at hread
      cases hread
  | specialEvent =>
      simp only [Element.decode, SpecialEventValue.decode, SpecialEventPeriod.decode, htag] at hread
      cases hread
  | dateRange =>
      obtain ⟨decoded, hdecoded, _⟩ := map_eq_ok.mp hread
      obtain ⟨start, hstart, _⟩ := bind_eq_ok.mp hdecoded
      exact h.decodeDate start hstart
  | valueSource =>
      simp only [Element.decode, ValueSourceValue.decode, h.decodeContextTag] at hread
      cases hread

/-- So what expects a run of one fails. -/
theorem BeginsWith.decodeAll {element : Element} (h : BeginsWith count data)
    (hconstructed : element ≠ .any) : ∃ e, element.decodeAll data = .error (.error e) := by
  rcases (element.decodeAll_meets data).cases with ⟨values, hvalues, _⟩ | hfails
  · exfalso
    obtain ⟨consumed, hread⟩ := h
    obtain ⟨total, htotal⟩ := Element.decodeAll_eq_ok.mp hvalues
    have hgo : data.isEmpty = false := by
      cases data with
      | nil => cases hread
      | cons octet rest => rfl
    rw [readAll_eq element.decodeSome_takes, hgo, if_neg Bool.false_ne_true] at htotal
    obtain ⟨first, hfirst, _⟩ := bind_eq_ok.mp htotal
    rw [Element.decodeSome_eq] at hfirst
    exact BeginsWith.not_decoded ⟨consumed, hread⟩ hconstructed first hfirst
  · exact hfails

end Number

/-! ## §2. The values of a property -/

/-- What its encoding carries, and so what is scheduled in it. -/
def Carries (value : PropertyValue) : Prop :=
  carried value = true ∧ allPrimitive (scheduled value)

/-- Values of a property that its identifier tells how to read: each is of its datatype, or
what was asked for is how many there are. -/
structure Legible (property : PropertyIdentifier) (values : List PropertyValue) : Prop where
  suits : (∀ value ∈ values, (elementOf property).holds value = true)
    ∨ ∃ count, values = [.unsigned count]
  carries : ∀ value ∈ values, Carries value

section Values

variable {element : Element} {property : PropertyIdentifier} {value : PropertyValue}
  {values : List PropertyValue} {encoded : Bytes}

/-- A primitive is carried when it is measured. -/
theorem measured_of_carried (h : carried value = true) : measured value = true := by
  cases value with
  | specialEvent event => exact (Bool.and_eq_true_iff.mp h).2
  | calendarEntry entry => rfl
  | _ => exact h

theorem known_of_any (h : Element.any.holds value = true) : known value = true := by
  cases value with
  | array values => cases h
  | list values => cases h
  | dailySchedule day => cases h
  | specialEvent event => cases h
  | unknown raw => cases h
  | _ => rfl

theorem allScheduledKnown_of_primitive {timeValues : List (TimeValueValue PropertyValue)}
    (h : allPrimitive timeValues) : allScheduledKnown timeValues = true := by
  induction timeValues with
  | nil => rfl
  | cons timeValue rest ih =>
      obtain ⟨time, value⟩ := timeValue
      obtain ⟨hvalue, hrest⟩ := List.forall_mem_cons.mp h
      exact Bool.and_eq_true_iff.mpr ⟨known_of_any hvalue, ih hrest⟩

/-- A value of any datatype holds no octets nobody knows, unless they are scheduled. -/
theorem known_of_holds (hholds : element.holds value = true)
    (hprimitive : allPrimitive (scheduled value)) : known value = true := by
  cases value with
  | array values => cases element <;> cases hholds
  | list values => cases element <;> cases hholds
  | unknown raw => cases element <;> cases hholds
  | dailySchedule day => exact allScheduledKnown_of_primitive hprimitive
  | specialEvent event => exact allScheduledKnown_of_primitive hprimitive
  | _ => rfl

theorem balanced_carried (h : encodeValues values = .ok encoded)
    (hvalues : ∀ value ∈ values, known value = true ∧ carried value = true) :
    Balanced encoded := by
  induction values generalizing encoded with
  | nil =>
      cases h
      exact balanced_nil
  | cons value values ih =>
      obtain ⟨octets, more, hoctets, hmore, rfl⟩ := encodeValues_cons h
      obtain ⟨⟨hknown, hcarried⟩, hothers⟩ := List.forall_mem_cons.mp hvalues
      exact (balanced_value hknown (measured_of_carried hcarried) hoctets).append
        (ih hmore hothers)

/-- What can be read ends where it ends. -/
theorem Legible.balanced (h : Legible property values) (hencoded : encodeValues values = .ok encoded) :
    Balanced encoded := by
  apply balanced_carried hencoded
  intro value hvalue
  obtain ⟨hcarried, hprimitive⟩ := h.carries value hvalue
  refine ⟨?_, hcarried⟩
  rcases h.suits with hholds | ⟨count, rfl⟩
  · exact known_of_holds (hholds value hvalue) hprimitive
  · obtain rfl := List.mem_singleton.mp hvalue
    rfl

/-- A value that says what it is, is read as that. -/
theorem decodeResultValue_of_read {data : Bytes} {read : PropertyValue × Nat}
    (h : decodePropertyValue data = .ok read) : decodeResultValue data = .ok read := by
  obtain ⟨⟨tag, length, header⟩, hheader⟩ := decodeApplicationTag_of_value h
  unfold decodeResultValue
  rw [decodeApplicationTag_eq_ok.mp hheader]
  exact h

/-- **Primitive values are read back, of whatever property.** -/
theorem decodePropertyResultValues_encoded (h : encodeValues values = .ok encoded)
    (hvalues : ∀ value ∈ values, Element.any.holds value = true ∧ carried value = true) :
    decodePropertyResultValues encoded = .ok values := by
  suffices hread : ∃ total, readAll List.isEmpty decodeResultValue encoded = .ok (values, total) by
    obtain ⟨total, htotal⟩ := hread
    unfold decodePropertyResultValues
    rw [htotal]
    rfl
  induction values generalizing encoded with
  | nil =>
      cases h
      exact ⟨0, readAll_stop decodeResultValue_takes rfl⟩
  | cons value values ih =>
      obtain ⟨octets, more, hoctets, hmore, rfl⟩ := encodeValues_cons h
      obtain ⟨⟨hprimitive, hcarried⟩, hothers⟩ := List.forall_mem_cons.mp hvalues
      obtain ⟨total, htotal⟩ := ih hmore hothers
      have hread := decodeResultValue_of_read
        (reads_primitive hprimitive (measured_of_carried hcarried) hoctets more)
      exact ⟨_, readAll_cons decodeResultValue_takes
        (isEmpty_of_takes decodeResultValue_takes hread) hread htotal⟩

/-- A property whose values are primitive is read by what parses. -/
theorem decodeValuesFor_any (h : elementOf property = .any) (data : Bytes) :
    decodeValuesFor property data = decodePropertyResultValues data := by
  unfold decodeValuesFor
  unfold elementOf at h
  cases hdatatype : datatype property with
  | none => rfl
  | some datatype =>
      rw [hdatatype] at h
      simp only at h ⊢
      rw [if_neg (not_not_intro h)]

/-- Any other is read by its datatype. -/
theorem decodeValuesFor_of_decoded {data : Bytes} (h : elementOf property ≠ .any)
    (hread : (elementOf property).decodeAll data = .ok values) :
    decodeValuesFor property data = .ok values := by
  unfold decodeValuesFor
  unfold elementOf at h hread
  cases hdatatype : datatype property with
  | none =>
      rw [hdatatype] at h
      exact absurd rfl h
  | some datatype =>
      rw [hdatatype] at h hread
      simp only at h hread ⊢
      rw [if_pos h, hread]

/-- And by what parses where that fails. -/
theorem decodeValuesFor_of_error {data : Bytes} {e : EncodingError} (h : elementOf property ≠ .any)
    (hfails : (elementOf property).decodeAll data = .error (.error e)) :
    decodeValuesFor property data = decodePropertyResultValues data := by
  unfold decodeValuesFor
  unfold elementOf at h hfails
  cases hdatatype : datatype property with
  | none => rfl
  | some datatype =>
      rw [hdatatype] at h hfails
      simp only at h hfails ⊢
      rw [if_pos h, hfails]

/-- **The values of a property are read back by the datatype it names**, and how many they are
by the fallback. -/
theorem decodeValuesFor_encoded (h : Legible property values)
    (hencoded : encodeValues values = .ok encoded) :
    decodeValuesFor property encoded = .ok values := by
  have hprimitive : (∀ value ∈ values, Element.any.holds value = true) →
      decodePropertyResultValues encoded = .ok values := fun hany =>
    decodePropertyResultValues_encoded hencoded
      (fun value hvalue => ⟨hany value hvalue, (h.carries value hvalue).1⟩)
  by_cases hconstructed : elementOf property = .any
  · rw [decodeValuesFor_any hconstructed]
    apply hprimitive
    rcases h.suits with hholds | ⟨count, rfl⟩
    · rwa [hconstructed] at hholds
    · exact List.forall_mem_singleton.mpr rfl
  · rcases h.suits with hholds | ⟨count, rfl⟩
    · apply decodeValuesFor_of_decoded hconstructed
      rw [constructed_roundTrip_iff hconstructed (fun value hvalue =>
        ⟨hholds value hvalue, (h.carries value hvalue).2⟩) hencoded]
      exact fun value hvalue => (h.carries value hvalue).1
    · have hread : BeginsWith count encoded := by
        rw [encodeValues_singleton] at hencoded
        exact ⟨_, List.append_nil encoded ▸ reads_primitive rfl rfl hencoded []⟩
      obtain ⟨e, hfails⟩ := hread.decodeAll hconstructed
      rw [decodeValuesFor_of_error hconstructed hfails]
      exact hprimitive (List.forall_mem_singleton.mpr rfl)

end Values

/-! ## §3. An answer to ReadProperty -/

/-- What a client takes an index for: that of a whole array is none. -/
def indexOf (index : Option UInt32) : Option UInt32 :=
  index.filter (fun index => index != bacnetArrayAll)

section Fields

variable {data rest : Bytes} {pos : Nat} {tag : UInt8} {property : PropertyIdentifier}

theorem readIndexAt_of_left {index : Option UInt32}
    (h : Left data pos (encodeIndex index tag ++ (encodeOpeningTag 3 ++ rest))) :
    readIndexAt data pos tag = .ok (indexOf index, pos + (encodeIndex index tag).length) := by
  unfold readIndexAt
  rw [h.dropFrom]
  cases index with
  | none =>
      have habsent : decodeContextUnsigned (encodeOpeningTag 3 ++ rest) tag
          = .error (.error .invalidTag) := by
        unfold decodeContextUnsigned expectContextTag decodeContextTag
        rw [decodeTag_encodeOpeningTag]
        rfl
      simp only [encodeIndex, List.nil_append, ok_bind, habsent]
      rfl
  | some index =>
      have hread : decodeContextUnsigned (encodeContextUnsigned index tag
          ++ (encodeOpeningTag 3 ++ rest)) tag = .ok (index, _) := reads_contextUnsigned index tag _
      simp only [encodeIndex, ok_bind, hread]
      by_cases hall : index = bacnetArrayAll
      · rw [if_pos hall, hall]
        rfl
      · have hother : indexOf (some index) = some index := by
          simp [indexOf, Option.filter, hall]
        rw [if_neg hall, hother]
        rfl

/-- **The values of a property are read where they stand**, up to the tag that closes them. -/
theorem readValuesAt_of_left {values : List PropertyValue} {encoded : Bytes}
    (hvalues : Legible property values) (hencoded : encodeValues values = .ok encoded)
    (h : Left data pos (encoded ++ (encodeClosingTag tag ++ rest))) :
    readValuesAt property data pos tag = .ok (values, pos + encoded.length) := by
  unfold readValuesAt
  simp only [findConstructedValueEnd_balanced (hvalues.balanced hencoded) h, ok_bind, h.range,
    decodeValuesFor_encoded hvalues hencoded]
  rfl

end Fields

/-- **An answer to ReadProperty is decoded as it was encoded**, but for the index of a whole
array. -/
theorem ReadPropertyResponse.decode_encode {response : ReadPropertyResponse} {encoded : Bytes}
    (hvalues : Legible response.propertyIdentifier response.propertyValues)
    (h : response.encode = .ok encoded) :
    ReadPropertyResponse.decode encoded
      = .ok { response with propertyArrayIndex := indexOf response.propertyArrayIndex } := by
  obtain ⟨object, ⟨property⟩, index, values⟩ := response
  simp only [ReadPropertyResponse.encode, bind_eq_ok, pure_eq_ok] at h
  obtain ⟨front, hobject, octets, hoctets, rfl⟩ := h
  rw [show front ++ encodeContextEnumerated property 1 ++ encodeIndex index 2 ++ 0x3E :: octets
      ++ [0x3F] = front ++ encodeContextUnsigned property 1 ++ encodeIndex index 2
        ++ (encodeOpeningTag 3 ++ octets) ++ (encodeClosingTag 3 ++ []) from rfl]
  simp only [List.append_assoc]
  have hfront : ∀ rest, decodeContextObjectId (front ++ rest) 0 = .ok (object, front.length) :=
    reads_contextObjectId hobject
  have h₁ := (left_zero (front ++ (encodeContextUnsigned property 1 ++ (encodeIndex index 2
    ++ (encodeOpeningTag 3 ++ (octets ++ (encodeClosingTag 3 ++ []))))))).next
  rw [Nat.zero_add] at h₁
  have h₂ := h₁.next
  have h₃ := h₂.next
  have h₄ := h₃.next
  unfold ReadPropertyResponse.decode
  simp only [hfront, ok_bind, readUnsignedAt_of_left h₁, readIndexAt_of_left h₂, openAt_of_left h₃,
    readValuesAt_of_left hvalues hoctets h₄, closeAt_of_left h₄.next]
  rfl

/-! ## §4. One result of many -/

/-- The values of a result can be read; an error always can. -/
def PropertyResultValue.Legible (property : PropertyIdentifier) : PropertyResultValue → Prop
  | .value values => Service.Legible property values
  | .error _ _ => True

theorem PropertyResultValue.decodeAt_of_left {property : PropertyIdentifier}
    {value : PropertyResultValue} {data encoded rest : Bytes} {pos : Nat}
    (hvalue : value.Legible property) (h : value.encode = .ok encoded)
    (hleft : Left data pos (encoded ++ rest)) :
    PropertyResultValue.decodeAt property data pos = .ok (value, pos + encoded.length) := by
  unfold PropertyResultValue.decodeAt
  rw [hleft.dropFrom]
  cases value with
  | value values =>
      simp only [PropertyResultValue.encode, bind_eq_ok, pure_eq_ok] at h
      obtain ⟨octets, hoctets, rfl⟩ := h
      simp only [List.append_assoc] at hleft ⊢
      have h₁ := hleft.next
      simp only [ok_bind, decodeTag_encodeOpeningTag, Checked.ofExcept,
        readValuesAt_of_left hvalue hoctets h₁, closeAt_of_left h₁.next]
      simp only [List.length_append, Nat.add_assoc]
      rfl
  | error errorClass errorCode =>
      cases h
      simp only [List.append_assoc] at hleft ⊢
      have h₁ := hleft.next
      have h₂ := h₁.next
      simp only [ok_bind, decodeTag_encodeOpeningTag, Checked.ofExcept,
        readAt_of_left h₁ (reads_enumerated errorClass _),
        readAt_of_left h₂ (reads_enumerated errorCode _), closeAt_of_left h₂.next]
      simp only [List.length_append, Nat.add_assoc]
      rfl

/-- The brackets of a result are no index. -/
theorem isContextTag_result {value : PropertyResultValue} {encoded rest : Bytes} {tag : UInt8}
    (h : value.encode = .ok encoded) : isContextTag (encoded ++ rest) tag = false := by
  cases value with
  | value values =>
      simp only [PropertyResultValue.encode, bind_eq_ok, pure_eq_ok] at h
      obtain ⟨octets, _, rfl⟩ := h
      simp only [List.append_assoc]
      exact isContextTag_opening
  | error errorClass errorCode =>
      cases h
      simp only [List.append_assoc]
      exact isContextTag_opening

theorem encodeIndex_eq (index : Option UInt32) (tag : UInt8) :
    encodeIndex index tag = encodeOptionalUnsigned index tag := by
  cases index <;> rfl

/-- **A result is decoded as it was encoded**, whatever comes next. -/
theorem PropertyResult.decode_encode {result : PropertyResult} {encoded : Bytes}
    (hvalue : result.value.Legible result.propertyIdentifier) (h : result.encode = .ok encoded) :
    Reads PropertyResult.decode encoded result := by
  intro rest
  obtain ⟨⟨property⟩, index, value⟩ := result
  simp only [PropertyResult.encode, bind_eq_ok, pure_eq_ok] at h
  obtain ⟨octets, hoctets, rfl⟩ := h
  simp only [encodeContextEnumerated, encodeIndex_eq, List.append_assoc]
  have hread : ∀ rest, decodeContextUnsigned (encodeContextUnsigned property 2 ++ rest) 2
      = .ok (property, (encodeContextUnsigned property 2).length) := reads_contextUnsigned property 2
  have h₁ := (left_zero (encodeContextUnsigned property 2
    ++ (encodeOptionalUnsigned index 3 ++ (octets ++ rest)))).next
  rw [Nat.zero_add] at h₁
  have h₂ := h₁.next
  unfold PropertyResult.decode
  simp only [hread, ok_bind, readOptionalUnsigned_of_left h₁ (isContextTag_result hoctets),
    PropertyResultValue.decodeAt_of_left hvalue hoctets h₂]
  simp only [List.length_append, Nat.add_assoc]
  rfl

/-! ## §5. The results of many objects -/

theorem closesResults_eq (rest : Bytes) : closesResults rest = isClosingTag rest 1 := by
  unfold closesResults decodeClosingTag isClosingTag
  rcases decodeTag rest with e | ⟨tag, length, header⟩
  · rfl
  · cases tag with
    | closing actual =>
        by_cases hactual : actual = 1
        · subst hactual
          rfl
        · simp only [hactual, if_false]
          exact (beq_eq_false_iff_ne.mpr hactual).symm
    | _ => rfl

theorem item_result {result : PropertyResult} {octets : Bytes}
    (hvalue : result.value.Legible result.propertyIdentifier) (h : result.encode = .ok octets) :
    Item closesResults PropertyResult.decode (fun _ => True) result octets where
  goes more := by
    simp only [PropertyResult.encode, bind_eq_ok, pure_eq_ok] at h
    obtain ⟨value, _, rfl⟩ := h
    simp only [encodeContextEnumerated, List.append_assoc]
    rw [closesResults_eq]
    exact isClosingTag_contextUnsigned
  next _ := trivial
  reads more _ := PropertyResult.decode_encode hvalue h more

theorem item_accessResult {result : ReadAccessResult} {octets : Bytes}
    (hvalues : ∀ entry ∈ result.results, entry.value.Legible entry.propertyIdentifier)
    (h : result.encode = .ok octets) :
    Item List.isEmpty ReadAccessResult.decode (fun _ => True) result octets := by
  have hread : ∀ more, ReadAccessResult.decode (octets ++ more) = .ok (result, octets.length) := by
    intro more
    obtain ⟨object, results⟩ := result
    simp only [ReadAccessResult.encode, bind_eq_ok, pure_eq_ok] at h
    obtain ⟨front, hobject, encoded, hencoded, rfl⟩ := h
    have hclosed : closesResults (encodeClosingTag 1 ++ more) = true :=
      (closesResults_eq _).trans isClosingTag_closing
    have hlist : readAll closesResults PropertyResult.decode
        (encoded.flatten ++ (encodeClosingTag 1 ++ more))
          = .ok (results, encoded.flatten.length) :=
      readAll_items PropertyResult.decode_takes hclosed trivial hencoded
        (fun entry hentry _ hone => item_result (hvalues entry hentry) hone)
    obtain ⟨opened, hfront, hopen, hresults, hclose⟩ := readBracketed hobject hlist rfl
    unfold ReadAccessResult.decode
    simp only [hfront, ok_bind, hopen, hresults, hclose]
    rfl
  exact ⟨fun more => isEmpty_of_takes ReadAccessResult.decode_takes (hread more),
    fun _ => trivial, fun more _ => hread more⟩

/-- **An answer to ReadPropertyMultiple is decoded as it was encoded.** -/
theorem ReadPropertyMultipleResponse.decode_encode {response : ReadPropertyMultipleResponse}
    {encoded : Bytes}
    (hvalues : ∀ result ∈ response.readAccessResults, ∀ entry ∈ result.results,
      entry.value.Legible entry.propertyIdentifier)
    (h : response.encode = .ok encoded) :
    ReadPropertyMultipleResponse.decode encoded = .ok response := by
  obtain ⟨octets, hoctets, rfl⟩ := map_eq_ok.mp h
  have hlist : readAll List.isEmpty ReadAccessResult.decode (octets.flatten ++ [])
      = .ok (response.readAccessResults, octets.flatten.length) :=
    readAll_items ReadAccessResult.decode_takes rfl trivial hoctets
      (fun result hmem _ hone => item_accessResult (hvalues result hmem) hone)
  rw [List.append_nil] at hlist
  unfold ReadPropertyMultipleResponse.decode
  simp only [hlist, ok_bind]
  rfl

/-! ## §6. Collections -/

/-- An answer without the collections around its values. -/
def ReadPropertyResponse.flattened (response : ReadPropertyResponse) : ReadPropertyResponse :=
  { response with propertyValues := flattenAll response.propertyValues }

def PropertyResultValue.flattened : PropertyResultValue → PropertyResultValue
  | .value values => .value (flattenAll values)
  | .error errorClass errorCode => .error errorClass errorCode

def PropertyResult.flattened (result : PropertyResult) : PropertyResult :=
  { result with value := result.value.flattened }

def ReadAccessResult.flattened (result : ReadAccessResult) : ReadAccessResult :=
  { result with results := result.results.map PropertyResult.flattened }

def ReadPropertyMultipleResponse.flattened (response : ReadPropertyMultipleResponse) :
    ReadPropertyMultipleResponse where
  readAccessResults := response.readAccessResults.map ReadAccessResult.flattened

theorem ReadPropertyResponse.encode_flattened (response : ReadPropertyResponse) :
    response.flattened.encode = response.encode := by
  unfold ReadPropertyResponse.encode ReadPropertyResponse.flattened
  rw [encodeValues_flattenAll]

theorem PropertyResult.encode_flattened (result : PropertyResult) :
    result.flattened.encode = result.encode := by
  have hvalue : result.value.flattened.encode = result.value.encode := by
    cases result.value with
    | value values => simp only [PropertyResultValue.flattened, PropertyResultValue.encode,
        encodeValues_flattenAll]
    | error errorClass errorCode => rfl
  unfold PropertyResult.encode PropertyResult.flattened
  rw [hvalue]

/-- What is encoded one by one, and each as without its collections. -/
theorem mapM_flattened {α : Type} {encode : α → Except EncodingError Bytes} {flattened : α → α}
    (h : ∀ value, encode (flattened value) = encode value) (values : List α) :
    (values.map flattened).mapM encode = values.mapM encode := by
  rw [List.mapM_map]
  exact congrArg (fun f => values.mapM f) (funext h)

theorem ReadAccessResult.encode_flattened (result : ReadAccessResult) :
    result.flattened.encode = result.encode := by
  unfold ReadAccessResult.encode ReadAccessResult.flattened
  rw [mapM_flattened PropertyResult.encode_flattened]

theorem ReadPropertyMultipleResponse.encode_flattened (response : ReadPropertyMultipleResponse) :
    response.flattened.encode = response.encode := by
  unfold ReadPropertyMultipleResponse.encode ReadPropertyMultipleResponse.flattened
  rw [mapM_flattened ReadAccessResult.encode_flattened]

/-! ## §7. Strings longer than their tag can say -/

theorem decodeResultValue_short (data : Bytes) :
    Ensures (decodeResultValue data) (fun decoded => short decoded.1 = true) := by
  refine ensures_bind ?_
  rintro ⟨tag, length, header⟩
  cases tag with
  | application tag => exact decodePropertyValue_short data
  | closing tagNumber => exact ensures_fail _
  | opening tagNumber =>
      refine ensures_bind (fun _ => ensures_bind (fun _ => ensures_bind (fun _ => ?_)))
      exact ensures_bind (fun _ => ensures_ok rfl)
  | context tagNumber => exact ensures_bind (fun _ => ensures_ok rfl)

/-- **No string arrives longer than its tag can say.** -/
theorem ReadPropertyResponse.decode_short (data : Bytes) :
    Ensures (ReadPropertyResponse.decode data) (fun response =>
      elementOf response.propertyIdentifier = .any →
        ∀ value ∈ response.propertyValues, short value = true) := by
  refine ensures_bind (fun _ => ensures_bind ?_)
  rintro ⟨property, pos⟩
  refine ensures_bind (fun _ => ensures_bind (fun _ => ?_))
  refine Ensures.bind (P := fun decoded => elementOf ⟨property⟩ = .any →
    ∀ value ∈ decoded.1, short value = true) ?_ ?_
  · refine ensures_bind (fun _ => ensures_bind (fun encoded => ?_))
    refine Ensures.bind (P := fun values => elementOf ⟨property⟩ = .any →
      ∀ value ∈ values, short value = true) ?_ (fun _ h => ensures_ok h)
    intro values hvalues hany
    rw [decodeValuesFor_any hany] at hvalues
    obtain ⟨⟨_, total⟩, hread, rfl⟩ := map_eq_ok.mp hvalues
    exact ((readAll_meets_all decodeResultValue_takes decodeResultValue_short _).ensures _ hread).2
  · rintro ⟨values, next⟩ h
    exact ensures_bind (fun _ => ensures_ok h)

end BacnetRs.Service
