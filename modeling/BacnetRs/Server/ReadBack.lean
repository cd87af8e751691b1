/-
  BacnetRs.Server.ReadBack — a client decodes what the server read.

  What `read_property_values` reads is of the datatype its property names, or
  says how long an array is, so the client's decoder knows how to read it.  The
  properties that read whatever was put there name no datatype: theirs are read
  back as long as they are primitive, which is what the table of datatypes takes
  them to be.

    * `legible_of_read`  — what is read can be read back.
    * `reads_back`       — by ReadProperty, by a result of ReadPropertyMultiple, and
                            by all of them together.
    * `constructed_misread` — what was put there and is not primitive.
-/
import BacnetRs.Server.Reading
import BacnetRs.Service.ResultCodec

namespace BacnetRs.Server

open BacnetRs.Encoding BacnetRs.Object BacnetRs.Property BacnetRs.Service BacnetRs.Cov Checked
  Octets

namespace ObjectService

variable {self : ObjectService} {object : ObjectIdentifier} {property : PropertyIdentifier}
  {index : Option UInt32} {value : PropertyValue} {values : List PropertyValue}

/-! ## §1. What is read is of the property's datatype -/

theorem suits_activeCovSubscriptions :
    suits .activeCovSubscriptions (.list self.activeCovSubscriptions) = true := by
  apply suits_list
  intro value hvalue
  obtain ⟨subscription, _, hdescribed⟩ := List.mem_filterMap.mp hvalue
  obtain ⟨mac, _, rfl⟩ := Option.map_eq_some_iff.mp hdescribed
  rfl

/-- **What is read whole is of its datatype**, unless it is what was put there. -/
theorem readWhole_suits (hfixed : ¬ self.database.ReadsAnything object property)
    (h : self.readWhole object property = .ok value) : suits property value = true := by
  unfold readWhole at h
  simp only at h
  split at h
  · next hlist =>
      cases h
      rw [hlist.1]
      exact suits_array_map (fun _ => rfl)
  · split at h
    · next hactive =>
        cases h
        rw [hactive.1]
        exact suits_activeCovSubscriptions
    · split at h
      · next hproperties =>
          obtain ⟨properties, _, hread⟩ := bind_eq_ok.mp h
          cases hread
          rw [hproperties]
          exact suits_array_map (fun _ => rfl)
      · exact ObjectDatabase.getProperty_suits hfixed h

theorem mem_flattenAll {element : PropertyValue} (hmem : value ∈ values)
    (helement : element ∈ flatten value) : element ∈ flattenAll values := by
  induction values with
  | nil => cases hmem
  | cons first rest ih =>
      show element ∈ flatten first ++ flattenAll rest
      rw [List.mem_append]
      rcases List.mem_cons.mp hmem with rfl | hrest
      · exact .inl helement
      · exact .inr (ih hrest)

theorem flattenAll_singleton (value : PropertyValue) : flattenAll [value] = flatten value :=
  List.append_nil (flatten value)

/-- An element of what suits does, and the length of it is a number. -/
theorem selectArrayValue_suits (h : suits property value = true)
    (hselect : selectArrayValue value index = .ok values) :
    (∀ element ∈ flattenAll values, (elementOf property).holds element = true)
      ∨ ∃ count, flattenAll values = [.unsigned count] := by
  have hall : ∀ element ∈ flatten value, (elementOf property).holds element = true :=
    List.all_eq_true.mp h
  unfold selectArrayValue at hselect
  split at hselect
  · cases hselect
    exact .inl hall
  · cases hselect
    exact .inl hall
  · split at hselect
    · cases hselect
      exact .inr ⟨_, rfl⟩
    · split at hselect
      · next helement =>
          cases hselect
          rw [flattenAll_singleton]
          exact .inl (fun element hflat =>
            hall element (mem_flattenAll (List.mem_of_getElem? helement) hflat))
      · cases hselect
  · cases hselect
  · cases hselect
    rw [flattenAll_singleton]
    exact .inl hall
  · cases hselect

/-! ## §2. What is read can be read back -/

/-- What was put there names no datatype. -/
theorem elementOf_readsAnything (h : self.database.ReadsAnything object property) :
    elementOf property = .any := by
  rcases h with hvendor | ⟨hcommands, _⟩
  · have hnone : datatype property = none := by
      unfold datatype
      split
      case h_17 => rfl
      all_goals exact absurd hvendor (by decide)
    unfold elementOf
    rw [hnone]
  · rcases Bool.or_eq_true_iff.mp hcommands with hpresent | hdefault
    · rw [eq_of_beq hpresent]
      rfl
    · rw [eq_of_beq hdefault]
      rfl

/-- Values of a property that a client can be told: their encodings carry them, and they are
primitive where the property reads what was put there. -/
structure Tellable (service : ObjectService) (object : ObjectIdentifier)
    (property : PropertyIdentifier) (values : List PropertyValue) : Prop where
  carries : ∀ value ∈ flattenAll values, Carries value
  primitive : service.database.ReadsAnything object property →
    ∀ value ∈ flattenAll values, Element.any.holds value = true

/-- **What is read can be read back.** -/
theorem legible_of_read (h : self.readPropertyValues object property index = .ok values)
    (htell : self.Tellable object property values) : Legible property (flattenAll values) := by
  obtain ⟨value, hvalue, hselect⟩ := bind_eq_ok.mp h
  refine ⟨?_, htell.carries⟩
  by_cases hfixed : self.database.ReadsAnything object property
  · rw [elementOf_readsAnything hfixed]
    exact .inl (htell.primitive hfixed)
  · exact selectArrayValue_suits (readWhole_suits hfixed hvalue) hselect

/-! ## §3. One property -/

theorem readProperty_reads_back (hobject : object.fits = true)
    (h : self.readPropertyValues object property index = .ok values)
    (hencodable : allEncodable values = true) (htell : self.Tellable object property values) :
    ∃ response encoded, self.readProperty ⟨object, property, index⟩ = .ok response
      ∧ response.encode = .ok encoded
      ∧ ReadPropertyResponse.decode encoded
        = .ok ⟨object, property, indexOf index, flattenAll values⟩ := by
  have hread : self.readProperty ⟨object, property, index⟩
      = .ok ⟨object, property, index, values⟩ := by
    unfold readProperty
    rw [h]
    rfl
  have hisOk : (ReadPropertyResponse.encode ⟨object, property, index, values⟩).isOk = true := by
    rw [ReadPropertyResponse.encode_isOk, hobject, hencodable]
    rfl
  obtain ⟨encoded, hencoded⟩ := isOk_iff.mp hisOk
  refine ⟨_, encoded, hread, hencoded, ?_⟩
  rw [← ReadPropertyResponse.encode_flattened] at hencoded
  exact ReadPropertyResponse.decode_encode (legible_of_read h htell) hencoded

/-! ## §4. Many -/

/-- A result tells its error, or values that a client can be told. -/
def Tells (self : ObjectService) (object : ObjectIdentifier) (result : PropertyResult) : Prop :=
  ∀ values, result.value = .value values →
    allEncodable values = true ∧ self.Tellable object result.propertyIdentifier values

theorem Tells.encodable {result : PropertyResult} (h : self.Tells object result) :
    allEncodable result.values = true := by
  unfold PropertyResult.values
  cases hvalue : result.value with
  | value values => exact (h values hvalue).1
  | error errorClass errorCode => rfl

/-- What a reference is answered with can be read back. -/
theorem legible_readReference {reference : PropertyReference}
    (h : self.Tells object (self.readReference object reference)) :
    (self.readReference object reference).flattened.value.Legible
      (self.readReference object reference).propertyIdentifier := by
  unfold readReference at h ⊢
  cases hread : self.readPropertyValues object reference.propertyIdentifier
      reference.propertyArrayIndex with
  | error error => trivial
  | ok values =>
      rw [hread] at h
      exact legible_of_read hread (h values rfl).2

theorem readReference_reads_back {reference : PropertyReference}
    (h : self.Tells object (self.readReference object reference)) :
    ∃ octets, (self.readReference object reference).encode = .ok octets
      ∧ Reads PropertyResult.decode octets (self.readReference object reference).flattened := by
  obtain ⟨octets, hencoded⟩ := isOk_iff.mp ((PropertyResult.encode_isOk _).trans h.encodable)
  refine ⟨octets, hencoded, ?_⟩
  rw [← PropertyResult.encode_flattened] at hencoded
  exact PropertyResult.decode_encode (legible_readReference h) hencoded

/-- A result is an error, or what one reference is answered with. -/
theorem legible_readSpecification {specification : ReadAccessSpecification}
    {entry : PropertyResult} (hmem : entry ∈ (self.readSpecification specification).results)
    (h : self.Tells specification.objectIdentifier entry) :
    entry.flattened.value.Legible entry.propertyIdentifier := by
  unfold readSpecification at hmem
  simp only at hmem
  split at hmem
  · obtain ⟨reference, _, rfl⟩ := List.mem_map.mp hmem
    exact legible_readReference h
  · obtain ⟨reference, _, rfl⟩ := List.mem_map.mp hmem
    trivial

theorem readPropertyMultiple_reads_back {request : ReadPropertyMultipleRequest}
    (hobjects : ∀ specification ∈ request.readAccessSpecifications,
      specification.objectIdentifier.fits = true)
    (h : ∀ result ∈ (self.readPropertyMultiple request).readAccessResults,
      ∀ entry ∈ result.results, self.Tells result.objectIdentifier entry) :
    ∃ encoded, (self.readPropertyMultiple request).encode = .ok encoded
      ∧ ReadPropertyMultipleResponse.decode encoded
        = .ok (self.readPropertyMultiple request).flattened := by
  have hspecifications : ∀ specification ∈ request.readAccessSpecifications,
      self.readSpecification specification
        ∈ (self.readPropertyMultiple request).readAccessResults :=
    fun specification hmem => List.mem_map_of_mem hmem
  have hisOk : (self.readPropertyMultiple request).encode.isOk = true := by
    rw [ReadPropertyMultipleResponse.encode_isOk, List.all_eq_true]
    intro result hresult
    obtain ⟨specification, hmem, rfl⟩ := List.mem_map.mp hresult
    refine Bool.and_eq_true_iff.mpr ⟨hobjects specification hmem, List.all_eq_true.mpr ?_⟩
    exact fun entry hentry => (h _ hresult entry hentry).encodable
  obtain ⟨encoded, hencoded⟩ := isOk_iff.mp hisOk
  refine ⟨encoded, hencoded, ?_⟩
  rw [← ReadPropertyMultipleResponse.encode_flattened] at hencoded
  refine ReadPropertyMultipleResponse.decode_encode ?_ hencoded
  intro result hresult entry hentry
  obtain ⟨original, horiginal, rfl⟩ := List.mem_map.mp hresult
  obtain ⟨specification, hmem, rfl⟩ := List.mem_map.mp horiginal
  obtain ⟨unflattened, hunflattened, rfl⟩ := List.mem_map.mp hentry
  exact legible_readSpecification hunflattened (h _ horiginal _ hunflattened)

/-- **A client decodes what the server read.**  Whatever is read, in whatever state, arrives as it
was read, without the collections around it: as an answer to ReadProperty, where the index of a
whole array is none, as a result among others, and with all of them.  An error arrives with its
class and code. -/
theorem reads_back (self : ObjectService) :
    (∀ object property index values, object.fits = true →
      self.readPropertyValues object property index = .ok values →
      allEncodable values = true → self.Tellable object property values →
      (∃ response encoded, self.readProperty ⟨object, property, index⟩ = .ok response
        ∧ response.encode = .ok encoded
        ∧ ReadPropertyResponse.decode encoded
          = .ok ⟨object, property, indexOf index, flattenAll values⟩)
      ∧ ∃ octets, (self.readReference object ⟨property, index⟩).encode = .ok octets
        ∧ ∀ rest, PropertyResult.decode (octets ++ rest)
          = .ok (⟨property, index, .value (flattenAll values)⟩, octets.length))
    ∧ (∀ object property index error,
      self.readPropertyValues object property index = .error error →
      ∃ octets, (self.readReference object ⟨property, index⟩).encode = .ok octets
        ∧ ∀ rest, PropertyResult.decode (octets ++ rest)
          = .ok (⟨property, index, .error (objectErrorCodes error).1 (objectErrorCodes error).2⟩,
            octets.length))
    ∧ ∀ request : ReadPropertyMultipleRequest,
      (∀ specification ∈ request.readAccessSpecifications,
        specification.objectIdentifier.fits = true) →
      (∀ result ∈ (self.readPropertyMultiple request).readAccessResults,
        ∀ entry ∈ result.results, self.Tells result.objectIdentifier entry) →
      ∃ encoded, (self.readPropertyMultiple request).encode = .ok encoded
        ∧ ReadPropertyMultipleResponse.decode encoded
          = .ok (self.readPropertyMultiple request).flattened := by
  refine ⟨?_, ?_, ?_⟩
  · intro object property index values hobject h hencodable htell
    refine ⟨readProperty_reads_back hobject h hencodable htell, ?_⟩
    have hreference : self.readReference object ⟨property, index⟩
        = ⟨property, index, .value values⟩ := by
      unfold readReference
      rw [h]
    have htells : self.Tells object (self.readReference object ⟨property, index⟩) := by
      rw [hreference]
      rintro _ ⟨rfl⟩
      exact ⟨hencodable, htell⟩
    obtain ⟨octets, hencoded, hreads⟩ := readReference_reads_back htells
    refine ⟨octets, hencoded, ?_⟩
    rw [hreference] at hreads
    exact hreads
  -- An error carries no values, so nothing is asked of it.
  · intro object property index error h
    have hreference : self.readReference object ⟨property, index⟩
        = errorResult ⟨property, index⟩ error := by
      unfold readReference
      rw [h]
    have htells : self.Tells object (self.readReference object ⟨property, index⟩) := by
      rw [hreference]
      rintro values h
      cases h
    obtain ⟨octets, hencoded, hreads⟩ := readReference_reads_back htells
    refine ⟨octets, hencoded, ?_⟩
    rw [hreference] at hreads
    exact hreads
  · intro request hobjects h
    exact readPropertyMultiple_reads_back hobjects h

/-- A device whose schedule commands `value` from midnight on, every day. -/
def commanding (value : PropertyValue) : ObjectService :=
  hosting ⟨.schedule,
    { Schedule.new 1 "Schedule" with weeklySchedule := .replicate 7 ⟨[⟨(0, 0, 0, 0), value⟩]⟩ }⟩

/-- The length of a Weekly_Schedule, which is no value of the datatype its property names; a
property that is not there; and both in one answer. -/
theorem reads_back_weeklySchedule :
    (∃ response encoded, (commanding .null).readProperty
        ⟨⟨.schedule, 1⟩, .weeklySchedule, some 0⟩ = .ok response
      ∧ response.encode = .ok encoded
      ∧ ReadPropertyResponse.decode encoded
        = .ok ⟨⟨.schedule, 1⟩, .weeklySchedule, some 0, [.unsigned 7]⟩)
    ∧ (∃ octets, ((commanding .null).readReference ⟨.schedule, 1⟩ ⟨.deadband, none⟩).encode
        = .ok octets
      ∧ ∀ rest, PropertyResult.decode (octets ++ rest)
        = .ok (⟨.deadband, none, .error 2 32⟩, octets.length))
    ∧ ∃ encoded, ((commanding .null).readPropertyMultiple
        ⟨[⟨⟨.schedule, 1⟩, [⟨.weeklySchedule, some 0⟩, ⟨.deadband, none⟩]⟩]⟩).encode = .ok encoded
      ∧ ReadPropertyMultipleResponse.decode encoded
        = .ok ⟨[⟨⟨.schedule, 1⟩, [⟨.weeklySchedule, some 0, .value [.unsigned 7]⟩,
          ⟨.deadband, none, .error 2 32⟩]⟩]⟩ := by
  have hlength : (commanding .null).Tellable ⟨.schedule, 1⟩ .weeklySchedule [.unsigned 7] := by
    constructor
    · exact List.forall_mem_singleton.mpr ⟨rfl, fun _ h => absurd h List.not_mem_nil⟩
    · exact fun _ => List.forall_mem_singleton.mpr rfl
  refine ⟨((reads_back (commanding .null)).1 ⟨.schedule, 1⟩ .weeklySchedule (some 0)
      [.unsigned 7] (by decide) rfl rfl hlength).1,
    (reads_back (commanding .null)).2.1 ⟨.schedule, 1⟩ .deadband none .unknownProperty rfl,
    (reads_back (commanding .null)).2.2
      ⟨[⟨⟨.schedule, 1⟩, [⟨.weeklySchedule, some 0⟩, ⟨.deadband, none⟩]⟩]⟩ (by decide) ?_⟩
  intro result hresult entry hentry values hvalues
  obtain rfl := List.mem_singleton.mp hresult
  have hresults : ((commanding .null).readSpecification
      ⟨⟨.schedule, 1⟩, [⟨.weeklySchedule, some 0⟩, ⟨.deadband, none⟩]⟩).results
        = [⟨.weeklySchedule, some 0, .value [.unsigned 7]⟩, ⟨.deadband, none, .error 2 32⟩] := rfl
  rw [hresults] at hentry
  rcases List.mem_cons.mp hentry with rfl | herror
  · cases hvalues
    exact ⟨rfl, hlength⟩
  · obtain rfl := List.mem_singleton.mp herror
    cases hvalues

/-! ## §5. What is not read back -/

/-- A read whose answer is encoded, and not decoded as it was read. -/
def Misread (self : ObjectService) (object : ObjectIdentifier) (property : PropertyIdentifier)
    (values : List PropertyValue) : Prop :=
  object.fits = true ∧ self.readPropertyValues object property none = .ok values
    ∧ allKnown values = true ∧ allEncodable values = true
    ∧ ∀ encoded, ReadPropertyResponse.encode ⟨object, property, none, values⟩ = .ok encoded →
      ReadPropertyResponse.decode encoded ≠ .ok ⟨object, property, none, flattenAll values⟩

/-- A device whose schedule commands `value` by default. -/
def defaulting (value : PropertyValue) : ObjectService :=
  hosting ⟨.schedule, (Schedule.new 1 "Schedule").withDefault value⟩

/-- An octet string longer than its tag can say is not read back. -/
theorem misread_octetString {octets : Bytes} (hlong : 2 ^ 32 ≤ octets.length) :
    (defaulting (.octetString octets)).Misread ⟨.schedule, 1⟩ .scheduleDefault
      [.octetString octets] := by
  refine ⟨by decide, rfl, rfl, rfl, fun encoded _ hread => ?_⟩
  have hshort : octetsFit octets = true :=
    ReadPropertyResponse.decode_short encoded _ hread rfl (.octetString octets) List.mem_cons_self
  exact Nat.not_lt.mpr hlong (of_decide_eq_true hshort)

/-- **What was put there and is no primitive, is not read back**: a time stamp as a
Schedule_Default, and one that is scheduled.  Nor is an octet string longer than its tag can
say. -/
theorem constructed_misread :
    (defaulting (.timestamp (.sequenceNumber 5))).Misread ⟨.schedule, 1⟩ .scheduleDefault
        [.timestamp (.sequenceNumber 5)]
      ∧ (commanding (.timestamp (.sequenceNumber 5))).Misread ⟨.schedule, 1⟩ .weeklySchedule
        (List.replicate 7 (.dailySchedule ⟨[⟨(0, 0, 0, 0), .timestamp (.sequenceNumber 5)⟩]⟩))
      ∧ (defaulting (.octetString (List.replicate (2 ^ 32) 0))).Misread ⟨.schedule, 1⟩
        .scheduleDefault [.octetString (List.replicate (2 ^ 32) 0)] := by
  refine ⟨⟨by decide, rfl, rfl, rfl, ?_⟩, ⟨by decide, rfl, rfl, rfl, ?_⟩, misread_octetString ?_⟩
  · intro encoded hencoded hread
    cases hencoded
    have hvalues := congrArg (fun decoded => decoded.okPart.map (fun response =>
      response.propertyValues.all Element.timestamp.holds)) hread
    exact absurd hvalues (by decide +kernel)
  · intro encoded hencoded hread
    cases hencoded
    have hvalues := congrArg (fun decoded => decoded.okPart.map (fun response =>
      response.propertyValues.all Element.dailySchedule.holds)) hread
    exact absurd hvalues (by decide +kernel)
  · rw [List.length_replicate]

end ObjectService

end BacnetRs.Server
