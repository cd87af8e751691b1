/-
  BacnetRs.Service.Truncation — a request cut short is not read as another.

  Of a request that ends too early a decoder reads what is there.  Each field
  but the optional ones needs its tag and its contents, and the value of a write
  the tag that closes it; so what is read is read as it is in the whole, and a
  cut is noticed unless it falls where an optional field or an access
  specification would begin.

    * `WritePropertyRequest.decode_cut`, `SubscriptionHeader.decode_cut`, …
                            — one request of each kind.
    * `requests_cutShort`   — the six together.
    * `writes_not_cutShort` — what is written, and read otherwise when it is cut.
-/
import BacnetRs.Encoding.Steadiness
import BacnetRs.Service.Nesting
import BacnetRs.Service.SubscriptionCodec

namespace BacnetRs.Service

open BacnetRs.Encoding BacnetRs.Object BacnetRs.Property Checked Octets

/-! ## §1. Values and priorities -/

/-- Where a bracket closes is not changed by what stands behind it. -/
theorem findConstructedValueEnd_steady (position : Nat) (outerTag : UInt8) :
    Steady (findConstructedValueEnd · position outerTag) := by
  intro front rest found h
  obtain ⟨octets, closing, behind, length, hleft, hoctets, hclosing, rfl⟩ :=
    findConstructedValueEnd_eq_ok_iff.mp h
  have hwhole := hleft.append rest
  simp only [List.append_assoc] at hwhole
  exact findConstructedValueEnd_eq_ok_iff.mpr
    ⟨octets, closing, behind ++ rest, length, hwhole, hoctets, hclosing, rfl⟩

theorem readEncodedAt_steady (consumed : Nat) (tag : UInt8) :
    Steady (readEncodedAt · consumed tag) := by
  refine (openAt_steady consumed tag).bind (fun start => ?_)
  refine (findConstructedValueEnd_steady start tag).bind (fun end_ => ?_)
  refine steady_range.bind (fun value => ?_)
  exact (closeAt_steady end_ tag).bind (fun closed => steady_const _)

section Priority

variable {data front rest : Bytes} {consumed next : Nat} {tag : UInt8} {priority : Option UInt8}

/-- A value was opened where it stands. -/
theorem hasTag_of_readEncodedAt {read : Bytes × Nat}
    (h : readEncodedAt data consumed tag = .ok read) : HasTag (data.drop consumed) := by
  obtain ⟨start, hstart, _⟩ := bind_eq_ok.mp h
  exact hasTag_of_openAt hstart

theorem readPriorityAt_eq_ok : readPriorityAt data consumed tag = .ok (priority, next)
    ↔ ∃ number, readOptionalAt (isContextTag · tag) (decodeContextUnsigned · tag) data consumed
        = .ok (number, next) ∧ priority = number.map UInt32.toUInt8
      ∧ ∀ value, number = some value → value.toNat < 2 ^ 8 := by
  unfold readPriorityAt
  simp only [bind_eq_ok, Prod.exists]
  constructor
  · rintro ⟨number, reached, hnumber, hread⟩
    cases number with
    | none =>
        cases hread
        exact ⟨none, hnumber, rfl, fun _ h => (by cases h)⟩
    | some value =>
        simp only at hread
        split at hread
        · next hbound =>
            cases hread
            refine ⟨some value, hnumber, rfl, fun found hfound => ?_⟩
            rw [← Option.some.inj hfound]
            exact hbound
        · cases hread
  · rintro ⟨number, hnumber, rfl, hbound⟩
    refine ⟨number, next, hnumber, ?_⟩
    cases number with
    | none => rfl
    | some value =>
        simp only
        rw [if_pos (hbound value rfl)]
        rfl

theorem readPriorityAt_before (h : readPriorityAt front consumed tag = .ok (priority, next))
    (hnext : HasTag (front.drop next)) (rest : Bytes) :
    readPriorityAt (front ++ rest) consumed tag = .ok (priority, next) := by
  obtain ⟨number, hnumber, hpriority, hbound⟩ := readPriorityAt_eq_ok.mp h
  exact readPriorityAt_eq_ok.mpr ⟨number,
    readOptionalAt_before (decodeContextUnsigned_steady tag) hnumber hnext rest, hpriority, hbound⟩

/-- A priority at the end of a request is lost with the end. -/
theorem readPriorityAt_cut {whole : Option UInt8} (hrest : rest ≠ [])
    (h : readPriorityAt front consumed tag = .ok (priority, next))
    (hwhole : readPriorityAt (front ++ rest) consumed tag = .ok (whole, (front ++ rest).length)) :
    priority = none ∧ whole ≠ none := by
  obtain ⟨number, hnumber, rfl, _⟩ := readPriorityAt_eq_ok.mp h
  obtain ⟨all, hall, rfl, _⟩ := readPriorityAt_eq_ok.mp hwhole
  obtain ⟨rfl, hsome⟩ := readOptionalAt_cut (decodeContextUnsigned_takes · tag)
    (decodeContextUnsigned_steady tag) hrest hnumber hall
  exact ⟨rfl, fun hnone => hsome (Option.map_eq_none_iff.mp hnone)⟩

end Priority

/-! ## §2. ReadProperty and WriteProperty -/

section Single

variable {front rest : Bytes}

theorem ReadPropertyRequest.decode_cut {request read : ReadPropertyRequest}
    (h : request.encode = .ok (front ++ rest)) (hrest : rest ≠ [])
    (hread : ReadPropertyRequest.decode front = .ok read) :
    read ≠ request ∧ read = { request with propertyArrayIndex := none } := by
  obtain ⟨p₁, p₂, hobject, hproperty, hleft⟩ := ReadPropertyRequest.fields h
  obtain ⟨object, ⟨property⟩, index⟩ := request
  have hpositive := List.length_pos_iff.mpr hrest
  have hend := hleft.length
  rw [List.length_append] at hend
  obtain ⟨⟨foundObject, _⟩, hfoundObject, hmore⟩ := bind_eq_ok.mp hread
  cases (decodeContextObjectId_steady 0).agrees hfoundObject hobject
  obtain ⟨⟨foundProperty, _⟩, hfoundProperty, hindex⟩ := bind_eq_ok.mp hmore
  cases (readAt_steady (decodeContextUnsigned_steady 1) p₁).agrees hfoundProperty hproperty
  simp only at hindex
  by_cases hthere : p₂ < front.length
  · -- An index that was read was read of the whole, up to its end.
    rw [if_pos hthere] at hindex
    obtain ⟨⟨found, next⟩, hfound, _⟩ := bind_eq_ok.mp hindex
    have hnext : next ≤ front.length :=
      ((readAt_meets (decodeContextUnsigned_takes · 2) (Nat.le_of_lt hthere)).ensures _ hfound).2
    have hwhole := readAt_steady (decodeContextUnsigned_steady 2) p₂ front rest _ hfound
    cases index with
    | none =>
        simp only [encodeOptionalUnsigned, List.length_nil] at hend
        omega
    | some index =>
        simp only [encodeOptionalUnsigned] at hleft hend
        rw [← List.append_nil (encodeContextUnsigned index 2)] at hleft
        cases hwhole.symm.trans (readUnsignedAt_of_left hleft)
        omega
  · -- Nothing left: an index the request had is gone.
    rw [if_neg hthere] at hindex
    cases hindex
    refine ⟨fun hsame => ?_, rfl⟩
    cases hsame
    have hwithin : p₂ ≤ front.length := by
      obtain ⟨hstart, _⟩ := readAt_eq_ok.mp hfoundProperty
      exact ((readAt_meets (decodeContextUnsigned_takes · 1) hstart).ensures _ hfoundProperty).2
    simp only [encodeOptionalUnsigned, List.length_nil] at hend
    omega

theorem WritePropertyRequest.decode_cut {request read : WritePropertyRequest}
    (hvalue : Balanced request.propertyValue) (h : request.encode = .ok (front ++ rest))
    (hrest : rest ≠ []) (hread : WritePropertyRequest.decode front = .ok read) :
    read ≠ request ∧ read = { request with priority := none } := by
  obtain ⟨p₁, p₂, p₃, p₄, hobject, hproperty, hindex, hwritten, hpriority⟩ :=
    WritePropertyRequest.fields hvalue h
  obtain ⟨⟨foundObject, _⟩, hfoundObject, hmore⟩ := bind_eq_ok.mp hread
  cases (decodeContextObjectId_steady 0).agrees hfoundObject hobject
  obtain ⟨⟨foundProperty, _⟩, hfoundProperty, hmore⟩ := bind_eq_ok.mp hmore
  cases (readAt_steady (decodeContextUnsigned_steady 1) p₁).agrees hfoundProperty hproperty
  obtain ⟨⟨foundIndex, _⟩, hfoundIndex, hmore⟩ := bind_eq_ok.mp hmore
  obtain ⟨⟨foundValue, _⟩, hfoundValue, hmore⟩ := bind_eq_ok.mp hmore
  -- The index is told by the tag that opens the value.
  have hsame := readOptionalAt_before (decodeContextUnsigned_steady 2) hfoundIndex
    (hasTag_of_readEncodedAt hfoundValue) rest
  cases hsame.symm.trans hindex
  -- The value, because the tag that closes it was found.
  cases (readEncodedAt_steady p₃ 3).agrees hfoundValue hwritten
  obtain ⟨⟨foundPriority, _⟩, hfoundPriority, hlast⟩ := bind_eq_ok.mp hmore
  obtain ⟨rfl, hsome⟩ := readPriorityAt_cut hrest hfoundPriority hpriority
  cases hlast
  exact ⟨fun hequal => hsome (congrArg WritePropertyRequest.priority hequal).symm, rfl⟩

end Single

/-! ## §3. Requests about many properties -/

section Lists

variable {data front rest : Bytes}

theorem hasTag_of_write {decoded : PropertyWrite × Nat}
    (h : PropertyWrite.decode data = .ok decoded) : HasTag data := by
  obtain ⟨property, hproperty, _⟩ := bind_eq_ok.mp h
  exact hasTag_of_contextUnsigned hproperty

theorem PropertyWrite.decode_before : SteadyBefore HasTag PropertyWrite.decode := by
  intro front rest write length h hnext
  obtain ⟨⟨property, p₁⟩, hproperty, hmore⟩ := bind_eq_ok.mp h
  obtain ⟨⟨index, p₂⟩, hindex, hmore⟩ := bind_eq_ok.mp hmore
  obtain ⟨⟨value, p₃⟩, hvalue, hmore⟩ := bind_eq_ok.mp hmore
  obtain ⟨⟨priority, p₄⟩, hpriority, hlast⟩ := bind_eq_ok.mp hmore
  cases hlast
  have hpropertyWhole := decodeContextUnsigned_steady 0 front rest _ hproperty
  have hvalueWhole := readEncodedAt_steady p₂ 2 front rest _ hvalue
  simp only at hpropertyWhole hvalueWhole
  unfold PropertyWrite.decode
  simp only [hpropertyWhole, ok_bind, hvalueWhole, readPriorityAt_before hpriority hnext rest,
    readOptionalAt_before (decodeContextUnsigned_steady 1) hindex (hasTag_of_readEncodedAt hvalue)
      rest]
  rfl

theorem hasTag_of_reference {decoded : PropertyReference × Nat}
    (h : PropertyReference.decode data = .ok decoded) : HasTag data := by
  obtain ⟨property, hproperty, _⟩ := bind_eq_ok.mp h
  exact hasTag_of_contextUnsigned hproperty

theorem PropertyReference.decode_before : SteadyBefore HasTag PropertyReference.decode := by
  intro front rest reference length h hnext
  obtain ⟨⟨property, p₁⟩, hproperty, hmore⟩ := bind_eq_ok.mp h
  obtain ⟨⟨index, p₂⟩, hindex, hlast⟩ := bind_eq_ok.mp hmore
  cases hlast
  have hpropertyWhole := decodeContextUnsigned_steady 0 front rest _ hproperty
  simp only at hpropertyWhole
  unfold PropertyReference.decode
  simp only [hpropertyWhole, ok_bind,
    readOptionalAt_before (decodeContextUnsigned_steady 1) hindex hnext rest]
  rfl

theorem WriteAccessSpecification.decode_steady : Steady WriteAccessSpecification.decode := by
  intro front rest read h
  obtain ⟨⟨object, p₁⟩, hobject, hmore⟩ := bind_eq_ok.mp h
  obtain ⟨p₂, hopen, hmore⟩ := bind_eq_ok.mp hmore
  obtain ⟨⟨writes, p₃⟩, hwrites, hmore⟩ := bind_eq_ok.mp hmore
  obtain ⟨p₄, hclose, hlast⟩ := bind_eq_ok.mp hmore
  obtain ⟨hobjectWhole, hopenWhole, hwritesWhole, hcloseWhole⟩ := readBracketed_append
    PropertyWrite.decode_takes hasTag_of_write PropertyWrite.decode_before hobject hopen hwrites
      hclose rest
  unfold WriteAccessSpecification.decode
  simp only [hobjectWhole, ok_bind, hopenWhole, hwritesWhole, hcloseWhole]
  exact hlast

theorem ReadAccessSpecification.decode_steady : Steady ReadAccessSpecification.decode := by
  intro front rest read h
  obtain ⟨⟨object, p₁⟩, hobject, hmore⟩ := bind_eq_ok.mp h
  obtain ⟨p₂, hopen, hmore⟩ := bind_eq_ok.mp hmore
  obtain ⟨⟨references, p₃⟩, hreferences, hmore⟩ := bind_eq_ok.mp hmore
  obtain ⟨p₄, hclose, hlast⟩ := bind_eq_ok.mp hmore
  obtain ⟨hobjectWhole, hopenWhole, hreferencesWhole, hcloseWhole⟩ := readBracketed_append
    PropertyReference.decode_takes hasTag_of_reference PropertyReference.decode_before hobject hopen
      hreferences hclose rest
  unfold ReadAccessSpecification.decode
  simp only [hobjectWhole, ok_bind, hopenWhole, hreferencesWhole, hcloseWhole]
  exact hlast

/-- **Whole specifications are lost**, and not all of them. -/
theorem WritePropertyMultipleRequest.decode_cut {request read : WritePropertyMultipleRequest}
    (hspecifications : ∀ specification ∈ request.writeAccessSpecifications,
      specification.listOfProperties ≠ []
        ∧ ∀ write ∈ specification.listOfProperties, Balanced write.value)
    (h : request.encode = .ok (front ++ rest)) (hrest : rest ≠ [])
    (hread : WritePropertyMultipleRequest.decode front = .ok read) :
    ∃ count, 0 < count ∧ count < request.writeAccessSpecifications.length
      ∧ read = ⟨request.writeAccessSpecifications.take count⟩ := by
  obtain ⟨octets, hoctets, hparts⟩ := map_eq_ok.mp h
  obtain ⟨⟨specifications, length⟩, hlist, hguarded⟩ := bind_eq_ok.mp hread
  obtain ⟨hsome, hlast⟩ := guard_eq_ok.mp hguarded
  cases hlast
  obtain ⟨count, hcount, rfl⟩ := readAll_cut WriteAccessSpecification.decode_takes
    WriteAccessSpecification.decode_steady hoctets
    (fun specification hmem _ hone more => (item_writeSpecification (hspecifications _ hmem).1
      (hspecifications _ hmem).2 hone).reads more trivial) hparts.symm hrest hlist
  refine ⟨count, Nat.pos_of_ne_zero ?_, hcount, rfl⟩
  rintro rfl
  exact hsome rfl

theorem ReadPropertyMultipleRequest.decode_cut {request read : ReadPropertyMultipleRequest}
    (hspecifications : ∀ specification ∈ request.readAccessSpecifications,
      specification.propertyReferences ≠ [])
    (h : request.encode = .ok (front ++ rest)) (hrest : rest ≠ [])
    (hread : ReadPropertyMultipleRequest.decode front = .ok read) :
    ∃ count, 0 < count ∧ count < request.readAccessSpecifications.length
      ∧ read = ⟨request.readAccessSpecifications.take count⟩ := by
  obtain ⟨octets, hoctets, hparts⟩ := map_eq_ok.mp h
  obtain ⟨⟨specifications, length⟩, hlist, hguarded⟩ := bind_eq_ok.mp hread
  obtain ⟨hsome, hlast⟩ := guard_eq_ok.mp hguarded
  cases hlast
  obtain ⟨count, hcount, rfl⟩ := readAll_cut ReadAccessSpecification.decode_takes
    ReadAccessSpecification.decode_steady hoctets
    (fun specification hmem _ hone more =>
      (item_readSpecification (hspecifications _ hmem) hone).reads more trivial) hparts.symm hrest
    hlist
  refine ⟨count, Nat.pos_of_ne_zero ?_, hcount, rfl⟩
  rintro rfl
  exact hsome rfl

end Lists

/-! ## §4. Subscriptions -/

section Subscriptions

variable {front rest : Bytes}

theorem SubscriptionHeader.decode_before : SteadyBefore HasTag SubscriptionHeader.decode := by
  intro front rest header length h hnext
  obtain ⟨⟨process, p₁⟩, hprocess, hmore⟩ := bind_eq_ok.mp h
  obtain ⟨⟨object, p₂⟩, hobject, hmore⟩ := bind_eq_ok.mp hmore
  obtain ⟨⟨confirmed, p₃⟩, hconfirmed, hmore⟩ := bind_eq_ok.mp hmore
  obtain ⟨⟨lifetime, p₄⟩, hlifetime, hlast⟩ := bind_eq_ok.mp hmore
  cases hlast
  have hprocessWhole := decodeContextUnsigned_steady 0 front rest _ hprocess
  have hobjectWhole := readAt_steady (decodeContextObjectId_steady 1) p₁ front rest _ hobject
  simp only at hprocessWhole hobjectWhole
  unfold SubscriptionHeader.decode
  simp only [hprocessWhole, ok_bind, hobjectWhole,
    readOptionalAt_before (decodeContextBoolean_steady 2) hconfirmed
      (hasTag_of_optional hlifetime hnext) rest,
    readOptionalAt_before (decodeContextUnsigned_steady 3) hlifetime hnext rest]
  rfl

/-- **The lifetime is lost with the end, and with it the choice of confirmed notifications** if the
cut falls before that. -/
theorem SubscriptionHeader.decode_cut {header read : SubscribeCovRequest} {length : Nat}
    (hwhole : SubscriptionHeader.decode (front ++ rest) = .ok (header, (front ++ rest).length))
    (hrest : rest ≠ []) (hread : SubscriptionHeader.decode front = .ok (read, length)) :
    read ≠ header ∧ (read = { header with lifetime := none }
      ∨ read = { header with lifetime := none, issueConfirmedNotifications := none }) := by
  obtain ⟨⟨process, p₁⟩, hprocess, hmore⟩ := bind_eq_ok.mp hwhole
  obtain ⟨⟨object, p₂⟩, hobject, hmore⟩ := bind_eq_ok.mp hmore
  obtain ⟨⟨confirmed, p₃⟩, hconfirmed, hmore⟩ := bind_eq_ok.mp hmore
  obtain ⟨⟨lifetime, p₄⟩, hlifetime, hlast⟩ := bind_eq_ok.mp hmore
  obtain ⟨⟨foundProcess, _⟩, hfoundProcess, hmore⟩ := bind_eq_ok.mp hread
  cases (decodeContextUnsigned_steady 0).agrees hfoundProcess hprocess
  obtain ⟨⟨foundObject, _⟩, hfoundObject, hmore⟩ := bind_eq_ok.mp hmore
  cases (readAt_steady (decodeContextObjectId_steady 1) p₁).agrees hfoundObject hobject
  obtain ⟨⟨foundConfirmed, q₃⟩, hfoundConfirmed, hmore⟩ := bind_eq_ok.mp hmore
  obtain ⟨⟨foundLifetime, q₄⟩, hfoundLifetime, hfound⟩ := bind_eq_ok.mp hmore
  cases hfound
  cases hlast
  -- A choice that is read as it is in the whole leaves the lifetime to be lost.
  have hkept : readOptionalAt (isContextTag · 2) (decodeContextBoolean · 2) (front ++ rest) p₂
      = .ok (foundConfirmed, q₃) → foundConfirmed = confirmed ∧ foundLifetime = none
        ∧ lifetime ≠ none := by
    intro hsame
    cases hsame.symm.trans hconfirmed
    exact ⟨rfl, readOptionalAt_cut (decodeContextUnsigned_takes · 3)
      (decodeContextUnsigned_steady 3) hrest hfoundLifetime hlifetime⟩
  rcases readOptionalAt_append (decodeContextBoolean_steady 2) hfoundConfirmed rest with
    hsame | ⟨rfl, rfl⟩
  · obtain ⟨rfl, rfl, hsome⟩ := hkept hsame
    exact ⟨fun hequal => hsome (congrArg SubscribeCovRequest.lifetime hequal).symm, .inl rfl⟩
  · obtain ⟨hwithin, ⟨hpresent, _⟩ | ⟨_, rfl, _⟩⟩ := readOptionalAt_eq_ok.mp hfoundLifetime
    · -- The tag of the lifetime shows that the choice was left out.
      obtain ⟨rfl, rfl, hsome⟩ := hkept (readOptionalAt_before (decodeContextBoolean_steady 2)
        hfoundConfirmed (hasTag_of_isContextTag hpresent) rest)
      exact ⟨fun hequal => hsome (congrArg SubscribeCovRequest.lifetime hequal).symm, .inl rfl⟩
    · -- Neither was read.  A header with neither ends where the cut is, so nothing was cut off.
      refine ⟨fun hequal => ?_, .inr rfl⟩
      cases hequal
      have hpositive := List.length_pos_iff.mpr hrest
      have hafter := readOptionalAt_none hconfirmed
      have hend := readOptionalAt_none hlifetime
      rw [List.length_append] at hend
      omega

theorem SubscribeCovRequest.decode_cut {request read : SubscribeCovRequest}
    (h : request.encode = .ok (front ++ rest)) (hrest : rest ≠ [])
    (hread : SubscribeCovRequest.decode front = .ok read) :
    read ≠ request ∧ (read = { request with lifetime := none }
      ∨ read = { request with lifetime := none, issueConfirmedNotifications := none }) := by
  have hwhole : SubscriptionHeader.decode (front ++ rest ++ [])
      = .ok (request, (front ++ rest).length) := SubscriptionHeader.decode_encode h rfl rfl
  rw [List.append_nil] at hwhole
  obtain ⟨⟨header, length⟩, hheader, hsame⟩ := bind_eq_ok.mp hread
  cases hsame
  exact SubscriptionHeader.decode_cut hwhole hrest hheader

/-- An increment at the end of a request is lost with the end. -/
theorem readIncrementAt_cut {offset : Nat} {increment read : Option F32} (hrest : rest ≠ [])
    (hwithin : offset ≤ front.length)
    (hleft : Left (front ++ rest) offset (encodeOptionalReal increment 5))
    (hread : readIncrementAt front offset = .ok read) : read = none ∧ increment ≠ none := by
  have hpositive := List.length_pos_iff.mpr hrest
  have hend := hleft.length
  rw [List.length_append] at hend
  unfold readIncrementAt at hread
  by_cases hthere : offset < front.length
  · -- What was read of it was read of the whole, up to its end.
    rw [if_pos hthere] at hread
    obtain ⟨left, hdrop, hmore⟩ := bind_eq_ok.mp hread
    obtain ⟨⟨tag, length, tagLength⟩, htag, hguarded⟩ := bind_eq_ok.mp hmore
    obtain ⟨_, hguarded⟩ := guard_eq_ok.mp hguarded
    obtain ⟨hlong, _⟩ := guard_eq_ok.mp hguarded
    obtain ⟨_, rfl⟩ := dropFrom_eq_ok.mp hdrop
    have hwhole := decodeContextTag_steady _ rest _ (ofExcept_eq_ok.mp htag)
    rw [← List.drop_append_of_le_length hwithin, hleft.2] at hwhole
    cases increment with
    | none => cases hwhole
    | some increment =>
        simp only [encodeOptionalReal, encodeContextReal, List.length_append, length_beOctets]
          at hend
        have hexpected := decodeContextTag_append 5 (show 4 < 2 ^ 32 by decide)
          (beOctets 4 increment.bits.toNat)
        cases hwhole.symm.trans hexpected
        omega
  · rw [if_neg hthere] at hread
    cases hread
    refine ⟨rfl, ?_⟩
    rintro rfl
    simp only [encodeOptionalReal, List.length_nil] at hend
    omega

theorem SubscribeCovPropertyRequest.decode_cut {request read : SubscribeCovPropertyRequest}
    (h : request.encode = .ok (front ++ rest)) (hrest : rest ≠ [])
    (hread : SubscribeCovPropertyRequest.decode front = .ok read) :
    read ≠ request ∧ read = { request with covIncrement := none } := by
  obtain ⟨p₁, p₂, p₃, p₄, hheader, hopen, hproperty, hclose, hleft⟩ :=
    SubscribeCovPropertyRequest.fields h
  obtain ⟨⟨foundHeader, q₁⟩, hfoundHeader, hmore⟩ := bind_eq_ok.mp hread
  obtain ⟨q₂, hfoundOpen, hmore⟩ := bind_eq_ok.mp hmore
  -- The fields left out of the header are told by the tag that opens the property.
  cases (SubscriptionHeader.decode_before front rest _ _ hfoundHeader
    (hasTag_of_openAt hfoundOpen)).symm.trans hheader
  cases (openAt_steady p₁ 4).agrees hfoundOpen hopen
  obtain ⟨⟨foundProperty, q₃⟩, hfoundProperty, hmore⟩ := bind_eq_ok.mp hmore
  obtain ⟨q₄, hfoundClose, hmore⟩ := bind_eq_ok.mp hmore
  cases (readAt_before PropertyReference.decode_before hfoundProperty
    (hasTag_of_closeAt hfoundClose) rest).symm.trans hproperty
  cases (closeAt_steady p₃ 4).agrees hfoundClose hclose
  obtain ⟨foundIncrement, hfoundIncrement, hlast⟩ := bind_eq_ok.mp hmore
  obtain ⟨rfl, hsome⟩ := readIncrementAt_cut hrest (closeAt_within hfoundClose) hleft
    hfoundIncrement
  cases hlast
  exact ⟨fun hequal => hsome (congrArg SubscribeCovPropertyRequest.covIncrement hequal).symm, rfl⟩

end Subscriptions

/-! ## §5. Every request -/

/-- The octets of `request` up to any place before their end are refused, or read as another
request of which `remains` holds. -/
def CutShort {α : Type} (encode : α → Except EncodingError Bytes) (decode : Bytes → Decoded α)
    (request : α) (remains : α → Prop) : Prop :=
  ∀ encoded front rest, encode request = .ok encoded → encoded = front ++ rest → rest ≠ [] →
    (∃ error, decode front = .error (.error error))
      ∨ ∃ read, decode front = .ok read ∧ read ≠ request ∧ remains read

/-- What is read satisfies `remains`, and nothing panics. -/
theorem cutShort_of {α : Type} {encode : α → Except EncodingError Bytes}
    {decode : Bytes → Decoded α} {request : α} {P remains : α → Prop}
    (hmeets : ∀ data, Meets (decode data) P)
    (h : ∀ front rest read, encode request = .ok (front ++ rest) → rest ≠ [] →
      decode front = .ok read → read ≠ request ∧ remains read) :
    CutShort encode decode request remains := by
  rintro encoded front rest hencoded rfl hrest
  rcases (hmeets front).cases with ⟨read, hread, _⟩ | hrefused
  · exact .inr ⟨read, hread, h front rest read hencoded hrest hread⟩
  · exact .inl hrefused

/-- **A request cut short is refused, or read without what was cut off**: the last optional fields,
or the last access specifications, each as a whole.  All else is as it was.  What is written is
`Written`, and the lists of the specifications are not empty. -/
theorem requests_cutShort :
    (∀ request, CutShort ReadPropertyRequest.encode ReadPropertyRequest.decode request
      (fun read => read = { request with propertyArrayIndex := none }))
    ∧ (∀ request : WritePropertyRequest, Written request.propertyValue →
      CutShort WritePropertyRequest.encode WritePropertyRequest.decode request
        (fun read => read = { request with priority := none }))
    ∧ (∀ request : WritePropertyMultipleRequest,
      (∀ specification ∈ request.writeAccessSpecifications, specification.listOfProperties ≠ []
        ∧ ∀ write ∈ specification.listOfProperties, Written write.value) →
      CutShort WritePropertyMultipleRequest.encode WritePropertyMultipleRequest.decode request
        (fun read => ∃ count, 0 < count ∧ count < request.writeAccessSpecifications.length
          ∧ read = ⟨request.writeAccessSpecifications.take count⟩))
    ∧ (∀ request : ReadPropertyMultipleRequest,
      (∀ specification ∈ request.readAccessSpecifications, specification.propertyReferences ≠ []) →
      CutShort ReadPropertyMultipleRequest.encode ReadPropertyMultipleRequest.decode request
        (fun read => ∃ count, 0 < count ∧ count < request.readAccessSpecifications.length
          ∧ read = ⟨request.readAccessSpecifications.take count⟩))
    ∧ (∀ request, CutShort SubscribeCovRequest.encode SubscribeCovRequest.decode request
      (fun read => read = { request with lifetime := none }
        ∨ read = { request with lifetime := none, issueConfirmedNotifications := none }))
    ∧ ∀ request, CutShort SubscribeCovPropertyRequest.encode
      SubscribeCovPropertyRequest.decode request
      (fun read => read = { request with covIncrement := none }) := by
  refine ⟨fun request => ?_, fun request hwritten => ?_, fun request hspecifications => ?_,
    fun request hspecifications => ?_, fun request => ?_, fun request => ?_⟩
  · exact cutShort_of ReadPropertyRequest.decode_meets
      (fun _ _ _ h hrest hread => ReadPropertyRequest.decode_cut h hrest hread)
  · exact cutShort_of WritePropertyRequest.decode_meets
      (fun _ _ _ h hrest hread => WritePropertyRequest.decode_cut hwritten.balanced h hrest hread)
  · refine cutShort_of WritePropertyMultipleRequest.decode_meets (fun _ _ read h hrest hread => ?_)
    obtain ⟨count, hpositive, hcount, rfl⟩ := WritePropertyMultipleRequest.decode_cut
      (fun specification hmem => ⟨(hspecifications specification hmem).1, fun write hwrite =>
        ((hspecifications specification hmem).2 write hwrite).balanced⟩) h hrest hread
    -- A list cut short is not the request's own list.
    refine ⟨fun hsame => ?_, count, hpositive, hcount, rfl⟩
    have hlength := congrArg (fun request => request.writeAccessSpecifications.length) hsame
    simp only [List.length_take] at hlength
    omega
  · refine cutShort_of ReadPropertyMultipleRequest.decode_meets (fun _ _ read h hrest hread => ?_)
    obtain ⟨count, hpositive, hcount, rfl⟩ :=
      ReadPropertyMultipleRequest.decode_cut hspecifications h hrest hread
    refine ⟨fun hsame => ?_, count, hpositive, hcount, rfl⟩
    have hlength := congrArg (fun request => request.readAccessSpecifications.length) hsame
    simp only [List.length_take] at hlength
    omega
  -- The optional fields end each of the subscriptions.
  · exact cutShort_of SubscribeCovRequest.decode_meets
      (fun _ _ _ h hrest hread => SubscribeCovRequest.decode_cut h hrest hread)
  · exact cutShort_of SubscribeCovPropertyRequest.decode_meets
      (fun _ _ _ h hrest hread => SubscribeCovPropertyRequest.decode_cut h hrest hread)

/-- Two Present_Values written in one request, of which a cut may leave the first. -/
theorem requests_cutShort_twoWrites :
    CutShort WritePropertyMultipleRequest.encode WritePropertyMultipleRequest.decode
      ⟨[⟨⟨.binaryOutput, 1⟩, [⟨.presentValue, none, [0x91, 1], some 8⟩]⟩,
        ⟨⟨.binaryOutput, 2⟩, [⟨.presentValue, none, [0x91, 0], none⟩]⟩]⟩
      (fun read => ∃ count, 0 < count ∧ count < 2
        ∧ read = ⟨[⟨⟨.binaryOutput, 1⟩, [⟨.presentValue, none, [0x91, 1], some 8⟩]⟩,
          ⟨⟨.binaryOutput, 2⟩, [⟨.presentValue, none, [0x91, 0], none⟩]⟩].take count⟩) := by
  have hwritten : ∀ number : UInt32, Written (encodeEnumerated number) := fun number =>
    ⟨[.enumerated number], encodeValues_singleton _, rfl, rfl⟩
  apply requests_cutShort.2.2.1
  intro specification hspecification
  rcases List.mem_pair.mp hspecification with rfl | rfl
  · refine ⟨List.cons_ne_nil _ _, fun write hwrite => ?_⟩
    obtain rfl := List.mem_singleton.mp hwrite
    exact hwritten 1
  · refine ⟨List.cons_ne_nil _ _, fun write hwrite => ?_⟩
    obtain rfl := List.mem_singleton.mp hwrite
    exact hwritten 0

/-! ## §6. What is read otherwise -/

/-- The octets of `request` up to some place before their end are read as a write of another
value. -/
def Misread (request : WritePropertyRequest) : Prop :=
  ∃ encoded front rest read, request.encode = .ok encoded ∧ encoded = front ++ rest ∧ rest ≠ []
    ∧ WritePropertyRequest.decode front = .ok read ∧ read.propertyValue ≠ request.propertyValue

/-- **A value that is not Unknown may hold octets nobody knows**, and an octet string be longer than
its tag can say: a cut of either write leaves another value. -/
theorem writes_not_cutShort :
    (∃ values encoded, encodeValues values = .ok encoded
      ∧ (∀ value ∈ values, ∀ raw, value ≠ .unknown raw) ∧ allMeasured values = true
      ∧ Misread (writeOf encoded))
    ∧ ∃ values encoded, encodeValues values = .ok encoded ∧ allKnown values = true
      ∧ Misread (writeOf encoded) := by
  constructor
  · refine ⟨[.array [.unknown [0x3F]]], [0x3F], rfl, ?_, rfl, ?_⟩
    · intro value hvalue raw
      obtain rfl := List.mem_singleton.mp hvalue
      intro h
      cases h
    · have hread : WritePropertyRequest.decode
          [0x0C, 0x00, 0x80, 0x00, 0x01, 0x19, 0x55, 0x3E, 0x3F] = .ok (writeOf []) := by rfl
      exact ⟨_, [0x0C, 0x00, 0x80, 0x00, 0x01, 0x19, 0x55, 0x3E, 0x3F], [0x3F], _, rfl, rfl,
        List.cons_ne_nil _ _, hread, (List.cons_ne_nil _ _).symm⟩
  · -- Cut before the tag that closes the value; the string's own first octet closes it.
    refine ⟨[.octetString closingOctets], _, encodeValues_singleton _, rfl, ?_⟩
    obtain ⟨front, hencoded, hread⟩ := writeOf_wrapped length_closingOctets (fun _ => rfl)
    have hcut := hread []
    rw [List.append_nil] at hcut
    exact ⟨_, front ++ encodeOctetString closingOctets, encodeClosingTag 3, _, hencoded,
      (List.append_assoc _ _ _).symm, List.cons_ne_nil _ _, hcut, tag_ne_closingOctets⟩

end BacnetRs.Service
