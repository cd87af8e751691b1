/-
  BacnetRs.Object.Arrays — arrays written whole.

  An element of an array is written by writing the array back whole.  Of the
  properties that take an array, some keep it as a list or a date range and
  never read as an array (`keptOtherwise`); the others read back the array
  that was written (`elementArrays`).

    * `HostedObject.array_taken` — what takes an array is one or the other.
    * `ObjectDatabase.array_written` — the array a write leaves is the array read.
    * `ObjectDatabase.array_frame` — and no write of anything else moves it.
-/
import BacnetRs.Object.Effects
import BacnetRs.Object.Indices

namespace BacnetRs.Object

open BacnetRs.Property

/-! ## §1. The three families -/

/-- A family that takes no array, but of the properties it keeps as lists. -/
structure Family.Scalar {σ α : Type} {F : Family σ α} (L : F.Laws)
    (lists : List PropertyIdentifier) : Prop where
  convert : ∀ {s commandable values x}, F.convert s commandable (.array values) ≠ .ok x
  written : ∀ {s property values s'}, L.Written s property (.array values) s' → property ∈ lists

theorem analogScalar : Family.Scalar analogLaws [] where
  convert := by
    intro s commandable values x h
    cases h
  written := by
    intro s property values s' h
    cases (h : AnalogWritten s property (.array values) s') with
    | common h => cases h
    | intrinsic halarm h => cases h

theorem binaryScalar : Family.Scalar binaryLaws [] where
  convert := by
    intro s commandable values x h
    cases h
  written := by
    intro s property values s' h
    cases (h : BinaryWritten s property (.array values) s') with
    | common h => cases h
    | alarmValue halarm hvalue => cases hvalue
    | intrinsic halarm h => cases h

theorem multistateScalar : Family.Scalar multistateLaws [.alarmValues] where
  convert := by
    intro s commandable values x h
    cases h
  written := by
    intro s property values s' h
    cases (h : MultistateWritten s property (.array values) s') with
    | common h => cases h
    | alarmValues hvalue => exact List.mem_singleton.mpr rfl
    | intrinsic halarm h => cases h

/-- A multi-state object lists its alarm values. -/
theorem MultistateState.alarmValues_not_array {s : MultistateState} {objectType : ObjectType}
    {values : List PropertyValue} :
    multistateFamily.readInput objectType s .alarmValues ≠ .ok (.array values) := by
  intro h
  have hread : s.sharedGet objectType .alarmValues = some (.ok (.array values)) :=
    getD_unknownProperty_eq_ok_iff.mp h
  have hcommon : commonGet (s.view objectType) .alarmValues = none :=
    commonGet_eq_none_iff.mpr (by decide)
  unfold sharedGet at hread
  rw [hcommon] at hread
  cases halarm : s.alarm with
  | none => simp [familyGet, halarm] at hread
  | some alarm => simp [familyGet, halarm] at hread

section Types

variable {σ α ω : Type} {F : Family σ α} [BacnetObject ω] [Described ω] {L : F.Laws}
  {lists : List PropertyIdentifier} {o o' : ω} {property : PropertyIdentifier}
  {values : List PropertyValue} {priority : Option UInt8}

theorem InputType.array_taken (T : InputType L ω) (scalar : Family.Scalar L lists)
    (h : BacnetObject.setPropertyWithPriority o property (.array values) priority = (o', .ok ())) :
    property ∈ lists := by
  obtain ⟨s', hwritten, _⟩ := T.set_eq_ok_iff.mp h
  cases hwritten with
  | reading hout hvalue => exact absurd hvalue scalar.convert
  | shared h => exact scalar.written h

theorem CommandedType.array_taken (T : CommandedType L ω) (scalar : Family.Scalar L lists)
    (h : BacnetObject.setPropertyWithPriority o property (.array values) priority = (o', .ok ())) :
    property ∈ lists := by
  obtain ⟨c', hwritten, _⟩ := T.set_eq_ok_iff.mp h
  cases hwritten with
  | command hcommandable hheld hvalue hrange hslots => exact absurd hvalue scalar.convert
  | straight hcommandable hheld hvalue => exact absurd hvalue scalar.convert
  | shared h => exact scalar.written h

end Types

/-! ## §2. Objects of any type -/

namespace ObjectClass

/-- The properties that read back the array that was written.  A schedule takes a value
of any datatype for the two it commands others with. -/
def elementArrays : ObjectClass → List PropertyIdentifier
  | schedule => [.presentValue, .scheduleDefault, .weeklySchedule, .exceptionSchedule]
  | notificationClass => [.priority]
  | _ => []

/-- The properties that take an array and keep it as something else. -/
def keptOtherwise : ObjectClass → List PropertyIdentifier
  | multiStateInput => [.alarmValues]
  | multiStateOutput => [.alarmValues]
  | multiStateValue => [.alarmValues]
  | schedule => [.effectivePeriod, .listOfObjectPropertyReferences]
  | calendar => [.dateList]
  | notificationClass => [.recipientList]
  | _ => []

/-- All of them are the standard's, and none is answered by the database itself. -/
theorem arrays_stored (c : ObjectClass) : ∀ property ∈ c.elementArrays ++ c.keptOtherwise,
    property ∉ ObjectDatabase.answeredProperties ∧ property.value < firstProprietary := by
  cases c <;> decide

/-- None is computed from another property. -/
theorem elementArrays_settled (c : ObjectClass) : ∀ property ∈ c.elementArrays,
    property ∉ [PropertyIdentifier.priorityArray, .statusFlags, .limitEnable,
      .timeDelayNormal] := by
  cases c <;> decide

end ObjectClass

namespace HostedObject

variable {o o' : HostedObject} {property : PropertyIdentifier} {value : PropertyValue}
  {values : List PropertyValue} {priority : Option UInt8}

theorem cls_of_set
    (h : BacnetObject.setPropertyWithPriority o property value priority = (o', .ok ())) :
    o'.cls = o.cls := by
  obtain ⟨state, _, rfl⟩ := Attempt.within_eq_ok_iff.mp h
  rfl

/-- **What takes an array reads it back, or keeps it as something else.** -/
theorem array_taken
    (h : BacnetObject.setPropertyWithPriority o property (.array values) priority = (o', .ok ())) :
    property ∈ o.cls.keptOtherwise
      ∨ (property ∈ o.cls.elementArrays
        ∧ BacnetObject.getProperty o' property = .ok (.array values)) := by
  obtain ⟨state', hset, rfl⟩ := Attempt.within_eq_ok_iff.mp h
  obtain ⟨cls, state⟩ := o
  cases cls with
  -- Of a point only the alarm values are an array, and they are kept as something else.
  | analogInput => exact .inl (analogInputType.array_taken analogScalar hset)
  | analogOutput => exact .inl (analogOutputType.array_taken analogScalar hset)
  | analogValue => exact .inl (analogValueType.array_taken analogScalar hset)
  | binaryInput => exact .inl (binaryInputType.array_taken binaryScalar hset)
  | binaryOutput => exact .inl (binaryOutputType.array_taken binaryScalar hset)
  | binaryValue => exact .inl (binaryValueType.array_taken binaryScalar hset)
  | multiStateInput => exact .inl (multiStateInputType.array_taken multistateScalar hset)
  | multiStateOutput => exact .inl (multiStateOutputType.array_taken multistateScalar hset)
  | multiStateValue => exact .inl (multiStateValueType.array_taken multistateScalar hset)
  | device => cases Device.setProperty_eq_ok_iff.mp hset
  -- A schedule keeps the arrays of its week and its exceptions element by element.
  | schedule =>
      cases Schedule.setProperty_eq_ok_iff.mp hset with
      | presentValue hout value => exact .inr ⟨by simp [ObjectClass.elementArrays], rfl⟩
      | scheduleDefault value => exact .inr ⟨by simp [ObjectClass.elementArrays], rfl⟩
      | effectivePeriod hperiod => exact .inl (by simp [ObjectClass.keptOtherwise])
      | weeklySchedule hweek =>
          refine .inr ⟨by simp [ObjectClass.elementArrays], ?_⟩
          rw [(Schedule.expectWeek_array_eq_ok_iff.mp hweek).1]
          rfl
      | exceptionSchedule hevents =>
          refine .inr ⟨by simp [ObjectClass.elementArrays], ?_⟩
          rw [(Schedule.expectEvents_array_eq_ok_iff.mp hevents).1]
          rfl
      | references hreferences => exact .inl (by simp [ObjectClass.keptOtherwise])
      | priorityForWriting hpriority => cases hpriority
  | calendar =>
      cases Calendar.setProperty_eq_ok_iff.mp hset with
      | dateList hentries => exact .inl (by simp [ObjectClass.keptOtherwise])
  | notificationClass =>
      cases NotificationClass.setProperty_eq_ok_iff.mp hset with
      | priority hpriority =>
          refine .inr ⟨by simp [ObjectClass.elementArrays], ?_⟩
          rw [NotificationClass.expectPriority_array_eq_ok_iff.mp hpriority]
          rfl
      | recipientList hrecipients => exact .inl (by simp [ObjectClass.keptOtherwise])
  | file => cases File.setProperty_eq_ok_iff.mp hset

/-- What is kept as something else does not read as an array. -/
theorem keptOtherwise_read (h : property ∈ o.cls.keptOtherwise) :
    BacnetObject.getProperty o property ≠ .ok (.array values) := by
  obtain ⟨cls, state⟩ := o
  cases cls with
  | multiStateInput =>
      cases List.mem_singleton.mp h
      show BacnetObject.getProperty state .alarmValues ≠ _
      rw [multiStateInputType.getProperty_eq, orDeviceType_of_ne (by simp)]
      exact MultistateState.alarmValues_not_array
  | multiStateOutput =>
      cases List.mem_singleton.mp h
      show BacnetObject.getProperty state .alarmValues ≠ _
      rw [multiStateOutputType.getProperty_eq, orDeviceType_of_ne (by simp),
        Commanded.get_eq_readInput (by simp)]
      exact MultistateState.alarmValues_not_array
  | multiStateValue =>
      cases List.mem_singleton.mp h
      show BacnetObject.getProperty state .alarmValues ≠ _
      rw [multiStateValueType.getProperty_eq, orDeviceType_of_ne (by simp),
        Commanded.get_eq_readInput (by simp)]
      exact MultistateState.alarmValues_not_array
  | schedule =>
      simp only [ObjectClass.keptOtherwise, List.mem_cons, List.not_mem_nil, or_false] at h
      intro hread
      rcases h with rfl | rfl
      · cases hread
      · cases hread
  | calendar =>
      cases List.mem_singleton.mp h
      intro hread
      cases hread
  | notificationClass =>
      cases List.mem_singleton.mp h
      intro hread
      cases hread
  | _ => exact absurd h List.not_mem_nil

/-- No write of another property moves what reads back its array. -/
theorem elementArrays_frame {q : PropertyIdentifier} (hq : q ∈ o.cls.elementArrays)
    (h : BacnetObject.setPropertyWithPriority o property value priority = (o', .ok ()))
    (hne : q ≠ property) : BacnetObject.getProperty o' q = BacnetObject.getProperty o q := by
  have hsettled := ObjectClass.elementArrays_settled o.cls q hq
  simp only [List.mem_cons, List.not_mem_nil, or_false, not_or] at hsettled
  obtain ⟨hslots, hstatus, hlimits, hdelay⟩ := hsettled
  apply (writeEffect h).frame q hne (fun _ => hslots)
  rintro (⟨hcomputed, _⟩ | ⟨hcomputed, _⟩ | ⟨hcomputed, _⟩)
  · exact hstatus hcomputed
  · exact hlimits hcomputed
  · exact hdelay hcomputed

end HostedObject

/-! ## §3. Through the database -/

namespace ObjectDatabase

variable {self database : ObjectDatabase} {identifier : ObjectIdentifier}
  {property : PropertyIdentifier} {value : PropertyValue} {values : List PropertyValue}
  {priority : Option UInt8}

/-- What a hosted object stores, where its type takes arrays. -/
theorem getProperty_of_arrays {object : HostedObject}
    (hobject : self.objects.lookup identifier = some object)
    (h : property ∈ object.cls.elementArrays ++ object.cls.keptOtherwise) :
    self.getProperty identifier property = BacnetObject.getProperty object property := by
  obtain ⟨hanswered, hstandard⟩ := object.cls.arrays_stored property h
  rw [getProperty_stored hanswered hstandard]
  unfold getStoredProperty
  rw [hobject]

/-- What the object hosted there takes as an array it reads back as one. -/
def ReadsBack (self : ObjectDatabase) (identifier : ObjectIdentifier)
    (property : PropertyIdentifier) : Prop :=
  ∀ object, self.objects.lookup identifier = some object → property ∉ object.cls.keptOtherwise

/-- What reads as an array is not kept as something else. -/
theorem readsBack_of_read (h : self.getProperty identifier property = .ok (.array values)) :
    self.ReadsBack identifier property := by
  intro object hobject hkept
  rw [getProperty_of_arrays hobject (List.mem_append_right _ hkept)] at h
  exact HostedObject.keptOtherwise_read hkept h

/-- No write changes which properties those are. -/
theorem ReadsBack.of_write {other : ObjectIdentifier} {q : PropertyIdentifier}
    (hreads : self.ReadsBack other q)
    (h : self.setPropertyWithPriority identifier property value priority = (database, .ok ())) :
    database.ReadsBack other q := by
  obtain ⟨object, object', hobject, hset, hobjects, _⟩ := setPropertyWithPriority_eq_ok h
  intro found hfound
  rw [hobjects] at hfound
  split at hfound
  · next heq =>
      subst heq
      rw [← Option.some.inj hfound, HostedObject.cls_of_set hset]
      exact hreads object hobject
  · exact hreads found hfound

/-- The object hosted there reads back the arrays written to the property. -/
def HoldsArray (self : ObjectDatabase) (identifier : ObjectIdentifier)
    (property : PropertyIdentifier) : Prop :=
  ∃ object, self.objects.lookup identifier = some object ∧ property ∈ object.cls.elementArrays

/-- **The array that a write leaves is the array read.** -/
theorem array_written (hreads : self.ReadsBack identifier property)
    (h : self.setPropertyWithPriority identifier property (.array values) priority
      = (database, .ok ())) :
    database.HoldsArray identifier property
      ∧ database.getProperty identifier property = .ok (.array values) := by
  obtain ⟨object, object', hobject, hset, hobjects, _⟩ := setPropertyWithPriority_eq_ok h
  have hfound : database.objects.lookup identifier = some object' := by
    rw [hobjects, if_pos rfl]
  rcases HostedObject.array_taken hset with hkept | ⟨helements, hread⟩
  · exact absurd hkept (hreads object hobject)
  · rw [← HostedObject.cls_of_set hset] at helements
    refine ⟨⟨object', hfound, helements⟩, ?_⟩
    rw [getProperty_of_arrays hfound (List.mem_append_left _ helements)]
    exact hread

/-- **No write of anything else moves it.** -/
theorem array_frame {other : ObjectIdentifier} {q : PropertyIdentifier}
    (hholds : self.HoldsArray other q)
    (h : self.setPropertyWithPriority identifier property value priority = (database, .ok ())) :
    database.HoldsArray other q
      ∧ (¬ (other = identifier ∧ q = property) →
          database.getProperty other q = self.getProperty other q) := by
  obtain ⟨object, object', hobject, hset, hobjects, _⟩ := setPropertyWithPriority_eq_ok h
  obtain ⟨held, hheld, helements⟩ := hholds
  by_cases heq : other = identifier
  · subst heq
    have hsame : held = object := Option.some.inj (hheld.symm.trans hobject)
    subst hsame
    have hfound : database.objects.lookup other = some object' := by
      rw [hobjects, if_pos rfl]
    have helements' : q ∈ object'.cls.elementArrays := by
      rw [HostedObject.cls_of_set hset]
      exact helements
    refine ⟨⟨object', hfound, helements'⟩, fun hne => ?_⟩
    rw [getProperty_of_arrays hfound (List.mem_append_left _ helements'),
      getProperty_of_arrays hheld (List.mem_append_left _ helements)]
    exact HostedObject.elementArrays_frame helements hset (fun hproperty => hne ⟨rfl, hproperty⟩)
  · have hfound : database.objects.lookup other = some held := by
      rw [hobjects, if_neg heq]
      exact hheld
    refine ⟨⟨held, hfound, helements⟩, fun _ => ?_⟩
    rw [getProperty_of_arrays hfound (List.mem_append_left _ helements),
      getProperty_of_arrays hheld (List.mem_append_left _ helements)]

end ObjectDatabase

end BacnetRs.Object
