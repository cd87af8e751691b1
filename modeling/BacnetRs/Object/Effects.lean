/-
  BacnetRs.Object.Effects — what every write leaves alone.

  The laws of the trait frame a write without a priority, of an object that is
  not commanded.  This file has what holds of every write that succeeds, of
  any object and at any priority:

    * `WriteEffect` — the other properties read as before, but for what is
                      computed from the one written, and for Priority_Array
                      after a command; which transitions await an
                      acknowledgement, and when each occurred, is no write's to
                      change.
    * `HostedObject.writeEffect` — so it is of every write.
    * `HostedObject.write_name`  — a write of Object_Name is of a string, and the
                      object then answers to it; no other write renames.
-/
import BacnetRs.Object.Hosted

namespace BacnetRs.Object

open BacnetRs.Property

/-! ## §1. The three families -/

/-- The transition bookkeeping: what the event algorithm maintains, not clients. -/
def IntrinsicReporting.bookkeeping (self : IntrinsicReporting) :
    EventTransitionBits × Vector TimestampValue 3 :=
  (self.ackedTransitions, self.eventTimeStamps)

theorem IntrinsicWritten.bookkeeping_eq {r r' : IntrinsicReporting} {property : PropertyIdentifier}
    {value : PropertyValue} (h : IntrinsicWritten r property value r') :
    r'.bookkeeping = r.bookkeeping := by
  cases h <;> rfl

theorem IntrinsicWritten.ne_objectName {r r' : IntrinsicReporting} {property : PropertyIdentifier}
    {value : PropertyValue} (h : IntrinsicWritten r property value r') :
    property ≠ .objectName := by
  cases h <;> simp

theorem CommonWritten.string_of_objectName {s s' : CommonState} {value : PropertyValue}
    (h : CommonWritten s .objectName value s') : ∃ name, value = .characterString name := by
  cases h with
  | objectName name => exact ⟨name, rfl⟩

/-- What a family's setter leaves alone, beyond what its laws say. -/
structure Family.Quiet {σ α : Type} {F : Family σ α} (L : F.Laws) : Prop where
  name : ∀ {s value s'}, L.Written s .objectName value s' →
    ∃ name, value = .characterString name
  bookkeeping : ∀ {s property value s'}, L.Written s property value s' →
    (L.alarm s').map IntrinsicReporting.bookkeeping
      = (L.alarm s).map IntrinsicReporting.bookkeeping
  setPresentValue : ∀ {s x}, L.alarm (F.setPresentValue s x) = L.alarm s

theorem analogQuiet : Family.Quiet analogLaws where
  name := by
    intro s value s' h
    cases (h : AnalogWritten s .objectName value s') with
    | common h => exact h.string_of_objectName
    | intrinsic halarm h => exact absurd rfl h.ne_objectName
  bookkeeping := by
    intro s property value s' h
    show s'.alarm.map _ = s.alarm.map _
    cases (h : AnalogWritten s property value s') with
    | intrinsic halarm h =>
        rw [halarm]
        exact congrArg some h.bookkeeping_eq
    | _ => rfl
  setPresentValue := rfl

theorem binaryQuiet : Family.Quiet binaryLaws where
  name := by
    intro s value s' h
    cases (h : BinaryWritten s .objectName value s') with
    | common h => exact h.string_of_objectName
    | intrinsic halarm h => exact absurd rfl h.ne_objectName
  bookkeeping := by
    intro s property value s' h
    show s'.alarm.map _ = s.alarm.map _
    cases (h : BinaryWritten s property value s') with
    | intrinsic halarm h =>
        rw [halarm]
        exact congrArg some h.bookkeeping_eq
    | _ => rfl
  setPresentValue := rfl

theorem multistateQuiet : Family.Quiet multistateLaws where
  name := by
    intro s value s' h
    cases (h : MultistateWritten s .objectName value s') with
    | common h => exact h.string_of_objectName
    | intrinsic halarm h => exact absurd rfl h.ne_objectName
  bookkeeping := by
    intro s property value s' h
    show s'.alarm.map _ = s.alarm.map _
    cases (h : MultistateWritten s property value s') with
    | intrinsic halarm h =>
        rw [halarm]
        exact congrArg some h.bookkeeping_eq
    | _ => rfl
  setPresentValue := rfl

/-! ## §2. The types of a family -/

/-- What holds of every write of an object that succeeds. -/
structure WriteEffect {ω : Type} [BacnetObject ω] (o : ω) (property : PropertyIdentifier)
    (value : PropertyValue) (o' : ω) : Prop where
  frame : ∀ q, q ≠ property → (property = .presentValue → q ≠ .priorityArray) →
    ¬ ComputedFrom (BacnetObject.intrinsic o) q property →
    BacnetObject.getProperty o' q = BacnetObject.getProperty o q
  name : property = .objectName → ∃ name, value = .characterString name
    ∧ BacnetObject.getProperty o' .objectName = .ok (.characterString name)
  bookkeeping : (BacnetObject.intrinsic o').map IntrinsicReporting.bookkeeping
    = (BacnetObject.intrinsic o).map IntrinsicReporting.bookkeeping

section Types

variable {σ α ω : Type} {F : Family σ α} [BacnetObject ω] [Described ω] {L : F.Laws}
  {o o' : ω} {property : PropertyIdentifier} {value : PropertyValue} {priority : Option UInt8}

/-- A string is a value of Object_Name's own datatype, and is kept as it is. -/
theorem ownDatatype_name (name : String) :
    OwnDatatype .objectName (.characterString name)
      ∧ asStored .objectName (.characterString name) = .characterString name := by
  refine ⟨⟨by simp, ?_, ?_, ?_, ?_, ?_⟩, rfl⟩
  all_goals intro h
  all_goals exact absurd h (by decide)

theorem Family.written_name (quiet : Family.Quiet L) {s s' : σ} {objectType : ObjectType}
    (hdeclared : ¬ L.Undeclared s .objectName) (h : L.Written s .objectName value s') :
    ∃ name, value = .characterString name
      ∧ F.readInput objectType s' .objectName = .ok (.characterString name) := by
  obtain ⟨name, rfl⟩ := quiet.name h
  obtain ⟨hown, hstored⟩ := ownDatatype_name name
  refine ⟨name, rfl, getD_unknownProperty_eq_ok_iff.mpr ?_⟩
  rw [L.written_readBack h hdeclared hown, hstored]

/-- Only Alarm_Values is written undeclared. -/
theorem FactsOf.name_declared {s : σ} (facts : FactsOf L o s) : ¬ L.Undeclared s .objectName := by
  intro h
  exact absurd (facts.undeclared _ h).1 (by decide)

theorem InputType.writeEffect (T : InputType L ω) (quiet : Family.Quiet L)
    (h : BacnetObject.setPropertyWithPriority o property value priority = (o', .ok ())) :
    WriteEffect o property value o' := by
  obtain ⟨s', hwritten, rfl⟩ := T.set_eq_ok_iff.mp h
  constructor
  · intro q hq _ hcomputed
    rw [T.getProperty_eq, T.getProperty_eq, T.core_put, T.deviceType_put]
    rw [← (T.facts o).alarm] at hcomputed
    rw [hwritten.frame hq hcomputed]
  · rintro rfl
    rw [T.getProperty_eq, orDeviceType_of_ne (by simp), T.core_put]
    cases hwritten with
    | shared hshared => exact Family.written_name quiet (T.facts o).name_declared hshared
  · rw [← (T.facts o).alarm, ← (T.facts (T.put o s')).alarm, T.core_put]
    cases hwritten with
    | reading hout hvalue => rw [quiet.setPresentValue]
    | shared hshared => exact quiet.bookkeeping hshared

theorem CommandedType.writeEffect (T : CommandedType L ω) (quiet : Family.Quiet L)
    (h : BacnetObject.setPropertyWithPriority o property value priority = (o', .ok ())) :
    WriteEffect o property value o' := by
  obtain ⟨c', hwritten, rfl⟩ := T.set_eq_ok_iff.mp h
  constructor
  · intro q hq hslots hcomputed
    rw [T.getProperty_eq, T.getProperty_eq, T.core_put, T.deviceType_put, T.commandable_put]
    rw [← (T.facts o).alarm] at hcomputed
    rw [hwritten.frame hq hslots hcomputed]
  · rintro rfl
    rw [T.getProperty_eq, orDeviceType_of_ne (by simp), T.core_put,
      Commanded.get_eq_readInput (by simp)]
    cases hwritten with
    | shared hshared => exact Family.written_name quiet (T.facts o).name_declared hshared
  · rw [← (T.facts o).alarm, ← (T.facts (T.put o c')).alarm, T.core_put]
    cases hwritten with
    | command hcommandable hheld hvalue hrange hslots => rw [quiet.setPresentValue]
    | straight hcommandable hheld hvalue => rw [quiet.setPresentValue]
    | shared hshared => exact quiet.bookkeeping hshared

/-- A type of its own that takes no commands and does not report: what its laws say is all
there is, but for the name. -/
theorem writeEffect_of_lawful [LawfulObject ω]
    (hset : BacnetObject.setProperty o property value = (o', .ok ()))
    (hcommanded : Described.commanded o = none) (hheld : Described.held o = none)
    (hintrinsic : ∀ o : ω, BacnetObject.intrinsic o = none)
    (hname : property = .objectName → ∃ name, value = .characterString name) :
    WriteEffect o property value o' := by
  have hcommandable : ¬ Commandable o property := by
    intro h
    rw [Commandable, hcommanded] at h
    cases h.2
  constructor
  · intro q hq _ hcomputed
    exact LawfulObject.frame hset hcommandable hq hcomputed
  · rintro rfl
    obtain ⟨name, rfl⟩ := hname rfl
    obtain ⟨hown, hstored⟩ := ownDatatype_name name
    have hdeclared : ¬ Undeclared o .objectName := fun h => absurd h.1 (by decide)
    refine ⟨name, rfl, ?_⟩
    rw [LawfulObject.readBack hset hheld hcommandable hdeclared hown, hstored]
  · rw [hintrinsic, hintrinsic]

end Types

/-! ## §3. Objects of any type -/

namespace HostedObject

variable {o o' : HostedObject} {property : PropertyIdentifier} {value : PropertyValue}
  {priority : Option UInt8}

theorem writeEffect_of_state {state : o.cls.State} (h : WriteEffect o.state property value state) :
    WriteEffect o property value (o.withState state) :=
  ⟨h.frame, h.name, h.bookkeeping⟩

/-- **What holds of every write that succeeds.** -/
theorem writeEffect
    (h : BacnetObject.setPropertyWithPriority o property value priority = (o', .ok ())) :
    WriteEffect o property value o' := by
  obtain ⟨state', hset, rfl⟩ := Attempt.within_eq_ok_iff.mp h
  apply writeEffect_of_state
  obtain ⟨cls, state⟩ := o
  cases cls with
  -- A point's effect is that of its family.
  | analogInput => exact analogInputType.writeEffect analogQuiet hset
  | analogOutput => exact analogOutputType.writeEffect analogQuiet hset
  | analogValue => exact analogValueType.writeEffect analogQuiet hset
  | binaryInput => exact binaryInputType.writeEffect binaryQuiet hset
  | binaryOutput => exact binaryOutputType.writeEffect binaryQuiet hset
  | binaryValue => exact binaryValueType.writeEffect binaryQuiet hset
  | multiStateInput => exact multiStateInputType.writeEffect multistateQuiet hset
  | multiStateOutput => exact multiStateOutputType.writeEffect multistateQuiet hset
  | multiStateValue => exact multiStateValueType.writeEffect multistateQuiet hset
  -- The effect of any other type follows from its laws, but for the name, which is text.
  | device =>
      refine writeEffect_of_lawful hset rfl rfl (fun _ => rfl) ?_
      rintro rfl
      cases Device.setProperty_eq_ok_iff.mp hset with
      | objectName name => exact ⟨name, rfl⟩
  | schedule =>
      refine writeEffect_of_lawful hset rfl rfl (fun _ => rfl) ?_
      rintro rfl
      cases Schedule.setProperty_eq_ok_iff.mp hset with
      | objectName name => exact ⟨name, rfl⟩
  | calendar =>
      refine writeEffect_of_lawful hset rfl rfl (fun _ => rfl) ?_
      rintro rfl
      cases Calendar.setProperty_eq_ok_iff.mp hset with
      | objectName name => exact ⟨name, rfl⟩
  | notificationClass =>
      refine writeEffect_of_lawful hset rfl rfl (fun _ => rfl) ?_
      rintro rfl
      cases NotificationClass.setProperty_eq_ok_iff.mp hset with
      | objectName name => exact ⟨name, rfl⟩
  | file =>
      refine writeEffect_of_lawful hset rfl rfl (fun _ => rfl) ?_
      rintro rfl
      cases File.setProperty_eq_ok_iff.mp hset with
      | objectName name => exact ⟨name, rfl⟩

/-- **A write of Object_Name renames, and no other write does.** -/
theorem write_name
    (h : BacnetObject.setPropertyWithPriority o property value priority = (o', .ok ())) :
    if property = .objectName then
      ∃ name, value = .characterString name
        ∧ BacnetObject.getProperty o' .objectName = .ok (.characterString name)
    else BacnetObject.getProperty o' .objectName = BacnetObject.getProperty o .objectName := by
  split
  · next hname => exact (writeEffect h).name hname
  · next hname =>
      refine (writeEffect h).frame _ (Ne.symm hname) (fun _ => by simp) ?_
      rintro (⟨hcomputed, _⟩ | ⟨hcomputed, _⟩ | ⟨hcomputed, _⟩)
      · exact absurd hcomputed (by decide)
      · exact absurd hcomputed (by decide)
      · exact absurd hcomputed (by decide)

end HostedObject

end BacnetRs.Object
