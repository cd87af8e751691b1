/-
  BacnetRs.Object.Datatypes — every property reads values of its datatype
  (`property/datatype.rs`).

  The encoding of a constructed value does not say what it is; the identifier of
  its property does, whatever type the object is of.  So each getter reads values
  of the datatype its property names, one by one here, and the types read through
  them.  What a Schedule commands and what a vendor adds is read as it was put
  there, and names no datatype.

    * `HostedObject.getProperty_suits`   — an object of any type.
    * `ObjectDatabase.getProperty_suits` — what the database holds, and what it adds.
-/
import BacnetRs.Object.Store
import BacnetRs.Property.ValueCodec

namespace BacnetRs.Object

open BacnetRs.Encoding BacnetRs.Property

/-! ## §1. Values of a property's datatype -/

/-- What one value of a property is. -/
def elementOf (property : PropertyIdentifier) : Element :=
  match datatype property with
  | some datatype => datatype.element
  | none => .any

/-- All that a value holds, the collections around it aside, is of its property's datatype. -/
def suits (property : PropertyIdentifier) (value : PropertyValue) : Bool :=
  (flatten value).all (elementOf property).holds

section Suits

variable {element : Element} {property : PropertyIdentifier} {value : PropertyValue}
  {values : List PropertyValue}

/-- A collection is no element of any type. -/
theorem flatten_of_holds (h : element.holds value = true) : flatten value = [value] := by
  cases value with
  | array values => cases element <;> cases h
  | list values => cases element <;> cases h
  | _ => rfl

theorem flattenAll_of_holds (h : ∀ value ∈ values, element.holds value = true) :
    flattenAll values = values := by
  induction values with
  | nil => rfl
  | cons value rest ih =>
      obtain ⟨hvalue, hrest⟩ := List.forall_mem_cons.mp h
      show flatten value ++ flattenAll rest = _
      rw [flatten_of_holds hvalue, ih hrest]
      rfl

theorem suits_of_holds (h : (elementOf property).holds value = true) :
    suits property value = true := by
  unfold suits
  rw [flatten_of_holds h]
  simp [h]

theorem suits_array (h : ∀ value ∈ values, (elementOf property).holds value = true) :
    suits property (.array values) = true := by
  show (flattenAll values).all _ = true
  rw [flattenAll_of_holds h]
  exact List.all_eq_true.mpr h

theorem suits_list (h : ∀ value ∈ values, (elementOf property).holds value = true) :
    suits property (.list values) = true := suits_array h

/-- A collection of one thing, each member wrapped the same way. -/
theorem suits_array_map {α : Type} {wrap : α → PropertyValue} {members : List α}
    (h : ∀ member, (elementOf property).holds (wrap member) = true) :
    suits property (.array (members.map wrap)) = true := by
  apply suits_array
  intro value hvalue
  obtain ⟨member, _, rfl⟩ := List.mem_map.mp hvalue
  exact h member

theorem suits_list_map {α : Type} {wrap : α → PropertyValue} {members : List α}
    (h : ∀ member, (elementOf property).holds (wrap member) = true) :
    suits property (.list (members.map wrap)) = true := suits_array_map h

end Suits

/-! ## §2. What the types share -/

section Shared

variable {property : PropertyIdentifier} {value : PropertyValue}

theorem commonGet_suits {view : CommonView} (h : commonGet view property = some (.ok value)) :
    suits property value = true := by
  unfold commonGet at h
  split at h
  · cases h
  · split at h
    all_goals cases h
    all_goals rfl

theorem intrinsicGet_suits {reporting : IntrinsicReporting}
    (h : intrinsicGet reporting property = some (.ok value)) : suits property value = true := by
  unfold intrinsicGet at h
  split at h
  case h_8 =>
    cases h
    exact suits_array_map (fun _ => rfl)
  all_goals cases h
  all_goals rfl

/-- The first of two getters that answers. -/
theorem suits_or {x y : Option (Except ObjectError PropertyValue)}
    (hx : x = some (.ok value) → suits property value = true)
    (hy : y = some (.ok value) → suits property value = true)
    (h : x.or y = some (.ok value)) : suits property value = true := by
  cases x with
  | none => exact hy h
  | some answer => exact hx h

theorem analogGet_suits {state : AnalogState} {objectType : ObjectType}
    (h : state.sharedGet objectType property = some (.ok value)) :
    suits property value = true := by
  refine suits_or commonGet_suits (fun h => ?_) h
  unfold AnalogState.familyGet analogAlarmGet at h
  split at h
  · split at h
    all_goals cases h
    all_goals rfl
  · cases h
    rfl
  · cases h
    rfl
  · split at h
    · cases h
    · split at h
      · split at h
        all_goals cases h
        all_goals rfl
      · split at h
        all_goals cases h
        all_goals rfl
      · cases h
        rfl
      · cases h
        rfl
      · exact intrinsicGet_suits h

theorem binaryGet_suits {state : BinaryState} {objectType : ObjectType}
    (h : state.sharedGet objectType property = some (.ok value)) :
    suits property value = true := by
  refine suits_or commonGet_suits (fun h => ?_) h
  unfold BinaryState.familyGet binaryAlarmGet at h
  split at h
  · cases h
    rfl
  · cases h
    rfl
  · cases h
    rfl
  · split at h
    · cases h
    · split at h
      · cases h
        rfl
      · exact intrinsicGet_suits h

theorem multistateGet_suits {state : MultistateState} {objectType : ObjectType}
    (h : state.sharedGet objectType property = some (.ok value)) :
    suits property value = true := by
  refine suits_or commonGet_suits (fun h => ?_) h
  unfold MultistateState.familyGet at h
  split at h
  · cases h
    rfl
  · cases h
    rfl
  · cases h
    exact suits_array_map (fun _ => rfl)
  · split at h
    · cases h
    · split at h
      · next heq =>
          cases h
          rw [heq]
          exact suits_list_map (fun _ => rfl)
      · exact intrinsicGet_suits h

end Shared

/-! ## §3. Inputs, outputs and values -/

/-- A family whose getter suits, and whose values of Present_Value are primitive. -/
structure Family.Suited {σ α : Type} (F : Family σ α) : Prop where
  shared : ∀ {state objectType property value},
    F.sharedGet state objectType property = some (.ok value) → suits property value = true
  read : ∀ x, Element.any.holds (F.read x) = true

theorem analogFamily_suited : analogFamily.Suited := ⟨analogGet_suits, fun _ => rfl⟩

theorem binaryFamily_suited : binaryFamily.Suited := ⟨binaryGet_suits, fun _ => rfl⟩

theorem multistateFamily_suited : multistateFamily.Suited := ⟨multistateGet_suits, fun _ => rfl⟩

section Points

variable {σ α ω : Type} {F : Family σ α} {property : PropertyIdentifier} {value : PropertyValue}

theorem Family.Suited.input (hF : F.Suited) {objectType : ObjectType} {state : σ}
    (h : F.readInput objectType state property = .ok value) : suits property value = true := by
  apply hF.shared
  unfold readInput at h
  cases hshared : F.sharedGet state objectType property with
  | none =>
      rw [hshared] at h
      cases h
  | some answer =>
      rw [hshared] at h
      exact congrArg some h

theorem Family.Suited.commanded (hF : F.Suited) {objectType : ObjectType} {commandable : Bool}
    {self : Commanded σ α} (h : self.get F objectType commandable property = .ok value) :
    suits property value = true := by
  unfold Commanded.get at h
  split at h
  · next hslots =>
      cases h
      rw [hslots.1]
      -- A slot that is free reads as Null.
      refine suits_array_map (fun slot => ?_)
      cases slot with
      | none => rfl
      | some x => exact hF.read x
  · split at h
    · next hdefault =>
        cases h
        rw [hdefault.1]
        exact suits_of_holds (hF.read _)
    · exact hF.input h

theorem orDeviceType_suits {deviceType : Option String}
    {answer : Except ObjectError PropertyValue}
    (hanswer : answer = .ok value → suits property value = true)
    (h : orDeviceType deviceType property answer = .ok value) : suits property value = true := by
  cases deviceType with
  | none => exact hanswer h
  | some text =>
      by_cases hproperty : property = .deviceType
      · subst hproperty
        simp only [orDeviceType, if_true, Except.ok.injEq] at h
        subst h
        rfl
      · rw [orDeviceType_of_ne hproperty] at h
        exact hanswer h

variable [BacnetObject ω] [Described ω] {L : F.Laws}

theorem InputType.suits (T : InputType L ω) (hF : F.Suited) {o : ω}
    (h : BacnetObject.getProperty o property = .ok value) : suits property value = true := by
  rw [T.getProperty_eq] at h
  exact orDeviceType_suits hF.input h

theorem CommandedType.suits (T : CommandedType L ω) (hF : F.Suited) {o : ω}
    (h : BacnetObject.getProperty o property = .ok value) : suits property value = true := by
  rw [T.getProperty_eq] at h
  exact orDeviceType_suits hF.commanded h

end Points

/-! ## §4. An object of any type -/

section Types

variable {property : PropertyIdentifier} {value : PropertyValue}

theorem Device.getProperty_suits {device : Device} (h : device.getProperty property = .ok value) :
    suits property value = true := by
  unfold Device.getProperty at h
  split at h
  case h_5 =>
    split at h
    all_goals cases h
    all_goals rfl
  case h_19 =>
    cases h
    exact suits_list_map (fun _ => rfl)
  all_goals cases h
  all_goals rfl

/-- What a Schedule commands: these two read whatever was put there. -/
def Schedule.commands (property : PropertyIdentifier) : Bool :=
  property == .presentValue || property == .scheduleDefault

theorem Schedule.getProperty_suits {schedule : Schedule}
    (hcommands : Schedule.commands property = false)
    (h : schedule.getProperty property = .ok value) : suits property value = true := by
  unfold Schedule.getProperty at h
  split at h
  case h_5 => cases hcommands
  case h_6 => cases hcommands
  case h_8 =>
    cases h
    exact suits_array_map (fun _ => rfl)
  case h_9 =>
    cases h
    exact suits_array_map (fun _ => rfl)
  case h_10 =>
    cases h
    exact suits_list_map (fun _ => rfl)
  all_goals cases h
  all_goals rfl

theorem Calendar.getProperty_suits {calendar : Calendar}
    (h : calendar.getProperty property = .ok value) : suits property value = true := by
  unfold Calendar.getProperty at h
  split at h
  case h_6 =>
    cases h
    exact suits_list_map (fun _ => rfl)
  all_goals cases h
  all_goals rfl

theorem NotificationClass.getProperty_suits {notificationClass : NotificationClass}
    (h : notificationClass.getProperty property = .ok value) : suits property value = true := by
  unfold NotificationClass.getProperty at h
  split at h
  case h_6 =>
    cases h
    exact suits_array_map (fun _ => rfl)
  case h_8 =>
    cases h
    exact suits_list_map (fun _ => rfl)
  all_goals cases h
  all_goals rfl

theorem File.getProperty_suits {file : File} (h : file.getProperty property = .ok value) :
    suits property value = true := by
  unfold File.getProperty at h
  split at h
  all_goals cases h
  all_goals rfl

/-- **A property of an object of any type reads values of its datatype**, unless it is what a
Schedule commands. -/
theorem HostedObject.getProperty_suits {object : HostedObject}
    (hcommands : object.cls = .schedule → Schedule.commands property = false)
    (h : BacnetObject.getProperty object property = .ok value) : suits property value = true := by
  obtain ⟨cls, state⟩ := object
  cases cls with
  | device => exact Device.getProperty_suits h
  | analogInput => exact analogInputType.suits analogFamily_suited h
  | analogOutput => exact analogOutputType.suits analogFamily_suited h
  | analogValue => exact analogValueType.suits analogFamily_suited h
  | binaryInput => exact binaryInputType.suits binaryFamily_suited h
  | binaryOutput => exact binaryOutputType.suits binaryFamily_suited h
  | binaryValue => exact binaryValueType.suits binaryFamily_suited h
  | multiStateInput => exact multiStateInputType.suits multistateFamily_suited h
  | multiStateOutput => exact multiStateOutputType.suits multistateFamily_suited h
  | multiStateValue => exact multiStateValueType.suits multistateFamily_suited h
  | schedule => exact Schedule.getProperty_suits (hcommands rfl) h
  | calendar => exact Calendar.getProperty_suits h
  | notificationClass => exact NotificationClass.getProperty_suits h
  | file => exact File.getProperty_suits h

end Types

/-! ## §5. The database -/

namespace ObjectDatabase

variable {self : ObjectDatabase} {identifier : ObjectIdentifier} {property : PropertyIdentifier}
  {value : PropertyValue}

/-- A property that reads what was put there, of whatever datatype: a vendor's, and what a
Schedule commands. -/
def ReadsAnything (self : ObjectDatabase) (identifier : ObjectIdentifier)
    (property : PropertyIdentifier) : Prop :=
  firstProprietary ≤ property.value
    ∨ Schedule.commands property = true
      ∧ ∃ object, self.objects.lookup identifier = some object ∧ object.cls = .schedule

theorem getStoredProperty_suits (hfixed : ¬ self.ReadsAnything identifier property)
    (h : self.getStoredProperty identifier property = .ok value) :
    suits property value = true := by
  unfold getStoredProperty at h
  cases hobject : self.objects.lookup identifier with
  | none =>
      rw [hobject] at h
      cases h
  | some object =>
      rw [hobject] at h
      refine HostedObject.getProperty_suits (fun hschedule => ?_) h
      apply Bool.eq_false_of_not_eq_true
      intro hcommands
      exact hfixed (.inr ⟨hcommands, object, hobject, hschedule⟩)

theorem clock_suits {clock : DeviceClock} (h : clock.get property = some value) :
    suits property value = true := by
  unfold DeviceClock.get at h
  split at h
  all_goals cases h
  all_goals rfl

theorem deviceProperty_suits (h : self.deviceProperty property = some (.ok value)) :
    suits property value = true := by
  unfold deviceProperty at h
  split at h
  · cases h
    rfl
  · split at h
    · split at h
      all_goals cases h
      all_goals rfl
    · cases h
    · cases h
  · cases h

/-- **A property reads values of its datatype**, unless it reads what was put there. -/
theorem getProperty_suits (hfixed : ¬ self.ReadsAnything identifier property)
    (h : self.getProperty identifier property = .ok value) : suits property value = true := by
  have hproprietary : self.proprietaryProperty identifier property = none :=
    if_pos (UInt32.not_le.mp (fun hvendor => hfixed (.inl hvendor)))
  unfold getProperty at h
  rw [hproprietary] at h
  simp only at h
  split at h
  · next hdevice =>
      cases hclock : self.clock.bind (fun clock => clock.get property) with
      | some read =>
          rw [hclock] at h
          cases h
          obtain ⟨clock, _, hread⟩ := Option.bind_eq_some_iff.mp hclock
          exact clock_suits hread
      | none =>
          rw [hclock] at h
          cases hanswer : self.deviceProperty property with
          | some answer =>
              rw [hanswer] at h
              exact deviceProperty_suits (hanswer.trans (congrArg some h))
          | none =>
              rw [hanswer] at h
              exact getStoredProperty_suits hfixed h
  · exact getStoredProperty_suits hfixed h

end ObjectDatabase

end BacnetRs.Object
