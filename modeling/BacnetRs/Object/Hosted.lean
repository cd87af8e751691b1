/-
  BacnetRs.Object.Hosted — an object of any type (`object/database.rs`).

  The database holds `Box<dyn BacnetObject>`: an object of some type, and the
  type's own methods with it.  Fourteen types implement the trait
  (`ObjectClass`); an object is one of them and a state of that type.  As the
  types keep the laws of the trait, so does an object of any of them.
-/
import BacnetRs.Object.PointTypes
import BacnetRs.Object.Calendar
import BacnetRs.Object.Schedule
import BacnetRs.Object.Device

namespace BacnetRs.Object

open BacnetRs.Property

/-! ## §1. The types of objects -/

/-- The types that implement `BacnetObject`. -/
inductive ObjectClass where
  | device
  | analogInput
  | analogOutput
  | analogValue
  | binaryInput
  | binaryOutput
  | binaryValue
  | multiStateInput
  | multiStateOutput
  | multiStateValue
  | schedule
  | calendar
  | notificationClass
  | file
  deriving Repr, DecidableEq

namespace ObjectClass

/-- The states of a type. -/
abbrev State : ObjectClass → Type
  | device => Device
  | analogInput => AnalogInput
  | analogOutput => AnalogOutput
  | analogValue => AnalogValue
  | binaryInput => BinaryInput
  | binaryOutput => BinaryOutput
  | binaryValue => BinaryValue
  | multiStateInput => MultiStateInput
  | multiStateOutput => MultiStateOutput
  | multiStateValue => MultiStateValue
  | schedule => Schedule
  | calendar => Calendar
  | notificationClass => NotificationClass
  | file => File

instance instBacnetObject : ∀ c : ObjectClass, BacnetObject c.State
  | device => inferInstanceAs (BacnetObject Device)
  | analogInput => inferInstanceAs (BacnetObject AnalogInput)
  | analogOutput => inferInstanceAs (BacnetObject AnalogOutput)
  | analogValue => inferInstanceAs (BacnetObject AnalogValue)
  | binaryInput => inferInstanceAs (BacnetObject BinaryInput)
  | binaryOutput => inferInstanceAs (BacnetObject BinaryOutput)
  | binaryValue => inferInstanceAs (BacnetObject BinaryValue)
  | multiStateInput => inferInstanceAs (BacnetObject MultiStateInput)
  | multiStateOutput => inferInstanceAs (BacnetObject MultiStateOutput)
  | multiStateValue => inferInstanceAs (BacnetObject MultiStateValue)
  | schedule => inferInstanceAs (BacnetObject Schedule)
  | calendar => inferInstanceAs (BacnetObject Calendar)
  | notificationClass => inferInstanceAs (BacnetObject NotificationClass)
  | file => inferInstanceAs (BacnetObject File)

instance instDescribed : ∀ c : ObjectClass, Described c.State
  | device => inferInstanceAs (Described Device)
  | analogInput => inferInstanceAs (Described AnalogInput)
  | analogOutput => inferInstanceAs (Described AnalogOutput)
  | analogValue => inferInstanceAs (Described AnalogValue)
  | binaryInput => inferInstanceAs (Described BinaryInput)
  | binaryOutput => inferInstanceAs (Described BinaryOutput)
  | binaryValue => inferInstanceAs (Described BinaryValue)
  | multiStateInput => inferInstanceAs (Described MultiStateInput)
  | multiStateOutput => inferInstanceAs (Described MultiStateOutput)
  | multiStateValue => inferInstanceAs (Described MultiStateValue)
  | schedule => inferInstanceAs (Described Schedule)
  | calendar => inferInstanceAs (Described Calendar)
  | notificationClass => inferInstanceAs (Described NotificationClass)
  | file => inferInstanceAs (Described File)

instance instLawfulObject : ∀ c : ObjectClass, LawfulObject c.State
  | device => inferInstanceAs (LawfulObject Device)
  | analogInput => inferInstanceAs (LawfulObject AnalogInput)
  | analogOutput => inferInstanceAs (LawfulObject AnalogOutput)
  | analogValue => inferInstanceAs (LawfulObject AnalogValue)
  | binaryInput => inferInstanceAs (LawfulObject BinaryInput)
  | binaryOutput => inferInstanceAs (LawfulObject BinaryOutput)
  | binaryValue => inferInstanceAs (LawfulObject BinaryValue)
  | multiStateInput => inferInstanceAs (LawfulObject MultiStateInput)
  | multiStateOutput => inferInstanceAs (LawfulObject MultiStateOutput)
  | multiStateValue => inferInstanceAs (LawfulObject MultiStateValue)
  | schedule => inferInstanceAs (LawfulObject Schedule)
  | calendar => inferInstanceAs (LawfulObject Calendar)
  | notificationClass => inferInstanceAs (LawfulObject NotificationClass)
  | file => inferInstanceAs (LawfulObject File)

end ObjectClass

/-! ## §2. Objects -/

/-- `Box<dyn BacnetObject>`. -/
structure HostedObject where
  cls : ObjectClass
  state : cls.State

namespace HostedObject

/-- The object a method of its type left. -/
def withState (self : HostedObject) (state : self.cls.State) : HostedObject := ⟨self.cls, state⟩

instance : BacnetObject HostedObject where
  identifier := fun self => BacnetObject.identifier self.state
  getProperty := fun self property => BacnetObject.getProperty self.state property
  setProperty := fun self property value =>
    .within self.withState (BacnetObject.setProperty self.state property value)
  setPropertyWithPriority := fun self property value priority =>
    .within self.withState
      (BacnetObject.setPropertyWithPriority self.state property value priority)
  isPropertyWritable := fun self property => BacnetObject.isPropertyWritable self.state property
  propertyList := fun self => BacnetObject.propertyList self.state
  intrinsic := fun self => BacnetObject.intrinsic self.state
  setIntrinsic := fun self reporting =>
    self.withState (BacnetObject.setIntrinsic self.state reporting)

instance : Described HostedObject where
  analog := fun self => Described.analog self.state
  binary := fun self => Described.binary self.state
  multistate := fun self => Described.multistate self.state
  held := fun self => Described.held self.state
  commanded := fun self => Described.commanded self.state
  Fits := fun self property => Described.Fits self.state property

/-- **An object of any type keeps the laws.** -/
instance : LawfulObject HostedObject where
  setProperty_eq := by
    intro o property value
    exact congrArg (Attempt.within o.withState) LawfulObject.setProperty_eq
  atomic := by
    intro o property value priority
    exact Attempt.Atomic.within LawfulObject.atomic rfl
  readable_iff := fun {o} => @LawfulObject.readable_iff o.cls.State _ _ _ o.state
  nodup := fun o => LawfulObject.nodup o.state
  set_writable := by
    intro o o' property value priority h hdeclared
    obtain ⟨state, hset, rfl⟩ := Attempt.within_eq_ok_iff.mp h
    exact @LawfulObject.set_writable o.cls.State _ _ _ _ _ _ _ _ hset hdeclared
  set_listed := by
    intro o o' property value priority h hdeclared hstray
    obtain ⟨state, hset, rfl⟩ := Attempt.within_eq_ok_iff.mp h
    exact @LawfulObject.set_listed o.cls.State _ _ _ _ _ _ _ _ hset hdeclared hstray
  set_of_read := by
    intro o property value hwritable hread hrewritable
    have hstate : Rewritable o.state property value :=
      ⟨hrewritable.storable, hrewritable.permitted, hrewritable.state, hrewritable.fits⟩
    obtain ⟨state, hset⟩ :=
      @LawfulObject.set_of_read o.cls.State _ _ _ _ _ _ hwritable hread hstate
    exact ⟨o.withState state, Attempt.within_eq_ok_iff.mpr ⟨state, hset, rfl⟩⟩
  readBack := by
    intro o o' property value h hheld hcommandable hdeclared hvalue
    obtain ⟨state, hset, rfl⟩ := Attempt.within_eq_ok_iff.mp h
    exact @LawfulObject.readBack o.cls.State _ _ _ _ _ _ _ hset hheld hcommandable hdeclared hvalue
  frame := by
    intro o o' property value q h hcommandable hq hcomputed
    obtain ⟨state, hset, rfl⟩ := Attempt.within_eq_ok_iff.mp h
    exact @LawfulObject.frame o.cls.State _ _ _ _ _ _ _ _ hset hcommandable hq hcomputed

/-- Every object has a name. -/
theorem named (o : HostedObject) :
    ∃ name, BacnetObject.getProperty o .objectName = .ok (.characterString name) := by
  obtain ⟨cls, state⟩ := o
  cases cls <;> exact ⟨_, rfl⟩

/-- All of a list are the standard's properties. -/
def Standard (properties : List PropertyIdentifier) : Prop :=
  ∀ property ∈ properties, property.value < firstProprietary

instance (properties : List PropertyIdentifier) : Decidable (Standard properties) :=
  inferInstanceAs (Decidable (∀ property ∈ properties, property.value < firstProprietary))

theorem Standard.sublist {listed full : List PropertyIdentifier} (hfull : Standard full)
    (h : listed.Sublist full) : Standard listed :=
  fun property hmem => hfull property (h.subset hmem)

theorem analog_standard {s : AnalogState} {deviceType : Bool} {trailing : List PropertyIdentifier}
    (h : trailing.Sublist [.priorityArray, .relinquishDefault]) :
    Standard (s.sharedPropertyList deviceType trailing) :=
  Standard.sublist (by decide +kernel) (AnalogState.sharedPropertyList_sublist h)

theorem binary_standard {s : BinaryState} {trailing : List PropertyIdentifier}
    (h : trailing.Sublist [.priorityArray, .relinquishDefault]) :
    Standard (s.sharedPropertyList trailing) :=
  Standard.sublist (by decide +kernel) (BinaryState.sharedPropertyList_sublist h)

theorem multistate_standard {s : MultistateState} {added : List PropertyIdentifier}
    (h : added.Sublist [.deviceType, .priorityArray, .relinquishDefault]) :
    Standard (s.sharedPropertyList ++ added) :=
  Standard.sublist (by decide +kernel) (.append s.sharedPropertyList_sublist h)

/-- What an object lists is the standard's. -/
theorem listed_standard (o : HostedObject) : Standard (BacnetObject.propertyList o) := by
  obtain ⟨cls, state⟩ := o
  cases cls with
  | device =>
      show Standard (Device.propertyList state)
      unfold Device.propertyList
      split
      · decide +kernel
      · decide +kernel
  | analogInput => exact analog_standard (List.nil_sublist _)
  | analogOutput => exact analog_standard (.refl _)
  | analogValue => exact analog_standard (ite_sublist _ _)
  | binaryInput => exact binary_standard (List.nil_sublist _)
  | binaryOutput => exact binary_standard (.refl _)
  | binaryValue => exact binary_standard (ite_sublist _ _)
  | multiStateInput => exact multistate_standard (by simp)
  | multiStateOutput => exact multistate_standard (.refl _)
  | multiStateValue =>
      exact multistate_standard ((ite_sublist _ _).trans (List.sublist_cons_self _ _))
  | schedule =>
      show Standard (Schedule.propertyList state)
      unfold Schedule.propertyList
      decide +kernel
  | calendar =>
      show Standard (Calendar.propertyList state)
      unfold Calendar.propertyList
      decide +kernel
  | notificationClass =>
      show Standard (NotificationClass.propertyList state)
      unfold NotificationClass.propertyList
      decide +kernel
  | file =>
      show Standard (File.propertyList state)
      unfold File.propertyList
      decide +kernel

/-- Only a notification class lists recipients. -/
theorem class_of_recipientList {o : HostedObject}
    (h : PropertyIdentifier.recipientList ∈ BacnetObject.propertyList o) :
    ∃ s : NotificationClass, o = ⟨.notificationClass, s⟩ := by
  obtain ⟨cls, state⟩ := o
  cases cls with
  | notificationClass => exact ⟨state, rfl⟩
  -- No other type lists the property, with or without what it lists conditionally.
  | device =>
      have hlist : PropertyIdentifier.recipientList ∉ Device.propertyList state := by
        unfold Device.propertyList
        split
        · decide
        · decide
      exact absurd h hlist
  | analogInput =>
      exact absurd ((AnalogState.sharedPropertyList_sublist (List.nil_sublist _)).subset h)
        (by decide +kernel)
  | analogOutput =>
      exact absurd ((AnalogState.sharedPropertyList_sublist (.refl _)).subset h)
        (by decide +kernel)
  | analogValue =>
      exact absurd ((AnalogState.sharedPropertyList_sublist (ite_sublist _ _)).subset h)
        (by decide +kernel)
  | binaryInput =>
      exact absurd ((BinaryState.sharedPropertyList_sublist (List.nil_sublist _)).subset h)
        (by decide +kernel)
  | binaryOutput =>
      exact absurd ((BinaryState.sharedPropertyList_sublist (.refl _)).subset h)
        (by decide +kernel)
  | binaryValue =>
      exact absurd ((BinaryState.sharedPropertyList_sublist (ite_sublist _ _)).subset h)
        (by decide +kernel)
  | multiStateInput =>
      exact absurd ((List.Sublist.append (MultistateState.sharedPropertyList_sublist
        (MultiStateInput.toMultistateState state)) (.refl [.deviceType])).subset h) (by decide +kernel)
  | multiStateOutput =>
      exact absurd ((List.Sublist.append (MultistateState.sharedPropertyList_sublist
        (MultiStateOutput.toCommanded state).state) (.refl [.deviceType, .priorityArray, .relinquishDefault])).subset h) (by decide +kernel)
  | multiStateValue =>
      exact absurd ((List.Sublist.append (MultistateState.sharedPropertyList_sublist
        (MultiStateValue.toCommanded state).state) (ite_sublist (MultiStateValue.commandable state) [.priorityArray, .relinquishDefault])).subset h) (by decide +kernel)
  | schedule =>
      have hlist : PropertyIdentifier.recipientList ∉ Schedule.propertyList state := by
        unfold Schedule.propertyList
        decide
      exact absurd h hlist
  | calendar =>
      have hlist : PropertyIdentifier.recipientList ∉ Calendar.propertyList state := by
        unfold Calendar.propertyList
        decide
      exact absurd h hlist
  | file =>
      have hlist : PropertyIdentifier.recipientList ∉ File.propertyList state := by
        unfold File.propertyList
        decide
      exact absurd h hlist

/-- **A list of recipients is taken by a notification class that has room for them**, and
by nothing else. -/
theorem writes_recipientList_iff {o : HostedObject} {entries : List PropertyValue}
    {priority : Option UInt8} :
    (∃ o', BacnetObject.setPropertyWithPriority o .recipientList (.list entries) priority
        = (o', .ok ()))
      ↔ ∃ (s : NotificationClass) (recipients : List DestinationValue),
          o = ⟨.notificationClass, s⟩ ∧ entries = recipients.map .destination
            ∧ ∀ c, s.recipientCapacity = some c → recipients.length ≤ c := by
  constructor
  · rintro ⟨o', h⟩
    have hlisted : PropertyIdentifier.recipientList ∈ BacnetObject.propertyList o := by
      refine LawfulObject.set_listed h (fun hundeclared => ?_) (fun hstray => ?_)
      · exact absurd hundeclared.1 (by decide)
      · exact absurd hstray.2 (by decide)
    obtain ⟨s, rfl⟩ := class_of_recipientList hlisted
    obtain ⟨s', hset, rfl⟩ := Attempt.within_eq_ok_iff.mp h
    cases NotificationClass.setProperty_eq_ok_iff.mp hset with
    | recipientList hrecipients =>
        obtain ⟨hentries, hroom⟩ :=
          NotificationClass.expectRecipients_list_eq_ok_iff.mp hrecipients
        exact ⟨s, _, rfl, hentries, hroom⟩
  · rintro ⟨s, recipients, rfl, hentries, hroom⟩
    have hset := NotificationClass.setProperty_eq_ok_iff.mpr
      (.recipientList (NotificationClass.expectRecipients_list_eq_ok_iff.mpr ⟨hentries, hroom⟩))
    exact ⟨_, Attempt.within_eq_ok_iff.mpr ⟨_, hset, rfl⟩⟩

/-- What is read though not listed is indeed not listed. -/
theorem unlisted_not_listed {o : HostedObject} {property : PropertyIdentifier}
    (h : Unlisted o property) : property ∉ BacnetObject.propertyList o := by
  obtain ⟨⟨s, hanalog, hmissing⟩, hproperty⟩ := h
  obtain ⟨cls, state⟩ := o
  cases cls with
  | analogInput =>
      cases hanalog
      exact AnalogState.not_listed_of_limitsMissing (List.nil_sublist _) hmissing hproperty
  | analogOutput =>
      cases hanalog
      exact AnalogState.not_listed_of_limitsMissing (.refl _) hmissing hproperty
  | analogValue =>
      cases hanalog
      exact AnalogState.not_listed_of_limitsMissing (ite_sublist _ _) hmissing hproperty
  | device => cases hanalog
  | binaryInput => cases hanalog
  | binaryOutput => cases hanalog
  | binaryValue => cases hanalog
  | multiStateInput => cases hanalog
  | multiStateOutput => cases hanalog
  | multiStateValue => cases hanalog
  | schedule => cases hanalog
  | calendar => cases hanalog
  | notificationClass => cases hanalog
  | file => cases hanalog

end HostedObject

end BacnetRs.Object
