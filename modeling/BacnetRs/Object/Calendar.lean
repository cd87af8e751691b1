/-
  BacnetRs.Object.Calendar — Calendar, Notification Class and File
  (`object/calendar.rs`, `object/notification_class.rs`, `object/file.rs`).

  Three object types with a fixed list of properties and no local override.  Of
  each: what can be read is what is listed, and a successful write is one of the
  updates of its `Written`.
-/
import BacnetRs.Object.Trait

namespace BacnetRs.Object

open BacnetRs.Encoding BacnetRs.Property

/-! ## §1. Calendar -/

/-- `Calendar`. -/
structure Calendar where
  identifier : ObjectIdentifier
  objectName : String
  description : String
  dateList : List CalendarEntryValue
  /-- Whether the last refreshed date was one of them. -/
  presentValue : Bool
  /-- How many entries Date_List has room for; `none` is unlimited. -/
  dateListCapacity : Option Nat
  deriving Repr, DecidableEq

/-- An entry of Date_List.  A bare date is the commonest thing an operator writes. -/
def expectCalendarEntry : PropertyValue → Except ObjectError CalendarEntryValue
  | .calendarEntry entry => .ok entry
  | .date date => .ok (.date date)
  | _ => .error .invalidPropertyType

namespace Calendar

/-- The entries a Date_List write carries, if there is room for them. -/
def expectDateList (self : Calendar) (value : PropertyValue) :
    Except ObjectError (List CalendarEntryValue) :=
  let store (entries : List PropertyValue) := do
    let entries ← entries.mapM expectCalendarEntry
    withinCapacity entries.length self.dateListCapacity
    return entries
  match value with
  | .list entries => store entries
  | .array entries => store entries
  | _ => .error .invalidPropertyType

def getProperty (self : Calendar) (property : PropertyIdentifier) :
    Except ObjectError PropertyValue :=
  match property with
  | .objectIdentifier => .ok (.objectIdentifier self.identifier)
  | .objectName => .ok (.characterString self.objectName)
  | .objectType => .ok (.enumerated ObjectType.calendar.value)
  | .description => .ok (.characterString self.description)
  | .presentValue => .ok (.boolean self.presentValue)
  | .dateList => .ok (.list (self.dateList.map .calendarEntry))
  | _ => .error .unknownProperty

def setProperty (self : Calendar) (property : PropertyIdentifier) (value : PropertyValue) :
    Attempt ObjectError Calendar :=
  match property with
  | .objectName => .store self (fun name => { self with objectName := name }) (expectString value)
  | .description => .store self (fun text => { self with description := text }) (expectString value)
  | .dateList =>
      .store self (fun entries => { self with dateList := entries }) (self.expectDateList value)
  | _ => .refused self .propertyNotWritable

def isPropertyWritable (_self : Calendar) (property : PropertyIdentifier) : Bool :=
  [PropertyIdentifier.objectName, .description, .dateList].contains property

def propertyList (_self : Calendar) : List PropertyIdentifier :=
  [.objectIdentifier, .objectName, .objectType, .description, .presentValue, .dateList]

end Calendar

/-- Entries that were read are entries that are stored. -/
theorem mapM_expectCalendarEntry (entries : List CalendarEntryValue) :
    (entries.map PropertyValue.calendarEntry).mapM expectCalendarEntry = .ok entries := by
  induction entries with
  | nil => rfl
  | cons entry entries ih =>
      rw [List.map_cons, List.mapM_cons, ih]
      rfl

namespace Calendar

theorem expectDateList_list_eq_ok_iff {s : Calendar} {stored entries : List CalendarEntryValue} :
    s.expectDateList (.list (stored.map .calendarEntry)) = .ok entries
      ↔ entries = stored ∧ ∀ c, s.dateListCapacity = some c → stored.length ≤ c := by
  show ((stored.map PropertyValue.calendarEntry).mapM expectCalendarEntry >>= fun entries =>
    withinCapacity entries.length s.dateListCapacity >>= fun _ => pure entries) = .ok entries ↔ _
  rw [checked_eq_ok_iff, mapM_expectCalendarEntry, withinCapacity_eq_ok_iff, Except.ok.injEq]
  constructor
  · rintro ⟨rfl, hfits⟩
    exact ⟨rfl, hfits⟩
  · rintro ⟨rfl, hfits⟩
    exact ⟨rfl, hfits⟩

/-- What a write of a property of a calendar leaves. -/
inductive Written (s : Calendar) : PropertyIdentifier → PropertyValue → Calendar → Prop
  | objectName (name : String) :
      Written s .objectName (.characterString name) { s with objectName := name }
  | description (text : String) :
      Written s .description (.characterString text) { s with description := text }
  | dateList {value : PropertyValue} {entries : List CalendarEntryValue}
      (h : s.expectDateList value = .ok entries) :
      Written s .dateList value { s with dateList := entries }

theorem setProperty_eq_ok_iff {s s' : Calendar} {property : PropertyIdentifier}
    {value : PropertyValue} :
    s.setProperty property value = (s', .ok ()) ↔ s.Written property value s' := by
  constructor
  · intro h
    unfold setProperty at h
    split at h
    · obtain ⟨name, hname, rfl⟩ := Attempt.store_eq_ok_iff.mp h
      rw [expectString_eq_ok_iff.mp hname]
      exact .objectName name
    · obtain ⟨text, htext, rfl⟩ := Attempt.store_eq_ok_iff.mp h
      rw [expectString_eq_ok_iff.mp htext]
      exact .description text
    · obtain ⟨entries, hentries, rfl⟩ := Attempt.store_eq_ok_iff.mp h
      exact .dateList hentries
    · exact absurd h Attempt.refused_ne_ok
  · intro h
    cases h with
    | objectName name => rfl
    | description text => rfl
    | dateList h => exact Attempt.store_of_ok h

instance : BacnetObject Calendar where
  identifier := Calendar.identifier
  getProperty := getProperty
  setProperty := setProperty
  isPropertyWritable := isPropertyWritable
  propertyList := propertyList

instance : Described Calendar where
  Fits := fun self property => property = .dateList →
    ∀ c, self.dateListCapacity = some c → self.dateList.length ≤ c

/-- **A calendar keeps the laws.** -/
instance : LawfulObject Calendar where
  setProperty_eq := rfl
  atomic := by
    intro o property value priority
    show (setProperty o property value).Atomic o
    unfold setProperty
    split
    · exact Attempt.atomic_store o _ _
    · exact Attempt.atomic_store o _ _
    · exact Attempt.atomic_store o _ _
    · exact Attempt.atomic_refused o _
  readable_iff := by
    intro o property
    show (∃ v, getProperty o property = .ok v) ↔ property ∈ propertyList o ∨ _
    unfold getProperty propertyList
    split <;> simp_all [Unlisted, Described.analog]
  nodup := fun o => by
    show (propertyList o).Nodup
    unfold propertyList
    decide
  set_writable := by
    intro o o' property value priority h _
    show isPropertyWritable o property = true
    cases setProperty_eq_ok_iff.mp h <;> rfl
  set_listed := by
    intro o o' property value priority h _ _
    show property ∈ propertyList o
    cases setProperty_eq_ok_iff.mp h <;> simp [propertyList]
  set_of_read := by
    intro o property value hwritable hread hrewritable
    have hproperty : property = .objectName ∨ property = .description ∨ property = .dateList := by
      simpa [BacnetObject.isPropertyWritable, isPropertyWritable] using hwritable
    rcases hproperty with rfl | rfl | rfl
    · cases hread
      exact ⟨_, setProperty_eq_ok_iff.mpr (.objectName o.objectName)⟩
    · cases hread
      exact ⟨_, setProperty_eq_ok_iff.mpr (.description o.description)⟩
    · cases hread
      exact ⟨_, setProperty_eq_ok_iff.mpr
        (.dateList (expectDateList_list_eq_ok_iff.mpr ⟨rfl, hrewritable.fits rfl⟩))⟩
  readBack := by
    intro o o' property value h _ _ _ hvalue
    show getProperty o' property = .ok (asStored property value)
    cases setProperty_eq_ok_iff.mp h with
    | objectName name => rfl
    | description text => rfl
    | dateList hentries =>
        obtain ⟨stored, rfl⟩ := hvalue.dateList rfl
        rw [(expectDateList_list_eq_ok_iff.mp hentries).1]
        rfl
  frame := by
    intro o o' property value q h _ hq _
    show getProperty o' q = getProperty o q
    unfold getProperty
    cases setProperty_eq_ok_iff.mp h
    all_goals split <;> first | rfl | exact absurd rfl hq

end Calendar

/-! ## §2. Notification Class -/

/-- `NotificationClass`. -/
structure NotificationClass where
  identifier : ObjectIdentifier
  objectName : String
  description : String
  /-- Notification priority to-offnormal, to-fault and to-normal. -/
  priority : Vector UInt32 3
  ackRequired : EventTransitionBits
  recipientList : List DestinationValue
  /-- How many recipients the device has room for; `none` is unlimited. -/
  recipientCapacity : Option Nat
  deriving Repr, DecidableEq

/-- `new`, of the lowest priority. -/
def NotificationClass.new (instance_ : UInt32) (objectName : String) : NotificationClass where
  identifier := ⟨.notificationClass, instance_⟩
  objectName := objectName
  description := ""
  priority := Vector.replicate 3 255
  ackRequired := ⟨false, false, false⟩
  recipientList := []
  recipientCapacity := none

/-- The three entries a Priority write carries. -/
def expectPriority (value : PropertyValue) : Except ObjectError (Vector UInt32 3) :=
  let store (entries : List PropertyValue) :=
    if h : entries.length = 3 then collectExact expectUnsigned entries h
    else .error (.invalidValue "Priority must have exactly 3 entries")
  match value with
  | .array entries => store entries
  | .list entries => store entries
  | _ => .error .invalidPropertyType

def expectDestination : PropertyValue → Except ObjectError DestinationValue
  | .destination destination => .ok destination
  | _ => .error .invalidPropertyType

namespace NotificationClass

/-- The recipients a Recipient_List write carries, if there is room for them. -/
def expectRecipients (self : NotificationClass) (value : PropertyValue) :
    Except ObjectError (List DestinationValue) :=
  let store (entries : List PropertyValue) := do
    let recipients ← entries.mapM expectDestination
    withinCapacity recipients.length self.recipientCapacity
    return recipients
  match value with
  | .list entries => store entries
  | .array entries => store entries
  | _ => .error .invalidPropertyType

def getProperty (self : NotificationClass) (property : PropertyIdentifier) :
    Except ObjectError PropertyValue :=
  match property with
  | .objectIdentifier => .ok (.objectIdentifier self.identifier)
  | .objectName => .ok (.characterString self.objectName)
  | .objectType => .ok (.enumerated ObjectType.notificationClass.value)
  | .description => .ok (.characterString self.description)
  -- A notification class reports its own instance number here.
  | .notificationClass => .ok (.unsigned self.identifier.instanceNumber.toUInt64)
  | .priority =>
      .ok (.array (self.priority.toList.map (fun priority => .unsigned priority.toUInt64)))
  | .ackRequired => .ok (.bitString self.ackRequired.toBits)
  | .recipientList => .ok (.list (self.recipientList.map .destination))
  | _ => .error .unknownProperty

def setProperty (self : NotificationClass) (property : PropertyIdentifier)
    (value : PropertyValue) : Attempt ObjectError NotificationClass :=
  match property with
  | .objectName => .store self (fun name => { self with objectName := name }) (expectString value)
  | .description => .store self (fun text => { self with description := text }) (expectString value)
  | .priority =>
      .store self (fun priority => { self with priority := priority }) (expectPriority value)
  | .ackRequired =>
      .store self (fun bits => { self with ackRequired := .fromBits bits }) (expectBitString value)
  | .recipientList =>
      .store self (fun recipients => { self with recipientList := recipients })
        (self.expectRecipients value)
  | _ => .refused self .propertyNotWritable

def isPropertyWritable (_self : NotificationClass) (property : PropertyIdentifier) : Bool :=
  [PropertyIdentifier.objectName, .description, .priority, .ackRequired,
    .recipientList].contains property

def propertyList (_self : NotificationClass) : List PropertyIdentifier :=
  [.objectIdentifier, .objectName, .objectType, .description, .notificationClass, .priority,
    .ackRequired, .recipientList]

theorem expectRecipients_list_eq_ok_iff {s : NotificationClass} {values : List PropertyValue}
    {recipients : List DestinationValue} :
    s.expectRecipients (.list values) = .ok recipients
      ↔ values = recipients.map .destination
        ∧ ∀ c, s.recipientCapacity = some c → recipients.length ≤ c := by
  have hentry : ∀ x y, expectDestination x = .ok y ↔ x = .destination y := by
    intro x y
    cases x <;> simp [expectDestination]
  show (values.mapM expectDestination >>= fun recipients =>
    withinCapacity recipients.length s.recipientCapacity >>= fun _ => pure recipients)
      = .ok recipients ↔ _
  rw [checked_eq_ok_iff, mapM_eq_ok_iff hentry, withinCapacity_eq_ok_iff]

theorem expectPriority_array_eq_ok_iff {values : List PropertyValue} {priority : Vector UInt32 3} :
    expectPriority (.array values) = .ok priority
      ↔ values = priority.toList.map (fun priority => .unsigned priority.toUInt64) := by
  simp only [expectPriority]
  constructor
  · intro h
    split at h
    · exact (mapM_eq_ok_iff (fun _ _ => expectUnsigned_eq_ok_iff)).mp
        (collectExact_eq_ok_iff.mp h)
    · cases h
  · rintro rfl
    have hlength : (priority.toList.map
        (fun priority => PropertyValue.unsigned priority.toUInt64)).length = 3 := by simp
    rw [dif_pos hlength, collectExact_eq_ok_iff]
    exact (mapM_eq_ok_iff (fun _ _ => expectUnsigned_eq_ok_iff)).mpr rfl

/-- What a write of a property of a notification class leaves. -/
inductive Written (s : NotificationClass) :
    PropertyIdentifier → PropertyValue → NotificationClass → Prop
  | objectName (name : String) :
      Written s .objectName (.characterString name) { s with objectName := name }
  | description (text : String) :
      Written s .description (.characterString text) { s with description := text }
  | priority {value : PropertyValue} {priority : Vector UInt32 3}
      (h : expectPriority value = .ok priority) :
      Written s .priority value { s with priority := priority }
  | ackRequired (bits : List Bool) :
      Written s .ackRequired (.bitString bits) { s with ackRequired := .fromBits bits }
  | recipientList {value : PropertyValue} {recipients : List DestinationValue}
      (h : s.expectRecipients value = .ok recipients) :
      Written s .recipientList value { s with recipientList := recipients }

theorem setProperty_eq_ok_iff {s s' : NotificationClass} {property : PropertyIdentifier}
    {value : PropertyValue} :
    s.setProperty property value = (s', .ok ()) ↔ s.Written property value s' := by
  constructor
  · intro h
    unfold setProperty at h
    split at h
    · obtain ⟨name, hname, rfl⟩ := Attempt.store_eq_ok_iff.mp h
      rw [expectString_eq_ok_iff.mp hname]
      exact .objectName name
    · obtain ⟨text, htext, rfl⟩ := Attempt.store_eq_ok_iff.mp h
      rw [expectString_eq_ok_iff.mp htext]
      exact .description text
    · obtain ⟨priority, hpriority, rfl⟩ := Attempt.store_eq_ok_iff.mp h
      exact .priority hpriority
    · obtain ⟨bits, hbits, rfl⟩ := Attempt.store_eq_ok_iff.mp h
      rw [expectBitString_eq_ok_iff.mp hbits]
      exact .ackRequired bits
    · obtain ⟨recipients, hrecipients, rfl⟩ := Attempt.store_eq_ok_iff.mp h
      exact .recipientList hrecipients
    · exact absurd h Attempt.refused_ne_ok
  · intro h
    cases h with
    | objectName name => rfl
    | description text => rfl
    | priority h => exact Attempt.store_of_ok h
    | ackRequired bits => rfl
    | recipientList h => exact Attempt.store_of_ok h

instance : BacnetObject NotificationClass where
  identifier := NotificationClass.identifier
  getProperty := getProperty
  setProperty := setProperty
  isPropertyWritable := isPropertyWritable
  propertyList := propertyList

instance : Described NotificationClass where
  Fits := fun self property => property = .recipientList →
    ∀ c, self.recipientCapacity = some c → self.recipientList.length ≤ c

/-- **A notification class keeps the laws.** -/
instance : LawfulObject NotificationClass where
  setProperty_eq := rfl
  atomic := by
    intro o property value priority
    show (setProperty o property value).Atomic o
    unfold setProperty
    split
    all_goals first
      | exact Attempt.atomic_store o _ _
      | exact Attempt.atomic_refused o _
  readable_iff := by
    intro o property
    show (∃ v, getProperty o property = .ok v) ↔ property ∈ propertyList o ∨ _
    unfold getProperty propertyList
    split <;> simp_all [Unlisted, Described.analog]
  nodup := fun o => by
    show (propertyList o).Nodup
    unfold propertyList
    decide
  set_writable := by
    intro o o' property value priority h _
    show isPropertyWritable o property = true
    cases setProperty_eq_ok_iff.mp h <;> rfl
  set_listed := by
    intro o o' property value priority h _ _
    show property ∈ propertyList o
    cases setProperty_eq_ok_iff.mp h <;> simp [propertyList]
  set_of_read := by
    intro o property value hwritable hread hrewritable
    have hproperty : property = .objectName ∨ property = .description ∨ property = .priority
        ∨ property = .ackRequired ∨ property = .recipientList := by
      simpa [BacnetObject.isPropertyWritable, isPropertyWritable] using hwritable
    rcases hproperty with rfl | rfl | rfl | rfl | rfl
    · cases hread
      exact ⟨_, setProperty_eq_ok_iff.mpr (.objectName o.objectName)⟩
    · cases hread
      exact ⟨_, setProperty_eq_ok_iff.mpr (.description o.description)⟩
    · cases hread
      exact ⟨_, setProperty_eq_ok_iff.mpr (.priority (expectPriority_array_eq_ok_iff.mpr rfl))⟩
    · cases hread
      exact ⟨_, setProperty_eq_ok_iff.mpr (.ackRequired o.ackRequired.toBits)⟩
    · cases hread
      exact ⟨_, setProperty_eq_ok_iff.mpr (.recipientList
        (expectRecipients_list_eq_ok_iff.mpr ⟨rfl, hrewritable.fits rfl⟩))⟩
  readBack := by
    intro o o' property value h _ _ _ hvalue
    show getProperty o' property = .ok (asStored property value)
    cases setProperty_eq_ok_iff.mp h with
    | objectName name => rfl
    | description text => rfl
    | priority hpriority =>
        obtain ⟨values, rfl⟩ := hvalue.array (by simp)
        rw [expectPriority_array_eq_ok_iff.mp hpriority]
        rfl
    | ackRequired bits => rfl
    | recipientList hrecipients =>
        obtain ⟨values, rfl⟩ := hvalue.list (by simp)
        rw [(expectRecipients_list_eq_ok_iff.mp hrecipients).1]
        rfl
  frame := by
    intro o o' property value q h _ hq _
    show getProperty o' q = getProperty o q
    unfold getProperty
    cases setProperty_eq_ok_iff.mp h
    all_goals split <;> first | rfl | exact absurd rfl hq

end NotificationClass

/-! ## §3. File -/

/-- `File`, as far as its properties go. -/
structure File where
  identifier : ObjectIdentifier
  objectName : String
  archive : Bool
  deriving Repr, DecidableEq

namespace File

def getProperty (self : File) (property : PropertyIdentifier) : Except ObjectError PropertyValue :=
  match property with
  | .objectIdentifier => .ok (.objectIdentifier self.identifier)
  | .objectName => .ok (.characterString self.objectName)
  | .objectType => .ok (.enumerated ObjectType.file.value)
  | .archive => .ok (.boolean self.archive)
  | _ => .error .unknownProperty

def setProperty (self : File) (property : PropertyIdentifier) (value : PropertyValue) :
    Attempt ObjectError File :=
  match property with
  | .objectName => .store self (fun name => { self with objectName := name }) (expectString value)
  | .archive => .store self (fun archive => { self with archive := archive }) (expectBoolean value)
  | _ => .refused self .propertyNotWritable

def isPropertyWritable (_self : File) (property : PropertyIdentifier) : Bool :=
  [PropertyIdentifier.objectName, .archive].contains property

def propertyList (_self : File) : List PropertyIdentifier :=
  [.objectIdentifier, .objectName, .objectType, .archive]

/-- What a write of a property of a file leaves. -/
inductive Written (s : File) : PropertyIdentifier → PropertyValue → File → Prop
  | objectName (name : String) :
      Written s .objectName (.characterString name) { s with objectName := name }
  | archive (flag : Bool) : Written s .archive (.boolean flag) { s with archive := flag }

theorem setProperty_eq_ok_iff {s s' : File} {property : PropertyIdentifier}
    {value : PropertyValue} :
    s.setProperty property value = (s', .ok ()) ↔ s.Written property value s' := by
  constructor
  · intro h
    unfold setProperty at h
    split at h
    · obtain ⟨name, hname, rfl⟩ := Attempt.store_eq_ok_iff.mp h
      rw [expectString_eq_ok_iff.mp hname]
      exact .objectName name
    · obtain ⟨flag, hflag, rfl⟩ := Attempt.store_eq_ok_iff.mp h
      rw [expectBoolean_eq_ok_iff.mp hflag]
      exact .archive flag
    · exact absurd h Attempt.refused_ne_ok
  · intro h
    cases h with
    | objectName name => rfl
    | archive flag => rfl

instance : BacnetObject File where
  identifier := File.identifier
  getProperty := getProperty
  setProperty := setProperty
  isPropertyWritable := isPropertyWritable
  propertyList := propertyList

instance : Described File where

/-- **A file keeps the laws.** -/
instance : LawfulObject File where
  setProperty_eq := rfl
  atomic := by
    intro o property value priority
    show (setProperty o property value).Atomic o
    unfold setProperty
    split
    · exact Attempt.atomic_store o _ _
    · exact Attempt.atomic_store o _ _
    · exact Attempt.atomic_refused o _
  readable_iff := by
    intro o property
    show (∃ v, getProperty o property = .ok v) ↔ property ∈ propertyList o ∨ _
    unfold getProperty propertyList
    split <;> simp_all [Unlisted, Described.analog]
  nodup := fun o => by
    show (propertyList o).Nodup
    unfold propertyList
    decide
  set_writable := by
    intro o o' property value priority h _
    show isPropertyWritable o property = true
    cases setProperty_eq_ok_iff.mp h <;> rfl
  set_listed := by
    intro o o' property value priority h _ _
    show property ∈ propertyList o
    cases setProperty_eq_ok_iff.mp h <;> simp [propertyList]
  set_of_read := by
    intro o property value hwritable hread _
    have hproperty : property = .objectName ∨ property = .archive := by
      simpa [BacnetObject.isPropertyWritable, isPropertyWritable] using hwritable
    rcases hproperty with rfl | rfl
    · cases hread
      exact ⟨_, setProperty_eq_ok_iff.mpr (.objectName o.objectName)⟩
    · cases hread
      exact ⟨_, setProperty_eq_ok_iff.mpr (.archive o.archive)⟩
  readBack := by
    intro o o' property value h _ _ _ _
    show getProperty o' property = .ok (asStored property value)
    cases setProperty_eq_ok_iff.mp h <;> rfl
  frame := by
    intro o o' property value q h _ hq _
    show getProperty o' q = getProperty o q
    unfold getProperty
    cases setProperty_eq_ok_iff.mp h
    all_goals split <;> first | rfl | exact absurd rfl hq

end File

end BacnetRs.Object
