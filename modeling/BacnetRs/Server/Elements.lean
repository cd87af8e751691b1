/-
  BacnetRs.Server.Elements — one element of an array (`server/object_service.rs`,
  `object/schedule.rs`, `object/notification_class.rs`).

  An element is written by writing its array back whole, and the property looks
  at every element of what it is given, also at those that are there already.
  Where the device has put an element there that no write may, no other element
  can be written.

    * `ObjectClass.takes_array_iff`  — an array is taken, element by element.
    * `writeProperty_element_iff`    — when a write of an element succeeds.
    * `elements_independent_iff`     — when it does so whatever the others are.
    * `element_read_back`            — what it leaves of the array.
-/
import BacnetRs.Object.Arrays
import BacnetRs.Server.Writing

namespace BacnetRs.Object

open BacnetRs.Encoding BacnetRs.Property

/-! ## §1. Element by element -/

/-- What a list is made of, each of a form. -/
theorem forall_mem_form_iff {α β : Type} {f : α → β} {P : α → Prop} {values : List β} :
    (∀ value ∈ values, ∃ x, value = f x ∧ P x)
      ↔ ∃ xs : List α, values = xs.map f ∧ ∀ x ∈ xs, P x := by
  constructor
  · intro h
    induction values with
    | nil => exact ⟨[], rfl, fun _ hx => absurd hx List.not_mem_nil⟩
    | cons value values ih =>
        obtain ⟨x, rfl, hx⟩ := h value List.mem_cons_self
        obtain ⟨xs, rfl, hxs⟩ := ih (fun other hother => h other (List.mem_cons_of_mem _ hother))
        refine ⟨x :: xs, rfl, ?_⟩
        intro y hy
        rcases List.mem_cons.mp hy with rfl | hy
        · exact hx
        · exact hxs y hy
  · rintro ⟨xs, rfl, hxs⟩ value hvalue
    obtain ⟨x, hx, rfl⟩ := List.mem_map.mp hvalue
    exact ⟨x, rfl, hxs x hx⟩

/-- A schedule takes the element for one of the property's. -/
def Schedule.TakesElement (self : Schedule) (property : PropertyIdentifier)
    (element : PropertyValue) : Prop :=
  (property = .weeklySchedule →
    ∃ day, element = .dailySchedule day ∧ self.DayFits day.timeValues) ∧
  (property = .exceptionSchedule →
    ∃ event, element = .specialEvent event ∧ priorityInRange event = true
      ∧ self.DayFits event.timeValues)

/-- A schedule takes an array of so many elements for the property. -/
def Schedule.TakesLength (self : Schedule) (property : PropertyIdentifier) (length : Nat) : Prop :=
  (property = .presentValue → self.outOfService = true) ∧
  (property = .weeklySchedule → length = 7) ∧
  (property = .exceptionSchedule → ∀ c, self.capacity.exceptions = some c → length ≤ c)

theorem Schedule.takes_array_iff {self : Schedule} {property : PropertyIdentifier}
    {values : List PropertyValue} (hproperty : property ∈ ObjectClass.schedule.elementArrays) :
    (∃ after, self.setProperty property (.array values) = (after, .ok ()))
      ↔ self.TakesLength property values.length
        ∧ ∀ element ∈ values, self.TakesElement property element := by
  unfold TakesLength TakesElement
  simp only [ObjectClass.elementArrays, List.mem_cons, List.not_mem_nil, or_false] at hproperty
  rcases hproperty with rfl | rfl | rfl | rfl
  · -- Present_Value, while it is decoupled.
    refine Iff.trans (b := self.outOfService = true) ?_ (by simp)
    show (∃ after, (if self.outOfService then _ else _) = (after, _)) ↔ _
    by_cases hout : self.outOfService = true
    · rw [if_pos hout]
      exact iff_of_true ⟨_, rfl⟩ hout
    · rw [if_neg hout]
      refine iff_of_false ?_ hout
      rintro ⟨_, h⟩
      exact Attempt.refused_ne_ok h
  · -- Schedule_Default.
    exact iff_of_true ⟨_, rfl⟩ (by simp)
  · refine Iff.trans (b := values.length = 7
      ∧ ∀ element ∈ values, ∃ day, element = .dailySchedule day ∧ self.DayFits day.timeValues)
      ?_ (by simp)
    rw [forall_mem_form_iff]
    constructor
    · rintro ⟨after, h⟩
      obtain ⟨week, hweek, -⟩ := Attempt.store_eq_ok_iff.mp h
      obtain ⟨rfl, hfits⟩ := expectWeek_array_eq_ok_iff.mp hweek
      exact ⟨by simp, week.toList, rfl, hfits⟩
    · rintro ⟨hlength, days, rfl, hfits⟩
      rw [List.length_map] at hlength
      have hweek : self.expectWeek (.array (days.map .dailySchedule))
          = .ok ⟨days.toArray, by simpa using hlength⟩ :=
        expectWeek_array_eq_ok_iff.mpr ⟨by simp, by simpa using hfits⟩
      exact ⟨_, Attempt.store_of_ok hweek⟩
  · refine Iff.trans (b := (∀ c, self.capacity.exceptions = some c → values.length ≤ c)
      ∧ ∀ element ∈ values, ∃ event, element = .specialEvent event
        ∧ priorityInRange event = true ∧ self.DayFits event.timeValues) ?_ (by simp)
    rw [forall_mem_form_iff]
    constructor
    · rintro ⟨after, h⟩
      obtain ⟨events, hevents, -⟩ := Attempt.store_eq_ok_iff.mp h
      obtain ⟨rfl, hroom, hfits⟩ := expectEvents_array_eq_ok_iff.mp hevents
      exact ⟨by simpa using hroom, events, rfl, hfits⟩
    · rintro ⟨hroom, events, rfl, hfits⟩
      rw [List.length_map] at hroom
      exact ⟨_, Attempt.store_of_ok (expectEvents_array_eq_ok_iff.mpr ⟨rfl, hroom, hfits⟩)⟩

theorem NotificationClass.takes_array_iff {self : NotificationClass}
    {values : List PropertyValue} :
    (∃ after, self.setProperty .priority (.array values) = (after, .ok ()))
      ↔ values.length = 3
        ∧ ∀ element ∈ values, ∃ priority : UInt32, element = .unsigned priority.toUInt64 := by
  constructor
  · rintro ⟨after, h⟩
    obtain ⟨priority, hpriority, -⟩ := Attempt.store_eq_ok_iff.mp h
    cases expectPriority_array_eq_ok_iff.mp hpriority
    refine ⟨by simp, ?_⟩
    intro element helement
    obtain ⟨entry, _, rfl⟩ := List.mem_map.mp helement
    exact ⟨entry, rfl⟩
  · rintro ⟨hlength, hforms⟩
    have hentries : ∀ element ∈ values, ∃ entry : UInt32,
        element = .unsigned entry.toUInt64 ∧ True := by simpa using hforms
    obtain ⟨entries, rfl, -⟩ := forall_mem_form_iff.mp hentries
    rw [List.length_map] at hlength
    have hpriority : expectPriority
        (.array (entries.map (fun priority => .unsigned priority.toUInt64)))
        = .ok ⟨entries.toArray, by simpa using hlength⟩ :=
      expectPriority_array_eq_ok_iff.mpr (by simp)
    exact ⟨_, Attempt.store_of_ok hpriority⟩

namespace ObjectClass

/-- The property takes the element for one of its array's. -/
def TakesElement : ∀ c : ObjectClass, c.State → PropertyIdentifier → PropertyValue → Prop
  | schedule, self, property, element => Schedule.TakesElement self property element
  | notificationClass, _, _, element => ∃ priority : UInt32, element = .unsigned priority.toUInt64
  | _, _, _, _ => False

/-- The property takes an array of so many elements. -/
def TakesLength : ∀ c : ObjectClass, c.State → PropertyIdentifier → Nat → Prop
  | schedule, self, property, length => Schedule.TakesLength self property length
  | notificationClass, _, _, length => length = 3
  | _, _, _, _ => False

/-- **An array is taken, element by element.** -/
theorem takes_array_iff {o : HostedObject} {property : PropertyIdentifier}
    {values : List PropertyValue} {priority : Option UInt8}
    (hproperty : property ∈ o.cls.elementArrays) :
    (∃ o', BacnetObject.setPropertyWithPriority o property (.array values) priority = (o', .ok ()))
      ↔ o.cls.TakesLength o.state property values.length
        ∧ ∀ element ∈ values, o.cls.TakesElement o.state property element := by
  have hstate : (∃ o', BacnetObject.setPropertyWithPriority o property (.array values) priority
        = (o', .ok ()))
      ↔ ∃ after, BacnetObject.setPropertyWithPriority o.state property (.array values) priority
        = (after, .ok ()) := by
    constructor
    · rintro ⟨o', h⟩
      obtain ⟨after, hset, _⟩ := Attempt.within_eq_ok_iff.mp h
      exact ⟨after, hset⟩
    · rintro ⟨after, h⟩
      exact ⟨_, Attempt.within_eq_ok_iff.mpr ⟨after, h, rfl⟩⟩
  rw [hstate]
  obtain ⟨cls, state⟩ := o
  cases cls with
  | schedule => exact Schedule.takes_array_iff hproperty
  | notificationClass =>
      cases List.mem_singleton.mp hproperty
      exact NotificationClass.takes_array_iff
  | _ => exact absurd hproperty List.not_mem_nil

end ObjectClass

/-- Two objects that are alike but for what the property holds.  Where the property reads back no
array that is written, no more is asked than that they are of one type. -/
inductive DiffersIn : PropertyIdentifier → HostedObject → HostedObject → Prop
  | presentValue (s : Schedule) (value : PropertyValue) :
      DiffersIn .presentValue ⟨.schedule, s⟩ ⟨.schedule, { s with presentValue := value }⟩
  | scheduleDefault (s : Schedule) (value : PropertyValue) :
      DiffersIn .scheduleDefault ⟨.schedule, s⟩ ⟨.schedule, { s with scheduleDefault := value }⟩
  | weeklySchedule (s : Schedule) (week : Vector DailySchedule 7) :
      DiffersIn .weeklySchedule ⟨.schedule, s⟩ ⟨.schedule, { s with weeklySchedule := week }⟩
  | exceptionSchedule (s : Schedule) (events : List SpecialEvent) :
      DiffersIn .exceptionSchedule ⟨.schedule, s⟩
        ⟨.schedule, { s with exceptionSchedule := events }⟩
  | priority (s : NotificationClass) (priority : Vector UInt32 3) :
      DiffersIn .priority ⟨.notificationClass, s⟩ ⟨.notificationClass, { s with priority }⟩
  | untaken {property : PropertyIdentifier} {o o' : HostedObject} (hcls : o'.cls = o.cls)
      (h : property ∉ o.cls.elementArrays) : DiffersIn property o o'

/-- What is taken is the same for both. -/
theorem DiffersIn.takes {property : PropertyIdentifier} {o o' : HostedObject}
    (h : DiffersIn property o o') (hproperty : property ∈ o.cls.elementArrays) :
    o'.cls.TakesLength o'.state property = o.cls.TakesLength o.state property
      ∧ o'.cls.TakesElement o'.state property = o.cls.TakesElement o.state property := by
  cases h with
  | untaken _ h => exact absurd hproperty h
  | _ => exact ⟨rfl, rfl⟩

theorem DiffersIn.cls {property : PropertyIdentifier} {o o' : HostedObject}
    (h : DiffersIn property o o') : o'.cls = o.cls := by
  cases h with
  | untaken hcls _ => exact hcls
  | _ => rfl

end BacnetRs.Object

namespace BacnetRs.Server

open BacnetRs.Encoding BacnetRs.Object BacnetRs.Property BacnetRs.Service BacnetRs.Network

/-! ## §2. When a write succeeds -/

/-- Every element of an array but one is taken. -/
def OthersTaken (object : HostedObject) (property : PropertyIdentifier) (index : UInt32)
    (values : List PropertyValue) : Prop :=
  ∀ (k : Nat) element, k ≠ index.toNat - 1 → values[k]? = some element →
    object.cls.TakesElement object.state property element

/-- Where an array is changed in one place, all of it is as before but for that place. -/
theorem forall_mem_set_iff {α : Type} {P : α → Prop} {values : List α} {k : Nat} {value : α}
    (hk : k < values.length) :
    (∀ x ∈ values.set k value, P x) ↔ P value ∧ ∀ j x, j ≠ k → values[j]? = some x → P x := by
  constructor
  · intro h
    refine ⟨h value (List.mem_set hk value), ?_⟩
    intro j x hj hx
    refine h x (List.mem_of_getElem? (i := j) ?_)
    rw [List.getElem?_set_ne (Ne.symm hj), hx]
  · rintro ⟨hvalue, hothers⟩ x hx
    obtain ⟨j, hj⟩ := List.mem_iff_getElem?.mp hx
    by_cases heq : j = k
    · subst heq
      rw [List.getElem?_set_self hk] at hj
      cases hj
      exact hvalue
    · rw [List.getElem?_set_ne (Ne.symm heq)] at hj
      exact hothers j x heq hj

namespace ObjectService

/-- The value that a request carries for one element. -/
def elementOf (request : WritePropertyRequest) : Except ObjectError PropertyValue :=
  decodeOne ((datatype (writtenProperty request)).elim .any Datatype.element) request.propertyValue

/-- The request carries an element that the property takes, for a place that its array has. -/
def Fitting (object : HostedObject) (request : WritePropertyRequest) (index : UInt32)
    (length : Nat) : Prop :=
  index ≠ 0 ∧ index.toNat - 1 < length ∧ writtenProperty request ∈ object.cls.elementArrays ∧
    object.cls.TakesLength object.state (writtenProperty request) length ∧
    ∃ element, elementOf request = .ok element ∧
      object.cls.TakesElement object.state (writtenProperty request) element

variable {self other : ObjectService} {source : Option SocketAddr}
  {request : WritePropertyRequest} {index : UInt32} {object : HostedObject}
  {values : List PropertyValue}

theorem writeElement_eq_ok_iff {value : PropertyValue}
    (hread : self.database.getProperty request.objectIdentifier (writtenProperty request)
      = .ok (.array values)) :
    self.writeElement request (writtenProperty request) index = .ok value
      ↔ index ≠ 0 ∧ index.toNat - 1 < values.length
        ∧ ∃ element, elementOf request = .ok element
          ∧ value = .array (values.set (index.toNat - 1) element) := by
  unfold writeElement
  rw [hread]
  show (if index = 0 then _ else if index.toNat - 1 < values.length then _ else _) = _ ↔ _
  by_cases hzero : index = 0
  · rw [if_pos hzero]
    exact iff_of_false (fun h => nomatch h) (fun h => h.1 hzero)
  by_cases hindex : index.toNat - 1 < values.length
  · rw [if_neg hzero, if_pos hindex]
    show (elementOf request >>= fun element =>
      pure (PropertyValue.array (values.set (index.toNat - 1) element))) = _ ↔ _
    cases elementOf request with
    | error e => exact iff_of_false (fun h => nomatch h) (fun ⟨_, _, _, h, _⟩ => nomatch h)
    | ok element =>
        show Except.ok (PropertyValue.array _) = _ ↔ _
        simp [hzero, hindex, eq_comm]
  · rw [if_neg hzero, if_neg hindex]
    exact iff_of_false (fun h => nomatch h) (fun h => hindex h.2.1)

/-- A write succeeds exactly when its value is there and is taken. -/
theorem writeProperty_eq_ok_iff :
    (self.writeProperty source request).2 = .ok ()
      ↔ ∃ value, self.valueToWrite request = .ok value
        ∧ (self.database.setPropertyWithPriority request.objectIdentifier
            (writtenProperty request) value request.priority).2 = .ok () := by
  unfold writeProperty
  cases self.valueToWrite request with
  | error e => exact iff_of_false (fun h => nomatch h) (fun ⟨_, h, _⟩ => nomatch h)
  | ok value =>
      constructor
      · intro h
        exact ⟨value, rfl, h⟩
      · rintro ⟨_, hvalue, h⟩
        cases hvalue
        exact h

/-- **A write of an element succeeds exactly when it is taken and so are the others.** -/
theorem writeProperty_element_iff (hindex : request.propertyArrayIndex = some index)
    (hobject : self.database.objects.lookup request.objectIdentifier = some object)
    (hread : self.database.getProperty request.objectIdentifier (writtenProperty request)
      = .ok (.array values)) :
    (self.writeProperty source request).2 = .ok ()
      ↔ Fitting object request index values.length
        ∧ OthersTaken object (writtenProperty request) index values := by
  have hvalue (value : PropertyValue) : self.valueToWrite request = .ok value
      ↔ index ≠ 0 ∧ index.toNat - 1 < values.length
        ∧ ∃ element, elementOf request = .ok element
          ∧ value = .array (values.set (index.toNat - 1) element) := by
    unfold valueToWrite
    rw [hindex]
    exact writeElement_eq_ok_iff hread
  rw [writeProperty_eq_ok_iff]
  constructor
  -- The array with the element set was taken as a whole, so each element was.
  · rintro ⟨value, hwritten, hset⟩
    obtain ⟨hzero, hlength, element, helement, rfl⟩ := (hvalue value).mp hwritten
    obtain ⟨found, after, hfound, htaken, _⟩ :=
      ObjectDatabase.setPropertyWithPriority_eq_ok (Prod.ext rfl hset)
    rw [hobject] at hfound
    cases hfound
    have hproperty : writtenProperty request ∈ object.cls.elementArrays := by
      rcases HostedObject.array_taken htaken with hkept | ⟨helements, _⟩
      · exact absurd hkept (ObjectDatabase.readsBack_of_read hread object hobject)
      · exact helements
    obtain ⟨hsize, hall⟩ := (ObjectClass.takes_array_iff hproperty).mp ⟨after, htaken⟩
    obtain ⟨htakes, hothers⟩ := (forall_mem_set_iff hlength).mp hall
    rw [List.length_set] at hsize
    exact ⟨⟨hzero, hlength, hproperty, hsize, element, helement, htakes⟩, hothers⟩
  -- Each element is one the array takes, so the whole is.
  · rintro ⟨⟨hzero, hlength, hproperty, hsize, element, helement, htakes⟩, hothers⟩
    refine ⟨_, (hvalue _).mpr ⟨hzero, hlength, element, helement, rfl⟩, ?_⟩
    obtain ⟨after, htaken⟩ : ∃ after, BacnetObject.setPropertyWithPriority object
        (writtenProperty request) (.array (values.set (index.toNat - 1) element)) request.priority
          = (after, .ok ()) := by
      rw [ObjectClass.takes_array_iff hproperty, List.length_set]
      exact ⟨hsize, (forall_mem_set_iff hlength).mpr ⟨htakes, hothers⟩⟩
    refine ObjectDatabase.setPropertyWithPriority_of_object ?_ hobject htaken
    intro hname
    rw [hname] at hproperty
    revert hproperty
    cases object.cls <;> decide

/-! ## §3. Whatever the others are -/

/-- Two states of an object that differ only in the other elements of an array. -/
structure DifferInOthers (first second : ObjectService) (request : WritePropertyRequest)
    (index : UInt32) where
  object : HostedObject
  object' : HostedObject
  values : List PropertyValue
  values' : List PropertyValue
  requested : request.propertyArrayIndex = some index
  hosted : first.database.objects.lookup request.objectIdentifier = some object
  hosted' : second.database.objects.lookup request.objectIdentifier = some object'
  differs : DiffersIn (writtenProperty request) object object'
  read : first.database.getProperty request.objectIdentifier (writtenProperty request)
    = .ok (.array values)
  read' : second.database.getProperty request.objectIdentifier (writtenProperty request)
    = .ok (.array values')
  length : values'.length = values.length
  same : values'[index.toNat - 1]? = values[index.toNat - 1]?

theorem DifferInOthers.fitting_iff {first second : ObjectService}
    (h : DifferInOthers first second request index) :
    Fitting h.object' request index h.values'.length
      ↔ Fitting h.object request index h.values.length := by
  have hcls : writtenProperty request ∈ h.object'.cls.elementArrays
      ↔ writtenProperty request ∈ h.object.cls.elementArrays := by rw [h.differs.cls]
  unfold Fitting
  rw [h.length, hcls]
  refine and_congr_right (fun _ => and_congr_right (fun _ => and_congr_right (fun hproperty => ?_)))
  obtain ⟨hsize, helement⟩ := h.differs.takes hproperty
  rw [hsize, helement]

/-- What a write of an element leaves: the element, and the others as they were. -/
theorem element_read_back (hindex : request.propertyArrayIndex = some index)
    (hread : self.database.getProperty request.objectIdentifier (writtenProperty request)
      = .ok (.array values)) {after : ObjectService}
    (h : self.writeProperty source request = (after, .ok ())) :
    ∃ element, elementOf request = .ok element ∧ ∀ k : UInt32,
      after.readPropertyValues request.objectIdentifier (writtenProperty request) (some k)
        = if k = index then .ok [element]
          else self.readPropertyValues request.objectIdentifier (writtenProperty request)
            (some k) := by
  have hok : (self.writeProperty source request).2 = .ok () := by rw [h]
  obtain ⟨value, hvalue, hset⟩ := writeProperty_eq_ok_iff.mp hok
  have hwritten := hvalue
  unfold valueToWrite at hwritten
  rw [hindex] at hwritten
  obtain ⟨hzero, hlength, element, helement, rfl⟩ := (writeElement_eq_ok_iff hread).mp hwritten
  have hdatabase : self.database.setPropertyWithPriority request.objectIdentifier
      (writtenProperty request) (.array (values.set (index.toNat - 1) element)) request.priority
        = (after.database, .ok ()) := by
    refine Prod.ext ?_ hset
    have hafter : after = (self.writeProperty source request).1 := by rw [h]
    rw [hafter]
    unfold writeProperty
    rw [hvalue]
    rfl
  obtain ⟨⟨object, hobject, helements⟩, hreads⟩ :=
    ObjectDatabase.array_written (ObjectDatabase.readsBack_of_read hread) hdatabase
  -- None of the three lists computed on reading has elements to write.
  have hwhole (service : ObjectService) :
      service.readWhole request.objectIdentifier (writtenProperty request)
        = service.database.getProperty request.objectIdentifier (writtenProperty request) := by
    have hplain : writtenProperty request ∉ [PropertyIdentifier.objectList, .activeCovSubscriptions,
        .propertyList] := by
      intro hmem
      revert helements
      simp only [List.mem_cons, List.not_mem_nil, or_false] at hmem
      rcases hmem with hname | hname | hname <;> rw [hname] <;> cases object.cls <;> decide
    simp only [List.mem_cons, List.not_mem_nil, or_false, not_or] at hplain
    unfold readWhole
    rw [if_neg (fun hlist => hplain.1 hlist.1), if_neg (fun hactive => hplain.2.1 hactive.1),
      if_neg hplain.2.2]
  refine ⟨element, helement, fun k => ?_⟩
  unfold readPropertyValues
  rw [hwhole, hwhole, hreads, hread]
  show selectArrayValue (.array _) (some k)
    = if k = index then Except.ok [element] else selectArrayValue (.array _) (some k)
  have hplace : index.toNat ≠ 0 := fun heq => hzero (UInt32.toNat_inj.mp heq)
  unfold selectArrayValue
  dsimp only
  -- The element at the index is the new one; the count and the others are as before.
  by_cases hk : k = index
  · subst hk
    rw [if_pos rfl, if_neg hzero, List.getElem?_set_self hlength]
  · rw [if_neg hk, List.length_set]
    by_cases hlen : k = 0
    · rw [if_pos hlen, if_pos hlen]
    · have hother : k.toNat ≠ 0 := fun heq => hlen (UInt32.toNat_inj.mp heq)
      have hne : k.toNat ≠ index.toNat := fun heq => hk (UInt32.toNat_inj.mp heq)
      rw [if_neg hlen, if_neg hlen, List.getElem?_set_ne (by omega)]

/-- **The outcome does not depend on the other elements exactly when**, for an element that is
taken, the others of both states are, or those of neither.  What a write that succeeds leaves is
the element in its place and the others as they were, of an array as long. -/
theorem elements_independent_iff {first second : ObjectService}
    (h : DifferInOthers first second request index) :
    (((first.writeProperty source request).2 = .ok ()
        ↔ (second.writeProperty source request).2 = .ok ())
      ↔ (Fitting h.object request index h.values.length →
          (OthersTaken h.object (writtenProperty request) index h.values
            ↔ OthersTaken h.object' (writtenProperty request) index h.values'))) ∧
    ∀ after, first.writeProperty source request = (after, .ok ()) →
      ∃ element, elementOf request = .ok element ∧ ∀ k : UInt32,
        after.readPropertyValues request.objectIdentifier (writtenProperty request) (some k)
          = if k = index then .ok [element]
            else first.readPropertyValues request.objectIdentifier (writtenProperty request)
              (some k) := by
  refine ⟨?_, fun after hwrite => element_read_back h.requested h.read hwrite⟩
  rw [writeProperty_element_iff h.requested h.hosted h.read,
    writeProperty_element_iff h.requested h.hosted' h.read', h.fitting_iff, and_congr_right_iff]

/-- An exception with nothing in it, of some priority. -/
def exception (priority : UInt32) : SpecialEvent :=
  ⟨.calendarReference ⟨.calendar, 1⟩, [], priority⟩

/-- A schedule with two exceptions of its own making. -/
def excepting (priority : UInt32) : ObjectService :=
  hosting ⟨.schedule, { Schedule.new 1 "Heating" with
    exceptionSchedule := [exception 5, exception priority] }⟩

/-- The first of them, written with priority 7. -/
def firstException : WritePropertyRequest where
  objectIdentifier := ⟨.schedule, 1⟩
  propertyIdentifier := PropertyIdentifier.exceptionSchedule.value
  propertyArrayIndex := some 1
  propertyValue := [0x1C, 0x01, 0x80, 0x00, 0x01, 0x2E, 0x2F, 0x39, 7]
  priority := none

/-- Two schedules that differ in their second exception. -/
def secondDiffers (priority priority' : UInt32) :
    DifferInOthers (excepting priority) (excepting priority') firstException 1 where
  object := ⟨.schedule, { Schedule.new 1 "Heating" with
    exceptionSchedule := [exception 5, exception priority] }⟩
  object' := ⟨.schedule, { Schedule.new 1 "Heating" with
    exceptionSchedule := [exception 5, exception priority'] }⟩
  values := [.specialEvent (exception 5), .specialEvent (exception priority)]
  values' := [.specialEvent (exception 5), .specialEvent (exception priority')]
  requested := rfl
  hosted := rfl
  hosted' := rfl
  differs := .exceptionSchedule { Schedule.new 1 "Heating" with
    exceptionSchedule := [exception 5, exception priority] } _
  read := rfl
  read' := rfl
  length := rfl
  same := rfl

theorem elements_independent_iff_exceptions :
    (((excepting 0).writeProperty none firstException).2 = .ok ()
        ↔ ((excepting 6).writeProperty none firstException).2 = .ok ())
      ↔ (Fitting (secondDiffers 0 6).object firstException 1 2 →
          (OthersTaken (secondDiffers 0 6).object .exceptionSchedule 1 (secondDiffers 0 6).values
            ↔ OthersTaken (secondDiffers 0 6).object' .exceptionSchedule 1
                (secondDiffers 0 6).values')) :=
  (elements_independent_iff (secondDiffers 0 6)).1

/-- **An exception that the device made itself stands in the way of writing another.** -/
theorem other_in_the_way :
    ((excepting 0).writeProperty none firstException).2.isOk = false ∧
    ((excepting 6).writeProperty none firstException).2.isOk = true ∧
    ¬ ∀ (first second : ObjectService) source request index,
      Nonempty (DifferInOthers first second request index) →
        ((first.writeProperty source request).2 = .ok ()
          ↔ (second.writeProperty source request).2 = .ok ()) := by
  have hrefused : ((excepting 0).writeProperty none firstException).2.isOk = false := by
    decide +kernel
  have htaken : ((excepting 6).writeProperty none firstException).2.isOk = true := by
    decide +kernel
  refine ⟨hrefused, htaken, fun hall => ?_⟩
  have hsame := hall (excepting 0) (excepting 6) none firstException 1 ⟨secondDiffers 0 6⟩
  cases hresult : ((excepting 6).writeProperty none firstException).2 with
  | error e =>
      rw [hresult] at htaken
      cases htaken
  | ok u =>
      rw [hsame.mpr hresult] at hrefused
      cases hrefused

end ObjectService

end BacnetRs.Server
