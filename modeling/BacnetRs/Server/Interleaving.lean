/-
  BacnetRs.Server.Interleaving — element writes that overlap.

  A write of one element of an array is two steps on the database, each under
  its own lock: the array is read, and later written back whole.  Writers take
  their steps in any order, and the application writes what it likes between
  them.  Of the element writes that were acknowledged, those stand that nothing
  has written since.

    * `writeProperty_uninterrupted`
                            — the two steps of one writer, with nothing in
                            between, are `write_property`.
    * `elements_kept_iff`  — the elements that stand are all read back exactly
                            when every array stored was read after them.
    * `element_lost`       — two elements of one array, one of them lost.
-/
import BacnetRs.Library.Machine
import BacnetRs.Object.Arrays
import BacnetRs.Server.Writing

namespace BacnetRs.Server

open BacnetRs.Encoding BacnetRs.Object BacnetRs.Property BacnetRs.Service

/-! ## §1. The two steps of an element write -/

/-- One element of an array property. -/
structure ElementReference where
  object : ObjectIdentifier
  property : PropertyIdentifier
  /-- Counted from zero. -/
  position : Nat
  deriving Repr, DecidableEq

/-- An element write between its two steps. -/
structure ElementWrite where
  request : WritePropertyRequest
  index : UInt32
  /-- The array as it was read, with the element in its place. -/
  values : List PropertyValue
  decoded : ∃ element,
    decodeOne ((datatype (writtenProperty request)).elim .any Datatype.element)
        request.propertyValue = .ok element
      ∧ values[index.toNat - 1]? = some element

namespace ElementWrite

/-- The element that is written. -/
def reference (write : ElementWrite) : ElementReference :=
  ⟨write.request.objectIdentifier, writtenProperty write.request, write.index.toNat - 1⟩

/-- The value it is given. -/
def element (write : ElementWrite) : Option PropertyValue :=
  write.values[write.reference.position]?

/-- It is the value the request carries. -/
theorem element_eq_some (write : ElementWrite) : ∃ element, write.element = some element
    ∧ decodeOne ((datatype write.reference.property).elim .any Datatype.element)
        write.request.propertyValue = .ok element := by
  obtain ⟨element, hdecoded, hholds⟩ := write.decoded
  exact ⟨element, hholds, hdecoded⟩

end ElementWrite

/-- What `write_element` makes holds the element the request carries. -/
theorem writeElement_decoded {self : ObjectService} {request : WritePropertyRequest}
    {index : UInt32} {values : List PropertyValue}
    (h : self.writeElement request (writtenProperty request) index = .ok (.array values)) :
    ∃ element, decodeOne ((datatype (writtenProperty request)).elim .any Datatype.element)
        request.propertyValue = .ok element
      ∧ values[index.toNat - 1]? = some element := by
  obtain ⟨read, element, _, hindex, hdecoded, harray⟩ := ObjectService.writeElement_eq_ok h
  cases harray
  refine ⟨element, hdecoded, ?_⟩
  rw [List.getElem?_set_self hindex]

namespace ObjectService

/-- The first step: the array is read, and the element put in its place. -/
def readArray (self : ObjectService) (request : WritePropertyRequest) (index : UInt32) :
    Option ElementWrite :=
  match h : self.writeElement request (writtenProperty request) index with
  | .ok (.array values) => some ⟨request, index, values, writeElement_decoded h⟩
  | _ => none

/-- The second step: the array is written back. -/
def storeArray (self : ObjectService) (write : ElementWrite) :
    Attempt ObjectError ObjectService :=
  .within (fun database => { self with database := database })
    (self.database.setPropertyWithPriority write.reference.object write.reference.property
      (.array write.values) write.request.priority)

variable {self : ObjectService} {request : WritePropertyRequest} {index : UInt32}

/-- What is read there, an element write may change. -/
theorem readArray_eq_some {write : ElementWrite} (h : self.readArray request index = some write) :
    self.writeElement request (writtenProperty request) index = .ok (.array write.values)
      ∧ write.request = request ∧ write.index = index := by
  unfold readArray at h
  split at h
  · next values heq =>
      cases h
      exact ⟨heq, rfl, rfl⟩
  · cases h

/-- **One writer's two steps, uninterrupted, are `write_property`.** -/
theorem writeProperty_uninterrupted (source : Option Network.SocketAddr)
    (hindex : request.propertyArrayIndex = some index) {write : ElementWrite}
    (h : self.readArray request index = some write) :
    self.writeProperty source request = self.storeArray write := by
  obtain ⟨hvalue, hrequest, _⟩ := readArray_eq_some h
  have hwritten : self.valueToWrite request = .ok (.array write.values) := by
    unfold valueToWrite
    rw [hindex]
    exact hvalue
  have hlearn : self.learn source (writtenProperty request) (.array write.values) = self := by
    unfold learn
    split
    · next heq => cases heq
    · rfl
  unfold writeProperty storeArray ElementWrite.reference
  rw [hwritten]
  show Attempt.within (fun database => { self.learn source (writtenProperty request)
    (.array write.values) with database := database }) _ = _
  rw [hlearn, hrequest]

/-- A store that is taken is a write of the whole array. -/
theorem storeArray_eq_ok {write : ElementWrite} (h : (self.storeArray write).2 = .ok ()) :
    self.database.setPropertyWithPriority write.reference.object write.reference.property
        (.array write.values) write.request.priority
      = ((self.storeArray write).1.database, .ok ()) :=
  Prod.ext rfl h

/-- A store that is refused changes nothing. -/
theorem storeArray_eq_error {write : ElementWrite} {e : ObjectError}
    (h : (self.storeArray write).2 = .error e) : (self.storeArray write).1 = self :=
  Attempt.Atomic.within ObjectDatabase.setPropertyWithPriority_atomic rfl e h

end ObjectService

/-! ## §2. States and events -/

/-- The service, the element writes between their two steps, by writer, and the elements
acknowledged that nothing has written since. -/
structure Interleaved (ι : Type) where
  service : ObjectService
  underWay : KeyedTable ι ElementWrite
  standing : KeyedTable ElementReference PropertyValue

namespace Interleaved

variable {ι : Type} [DecidableEq ι]

/-- What can happen. -/
inductive Event (ι : Type) where
  | readArray (writer : ι) (request : WritePropertyRequest)
  | storeArray (writer : ι)
  /-- A property written whole, by a request or the application; `set_property` gives no
  priority. -/
  | write (object : ObjectIdentifier) (property : PropertyIdentifier) (value : PropertyValue)
      (priority : Option UInt8)

/-- A service with no write under way. -/
def start (service : ObjectService) : Interleaved ι := ⟨service, ∅, ∅⟩

/-- An element write acknowledged: its element stands. -/
def acknowledge (standing : KeyedTable ElementReference PropertyValue) (write : ElementWrite) :
    KeyedTable ElementReference PropertyValue :=
  match write.element with
  | some value => standing.insert write.reference value
  | none => standing

/-- A property written whole: none of its elements stands. -/
def overwrite (standing : KeyedTable ElementReference PropertyValue) (object : ObjectIdentifier)
    (property : PropertyIdentifier) : KeyedTable ElementReference PropertyValue :=
  KeyedTable.retain
    (fun reference _ => !decide (reference.object = object ∧ reference.property = property)) standing

/-- The state once a writer has read its array, or was answered with the error. -/
def begun (self : Interleaved ι) (writer : ι) (request : WritePropertyRequest) (index : UInt32) :
    Interleaved ι :=
  match self.service.readArray request index with
  | some write => { self with underWay := self.underWay.insert writer write }
  | none => self

/-- The state once an element write is stored, or refused. -/
def stored (self : Interleaved ι) (writer : ι) (write : ElementWrite) : Interleaved ι where
  service := (self.service.storeArray write).1
  underWay := self.underWay.erase writer
  standing :=
    match (self.service.storeArray write).2 with
    | .ok () => acknowledge self.standing write
    | .error _ => self.standing

/-- The state once a property is written whole, or the write refused. -/
def written (self : Interleaved ι) (object : ObjectIdentifier) (property : PropertyIdentifier)
    (value : PropertyValue) (priority : Option UInt8) : Interleaved ι :=
  let attempt := self.service.database.setPropertyWithPriority object property value priority
  { self with
    service := { self.service with database := attempt.1 }
    standing :=
      match attempt.2 with
      | .ok () => overwrite self.standing object property
      | .error _ => self.standing }

/-- One step of a run.  A writer has one write under way at a time. -/
def step (self : Interleaved ι) : Event ι → Option (Interleaved ι)
  | .readArray writer request =>
      match self.underWay.lookup writer with
      | some _ => none
      | none => request.propertyArrayIndex.map (self.begun writer request)
  | .storeArray writer => (self.underWay.lookup writer).map (self.stored writer)
  | .write object property value priority => some (self.written object property value priority)

/-! ## §3. What is to be kept -/

/-- Every element that stands is read back. -/
def Kept (self : Interleaved ι) : Prop :=
  ∀ reference value, self.standing.lookup reference = some value →
    ∃ values, self.service.database.getProperty reference.object reference.property
        = .ok (.array values)
      ∧ values[reference.position]? = some value

/-- The array of a write holds the other elements of its property that stand. -/
def Current (self : Interleaved ι) (write : ElementWrite) : Prop :=
  ∀ reference value, self.standing.lookup reference = some value →
    reference.object = write.reference.object → reference.property = write.reference.property →
    reference.position ≠ write.reference.position →
    write.values[reference.position]? = some value

/-- No array is stored that was read before an element that stands was written. -/
def StoresCurrent (self : Interleaved ι) : Event ι → Prop
  | .storeArray writer => ∀ write, self.underWay.lookup writer = some write →
      (self.service.storeArray write).2 = .ok () → self.Current write
  | .readArray _ _ => True
  | .write _ _ _ _ => True

/-- The step leaves every element that stands to be read back. -/
def Keeps (self : Interleaved ι) (event : Event ι) : Prop :=
  ∀ self', step self event = some self' → self'.Kept

/-- What is under way and what stands are arrays that are read back when written. -/
structure Sound (run : Interleaved ι) : Prop where
  underWay : ∀ writer write, run.underWay.lookup writer = some write →
    run.service.database.ReadsBack write.reference.object write.reference.property
  standing : ∀ reference value, run.standing.lookup reference = some value →
    run.service.database.HoldsArray reference.object reference.property

omit [DecidableEq ι] in
theorem start_kept (service : ObjectService) : (start service : Interleaved ι).Kept := by
  intro reference value h
  cases h

theorem start_sound (service : ObjectService) : (start service : Interleaved ι).Sound where
  underWay := by
    intro writer write h
    cases h
  standing := by
    intro reference value h
    cases h

theorem lookup_acknowledge {standing : KeyedTable ElementReference PropertyValue}
    {write : ElementWrite} {reference : ElementReference} {value : PropertyValue} :
    (acknowledge standing write).lookup reference = some value
      ↔ (reference = write.reference ∧ write.element = some value)
        ∨ (reference ≠ write.reference ∧ standing.lookup reference = some value) := by
  obtain ⟨element, helement, _⟩ := write.element_eq_some
  unfold acknowledge
  rw [helement]
  simp only
  rw [KeyedTable.lookup_insert_eq_ite]
  by_cases heq : reference = write.reference
  · simp [heq]
  · simp [heq]

theorem lookup_overwrite {standing : KeyedTable ElementReference PropertyValue}
    {object : ObjectIdentifier} {property : PropertyIdentifier} {reference : ElementReference}
    {value : PropertyValue} :
    (overwrite standing object property).lookup reference = some value
      ↔ standing.lookup reference = some value
        ∧ ¬ (reference.object = object ∧ reference.property = property) := by
  unfold overwrite
  rw [KeyedTable.lookup_retain_eq_some, Bool.not_eq_true', decide_eq_false_iff_not]

/-! ## §4. What a store does -/

section Stores

variable {self : Interleaved ι} {write : ElementWrite}

/-- Of the elements that stand when an array is stored, those of its own property are read
of it, and the others as before. -/
theorem reads_stored (hsound : self.Sound) {writer : ι}
    (hwrite : self.underWay.lookup writer = some write)
    (h : (self.service.storeArray write).2 = .ok ()) :
    (self.service.storeArray write).1.database.HoldsArray write.reference.object
        write.reference.property
      ∧ (self.service.storeArray write).1.database.getProperty write.reference.object
          write.reference.property = .ok (.array write.values)
      ∧ ∀ reference value, self.standing.lookup reference = some value →
          ¬ (reference.object = write.reference.object
            ∧ reference.property = write.reference.property) →
          (self.service.storeArray write).1.database.getProperty reference.object
              reference.property
            = self.service.database.getProperty reference.object reference.property := by
  obtain ⟨hholds, hread⟩ := ObjectDatabase.array_written
    (hsound.underWay writer write hwrite) (ObjectService.storeArray_eq_ok h)
  refine ⟨hholds, hread, ?_⟩
  intro reference value hstanding hother
  exact (ObjectDatabase.array_frame (hsound.standing reference value hstanding)
    (ObjectService.storeArray_eq_ok h)).2 hother

/-- **A store keeps what stands exactly when its array holds it.** -/
theorem stored_kept_iff (hkept : self.Kept) (hsound : self.Sound) {writer : ι}
    (hwrite : self.underWay.lookup writer = some write)
    (h : (self.service.storeArray write).2 = .ok ()) :
    (self.stored writer write).Kept ↔ self.Current write := by
  obtain ⟨_, hread, hothers⟩ := reads_stored hsound hwrite h
  have hstanding : (self.stored writer write).standing = acknowledge self.standing write := by
    unfold stored
    rw [h]
  constructor
  · intro hkept' reference value hlookup hobject hproperty hposition
    have hne : reference ≠ write.reference := fun heq => hposition (congrArg _ heq)
    have hlookup' : (self.stored writer write).standing.lookup reference = some value := by
      rw [hstanding, lookup_acknowledge]
      exact .inr ⟨hne, hlookup⟩
    obtain ⟨values, hvalues, hvalue⟩ := hkept' reference value hlookup'
    rw [hobject, hproperty] at hvalues
    cases hread.symm.trans hvalues
    exact hvalue
  · intro hcurrent reference value hlookup
    rw [hstanding, lookup_acknowledge] at hlookup
    rcases hlookup with ⟨rfl, helement⟩ | ⟨hne, hlookup⟩
    · exact ⟨write.values, hread, helement⟩
    · by_cases hsame : reference.object = write.reference.object
        ∧ reference.property = write.reference.property
      · obtain ⟨hobject, hproperty⟩ := hsame
        refine ⟨write.values, ?_, hcurrent reference value hlookup hobject hproperty ?_⟩
        · rw [hobject, hproperty]
          exact hread
        · -- the same array, so another place in it
          intro hposition
          apply hne
          cases reference
          simp_all
      · obtain ⟨values, hvalues, hvalue⟩ := hkept reference value hlookup
        refine ⟨values, ?_, hvalue⟩
        have hsame := hothers reference value hlookup hsame
        exact hsame.trans hvalues

/-- A store that is refused leaves everything as it stands. -/
theorem stored_kept_of_error (hkept : self.Kept) {writer : ι} {e : ObjectError}
    (h : (self.service.storeArray write).2 = .error e) : (self.stored writer write).Kept := by
  intro reference value hlookup
  have hstanding : (self.stored writer write).standing = self.standing := by
    unfold stored
    rw [h]
  rw [hstanding] at hlookup
  show ∃ values, (self.service.storeArray write).1.database.getProperty _ _ = _ ∧ _
  rw [ObjectService.storeArray_eq_error h]
  exact hkept reference value hlookup

theorem stored_sound (hsound : self.Sound) {writer : ι}
    (hwrite : self.underWay.lookup writer = some write) : (self.stored writer write).Sound := by
  -- A write that is refused leaves the service, and so what is under way still stands.
  cases h : (self.service.storeArray write).2 with
  | error e =>
      have hservice : (self.stored writer write).service = self.service :=
        ObjectService.storeArray_eq_error h
      constructor
      · intro other write' hother
        rw [hservice]
        refine hsound.underWay other write' ?_
        have hother : (self.underWay.erase writer).lookup other = some write' := hother
        rw [KeyedTable.lookup_erase_eq_ite] at hother
        split at hother
        · cases hother
        · exact hother
      · intro reference value hlookup
        rw [hservice]
        refine hsound.standing reference value ?_
        unfold stored at hlookup
        rw [h] at hlookup
        exact hlookup
  | ok u =>
      have hset := ObjectService.storeArray_eq_ok h
      constructor
      · intro other write' hother
        have hother : (self.underWay.erase writer).lookup other = some write' := hother
        rw [KeyedTable.lookup_erase_eq_ite] at hother
        split at hother
        · cases hother
        -- Whatever else is under way survives this write too.
        · exact (hsound.underWay other write' hother).of_write hset
      · intro reference value hlookup
        unfold stored at hlookup
        rw [h] at hlookup
        rcases lookup_acknowledge.mp hlookup with ⟨rfl, _⟩ | ⟨_, hlookup⟩
        · exact (reads_stored hsound hwrite h).1
        · exact (ObjectDatabase.array_frame (hsound.standing reference value hlookup) hset).1

end Stores

/-! ## §5. What a write of a whole property does -/

section Writes

variable {self : Interleaved ι} {object : ObjectIdentifier} {property : PropertyIdentifier}
  {value : PropertyValue} {priority : Option UInt8}

omit [DecidableEq ι] in
/-- A write that is refused changes nothing. -/
theorem written_of_error {e : ObjectError}
    (h : (self.service.database.setPropertyWithPriority object property value priority).2
      = .error e) : self.written object property value priority = self := by
  unfold written
  simp only [h, ObjectDatabase.setPropertyWithPriority_atomic e h]

theorem written_kept (hkept : self.Kept) (hsound : self.Sound) :
    (self.written object property value priority).Kept := by
  cases h : (self.service.database.setPropertyWithPriority object property value priority).2 with
  | error e =>
      rw [written_of_error h]
      exact hkept
  | ok u =>
      intro reference standing hlookup
      unfold written at hlookup
      simp only [h] at hlookup
      obtain ⟨hlookup, hother⟩ := lookup_overwrite.mp hlookup
      obtain ⟨values, hvalues, hvalue⟩ := hkept reference standing hlookup
      have hsame := (ObjectDatabase.array_frame (hsound.standing reference standing hlookup)
        (Prod.ext rfl h)).2 hother
      exact ⟨values, hsame.trans hvalues, hvalue⟩

theorem written_sound (hsound : self.Sound) :
    (self.written object property value priority).Sound := by
  cases h : (self.service.database.setPropertyWithPriority object property value priority).2 with
  | error e =>
      rw [written_of_error h]
      exact hsound
  | ok u =>
      constructor
      · intro writer write hwrite
        exact (hsound.underWay writer write hwrite).of_write (Prod.ext rfl h)
      · intro reference standing hlookup
        unfold written at hlookup
        simp only [h] at hlookup
        exact (ObjectDatabase.array_frame
          (hsound.standing reference standing (lookup_overwrite.mp hlookup).1)
          (Prod.ext rfl h)).1

end Writes

/-! ## §6. Over every run -/

/-- Reading an array changes nothing but what is under way. -/
theorem step_readArray {self self' : Interleaved ι} {writer : ι} {request : WritePropertyRequest}
    (hstep : step self (.readArray writer request) = some self') :
    self' = self ∨ ∃ index write, self.service.readArray request index = some write
      ∧ self' = { self with underWay := self.underWay.insert writer write } := by
  cases hfree : self.underWay.lookup writer with
  | some write =>
      simp only [step, hfree] at hstep
      cases hstep
  | none =>
      simp only [step, hfree] at hstep
      obtain ⟨index, _, rfl⟩ := Option.map_eq_some_iff.mp hstep
      unfold begun
      cases hread : self.service.readArray request index with
      | some write => exact .inr ⟨index, write, hread, rfl⟩
      | none => exact .inl rfl

/-- A write under way is of an array that is read back. -/
theorem begun_sound {self : Interleaved ι} (hsound : self.Sound) {writer : ι}
    {request : WritePropertyRequest} {index : UInt32} {write : ElementWrite}
    (h : self.service.readArray request index = some write) :
    Sound { self with underWay := self.underWay.insert writer write } := by
  refine ⟨?_, hsound.standing⟩
  intro other write' hother
  have hother : (self.underWay.insert writer write).lookup other = some write' := hother
  rw [KeyedTable.lookup_insert_eq_ite] at hother
  split at hother
  · cases hother
    obtain ⟨hvalue, rfl, _⟩ := ObjectService.readArray_eq_some h
    obtain ⟨values, _, hread, _⟩ := ObjectService.writeElement_eq_ok hvalue
    exact ObjectDatabase.readsBack_of_read hread
  · exact hsound.underWay other write' hother

theorem step_sound {self self' : Interleaved ι} {event : Event ι} (hsound : self.Sound)
    (hstep : step self event = some self') : self'.Sound := by
  cases event with
  | readArray writer request =>
      rcases step_readArray hstep with rfl | ⟨_, _, hread, rfl⟩
      · exact hsound
      · exact begun_sound hsound hread
  | storeArray writer =>
      obtain ⟨write, hwrite, rfl⟩ := Option.map_eq_some_iff.mp hstep
      exact stored_sound hsound hwrite
  | write object property value priority =>
      cases hstep
      exact written_sound hsound

/-- A step keeps what stands exactly when it stores no array read too early. -/
theorem storesCurrent_iff {self : Interleaved ι} (hkept : self.Kept) (hsound : self.Sound)
    (event : Event ι) : self.StoresCurrent event ↔ self.Keeps event := by
  cases event with
  | readArray writer request =>
      refine iff_of_true trivial ?_
      intro self' hstep
      rcases step_readArray hstep with rfl | ⟨_, _, _, rfl⟩
      · exact hkept
      · exact hkept
  | storeArray writer =>
      constructor
      · intro hcurrent self' hstep
        obtain ⟨write, hwrite, rfl⟩ := Option.map_eq_some_iff.mp hstep
        cases h : (self.service.storeArray write).2 with
        | error e => exact stored_kept_of_error hkept h
        | ok u => exact (stored_kept_iff hkept hsound hwrite h).mpr (hcurrent write hwrite h)
      · intro hkeeps write hwrite h
        refine (stored_kept_iff hkept hsound hwrite h).mp (hkeeps _ ?_)
        exact Option.map_eq_some_iff.mpr ⟨write, hwrite, rfl⟩
  | write object property value priority =>
      refine iff_of_true trivial ?_
      intro self' hstep
      cases hstep
      exact written_kept hkept hsound

/-- **The elements that stand are all kept exactly when every array stored is current.**
Whichever writers write whichever elements, however their steps fall, and whatever is
written whole between them: in every state of the run each element that was acknowledged
and not written since is read back, if and only if no array was stored that was read
without another element of it that stands. -/
theorem elements_kept_iff (service : ObjectService) (events : List (Event ι)) :
    Machine.Throughout step StoresCurrent (start service) events
      ↔ Machine.Throughout step Keeps (start service) events :=
  Machine.throughout_iff (P := fun self : Interleaved ι => self.Kept ∧ self.Sound)
    (fun _ event h => storesCurrent_iff h.1 h.2 event)
    (fun _ _ self' hkeeps h hstep => ⟨hkeeps self' hstep, step_sound h.2 hstep⟩)
    ⟨start_kept service, start_sound service⟩

/-! ## §7. An element lost -/

/-- A device with one notification class. -/
def oneClass : ObjectService where
  database := ((ObjectDatabase.new (Device.new 1234 "Test")).addObject
    ⟨.notificationClass, NotificationClass.new 1 "Alarms"⟩).1
  addresses := ∅
  subscriptions := .empty ⟨none, none⟩
  acknowledgements := []

/-- A request to write `octet` to one element of its Priority. -/
def setsPriority (index : UInt32) (octet : UInt8) : WritePropertyRequest where
  objectIdentifier := ⟨.notificationClass, 1⟩
  propertyIdentifier := PropertyIdentifier.priority.value
  propertyArrayIndex := some index
  propertyValue := [0x21, octet]
  priority := none

/-- Both arrays are read before either is stored. -/
def overlapping : List (Event Nat) :=
  [.readArray 0 (setsPriority 1 10), .readArray 1 (setsPriority 2 20),
    .storeArray 0, .storeArray 1]

/-- **Of two elements written, one is lost.**  Both writes are acknowledged, nothing else
is written, and the first element reads as it did before them. -/
theorem element_lost :
    ∃ self : Interleaved Nat, Machine.run step (start oneClass) overlapping = some self
      ∧ self.standing.lookup ⟨⟨.notificationClass, 1⟩, .priority, 0⟩ = some (.unsigned 10)
      ∧ self.standing.lookup ⟨⟨.notificationClass, 1⟩, .priority, 1⟩ = some (.unsigned 20)
      ∧ self.service.database.getProperty ⟨.notificationClass, 1⟩ .priority
        = .ok (.array [.unsigned 255, .unsigned 20, .unsigned 255])
      ∧ ¬ self.Kept := by
  have hends : (Machine.run step (start oneClass) overlapping).map
      (fun self : Interleaved Nat =>
        (self.standing.lookup ⟨⟨.notificationClass, 1⟩, .priority, 0⟩,
          self.standing.lookup ⟨⟨.notificationClass, 1⟩, .priority, 1⟩,
          self.service.database.getProperty ⟨.notificationClass, 1⟩ .priority))
      = some (some (.unsigned 10), some (.unsigned 20),
          .ok (.array [.unsigned 255, .unsigned 20, .unsigned 255])) := rfl
  obtain ⟨self, hrun, hfacts⟩ := Option.map_eq_some_iff.mp hends
  obtain ⟨hfirst, hsecond, hread⟩ :
      self.standing.lookup ⟨⟨.notificationClass, 1⟩, .priority, 0⟩ = some (.unsigned 10)
        ∧ self.standing.lookup ⟨⟨.notificationClass, 1⟩, .priority, 1⟩ = some (.unsigned 20)
        ∧ self.service.database.getProperty ⟨.notificationClass, 1⟩ .priority
          = .ok (.array [.unsigned 255, .unsigned 20, .unsigned 255]) := by
    simpa only [Prod.mk.injEq] using hfacts
  refine ⟨self, hrun, hfirst, hsecond, hread, fun hkept => ?_⟩
  obtain ⟨values, hvalues, hvalue⟩ := hkept _ _ hfirst
  cases hread.symm.trans hvalues
  cases hvalue

end Interleaved

end BacnetRs.Server
