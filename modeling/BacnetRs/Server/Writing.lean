/-
  BacnetRs.Server.Writing — WriteProperty and WritePropertyMultiple
  (`server/object_service.rs`).

  A write carries its value encoded.  What it is, the property says; of an
  array one element may be written, which is to read the array, change it and
  write it back whole.  A recipient that writes itself into a Recipient_List
  tells where it is, and is bound to the address the request came from, before
  the list is taken.

    * `writeProperty_unchanged_iff` — a write that fails changes nothing, unless
                            it named a device and its list was not taken.
    * `writePropertyMultiple_eq_ok`, `writePropertyMultiple_eq_error` — many
                            writes are single ones in order, up to the first
                            that fails.
-/
import BacnetRs.Server.Reading
import BacnetRs.Service.Values
import BacnetRs.Service.WriteProperty

namespace BacnetRs.Server

open BacnetRs.Encoding BacnetRs.Object BacnetRs.Property BacnetRs.Service BacnetRs.Network
  BacnetRs.Cov

/-! ## §1. What is written -/

/-- `decode_one`: a value that fills `encoded` exactly.  No decoder panics, so what was
not decoded was refused. -/
def decodeOne (element : Element) (encoded : Bytes) : Except ObjectError PropertyValue :=
  match (element.decode encoded).okPart with
  | none => .error .invalidPropertyType
  | some (value, consumed) =>
      if consumed ≠ encoded.length then .error .invalidPropertyType else .ok value

/-- `decode_written_value`. -/
def decodeWrittenValue (property : PropertyIdentifier) (encoded : Bytes) :
    Except ObjectError PropertyValue :=
  match datatype property with
  -- An empty payload clears a list or an array, which is how a recipient deregisters.
  | some datatype =>
      match (decodeValuesFor property encoded).okPart.bind datatype.collect with
      | some value => .ok value
      | none => .error .invalidPropertyType
  | none => decodeOne .any encoded

/-- `AddressCache::learn`, of the device an entry of a Recipient_List names. -/
def learnEntry (source : SocketAddr) (addresses : KeyedTable ObjectIdentifier SocketAddr)
    (entry : PropertyValue) : KeyedTable ObjectIdentifier SocketAddr :=
  match entry with
  | .destination destination =>
      match destination.recipient with
      | .device device => addresses.insert device source
      | .address _ => addresses
  | _ => addresses

/-- The property a request names. -/
def writtenProperty (request : WritePropertyRequest) : PropertyIdentifier :=
  ⟨request.propertyIdentifier⟩

namespace ObjectService

/-- `write_element`: the whole array the property becomes once the element is written. -/
def writeElement (self : ObjectService) (request : WritePropertyRequest)
    (property : PropertyIdentifier) (index : UInt32) : Except ObjectError PropertyValue := do
  match ← self.database.getProperty request.objectIdentifier property with
  | .array values =>
      -- Element 0 is the length, and no array here can be resized.
      if index = 0 then .error .writeAccessDenied
      else if index.toNat - 1 < values.length then do
        let element := (datatype property).elim .any Datatype.element
        let value ← decodeOne element request.propertyValue
        return .array (values.set (index.toNat - 1) value)
      else .error .invalidArrayIndex
  | _ => .error .propertyIsNotArray

/-- The value that `write_property` writes. -/
def valueToWrite (self : ObjectService) (request : WritePropertyRequest) :
    Except ObjectError PropertyValue :=
  match request.propertyArrayIndex with
  | some index => self.writeElement request (writtenProperty request) index
  | none => decodeWrittenValue (writtenProperty request) request.propertyValue

/-- A recipient registering itself tells us where it is. -/
def learn (self : ObjectService) (source : Option SocketAddr) (property : PropertyIdentifier)
    (value : PropertyValue) : ObjectService :=
  match property, source, value with
  | .recipientList, some source, .list entries =>
      { self with addresses := entries.foldl (learnEntry source) self.addresses }
  | _, _, _ => self

/-- `write_property`. -/
def writeProperty (self : ObjectService) (source : Option SocketAddr)
    (request : WritePropertyRequest) : Attempt ObjectError ObjectService :=
  match self.valueToWrite request with
  | .error e => .refused self e
  | .ok value =>
      let learned := self.learn source (writtenProperty request) value
      .within (fun database => { learned with database := database })
        (self.database.setPropertyWithPriority request.objectIdentifier (writtenProperty request)
          value request.priority)

/-- The object, the property and the index a request names. -/
def writtenReference (request : WritePropertyRequest) : ObjectPropertyReference :=
  ⟨request.objectIdentifier, writtenProperty request, request.propertyArrayIndex⟩

/-- `write_property_multiple`: in order, stopping at the first write that fails, which is
named with its error. -/
def writePropertyMultiple (self : ObjectService) (source : Option SocketAddr)
    (request : WritePropertyMultipleRequest) :
    Attempt (ObjectError × ObjectPropertyReference) ObjectService :=
  let (written, result) := Attempt.untilFailure (fun service write =>
    service.writeProperty source write) self request.writes
  (written, result.mapError (fun failed => (failed.1, writtenReference failed.2)))

variable {self : ObjectService} {source : Option SocketAddr} {request : WritePropertyRequest}

/-! ## §2. A write that fails -/

/-- Everything that a request may change is as it was. -/
structure Unchanged (before after : ObjectService) : Prop where
  database : after.database = before.database
  subscriptions : after.subscriptions = before.subscriptions
  acknowledgements : after.acknowledgements = before.acknowledgements
  addresses : ∀ device, after.addresses.lookup device = before.addresses.lookup device

theorem Unchanged.refl (service : ObjectService) : Unchanged service service :=
  ⟨rfl, rfl, rfl, fun _ => rfl⟩

/-- The device that an entry of a Recipient_List names. -/
def namedDevice : PropertyValue → Option ObjectIdentifier
  | .destination destination =>
      match destination.recipient with
      | .device device => some device
      | .address _ => none
  | _ => none

theorem lookup_learnEntry (address : SocketAddr) (device : ObjectIdentifier)
    (addresses : KeyedTable ObjectIdentifier SocketAddr) (entry : PropertyValue) :
    (learnEntry address addresses entry).lookup device
      = if namedDevice entry = some device then some address else addresses.lookup device := by
  cases entry with
  | destination destination =>
      unfold learnEntry namedDevice
      cases hrecipient : destination.recipient with
      | device named =>
          simp only [hrecipient]
          rw [KeyedTable.lookup_insert_eq_ite]
          simp [eq_comm]
      | address mac => simp [hrecipient]
  | _ => simp [learnEntry, namedDevice]

/-- A device that an entry names is bound to the source, and no other. -/
theorem lookup_learnEntries (address : SocketAddr) (device : ObjectIdentifier)
    (entries : List PropertyValue) (addresses : KeyedTable ObjectIdentifier SocketAddr) :
    (entries.foldl (learnEntry address) addresses).lookup device
      = if some device ∈ entries.map namedDevice then some address
        else addresses.lookup device := by
  induction entries generalizing addresses with
  | nil => simp
  | cons entry rest ih =>
      rw [List.foldl_cons, ih, lookup_learnEntry]
      have hcons : some device ∈ (entry :: rest).map namedDevice
          ↔ namedDevice entry = some device ∨ some device ∈ rest.map namedDevice := by
        rw [List.map_cons, List.mem_cons, eq_comm]
      by_cases hrest : some device ∈ rest.map namedDevice
      · rw [if_pos hrest, if_pos (hcons.mpr (.inr hrest))]
      · rw [if_neg hrest]
        by_cases hentry : namedDevice entry = some device
        · rw [if_pos hentry, if_pos (hcons.mpr (.inl hentry))]
        · rw [if_neg hentry, if_neg]
          intro hmem
          rcases hcons.mp hmem with heq | hmem
          · exact hentry heq
          · exact hrest hmem

/-- The entries go into the Recipient_List of a notification class that has room. -/
def TakesRecipients (database : ObjectDatabase) (object : ObjectIdentifier)
    (entries : List PropertyValue) : Prop :=
  ∃ (s : NotificationClass) (recipients : List DestinationValue),
    database.objects.lookup object = some ⟨.notificationClass, s⟩
      ∧ entries = recipients.map .destination
      ∧ ∀ c, s.recipientCapacity = some c → recipients.length ≤ c

theorem takesRecipients_iff {database : ObjectDatabase} {object : ObjectIdentifier}
    {entries : List PropertyValue} {priority : Option UInt8} :
    (database.setPropertyWithPriority object .recipientList (.list entries) priority).2 = .ok ()
      ↔ TakesRecipients database object entries := by
  constructor
  · intro h
    obtain ⟨hosted, hosted', hlookup, hset, _⟩ :=
      ObjectDatabase.setPropertyWithPriority_eq_ok (Prod.ext rfl h)
    obtain ⟨s, recipients, rfl, htaken⟩ := HostedObject.writes_recipientList_iff.mp ⟨hosted', hset⟩
    exact ⟨s, recipients, hlookup, htaken⟩
  · rintro ⟨s, recipients, hlookup, htaken⟩
    obtain ⟨hosted', hset⟩ : ∃ hosted', BacnetObject.setPropertyWithPriority
        (⟨.notificationClass, s⟩ : HostedObject) .recipientList (.list entries) priority
          = (hosted', .ok ()) :=
      HostedObject.writes_recipientList_iff.mpr ⟨s, recipients, rfl, htaken⟩
    exact ObjectDatabase.setPropertyWithPriority_of_object (by decide) hlookup hset

/-- What a request teaches is known already, or the list that teaches it is taken. -/
def NothingLearned (self : ObjectService) (source : Option SocketAddr)
    (request : WritePropertyRequest) : Prop :=
  request.propertyArrayIndex = none → writtenProperty request = .recipientList →
    ∀ address entries, source = some address →
      decodeWrittenValue .recipientList request.propertyValue = .ok (.list entries) →
      (∀ entry ∈ entries, ∀ device, namedDevice entry = some device →
          self.addresses.lookup device = some address)
        ∨ TakesRecipients self.database request.objectIdentifier entries

/-- Apart from where devices are, a write that fails changes nothing. -/
theorem writeProperty_failed {e : ObjectError}
    (h : (self.writeProperty source request).2 = .error e) :
    (∃ e, self.valueToWrite request = .error e ∧ (self.writeProperty source request).1 = self)
      ∨ ∃ value, self.valueToWrite request = .ok value
          ∧ (self.database.setPropertyWithPriority request.objectIdentifier
              (writtenProperty request) value request.priority).2 = .error e
          ∧ (self.writeProperty source request).1
              = { self.learn source (writtenProperty request) value with
                  database := self.database } := by
  unfold writeProperty at h ⊢
  cases hvalue : self.valueToWrite request with
  | error refused => exact .inl ⟨refused, rfl, rfl⟩
  | ok value =>
      rw [hvalue] at h
      refine .inr ⟨value, rfl, h, ?_⟩
      show ({ self.learn source (writtenProperty request) value with database := _ }
        : ObjectService) = _
      rw [ObjectDatabase.setPropertyWithPriority_atomic e h]

/-- **What an element write makes**: the array that is read, with the element decoded. -/
theorem writeElement_eq_ok {property : PropertyIdentifier} {index : UInt32} {value : PropertyValue}
    (h : self.writeElement request property index = .ok value) :
    ∃ values element, self.database.getProperty request.objectIdentifier property
        = .ok (.array values)
      ∧ index.toNat - 1 < values.length
      ∧ decodeOne ((datatype property).elim .any Datatype.element) request.propertyValue
        = .ok element
      ∧ value = .array (values.set (index.toNat - 1) element) := by
  unfold writeElement at h
  cases hread : self.database.getProperty request.objectIdentifier property with
  | error e =>
      rw [hread] at h
      cases h
  | ok read =>
      rw [hread] at h
      cases read with
      | array values =>
          simp only [bind, Except.bind] at h
          split at h
          · cases h
          · split at h
            · next hindex =>
                split at h
                · cases h
                · next element helement =>
                    cases h
                    exact ⟨values, element, rfl, hindex, helement, rfl⟩
            · cases h
      | _ => cases h

/-- **A write that fails changes nothing, exactly when it teaches nothing** that was not
known, or its list is taken. -/
theorem writeProperty_unchanged_iff :
    (∀ e, (self.writeProperty source request).2 = .error e →
        Unchanged self (self.writeProperty source request).1)
      ↔ self.NothingLearned source request := by
  constructor
  · intro hunchanged hindex hproperty address entries hsource hdecoded
    have hvalue : self.valueToWrite request = .ok (.list entries) := by
      unfold valueToWrite
      rw [hindex, hproperty]
      exact hdecoded
    have hwrite : self.writeProperty source request
        = .within (fun database =>
            { self with
              addresses := entries.foldl (learnEntry address) self.addresses
              database := database })
          (self.database.setPropertyWithPriority request.objectIdentifier .recipientList
            (.list entries) request.priority) := by
      unfold writeProperty
      rw [hvalue, hproperty, hsource]
      rfl
    cases hset : (self.database.setPropertyWithPriority request.objectIdentifier .recipientList
        (.list entries) request.priority).2 with
    | ok u => exact .inr (takesRecipients_iff.mp hset)
    | error e =>
        have hsame := hunchanged e (by rw [hwrite]; exact hset)
        refine .inl (fun entry hentry device hdevice => ?_)
        rw [← hsame.addresses device, hwrite]
        show (entries.foldl (learnEntry address) self.addresses).lookup device = _
        rw [lookup_learnEntries, if_pos (List.mem_map.mpr ⟨entry, hentry, hdevice⟩)]
  · intro hnothing e herror
    rcases writeProperty_failed herror with ⟨_, _, hsame⟩ | ⟨value, hvalue, hset, hsame⟩
    · rw [hsame]
      exact .refl self
    · rw [hsame]
      unfold learn
      split
      · next address entries hproperty =>
          -- A list, so no element was written.
          have hindex : request.propertyArrayIndex = none := by
            cases hindex : request.propertyArrayIndex with
            | none => rfl
            | some index =>
                unfold valueToWrite at hvalue
                rw [hindex] at hvalue
                obtain ⟨_, _, _, _, _, harray⟩ := writeElement_eq_ok hvalue
                cases harray
          have hdecoded : decodeWrittenValue .recipientList request.propertyValue
              = .ok (.list entries) := by
            unfold valueToWrite at hvalue
            rw [hindex, hproperty] at hvalue
            exact hvalue
          rcases hnothing hindex hproperty address entries rfl hdecoded with hknown | htaken
          · refine ⟨rfl, rfl, rfl, fun device => ?_⟩
            show (entries.foldl (learnEntry address) self.addresses).lookup device = _
            rw [lookup_learnEntries]
            split
            · next hmem =>
                obtain ⟨entry, hentry, hdevice⟩ := List.mem_map.mp hmem
                exact (hknown entry hentry device hdevice).symm
            · rfl
          · rw [hproperty, takesRecipients_iff.mpr htaken] at hset
            cases hset
      · exact ⟨rfl, rfl, rfl, fun _ => rfl⟩

/-- A list of one recipient, device 5, written to an object that has no such list. -/
def misdirected : WritePropertyRequest where
  objectIdentifier := ⟨.analogValue, 1⟩
  propertyIdentifier := 102
  propertyArrayIndex := none
  propertyValue :=
    [0x82, 0x01, 0xFE, 0xB4, 0, 0, 0, 0, 0xB4, 23, 59, 59, 99, 0x0C, 0x02, 0, 0, 5,
      0x21, 1, 0x11, 0x82, 0x05, 0xE0]
  priority := none

/-- It is refused, and device 5 is bound to where it came from. -/
theorem refused_yet_learned :
    let service := hosting ⟨.analogValue, .new 1 "Setpoint"⟩
    (∃ e, (service.writeProperty (some (.v4 0x0A000005 47808)) misdirected).2 = .error e)
      ∧ ¬ Unchanged service (service.writeProperty (some (.v4 0x0A000005 47808)) misdirected).1 := by
  have hrefused : ((hosting ⟨.analogValue, .new 1 "Setpoint"⟩).writeProperty
      (some (.v4 0x0A000005 47808)) misdirected).2.isOk = false := by decide +kernel
  have hlearned : ((hosting ⟨.analogValue, .new 1 "Setpoint"⟩).writeProperty
      (some (.v4 0x0A000005 47808)) misdirected).1.addresses.lookup ⟨.device, 5⟩
        = some (.v4 0x0A000005 47808) := by decide +kernel
  refine ⟨?_, fun hsame => ?_⟩
  · cases hresult : ((hosting ⟨.analogValue, .new 1 "Setpoint"⟩).writeProperty
        (some (.v4 0x0A000005 47808)) misdirected).2 with
    | error e => exact ⟨e, rfl⟩
    | ok u =>
        rw [hresult] at hrefused
        cases hrefused
  · rw [hsame.addresses] at hlearned
    cases hlearned

/-! ## §3. Many writes -/

/-- **Many writes succeed exactly when each does**, in order. -/
theorem writePropertyMultiple_eq_ok {request : WritePropertyMultipleRequest}
    {written : ObjectService} :
    self.writePropertyMultiple source request = (written, .ok ())
      ↔ Attempt.Leads (fun service write => service.writeProperty source write) self
          request.writes written := by
  rw [← Attempt.untilFailure_eq_ok]
  unfold writePropertyMultiple
  cases Attempt.untilFailure (fun service write => service.writeProperty source write) self
      request.writes with
  | mk after result =>
      cases result with
      | ok u =>
          constructor
          · intro h
            cases h
            rfl
          · intro h
            cases h
            rfl
      | error e =>
          constructor
          · intro h
            cases congrArg Prod.snd h
          · intro h
            cases congrArg Prod.snd h

/-- **Many writes fail with the first that fails**, in the state that those before it led
to, and that one is named. -/
theorem writePropertyMultiple_eq_error {request : WritePropertyMultipleRequest}
    {written : ObjectService} {e : ObjectError} {reference : ObjectPropertyReference}
    (h : self.writePropertyMultiple source request = (written, .error (e, reference))) :
    ∃ before write after reached, request.writes = before ++ write :: after
      ∧ Attempt.Leads (fun service write => service.writeProperty source write) self before reached
      ∧ reached.writeProperty source write = (written, .error e)
      ∧ reference = writtenReference write := by
  unfold writePropertyMultiple at h
  cases hrun : Attempt.untilFailure (fun service write => service.writeProperty source write) self
      request.writes with
  | mk after result =>
      rw [hrun] at h
      cases result with
      | ok u => cases congrArg Prod.snd h
      | error failed =>
          obtain ⟨error, write⟩ := failed
          cases h
          obtain ⟨before, after, reached, hsplit, hleads, hfails⟩ :=
            Attempt.untilFailure_eq_error.mp hrun
          exact ⟨before, write, after, reached, hsplit, hleads, hfails, rfl⟩

/-- A write that fails leaves the database as it was. -/
theorem writeProperty_database_of_error {e : ObjectError} {after : ObjectService}
    (h : self.writeProperty source request = (after, .error e)) :
    after.database = self.database := by
  have hafter : after = (self.writeProperty source request).1 := by rw [h]
  have hfailed : (self.writeProperty source request).2 = .error e := by rw [h]
  rw [hafter]
  rcases writeProperty_failed hfailed with ⟨_, _, hsame⟩ | ⟨_, _, _, hsame⟩
  · rw [hsame]
  · rw [hsame]

end ObjectService

end BacnetRs.Server
