/-
  BacnetRs.Server.Reading — ReadProperty and ReadPropertyMultiple
  (`server/object_service.rs`).

  The service reads the database, and answers three properties itself: the
  device's list of objects, its list of subscriptions, and every object's list
  of properties.

    * `listExact_iff`       — what is listed is what can be read, unless an
                              analog object reports and has no limits.
    * `readPropertyMultiple_agrees`
                            — reading many properties at once is reading each
                              of them.
-/
import BacnetRs.Cov.Subscriptions
import BacnetRs.Object.Agreement
import BacnetRs.Object.Store
import BacnetRs.Service.Choice
import BacnetRs.Service.ReadProperty

namespace BacnetRs.Server

open BacnetRs.Encoding BacnetRs.Object BacnetRs.Property BacnetRs.Service BacnetRs.Network
  BacnetRs.Cov

/-! ## §1. The service -/

/-- An alarm an operator has acknowledged, waiting to be announced. -/
structure Acknowledgement where
  object : ObjectIdentifier
  /-- The state whose transition was acknowledged. -/
  state : EventState
  deriving Repr, DecidableEq

/-- `ObjectService`: the objects, and what the services over them keep. -/
structure ObjectService where
  database : ObjectDatabase
  /-- Where devices are, as learned from their requests. -/
  addresses : KeyedTable ObjectIdentifier SocketAddr
  subscriptions : CovSubscriptions
  /-- Acknowledgements received and not yet taken. -/
  acknowledgements : List Acknowledgement

/-- `object_error_codes`. -/
def objectErrorCodes : ObjectError → UInt32 × UInt32
  | .notFound => (1, 31)
  | .instanceNotFound => (1, 31)
  | .propertyNotFound => (2, 32)
  | .unknownProperty => (2, 32)
  | .propertyNotWritable => (2, 40)
  | .writeAccessDenied => (2, 40)
  | .invalidPropertyType => (2, 9)
  | .invalidValue _ => (2, 37)
  | .propertyIsNotArray => (2, 50)
  | .invalidArrayIndex => (2, 42)
  | .optionalFunctionalityNotSupported => (2, 45)
  | .noSpaceToAddListElement => (3, 19)
  | .noSpaceToWriteProperty => (3, 20)
  | .invalidTimeStamp => (5, 14)
  | .typeNotSupported => (1, 0)
  | .invalidConfiguration _ => (1, 0)

/-- `select_array_value`: a collection whole, or one element of an array. -/
def selectArrayValue : PropertyValue → Option UInt32 → Except ObjectError (List PropertyValue)
  | .array values, none => .ok values
  | .list values, none => .ok values
  | .array values, some index =>
      -- Element 0 is the count.
      if index = 0 then .ok [.unsigned (UInt64.ofNat values.length)]
      else
        match values[index.toNat - 1]? with
        | some value => .ok [value]
        | none => .error .invalidArrayIndex
  | .list _, some _ => .error .propertyIsNotArray
  | value, none => .ok [value]
  | _, some _ => .error .propertyIsNotArray

/-- `mac_from_socket_address`: only an IPv4 peer has one. -/
def macFromSocketAddress : SocketAddr → Option Bytes
  | .v4 ip port => some (Octets.beOctets 4 ip.toNat ++ Octets.beOctets 2 port.toNat)
  | .v6 _ _ _ _ => none

/-- What `active_cov_subscriptions` sorts by. -/
def subscriptionOrder (subscription : Subscription) : List UInt32 :=
  let key := subscription.key
  [key.processIdentifier, key.monitoredObject.objectType.value, key.monitoredObject.instanceNumber,
    key.monitoredProperty.elim 0 (fun property => property.value + 1)]

/-- A live subscription as Active_COV_Subscriptions describes it; `none` for a peer with
no address to describe it by. -/
def describeSubscription (now : Nat) (subscription : Subscription) : Option PropertyValue :=
  (macFromSocketAddress subscription.key.address).map (fun mac =>
    .covSubscription
      { -- Network zero is the local one, where a subscriber that reached us directly is.
        recipient := ⟨.address ⟨0, mac⟩, subscription.key.processIdentifier⟩
        monitoredProperty :=
          ⟨subscription.key.monitoredObject,
            subscription.key.monitoredProperty.getD .presentValue, none⟩
        issueConfirmedNotifications := subscription.confirmed
        timeRemaining := subscription.timeRemaining now
        covIncrement := subscription.covIncrement })

namespace ObjectService

/-- `ObjectService::new`. -/
def new (database : ObjectDatabase) : ObjectService where
  database := database
  addresses := ∅
  subscriptions := .empty ⟨none, none⟩
  acknowledgements := []

/-- `active_cov_subscriptions`. -/
def activeCovSubscriptions (self : ObjectService) : List PropertyValue :=
  (self.subscriptions.all.mergeSort
      (fun x y => decide (subscriptionOrder x ≤ subscriptionOrder y))).filterMap
    (describeSubscription self.subscriptions.now)

/-- One more property on a list, unless it is there. -/
def addMissing (property : PropertyIdentifier) (properties : List PropertyIdentifier) :
    List PropertyIdentifier :=
  if property ∈ properties then properties else properties ++ [property]

/-- `properties_for`. -/
def propertiesFor (self : ObjectService) (object : ObjectIdentifier) :
    Except ObjectError (List PropertyIdentifier) := do
  let properties ← self.database.propertyList object
  let properties :=
    if object = self.database.deviceId then
      addMissing .activeCovSubscriptions (addMissing .objectList properties)
    else properties
  return addMissing .propertyList properties

/-- A property that Property_List leaves out. -/
def leftOut (property : PropertyIdentifier) : Bool :=
  [PropertyIdentifier.objectIdentifier, .objectName, .objectType, .propertyList].contains property

/-- What `read_property_values` reads, before an element of it is selected. -/
def readWhole (self : ObjectService) (object : ObjectIdentifier) (property : PropertyIdentifier) :
    Except ObjectError PropertyValue :=
  let isDevice := object = self.database.deviceId
  -- The two lists the device computes on reading.
  if property = .objectList ∧ isDevice then
    .ok (.array (self.database.getAllObjects.map .objectIdentifier))
  else if property = .activeCovSubscriptions ∧ isDevice then
    .ok (.list self.activeCovSubscriptions)
  else if property = .propertyList then do
    let properties ← self.propertiesFor object
    return .array ((properties.filter (fun listed => !leftOut listed)).map
      (fun listed => .enumerated listed.value))
  else self.database.getProperty object property

/-- `read_property_values`. -/
def readPropertyValues (self : ObjectService) (object : ObjectIdentifier)
    (property : PropertyIdentifier) (index : Option UInt32) :
    Except ObjectError (List PropertyValue) := do
  let value ← self.readWhole object property
  selectArrayValue value index

/-- `read_property`. -/
def readProperty (self : ObjectService) (request : ReadPropertyRequest) :
    Except ObjectError ReadPropertyResponse := do
  let values ← self.readPropertyValues request.objectIdentifier request.propertyIdentifier
    request.propertyArrayIndex
  return ⟨request.objectIdentifier, request.propertyIdentifier, request.propertyArrayIndex, values⟩

/-- The references of `expand_property_references` that one of them becomes. -/
def expandReference (self : ObjectService) (object : ObjectIdentifier)
    (reference : PropertyReference) : Except ObjectError (List PropertyReference) :=
  if reference.propertyIdentifier = .all then do
    let properties ← self.propertiesFor object
    return properties.map (fun property => ⟨property, reference.propertyArrayIndex⟩)
  else return [reference]

/-- `expand_property_references`. -/
def expandPropertyReferences (self : ObjectService) (object : ObjectIdentifier)
    (references : List PropertyReference) : Except ObjectError (List PropertyReference) :=
  List.flatten <$> references.mapM (self.expandReference object)

/-- `PropertyResult::error`, with an object error's class and code. -/
def errorResult (reference : PropertyReference) (error : ObjectError) : PropertyResult where
  propertyIdentifier := reference.propertyIdentifier
  arrayIndex := reference.propertyArrayIndex
  value := .error (objectErrorCodes error).1 (objectErrorCodes error).2

/-- The result of one reference of `read_property_multiple`, once expanded. -/
def readReference (self : ObjectService) (object : ObjectIdentifier)
    (reference : PropertyReference) : PropertyResult :=
  match self.readPropertyValues object reference.propertyIdentifier reference.propertyArrayIndex with
  | .ok values => ⟨reference.propertyIdentifier, reference.propertyArrayIndex, .value values⟩
  | .error error => errorResult reference error

/-- The results of one specification of `read_property_multiple`. -/
def readSpecification (self : ObjectService) (specification : ReadAccessSpecification) :
    ReadAccessResult where
  objectIdentifier := specification.objectIdentifier
  results :=
    match self.expandPropertyReferences specification.objectIdentifier
        specification.propertyReferences with
    | .ok references => references.map (self.readReference specification.objectIdentifier)
    -- Every reference as it was asked for answers with the one error.
    | .error error =>
        specification.propertyReferences.map (fun reference => errorResult reference error)

/-- `read_property_multiple`. -/
def readPropertyMultiple (self : ObjectService) (request : ReadPropertyMultipleRequest) :
    ReadPropertyMultipleResponse where
  readAccessResults := request.readAccessSpecifications.map self.readSpecification

variable {self : ObjectService} {object : ObjectIdentifier} {property : PropertyIdentifier}

/-! ## §2. What is listed and what can be read -/

theorem mem_addMissing {listed added : PropertyIdentifier}
    {properties : List PropertyIdentifier} :
    listed ∈ addMissing added properties ↔ listed ∈ properties ∨ listed = added := by
  unfold addMissing
  split
  · next hmem =>
      refine ⟨Or.inl, ?_⟩
      rintro (h | rfl)
      · exact h
      · exact hmem
  · rw [List.mem_append, List.mem_singleton]

theorem nodup_addMissing {added : PropertyIdentifier} {properties : List PropertyIdentifier}
    (h : properties.Nodup) : (addMissing added properties).Nodup := by
  unfold addMissing
  split
  · exact h
  · next hmem => exact List.nodup_append.mpr ⟨h, List.nodup_singleton _, by
      rintro listed hlisted other hother rfl
      exact hmem (List.mem_singleton.mp hother ▸ hlisted)⟩

/-- A hosted object has a list of properties: the database's, and those that the service
answers. -/
theorem propertiesFor_of_hosted {hosted : HostedObject}
    (h : self.database.objects.lookup object = some hosted) :
    ∃ listed properties, self.database.propertyList object = .ok listed
      ∧ self.propertiesFor object = .ok properties ∧ properties.Nodup
      ∧ ∀ property, property ∈ properties ↔ property ∈ listed ∨ property = .propertyList
          ∨ (object = self.database.deviceId
              ∧ (property = .objectList ∨ property = .activeCovSubscriptions)) := by
  obtain ⟨listed, hlisted⟩ : ∃ listed, self.database.propertyList object = .ok listed := by
    unfold ObjectDatabase.propertyList
    rw [h]
    exact ⟨_, rfl⟩
  have hnodup := ObjectDatabase.propertyList_nodup hlisted
  refine ⟨listed, _, hlisted, by unfold propertiesFor; rw [hlisted]; rfl, ?_, ?_⟩
  · split
    · exact nodup_addMissing (nodup_addMissing (nodup_addMissing hnodup))
    · exact nodup_addMissing hnodup
  · intro property
    split
    · next hdevice =>
        simp only [mem_addMissing, hdevice, true_and]
        tauto
    · next hdevice =>
        simp only [mem_addMissing, hdevice, false_and, or_false]

theorem propertiesFor_of_missing (h : self.database.objects.lookup object = none) :
    self.propertiesFor object = .error .notFound := by
  unfold propertiesFor ObjectDatabase.propertyList
  rw [h]
  rfl

/-- Any value can be read whole. -/
theorem selectArrayValue_whole (value : PropertyValue) :
    ∃ values, selectArrayValue value none = .ok values := by
  cases value <;> exact ⟨_, rfl⟩

theorem readProperty_whole_iff :
    (∃ response, self.readProperty ⟨object, property, none⟩ = .ok response)
      ↔ ∃ value, self.readWhole object property = .ok value := by
  unfold readProperty readPropertyValues
  cases self.readWhole object property with
  | error e =>
      constructor
      · rintro ⟨response, h⟩
        cases h
      · rintro ⟨value, h⟩
        cases h
  | ok value =>
      obtain ⟨values, hvalues⟩ := selectArrayValue_whole value
      refine iff_of_true ⟨⟨object, property, none, values⟩, ?_⟩ ⟨value, rfl⟩
      show Except.bind (selectArrayValue value none) _ = _
      rw [hvalues]
      rfl

/-- What the service reads of an object: its own properties, or the database's. -/
theorem readWhole_readable_iff {hosted : HostedObject}
    (h : self.database.objects.lookup object = some hosted) :
    (∃ value, self.readWhole object property = .ok value)
      ↔ property = .propertyList
        ∨ (object = self.database.deviceId
            ∧ (property = .objectList ∨ property = .activeCovSubscriptions))
        ∨ ∃ value, self.database.getProperty object property = .ok value := by
  obtain ⟨_, properties, _, hproperties, _⟩ := propertiesFor_of_hosted h
  unfold readWhole
  simp only
  split
  · next hlist => exact iff_of_true ⟨_, rfl⟩ (.inr (.inl ⟨hlist.2, .inl hlist.1⟩))
  · next hlist =>
      split
      · next hactive => exact iff_of_true ⟨_, rfl⟩ (.inr (.inl ⟨hactive.2, .inr hactive.1⟩))
      · next hactive =>
          split
          · next heq =>
              refine iff_of_true ?_ (.inl heq)
              rw [hproperties]
              exact ⟨_, rfl⟩
          · next hne =>
              constructor
              · intro hread
                exact .inr (.inr hread)
              · rintro (heq | ⟨hdevice, heq | heq⟩ | hread)
                · exact absurd heq hne
                · exact absurd ⟨heq, hdevice⟩ hlist
                · exact absurd ⟨heq, hdevice⟩ hactive
                · exact hread

/-- The list of an object's properties is exact: nothing is on it twice, and on it is
what can be read. -/
def ListExact (self : ObjectService) (object : ObjectIdentifier) : Prop :=
  ∃ properties, self.propertiesFor object = .ok properties ∧ properties.Nodup
    ∧ ∀ property, property ≠ .all →
      ((∃ response, self.readProperty ⟨object, property, none⟩ = .ok response)
        ↔ property ∈ properties)

/-- What can be read is what is listed, but for `Unlisted`. -/
theorem readable_iff {hosted : HostedObject}
    (h : self.database.objects.lookup object = some hosted) {properties : List PropertyIdentifier}
    (hproperties : self.propertiesFor object = .ok properties) :
    (∃ response, self.readProperty ⟨object, property, none⟩ = .ok response)
      ↔ property ∈ properties ∨ Unlisted hosted property := by
  obtain ⟨listed, _, hlisted, hfound, _, hmem⟩ := propertiesFor_of_hosted h
  rw [hproperties] at hfound
  cases hfound
  rw [readProperty_whole_iff, readWhole_readable_iff h, ObjectDatabase.readable_iff h, hmem, hlisted]
  simp only [Except.ok.injEq, exists_eq_left']
  tauto

/-- **What is listed is what can be read**, of a hosted object of any type in any state,
exactly when it is not an analog object that reports and has no limits. -/
theorem listExact_iff {hosted : HostedObject}
    (h : self.database.objects.lookup object = some hosted) :
    self.ListExact object
      ↔ ¬ ∃ state, Described.analog hosted = some state ∧ state.LimitsMissing := by
  obtain ⟨listed, properties, hlisted, hproperties, hnodup, hmem⟩ := propertiesFor_of_hosted h
  constructor
  · rintro ⟨_, hfound, _, hexact⟩ hmissing
    rw [hproperties] at hfound
    cases hfound
    have hunlisted : Unlisted hosted .deadband := ⟨hmissing, .inl rfl⟩
    have hread := (readable_iff h hproperties).mpr (.inr hunlisted)
    rcases (hmem _).mp ((hexact .deadband (by decide)).mp hread) with hfound | hfound | ⟨_, hfound⟩
    · -- The database lists what the object does, the clock's and the vendors' properties.
      exact ObjectDatabase.unlisted_not_listed h hunlisted hlisted hfound
    · cases hfound
    · rcases hfound with hfound | hfound
      · cases hfound
      · cases hfound
  · intro hlimits
    refine ⟨properties, hproperties, hnodup, fun property _ => ?_⟩
    rw [readable_iff h hproperties]
    constructor
    · rintro (hlisted | hunlisted)
      · exact hlisted
      · exact absurd hunlisted.1 hlimits
    · exact Or.inl

/-- A device that hosts one object. -/
def hosting (object : HostedObject) : ObjectService :=
  .new ((ObjectDatabase.new (.new 1234 "Test device")).addObject object).1

/-- The list of a new Analog Value is exact. -/
theorem listExact_iff_setpoint :
    (hosting ⟨.analogValue, .new 1 "Setpoint"⟩).ListExact ⟨.analogValue, 1⟩ := by
  have hfound : (hosting ⟨.analogValue, .new 1 "Setpoint"⟩).database.objects.lookup
      ⟨.analogValue, 1⟩ = some ⟨.analogValue, .new 1 "Setpoint"⟩ := rfl
  refine (listExact_iff hfound).mpr ?_
  rintro ⟨state, hstate, hmissing⟩
  cases hstate
  exact absurd hmissing.1 (by decide)

/-- Deadband of one that reports and has no limits is read, and not listed. -/
theorem deadband_not_listed :
    ¬ (hosting HostedObject.reportingSetpoint).ListExact ⟨.analogValue, 1⟩ := by
  rintro ⟨properties, hproperties, _, hexact⟩
  have hread : ((hosting HostedObject.reportingSetpoint).readProperty
      ⟨⟨.analogValue, 1⟩, .deadband, none⟩).isOk = true := by decide +kernel
  have hlisted : ((hosting HostedObject.reportingSetpoint).propertiesFor ⟨.analogValue, 1⟩).toOption.all
      (fun listed => !listed.contains .deadband) = true := by decide +kernel
  rw [hproperties] at hlisted
  have hmem : PropertyIdentifier.deadband ∈ properties := by
    refine (hexact .deadband (by decide)).mp ?_
    cases hresponse : (hosting HostedObject.reportingSetpoint).readProperty
        ⟨⟨.analogValue, 1⟩, .deadband, none⟩ with
    | ok response => exact ⟨response, rfl⟩
    | error e =>
        rw [hresponse] at hread
        cases hread
  simp only [Except.toOption, Option.all_some, Bool.not_eq_true', List.contains_eq_mem,
    decide_eq_false_iff_not] at hlisted
  exact hlisted hmem

/-! ## §3. One property, and many -/

/-- A property as `read_property` answers for it. -/
def answerOf (self : ObjectService) (object : ObjectIdentifier) (property : PropertyIdentifier)
    (index : Option UInt32) : PropertyResult where
  propertyIdentifier := property
  arrayIndex := index
  value :=
    match self.readProperty ⟨object, property, index⟩ with
    | .ok response => .value response.propertyValues
    | .error error => .error (objectErrorCodes error).1 (objectErrorCodes error).2

/-- What a reference is answered with, whatever it is asked for with: All of a hosted
object by each property on its list, anything else by itself. -/
def answersTo (self : ObjectService) (object : ObjectIdentifier) (reference : PropertyReference) :
    List PropertyResult :=
  match reference.propertyIdentifier, self.propertiesFor object with
  | .all, .ok properties =>
      properties.map (fun property =>
        self.answerOf object property reference.propertyArrayIndex)
  | property, _ => [self.answerOf object property reference.propertyArrayIndex]

theorem readReference_eq (reference : PropertyReference) :
    self.readReference object reference
      = self.answerOf object reference.propertyIdentifier reference.propertyArrayIndex := by
  unfold readReference answerOf readProperty
  cases self.readPropertyValues object reference.propertyIdentifier
      reference.propertyArrayIndex <;> rfl

/-- Of an object that is not there, nothing is read. -/
theorem answerOf_missing (h : self.database.objects.lookup object = none)
    (reference : PropertyReference) :
    self.answerOf object reference.propertyIdentifier reference.propertyArrayIndex
      = errorResult reference .notFound := by
  have hdevice : object ≠ self.database.deviceId := by
    rintro rfl
    obtain ⟨device, hdevice⟩ := self.database.device
    rw [h] at hdevice
    cases hdevice
  have hread : self.readWhole object reference.propertyIdentifier = .error .notFound := by
    unfold readWhole
    rw [propertiesFor_of_missing h, ObjectDatabase.getProperty_of_missing h]
    simp only [hdevice, and_false, if_false]
    split <;> rfl
  unfold answerOf readProperty readPropertyValues
  rw [hread]
  rfl

theorem answersTo_of_ne {reference : PropertyReference}
    (h : reference.propertyIdentifier ≠ .all) :
    self.answersTo object reference
      = [self.answerOf object reference.propertyIdentifier reference.propertyArrayIndex] := by
  unfold answersTo
  split
  · next heq _ => exact absurd heq h
  · rfl

theorem answersTo_all {properties : List PropertyIdentifier} (index : Option UInt32)
    (h : self.propertiesFor object = .ok properties) :
    self.answersTo object ⟨.all, index⟩
      = properties.map (fun property => self.answerOf object property index) := by
  unfold answersTo
  rw [h]
  rfl

/-- Of a hosted object every reference is expanded, on its own. -/
theorem expandReference_of_listed {properties : List PropertyIdentifier}
    (h : self.propertiesFor object = .ok properties) (reference : PropertyReference) :
    ∃ references, self.expandReference object reference = .ok references
      ∧ references.map (self.readReference object) = self.answersTo object reference := by
  obtain ⟨property, index⟩ := reference
  unfold expandReference
  by_cases hall : property = .all
  · subst hall
    refine ⟨properties.map (fun property => ⟨property, index⟩), ?_, ?_⟩
    · rw [if_pos rfl, h]
      rfl
    · rw [answersTo_all index h, List.map_map]
      exact List.map_congr_left (fun property _ => readReference_eq ⟨property, index⟩)
  · refine ⟨[⟨property, index⟩], if_neg hall, ?_⟩
    rw [answersTo_of_ne hall, List.map_singleton, readReference_eq]

theorem expandPropertyReferences_of_listed {properties : List PropertyIdentifier}
    (h : self.propertiesFor object = .ok properties) (references : List PropertyReference) :
    ∃ expanded, self.expandPropertyReferences object references = .ok expanded
      ∧ expanded.map (self.readReference object)
        = references.flatMap (self.answersTo object) := by
  unfold expandPropertyReferences
  induction references with
  | nil => exact ⟨[], rfl, rfl⟩
  | cons reference rest ih =>
      obtain ⟨expanded, hrest, hanswers⟩ := ih
      obtain ⟨first, hfirst, hanswer⟩ := expandReference_of_listed h reference
      cases hmap : rest.mapM (self.expandReference object) with
      | error e =>
          rw [hmap] at hrest
          cases hrest
      | ok lists =>
          rw [hmap] at hrest
          cases hrest
          refine ⟨first ++ lists.flatten, ?_, ?_⟩
          · rw [List.mapM_cons, hfirst, hmap]
            rfl
          · rw [List.map_append, List.flatMap_cons, hanswer, hanswers]

/-- Of an object that is not there, All is an error and the rest stays as it is. -/
theorem expandPropertyReferences_missing (h : self.database.objects.lookup object = none)
    (references : List PropertyReference) :
    self.expandPropertyReferences object references = .ok references
      ∨ self.expandPropertyReferences object references = .error .notFound := by
  unfold expandPropertyReferences
  induction references with
  | nil => exact .inl rfl
  | cons reference rest ih =>
      by_cases hall : reference.propertyIdentifier = .all
      · refine .inr ?_
        have hfirst : self.expandReference object reference = .error .notFound := by
          unfold expandReference
          rw [if_pos hall, propertiesFor_of_missing h]
          rfl
        rw [List.mapM_cons, hfirst]
        rfl
      · have hfirst : self.expandReference object reference = .ok [reference] := if_neg hall
        rw [List.mapM_cons, hfirst]
        cases hmap : rest.mapM (self.expandReference object) with
        | error e =>
            rw [hmap] at ih
            rcases ih with hrest | hrest
            · cases hrest
            · cases hrest
              exact .inr rfl
        | ok lists =>
            rw [hmap] at ih
            rcases ih with hrest | hrest
            · cases hrest
              exact .inl rfl
            · cases hrest

/-- The results of a specification are the answers to its references. -/
theorem readSpecification_eq (specification : ReadAccessSpecification) :
    self.readSpecification specification
      = ⟨specification.objectIdentifier, specification.propertyReferences.flatMap
          (self.answersTo specification.objectIdentifier)⟩ := by
  obtain ⟨object, references⟩ := specification
  unfold readSpecification
  simp only [ReadAccessResult.mk.injEq, true_and]
  cases hobject : self.database.objects.lookup object with
  | some hosted =>
      obtain ⟨_, properties, _, hproperties, _⟩ := propertiesFor_of_hosted hobject
      obtain ⟨expanded, hexpanded, hanswers⟩ :=
        expandPropertyReferences_of_listed hproperties references
      rw [hexpanded]
      exact hanswers
  | none =>
      -- Expanded or not, every reference is answered with the one error.
      have hanswers : references.flatMap (self.answersTo object)
          = references.map (fun reference => errorResult reference .notFound) := by
        rw [List.map_eq_flatMap]
        refine List.flatMap_congr (fun reference _ => ?_)
        rw [← answerOf_missing hobject]
        unfold answersTo
        rw [propertiesFor_of_missing hobject]
        split
        · next hlisted => cases hlisted
        · rfl
      rw [hanswers]
      rcases expandPropertyReferences_missing hobject references with hexpanded | hexpanded
      · rw [hexpanded]
        refine List.map_congr_left (fun reference _ => ?_)
        rw [readReference_eq, answerOf_missing hobject]
      · rw [hexpanded]

/-- **Reading many properties at once is reading each of them.**  A group for every
specification, and in it for every reference its answer, which is a function of the object
and the reference alone. -/
theorem readPropertyMultiple_agrees (self : ObjectService) :
    (∀ request, (self.readPropertyMultiple request).readAccessResults
      = request.readAccessSpecifications.map (fun specification =>
          ⟨specification.objectIdentifier, specification.propertyReferences.flatMap
            (self.answersTo specification.objectIdentifier)⟩))
    ∧ (∀ object property index, property ≠ .all →
        self.answersTo object ⟨property, index⟩ = [self.answerOf object property index])
    ∧ ∀ object index, (self.database.objects.lookup object).isSome = true →
        ∃ properties, self.propertiesFor object = .ok properties
          ∧ self.answersTo object ⟨.all, index⟩
            = properties.map (fun property => self.answerOf object property index) := by
  refine ⟨fun request => ?_, fun object property index h => answersTo_of_ne h, ?_⟩
  · exact List.map_congr_left (fun specification _ => readSpecification_eq specification)
  · intro object index h
    obtain ⟨hosted, hobject⟩ := Option.isSome_iff_exists.mp h
    obtain ⟨_, properties, _, hproperties, _⟩ := propertiesFor_of_hosted hobject
    exact ⟨properties, hproperties, answersTo_all index hproperties⟩

end ObjectService

end BacnetRs.Server
