/-
  BacnetRs.Object.PointTypes — the nine types of points as objects
  (`object/analog.rs`, `object/binary.rs`, `object/multistate.rs`).

  Each type puts a Device_Type, or nothing, around what its family does
  (`InputType`, `CommandedType`).  The laws of a point follow from those of its
  family, once for the inputs and once for the outputs and values.
-/
import BacnetRs.Object.Trait

namespace BacnetRs.Object

open BacnetRs.Encoding BacnetRs.Property

/-! ## §1. A type around its family -/

/-- Device_Type, of a type that has it, and else what the family answers. -/
def orDeviceType (deviceType : Option String) (property : PropertyIdentifier)
    (answer : Except ObjectError PropertyValue) : Except ObjectError PropertyValue :=
  match deviceType with
  | some text => if property = .deviceType then .ok (.characterString text) else answer
  | none => answer

theorem orDeviceType_of_ne {deviceType : Option String} {property : PropertyIdentifier}
    {answer : Except ObjectError PropertyValue} (h : property ≠ .deviceType) :
    orDeviceType deviceType property answer = answer := by
  cases deviceType with
  | none => rfl
  | some text => exact if_neg h

/-- Device_Type is only read where the type has it. -/
theorem orDeviceType_readable_iff {deviceType : Option String} {property : PropertyIdentifier}
    {answer : Except ObjectError PropertyValue}
    (h : property = .deviceType → ¬ ∃ v, answer = .ok v) :
    (∃ v, orDeviceType deviceType property answer = .ok v)
      ↔ (∃ v, answer = .ok v) ∨ (property = .deviceType ∧ deviceType.isSome = true) := by
  by_cases hproperty : property = .deviceType
  · have hanswer := h hproperty
    cases deviceType with
    | none => simp [orDeviceType]
    | some text => simp [orDeviceType, hproperty]
  · rw [orDeviceType_of_ne hproperty]
    simp [hproperty]

section Types

variable {σ α ω : Type} {F : Family σ α} [BacnetObject ω] [Described ω]

/-- What a family's laws call unlisted, undeclared and stray is so of the object. -/
structure FactsOf (L : F.Laws) (o : ω) (s : σ) : Prop where
  unlisted : ∀ property, L.Unlisted s property ↔ Unlisted o property
  undeclared : ∀ property, L.Undeclared s property → Undeclared o property
  stray : ∀ property, L.Stray property → Stray o property
  alarm : L.alarm s = BacnetObject.intrinsic o
  held : Described.held o = (F.localOverride s).map LocalOverride.writes
  /-- What Present_Value reads converts, where it is one of the states. -/
  converts : ∀ objectType commandable value, F.readInput objectType s .presentValue = .ok value →
    Rewritable o .presentValue value → ∃ x, F.convert s commandable value = .ok (some x)

/-- An input type. -/
structure InputType (L : F.Laws) (ω : Type) [BacnetObject ω] [Described ω] where
  core : ω → σ
  put : ω → σ → ω
  objectType : ObjectType
  deviceType : ω → Option String
  core_put : ∀ o s, core (put o s) = s
  put_core : ∀ o, put o (core o) = o
  deviceType_put : ∀ o s, deviceType (put o s) = deviceType o
  getProperty_eq : ∀ (o : ω) property, BacnetObject.getProperty o property
    = orDeviceType (deviceType o) property (F.readInput objectType (core o) property)
  setProperty_eq : ∀ (o : ω) property value, BacnetObject.setProperty o property value
    = .within (put o) (F.writeInput (core o) property value)
  setPropertyWithPriority_eq : ∀ (o : ω) property value priority,
    BacnetObject.setPropertyWithPriority o property value priority
      = .within (put o) (F.writeInput (core o) property value)
  isPropertyWritable_eq : ∀ (o : ω) property,
    BacnetObject.isPropertyWritable o property = F.inputWritable (core o) property
  mem_propertyList : ∀ (o : ω) property, property ∈ BacnetObject.propertyList o
    ↔ property ∈ L.listed (core o) ∨ (property = .deviceType ∧ (deviceType o).isSome = true)
  nodup : ∀ o : ω, (BacnetObject.propertyList o).Nodup
  facts : ∀ o : ω, FactsOf L o (core o)

/-- An output or a value type. -/
structure CommandedType (L : F.Laws) (ω : Type) [BacnetObject ω] [Described ω] where
  core : ω → Commanded σ α
  put : ω → Commanded σ α → ω
  objectType : ObjectType
  commandable : ω → Bool
  deviceType : ω → Option String
  core_put : ∀ o c, core (put o c) = c
  put_core : ∀ o, put o (core o) = o
  deviceType_put : ∀ o c, deviceType (put o c) = deviceType o
  commandable_put : ∀ o c, commandable (put o c) = commandable o
  getProperty_eq : ∀ (o : ω) property, BacnetObject.getProperty o property
    = orDeviceType (deviceType o) property ((core o).get F objectType (commandable o) property)
  setProperty_eq : ∀ (o : ω) property value, BacnetObject.setProperty o property value
    = .within (put o) ((core o).set F (commandable o) property value)
  setPropertyWithPriority_eq : ∀ (o : ω) property value priority,
    BacnetObject.setPropertyWithPriority o property value priority
      = .within (put o) ((core o).setWithPriority F (commandable o) property value priority)
  isPropertyWritable_eq : ∀ (o : ω) property,
    BacnetObject.isPropertyWritable o property = (core o).writable F property
  mem_propertyList : ∀ (o : ω) property, property ∈ BacnetObject.propertyList o
    ↔ property ∈ L.listed (core o).state ∨ property ∈ Commanded.trailing (commandable o)
      ∨ (property = .deviceType ∧ (deviceType o).isSome = true)
  nodup : ∀ o : ω, (BacnetObject.propertyList o).Nodup
  facts : ∀ o : ω, FactsOf L o (core o).state
  commanded_eq : ∀ o : ω, Described.commanded o = some (commandable o)

/-! ## §2. Inputs -/

variable {L : F.Laws}

theorem ne_deviceType {property : PropertyIdentifier} (h : property ∉ typeProperties) :
    property ≠ .deviceType := by
  rintro rfl
  exact h (by simp [typeProperties])

theorem InputWritten.ne_deviceType {s s' : σ} {property : PropertyIdentifier}
    {value : PropertyValue} (h : InputWritten L s property value s') :
    property ≠ .deviceType := by
  cases h with
  | reading hout hvalue => simp
  | shared h => exact Object.ne_deviceType (L.written_not_typeProperty h)

theorem Family.inputWritable_ne_deviceType {s : σ} {property : PropertyIdentifier}
    (L : F.Laws) (h : F.inputWritable s property = true) : property ≠ .deviceType := by
  rintro rfl
  have hshared : F.sharedWritable s .deviceType = true := by simpa [inputWritable] using h
  exact L.writable_not_typeProperty hshared (by simp [typeProperties])

namespace InputType

theorem set_eq_ok_iff (T : InputType L ω) {o o' : ω} {property : PropertyIdentifier}
    {value : PropertyValue} {priority : Option UInt8} :
    BacnetObject.setPropertyWithPriority o property value priority = (o', .ok ())
      ↔ ∃ s', InputWritten L (T.core o) property value s' ∧ o' = T.put o s' := by
  rw [T.setPropertyWithPriority_eq, Attempt.within_eq_ok_iff]
  simp only [writeInput_eq_ok_iff L]

theorem readable_iff (T : InputType L ω) {o : ω} {property : PropertyIdentifier} :
    (∃ v, BacnetObject.getProperty o property = .ok v)
      ↔ property ∈ BacnetObject.propertyList o ∨ Unlisted o property := by
  rw [T.mem_propertyList, T.getProperty_eq, orDeviceType_readable_iff]
  · rw [readInput_readable_iff L, (T.facts o).unlisted]
    tauto
  · rintro rfl
    rw [readInput_readable_iff L]
    have htype : PropertyIdentifier.deviceType ∈ typeProperties := by simp [typeProperties]
    exact not_or.mpr (L.typeProperties_not_listed htype (by simp))

/-- **An input type keeps the laws.** -/
theorem lawful (T : InputType L ω) : LawfulObject ω where
  setProperty_eq := by
    intro o property value
    rw [T.setProperty_eq, T.setPropertyWithPriority_eq]
  atomic := by
    intro o property value priority
    rw [T.setPropertyWithPriority_eq]
    exact (writeInput_atomic L).within (T.put_core o)
  readable_iff := T.readable_iff
  nodup := T.nodup
  set_writable := by
    intro o o' property value priority h hdeclared
    obtain ⟨s', hwritten, rfl⟩ := T.set_eq_ok_iff.mp h
    rw [T.isPropertyWritable_eq]
    exact hwritten.writable (fun hundeclared => hdeclared ((T.facts o).undeclared _ hundeclared))
  set_listed := by
    intro o o' property value priority h hdeclared hstray
    obtain ⟨s', hwritten, rfl⟩ := T.set_eq_ok_iff.mp h
    rw [T.mem_propertyList]
    left
    exact hwritten.listed (fun hundeclared => hdeclared ((T.facts o).undeclared _ hundeclared))
      (fun h => hstray ((T.facts o).stray _ h))
  set_of_read := by
    intro o property value hwritable hread hrewritable
    rw [T.isPropertyWritable_eq] at hwritable
    rw [T.getProperty_eq, orDeviceType_of_ne (Family.inputWritable_ne_deviceType L hwritable)]
      at hread
    obtain ⟨s', hwritten⟩ := InputWritten.of_read (L := L) hwritable hread hrewritable.storable
      (by
        rintro rfl
        exact (T.facts o).converts _ _ _ hread hrewritable)
    refine ⟨T.put o s', ?_⟩
    rw [T.setProperty_eq, (writeInput_eq_ok_iff L).mpr hwritten]
    rfl
  readBack := by
    intro o o' property value h hheld _ hdeclared hvalue
    rw [T.setProperty_eq, ← T.setPropertyWithPriority_eq o property value none] at h
    obtain ⟨s', hwritten, rfl⟩ := T.set_eq_ok_iff.mp h
    rw [T.getProperty_eq, orDeviceType_of_ne hwritten.ne_deviceType, T.core_put]
    -- An object that is not held has no local override to hide the value.
    have hnone : F.localOverride (T.core o) = none := by
      rw [(T.facts o).held] at hheld
      exact Option.map_eq_none_iff.mp hheld
    exact hwritten.readBack hnone
      (fun hundeclared => hdeclared ((T.facts o).undeclared _ hundeclared)) hvalue
  frame := by
    intro o o' property value q h _ hq hcomputed
    rw [T.setProperty_eq, ← T.setPropertyWithPriority_eq o property value none] at h
    obtain ⟨s', hwritten, rfl⟩ := T.set_eq_ok_iff.mp h
    rw [T.getProperty_eq, T.getProperty_eq, T.core_put, T.deviceType_put]
    rw [← (T.facts o).alarm] at hcomputed
    rw [hwritten.frame hq hcomputed]

end InputType

/-! ## §3. Outputs and values -/

theorem CommandedWritten.ne_deviceType {c c' : Commanded σ α} {commandable : Bool}
    {property : PropertyIdentifier} {value : PropertyValue} {priority : Option UInt8}
    (h : CommandedWritten L commandable c priority property value c') :
    property ≠ .deviceType := by
  cases h with
  | command hcommandable hheld hvalue hrange hslots => simp
  | straight hcommandable hheld hvalue => simp
  | shared h => exact Object.ne_deviceType (L.written_not_typeProperty h)

theorem Commanded.writable_ne_deviceType {c : Commanded σ α} {property : PropertyIdentifier}
    (L : F.Laws) (h : c.writable F property = true) : property ≠ .deviceType := by
  rintro rfl
  have hshared : F.sharedWritable c.state .deviceType = true := by simpa [writable] using h
  exact L.writable_not_typeProperty hshared (by simp [typeProperties])

namespace CommandedType

theorem set_eq_ok_iff (T : CommandedType L ω) {o o' : ω} {property : PropertyIdentifier}
    {value : PropertyValue} {priority : Option UInt8} :
    BacnetObject.setPropertyWithPriority o property value priority = (o', .ok ())
      ↔ ∃ c', CommandedWritten L (T.commandable o) (T.core o) priority property value c'
          ∧ o' = T.put o c' := by
  rw [T.setPropertyWithPriority_eq, Attempt.within_eq_ok_iff]
  simp only [Commanded.setWithPriority_eq_ok_iff L]

theorem setProperty_eq_none (T : CommandedType L ω) {o : ω} {property : PropertyIdentifier}
    {value : PropertyValue} : BacnetObject.setProperty o property value
      = BacnetObject.setPropertyWithPriority o property value none := by
  rw [T.setProperty_eq, T.setPropertyWithPriority_eq, Commanded.set_eq]

theorem readable_iff (T : CommandedType L ω) {o : ω} {property : PropertyIdentifier} :
    (∃ v, BacnetObject.getProperty o property = .ok v)
      ↔ property ∈ BacnetObject.propertyList o ∨ Unlisted o property := by
  rw [T.mem_propertyList, T.getProperty_eq, orDeviceType_readable_iff]
  · rw [Commanded.get_readable_iff L, (T.facts o).unlisted]
    tauto
  · rintro rfl
    rw [Commanded.get_readable_iff L]
    have htype : PropertyIdentifier.deviceType ∈ typeProperties := by simp [typeProperties]
    obtain ⟨hlisted, hunlisted⟩ :=
      L.typeProperties_not_listed (s := (T.core o).state) htype (by simp)
    have htrailing : PropertyIdentifier.deviceType ∉ Commanded.trailing (T.commandable o) := by
      unfold Commanded.trailing
      split
      · simp
      · simp
    tauto

/-- **An output or a value type keeps the laws.** -/
theorem lawful (T : CommandedType L ω) : LawfulObject ω where
  setProperty_eq := T.setProperty_eq_none
  atomic := by
    intro o property value priority
    rw [T.setPropertyWithPriority_eq]
    exact (Commanded.setWithPriority_atomic L).within (T.put_core o)
  readable_iff := T.readable_iff
  nodup := T.nodup
  set_writable := by
    intro o o' property value priority h hdeclared
    obtain ⟨c', hwritten, rfl⟩ := T.set_eq_ok_iff.mp h
    rw [T.isPropertyWritable_eq]
    exact hwritten.writable (fun hundeclared => hdeclared ((T.facts o).undeclared _ hundeclared))
  set_listed := by
    intro o o' property value priority h hdeclared hstray
    obtain ⟨c', hwritten, rfl⟩ := T.set_eq_ok_iff.mp h
    rw [T.mem_propertyList]
    left
    exact hwritten.listed (fun hundeclared => hdeclared ((T.facts o).undeclared _ hundeclared))
      (fun h => hstray ((T.facts o).stray _ h))
  set_of_read := by
    intro o property value hwritable hread hrewritable
    rw [T.isPropertyWritable_eq] at hwritable
    rw [T.getProperty_eq, orDeviceType_of_ne (Commanded.writable_ne_deviceType L hwritable)]
      at hread
    have hpermitted : property = .presentValue →
        ∀ l, F.localOverride (T.core o).state = some l → l.writes ≠ .denied := by
      intro hpv l hl hdenied
      have hheld : Described.held o = some .denied := by
        rw [(T.facts o).held, hl, ← hdenied]
        rfl
      exact hrewritable.permitted hpv (by rw [T.commanded_eq]; rfl) hheld
    have hconvert : property = .presentValue →
        ∃ x, F.convert (T.core o).state (T.commandable o) value = .ok (some x) := by
      rintro rfl
      rw [Commanded.get_eq_readInput (by simp)] at hread
      exact (T.facts o).converts _ _ _ hread hrewritable
    have hrange : 1 ≤ ((none : Option UInt8).getD 16).toNat
        ∧ ((none : Option UInt8).getD 16).toNat ≤ 16 := by decide
    obtain ⟨c', hwritten⟩ := CommandedWritten.of_read (L := L) hrange
      hwritable hread hrewritable.storable hpermitted hconvert
    refine ⟨T.put o c', ?_⟩
    rw [T.setProperty_eq_none]
    exact T.set_eq_ok_iff.mpr ⟨c', hwritten, rfl⟩
  readBack := by
    intro o o' property value h hheld hcommandable hdeclared hvalue
    rw [T.setProperty_eq_none] at h
    obtain ⟨c', hwritten, rfl⟩ := T.set_eq_ok_iff.mp h
    rw [T.getProperty_eq, orDeviceType_of_ne hwritten.ne_deviceType, T.core_put,
      T.commandable_put]
    have hnone : F.localOverride (T.core o).state = none := by
      rw [(T.facts o).held] at hheld
      exact Option.map_eq_none_iff.mp hheld
    apply hwritten.readBack hnone ?_
      (fun hundeclared => hdeclared ((T.facts o).undeclared _ hundeclared)) hvalue
    intro hpv
    cases hcmd : T.commandable o with
    | false => rfl
    | true =>
        have hcommanded : Described.commanded o = some true := by rw [T.commanded_eq, hcmd]
        exact absurd ⟨hpv, hcommanded⟩ hcommandable
  frame := by
    intro o o' property value q h hcommandable hq hcomputed
    rw [T.setProperty_eq_none] at h
    obtain ⟨c', hwritten, rfl⟩ := T.set_eq_ok_iff.mp h
    rw [T.getProperty_eq, T.getProperty_eq, T.core_put, T.deviceType_put, T.commandable_put]
    rw [← (T.facts o).alarm] at hcomputed
    by_cases hslots : property = .presentValue → q ≠ .priorityArray
    · rw [hwritten.frame hq hslots hcomputed]
    · -- Only a command moves Priority_Array; elsewhere there is none to read.
      push Not at hslots
      obtain ⟨rfl, rfl⟩ := hslots
      cases hwritten with
      | command hcmd hheld hvalue hrange hwrite =>
          have hcommanded : Described.commanded o = some true := by rw [T.commanded_eq, hcmd]
          exact absurd ⟨rfl, hcommanded⟩ hcommandable
      | straight hcmd hheld hvalue =>
          rw [hcmd]
          congr 1
          show F.readInput _ _ _ = F.readInput _ _ _
          unfold Family.readInput
          rw [L.setPresentValue_frame (by simp)]
      | shared hshared =>
          exact absurd (L.written_not_typeProperty hshared) (by simp [typeProperties])

end CommandedType

end Types

/-- A type's own properties are none of the optional ones. -/
theorem trailing_retained {optional : OptionalProperties} {commandable : Bool}
    {property : PropertyIdentifier} :
    property ∈ Commanded.trailing commandable ∧ optional.has property = true
      ↔ property ∈ Commanded.trailing commandable := by
  constructor
  · intro h
    exact h.1
  · intro h
    refine ⟨h, ?_⟩
    unfold Commanded.trailing at h
    split at h
    · simp only [List.mem_cons, List.not_mem_nil, or_false] at h
      rcases h with rfl | rfl
      · rfl
      · rfl
    · cases h

/-! ## §4. The analog types -/

section Analog

variable {ω : Type} [BacnetObject ω] [Described ω]

theorem analogFacts {o : ω} {s : AnalogState} (hanalog : Described.analog o = some s)
    (halarm : BacnetObject.intrinsic o = s.alarm)
    (hheld : Described.held o = s.localOverride.map LocalOverride.writes) :
    FactsOf analogLaws o s where
  unlisted := by
    intro property
    show (s.LimitsMissing ∧ _) ↔ Unlisted o property
    simp [Unlisted, hanalog]
  undeclared := fun _ h => h.elim
  stray := fun _ h => ⟨by rw [hanalog]; rfl, h⟩
  alarm := halarm.symm
  held := hheld
  converts := by
    intro objectType commandable value hread _
    have hshared : s.sharedGet objectType .presentValue = some (.ok value) :=
      getD_unknownProperty_eq_ok_iff.mp hread
    rw [AnalogState.sharedGet_effective] at hshared
    cases hshared
    exact ⟨_, rfl⟩

end Analog

instance : BacnetObject AnalogInput where
  identifier := fun self => self.identifier
  getProperty := AnalogInput.getProperty
  setProperty := AnalogInput.setProperty
  isPropertyWritable := AnalogInput.isPropertyWritable
  propertyList := AnalogInput.propertyList
  intrinsic := fun self => self.alarm
  setIntrinsic := fun self reporting => { self with alarm := some reporting }

instance : Described AnalogInput where
  analog := fun self => some self.toAnalogState
  held := fun self => self.localOverride.map LocalOverride.writes

/-- Analog Input is an input type. -/
def analogInputType : InputType analogLaws AnalogInput where
  core := AnalogInput.toAnalogState
  put := fun self state => { self with toAnalogState := state }
  objectType := .analogInput
  deviceType := fun self => some self.deviceType
  core_put := fun _ _ => rfl
  put_core := fun _ => rfl
  deviceType_put := fun _ _ => rfl
  getProperty_eq := fun _ _ => rfl
  setProperty_eq := fun _ _ _ => rfl
  setPropertyWithPriority_eq := fun _ _ _ _ => rfl
  isPropertyWritable_eq := fun _ _ => rfl
  mem_propertyList := by
    intro o property
    show property ∈ o.sharedPropertyList true [] ↔ property ∈ o.sharedPropertyList false [] ∨ _
    rw [AnalogState.mem_sharedPropertyList]
    simp
  nodup := fun o => AnalogState.sharedPropertyList_nodup (List.nil_sublist _)
  facts := fun _ => analogFacts rfl rfl rfl

instance : LawfulObject AnalogInput := analogInputType.lawful

instance : BacnetObject AnalogOutput where
  identifier := fun self => self.state.identifier
  getProperty := AnalogOutput.getProperty
  setProperty := AnalogOutput.setProperty
  setPropertyWithPriority := AnalogOutput.setPropertyWithPriority
  isPropertyWritable := AnalogOutput.isPropertyWritable
  propertyList := AnalogOutput.propertyList
  intrinsic := fun self => self.state.alarm
  setIntrinsic := fun self reporting =>
    { self with state := { self.state with alarm := some reporting } }

instance : Described AnalogOutput where
  analog := fun self => some self.state
  held := fun self => self.state.localOverride.map LocalOverride.writes
  commanded := fun _ => some true

/-- Analog Output is an output type. -/
def analogOutputType : CommandedType analogLaws AnalogOutput where
  core := AnalogOutput.toCommanded
  put := fun self commanded => { self with toCommanded := commanded }
  objectType := .analogOutput
  commandable := fun _ => true
  deviceType := fun self => some self.deviceType
  core_put := fun _ _ => rfl
  put_core := fun _ => rfl
  deviceType_put := fun _ _ => rfl
  commandable_put := fun _ _ => rfl
  getProperty_eq := fun _ _ => rfl
  setProperty_eq := fun _ _ _ => rfl
  setPropertyWithPriority_eq := fun _ _ _ _ => rfl
  isPropertyWritable_eq := fun _ _ => rfl
  mem_propertyList := by
    intro o property
    show property ∈ o.state.sharedPropertyList true (Commanded.trailing true)
      ↔ property ∈ o.state.sharedPropertyList false [] ∨ _
    rw [AnalogState.mem_sharedPropertyList, trailing_retained]
    simp
    tauto
  nodup := fun _ => AnalogState.sharedPropertyList_nodup (.refl _)
  facts := fun _ => analogFacts rfl rfl rfl
  commanded_eq := fun _ => rfl

instance : LawfulObject AnalogOutput := analogOutputType.lawful

instance : BacnetObject AnalogValue where
  identifier := fun self => self.state.identifier
  getProperty := AnalogValue.getProperty
  setProperty := AnalogValue.setProperty
  setPropertyWithPriority := AnalogValue.setPropertyWithPriority
  isPropertyWritable := AnalogValue.isPropertyWritable
  propertyList := AnalogValue.propertyList
  intrinsic := fun self => self.state.alarm
  setIntrinsic := fun self reporting =>
    { self with state := { self.state with alarm := some reporting } }

instance : Described AnalogValue where
  analog := fun self => some self.state
  held := fun self => self.state.localOverride.map LocalOverride.writes
  commanded := fun self => some self.commandable

/-- Analog Value is a value type. -/
def analogValueType : CommandedType analogLaws AnalogValue where
  core := AnalogValue.toCommanded
  put := fun self commanded => { self with toCommanded := commanded }
  objectType := .analogValue
  commandable := fun self => self.commandable
  deviceType := fun _ => none
  core_put := fun _ _ => rfl
  put_core := fun _ => rfl
  deviceType_put := fun _ _ => rfl
  commandable_put := fun _ _ => rfl
  getProperty_eq := fun _ _ => rfl
  setProperty_eq := fun _ _ _ => rfl
  setPropertyWithPriority_eq := fun _ _ _ _ => rfl
  isPropertyWritable_eq := fun _ _ => rfl
  mem_propertyList := by
    intro o property
    show property ∈ o.state.sharedPropertyList false (Commanded.trailing o.commandable)
      ↔ property ∈ o.state.sharedPropertyList false [] ∨ _
    rw [AnalogState.mem_sharedPropertyList, trailing_retained]
    simp
  nodup := fun o => AnalogState.sharedPropertyList_nodup (ite_sublist o.commandable _)
  facts := fun _ => analogFacts rfl rfl rfl
  commanded_eq := fun _ => rfl

instance : LawfulObject AnalogValue := analogValueType.lawful

/-! ## §5. The binary types -/

section Binary

variable {ω : Type} [BacnetObject ω] [Described ω]

theorem binaryFacts {o : ω} {s : BinaryState} (hanalog : Described.analog o = none)
    (halarm : BacnetObject.intrinsic o = s.alarm)
    (hheld : Described.held o = s.localOverride.map LocalOverride.writes) :
    FactsOf binaryLaws o s where
  unlisted := by
    intro property
    show False ↔ Unlisted o property
    simp [Unlisted, hanalog]
  undeclared := fun _ h => h.elim
  stray := fun _ h => h.elim
  alarm := halarm.symm
  held := hheld
  converts := by
    intro objectType commandable value hread _
    have hshared : s.sharedGet objectType .presentValue = some (.ok value) :=
      getD_unknownProperty_eq_ok_iff.mp hread
    rw [BinaryState.sharedGet_effective] at hshared
    cases hshared
    cases s.effectivePresentValue
    · exact ⟨.inactive, rfl⟩
    · exact ⟨.active, rfl⟩

end Binary

instance : BacnetObject BinaryInput where
  identifier := fun self => self.identifier
  getProperty := BinaryInput.getProperty
  setProperty := BinaryInput.setProperty
  isPropertyWritable := BinaryInput.isPropertyWritable
  propertyList := BinaryInput.propertyList
  intrinsic := fun self => self.alarm
  setIntrinsic := fun self reporting => { self with alarm := some reporting }

instance : Described BinaryInput where
  binary := fun self => some self.toBinaryState
  held := fun self => self.localOverride.map LocalOverride.writes

/-- Binary Input is an input type. -/
def binaryInputType : InputType binaryLaws BinaryInput where
  core := BinaryInput.toBinaryState
  put := fun self state => { self with toBinaryState := state }
  objectType := .binaryInput
  deviceType := fun _ => none
  core_put := fun _ _ => rfl
  put_core := fun _ => rfl
  deviceType_put := fun _ _ => rfl
  getProperty_eq := fun _ _ => rfl
  setProperty_eq := fun _ _ _ => rfl
  setPropertyWithPriority_eq := fun _ _ _ _ => rfl
  isPropertyWritable_eq := fun _ _ => rfl
  mem_propertyList := by
    intro o property
    show property ∈ o.sharedPropertyList [] ↔ property ∈ o.sharedPropertyList [] ∨ _
    simp
  nodup := fun _ => BinaryState.sharedPropertyList_nodup (List.nil_sublist _)
  facts := fun _ => binaryFacts rfl rfl rfl

instance : LawfulObject BinaryInput := binaryInputType.lawful

instance : BacnetObject BinaryOutput where
  identifier := fun self => self.state.identifier
  getProperty := BinaryOutput.getProperty
  setProperty := BinaryOutput.setProperty
  setPropertyWithPriority := BinaryOutput.setPropertyWithPriority
  isPropertyWritable := BinaryOutput.isPropertyWritable
  propertyList := BinaryOutput.propertyList
  intrinsic := fun self => self.state.alarm
  setIntrinsic := fun self reporting =>
    { self with state := { self.state with alarm := some reporting } }

instance : Described BinaryOutput where
  binary := fun self => some self.state
  held := fun self => self.state.localOverride.map LocalOverride.writes
  commanded := fun _ => some true

/-- Binary Output is an output type. -/
def binaryOutputType : CommandedType binaryLaws BinaryOutput where
  core := BinaryOutput.toCommanded
  put := fun self commanded => { self with toCommanded := commanded }
  objectType := .binaryOutput
  commandable := fun _ => true
  deviceType := fun _ => none
  core_put := fun _ _ => rfl
  put_core := fun _ => rfl
  deviceType_put := fun _ _ => rfl
  commandable_put := fun _ _ => rfl
  getProperty_eq := fun _ _ => rfl
  setProperty_eq := fun _ _ _ => rfl
  setPropertyWithPriority_eq := fun _ _ _ _ => rfl
  isPropertyWritable_eq := fun _ _ => rfl
  mem_propertyList := by
    intro o property
    show property ∈ o.state.sharedPropertyList (Commanded.trailing true)
      ↔ property ∈ o.state.sharedPropertyList [] ∨ _
    rw [BinaryState.mem_sharedPropertyList, trailing_retained]
    simp
  nodup := fun _ => BinaryState.sharedPropertyList_nodup (.refl _)
  facts := fun _ => binaryFacts rfl rfl rfl
  commanded_eq := fun _ => rfl

instance : LawfulObject BinaryOutput := binaryOutputType.lawful

instance : BacnetObject BinaryValue where
  identifier := fun self => self.state.identifier
  getProperty := BinaryValue.getProperty
  setProperty := BinaryValue.setProperty
  setPropertyWithPriority := BinaryValue.setPropertyWithPriority
  isPropertyWritable := BinaryValue.isPropertyWritable
  propertyList := BinaryValue.propertyList
  intrinsic := fun self => self.state.alarm
  setIntrinsic := fun self reporting =>
    { self with state := { self.state with alarm := some reporting } }

instance : Described BinaryValue where
  binary := fun self => some self.state
  held := fun self => self.state.localOverride.map LocalOverride.writes
  commanded := fun self => some self.commandable

/-- Binary Value is a value type. -/
def binaryValueType : CommandedType binaryLaws BinaryValue where
  core := BinaryValue.toCommanded
  put := fun self commanded => { self with toCommanded := commanded }
  objectType := .binaryValue
  commandable := fun self => self.commandable
  deviceType := fun _ => none
  core_put := fun _ _ => rfl
  put_core := fun _ => rfl
  deviceType_put := fun _ _ => rfl
  commandable_put := fun _ _ => rfl
  getProperty_eq := fun _ _ => rfl
  setProperty_eq := fun _ _ _ => rfl
  setPropertyWithPriority_eq := fun _ _ _ _ => rfl
  isPropertyWritable_eq := fun _ _ => rfl
  mem_propertyList := by
    intro o property
    show property ∈ o.state.sharedPropertyList (Commanded.trailing o.commandable)
      ↔ property ∈ o.state.sharedPropertyList [] ∨ _
    rw [BinaryState.mem_sharedPropertyList, trailing_retained]
    simp
  nodup := fun o => BinaryState.sharedPropertyList_nodup (ite_sublist o.commandable _)
  facts := fun _ => binaryFacts rfl rfl rfl
  commanded_eq := fun _ => rfl

instance : LawfulObject BinaryValue := binaryValueType.lawful

/-! ## §6. The multi-state types -/

section MultiState

variable {ω : Type} [BacnetObject ω] [Described ω]

theorem multistateFacts {o : ω} {s : MultistateState} (hanalog : Described.analog o = none)
    (hmultistate : Described.multistate o = some s) (halarm : BacnetObject.intrinsic o = s.alarm)
    (hheld : Described.held o = s.localOverride.map LocalOverride.writes) :
    FactsOf multistateLaws o s where
  unlisted := by
    intro property
    show False ↔ Unlisted o property
    simp [Unlisted, hanalog]
  undeclared := fun _ h => ⟨h.1, s, hmultistate, h.2⟩
  stray := fun _ h => h.elim
  alarm := halarm.symm
  held := hheld
  converts := by
    intro objectType commandable value hread hrewritable
    have hshared : s.sharedGet objectType .presentValue = some (.ok value) :=
      getD_unknownProperty_eq_ok_iff.mp hread
    rw [MultistateState.sharedGet_effective] at hshared
    cases hshared
    obtain ⟨hlow, hhigh⟩ := hrewritable.state rfl s hmultistate
    exact ⟨s.effectivePresentValue,
      MultistateState.convert_eq_ok_iff.mpr (.inr ⟨_, rfl, hlow, hhigh, rfl⟩)⟩

/-- What a type adds is not in the shared list. -/
theorem MultistateState.append_nodup (s : MultistateState) {added : List PropertyIdentifier}
    (h : added.Sublist [.deviceType, .priorityArray, .relinquishDefault]) :
    (s.sharedPropertyList ++ added).Nodup := by
  rw [List.nodup_append]
  refine ⟨s.sharedPropertyList_nodup, List.Pairwise.sublist h (by decide), ?_⟩
  rintro property hshared _ hadded rfl
  have htype := h.subset hadded
  simp only [List.mem_cons, List.not_mem_nil, or_false] at htype
  have hproperty : property ∈ typeProperties ∧ property ≠ .presentValue := by
    rcases htype with rfl | rfl | rfl
    all_goals simp [typeProperties]
  exact MultistateState.typeProperties_not_listed hproperty.1 hproperty.2 hshared

end MultiState

instance : BacnetObject MultiStateInput where
  identifier := fun self => self.identifier
  getProperty := MultiStateInput.getProperty
  setProperty := MultiStateInput.setProperty
  isPropertyWritable := MultiStateInput.isPropertyWritable
  propertyList := MultiStateInput.propertyList
  intrinsic := fun self => self.alarm
  setIntrinsic := fun self reporting => { self with alarm := some reporting }

instance : Described MultiStateInput where
  multistate := fun self => some self.toMultistateState
  held := fun self => self.localOverride.map LocalOverride.writes

/-- Multi-state Input is an input type. -/
def multiStateInputType : InputType multistateLaws MultiStateInput where
  core := MultiStateInput.toMultistateState
  put := fun self state => { self with toMultistateState := state }
  objectType := .multiStateInput
  deviceType := fun self => some self.deviceType
  core_put := fun _ _ => rfl
  put_core := fun _ => rfl
  deviceType_put := fun _ _ => rfl
  getProperty_eq := fun _ _ => rfl
  setProperty_eq := fun _ _ _ => rfl
  setPropertyWithPriority_eq := fun _ _ _ _ => rfl
  isPropertyWritable_eq := fun _ _ => rfl
  mem_propertyList := by
    intro o property
    show property ∈ o.sharedPropertyList ++ [.deviceType] ↔ property ∈ o.sharedPropertyList ∨ _
    simp
  nodup := fun o => o.append_nodup (by simp)
  facts := fun _ => multistateFacts rfl rfl rfl rfl

instance : LawfulObject MultiStateInput := multiStateInputType.lawful

instance : BacnetObject MultiStateOutput where
  identifier := fun self => self.state.identifier
  getProperty := MultiStateOutput.getProperty
  setProperty := MultiStateOutput.setProperty
  setPropertyWithPriority := MultiStateOutput.setPropertyWithPriority
  isPropertyWritable := MultiStateOutput.isPropertyWritable
  propertyList := MultiStateOutput.propertyList
  intrinsic := fun self => self.state.alarm
  setIntrinsic := fun self reporting =>
    { self with state := { self.state with alarm := some reporting } }

instance : Described MultiStateOutput where
  multistate := fun self => some self.state
  held := fun self => self.state.localOverride.map LocalOverride.writes
  commanded := fun _ => some true

/-- Multi-state Output is an output type. -/
def multiStateOutputType : CommandedType multistateLaws MultiStateOutput where
  core := MultiStateOutput.toCommanded
  put := fun self commanded => { self with toCommanded := commanded }
  objectType := .multiStateOutput
  commandable := fun _ => true
  deviceType := fun self => some self.deviceType
  core_put := fun _ _ => rfl
  put_core := fun _ => rfl
  deviceType_put := fun _ _ => rfl
  commandable_put := fun _ _ => rfl
  getProperty_eq := fun _ _ => rfl
  setProperty_eq := fun _ _ _ => rfl
  setPropertyWithPriority_eq := fun _ _ _ _ => rfl
  isPropertyWritable_eq := fun _ _ => rfl
  mem_propertyList := by
    intro o property
    show property ∈ o.state.sharedPropertyList ++ [.deviceType, .priorityArray, .relinquishDefault]
      ↔ property ∈ o.state.sharedPropertyList ∨ _
    simp [Commanded.trailing]
    tauto
  nodup := fun o => o.state.append_nodup (.refl _)
  facts := fun _ => multistateFacts rfl rfl rfl rfl
  commanded_eq := fun _ => rfl

instance : LawfulObject MultiStateOutput := multiStateOutputType.lawful

instance : BacnetObject MultiStateValue where
  identifier := fun self => self.state.identifier
  getProperty := MultiStateValue.getProperty
  setProperty := MultiStateValue.setProperty
  setPropertyWithPriority := MultiStateValue.setPropertyWithPriority
  isPropertyWritable := MultiStateValue.isPropertyWritable
  propertyList := MultiStateValue.propertyList
  intrinsic := fun self => self.state.alarm
  setIntrinsic := fun self reporting =>
    { self with state := { self.state with alarm := some reporting } }

instance : Described MultiStateValue where
  multistate := fun self => some self.state
  held := fun self => self.state.localOverride.map LocalOverride.writes
  commanded := fun self => some self.commandable

/-- Multi-state Value is a value type. -/
def multiStateValueType : CommandedType multistateLaws MultiStateValue where
  core := MultiStateValue.toCommanded
  put := fun self commanded => { self with toCommanded := commanded }
  objectType := .multiStateValue
  commandable := fun self => self.commandable
  deviceType := fun _ => none
  core_put := fun _ _ => rfl
  put_core := fun _ => rfl
  deviceType_put := fun _ _ => rfl
  commandable_put := fun _ _ => rfl
  getProperty_eq := fun _ _ => rfl
  setProperty_eq := fun _ _ _ => rfl
  setPropertyWithPriority_eq := fun _ _ _ _ => rfl
  isPropertyWritable_eq := fun _ _ => rfl
  mem_propertyList := by
    intro o property
    show property ∈ o.state.sharedPropertyList ++ Commanded.trailing o.commandable
      ↔ property ∈ o.state.sharedPropertyList ∨ _
    simp
  nodup := fun o => o.state.append_nodup
    (.trans (ite_sublist o.commandable _) (by simp))
  facts := fun _ => multistateFacts rfl rfl rfl rfl
  commanded_eq := fun _ => rfl

instance : LawfulObject MultiStateValue := multiStateValueType.lawful

end BacnetRs.Object
