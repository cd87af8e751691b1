/-
  BacnetRs.Object.Point — inputs, outputs and values of any family
  (`object/analog.rs`, `object/binary.rs`, `object/multistate.rs`).

  Each family has an input, whose Present_Value is what its sensor last read, and
  an output and a value, whose Present_Value is commanded through a priority
  array (a value may do without).  The source spells the types of each family
  out; they differ in the state they share, how that is read and written, and
  what a value of Present_Value is (`Family`).  What the types do with it is
  given here once.

  A family is held to laws (`Family.Laws`): which properties its shared getter
  and setter know and what a write leaves.  From them, for every type:

    * `readInput_readable_iff`, `Commanded.get_readable_iff`
                            — what can be read is what is listed.
    * `writeInput_eq_ok_iff`, `Commanded.set_eq_ok_iff`
                            — a successful write is one of a few updates.
    * `InputWritten.*`, `CommandedWritten.*`
                            — it is of a writable, listed property, it reads
                              back, nothing else moves, and what was read can
                              be written.
-/
import BacnetRs.Object.Intrinsic

namespace BacnetRs.Object

open BacnetRs.Encoding BacnetRs.Property

/-! ## §1. What the types of a family do -/

/-- What the types of a family share. -/
structure Family (σ α : Type) where
  /-- `shared_get`, for a type; `none` for properties of a single type. -/
  sharedGet : σ → ObjectType → PropertyIdentifier → Option (Except ObjectError PropertyValue)
  /-- `shared_set`; `none` for properties it does not own. -/
  sharedSet : σ → PropertyIdentifier → PropertyValue → Option (Attempt ObjectError σ)
  /-- `shared_writable`. -/
  sharedWritable : σ → PropertyIdentifier → Bool
  outOfService : σ → Bool
  localOverride : σ → Option (LocalOverride α)
  /-- Put a value into Present_Value. -/
  setPresentValue : σ → α → σ
  /-- What a value written to Present_Value says, Null being none; the flag tells
  whether a priority array takes it. -/
  convert : σ → Bool → PropertyValue → Except ObjectError (Option α)
  /-- How a value of Present_Value reads. -/
  read : α → PropertyValue

/-- What an output or a value has besides the shared state. -/
structure Commanded (σ α : Type) where
  state : σ
  priorityArray : PriorityArray α
  relinquishDefault : α
  deriving Repr, DecidableEq

/-- The Priority_Array property. -/
def priorityArrayValue {α : Type} (read : α → PropertyValue) (priorityArray : PriorityArray α) :
    PropertyValue :=
  .array (priorityArray.toList.map (fun slot =>
    match slot with
    | some value => read value
    | none => .null))

namespace Family

variable {σ α : Type}

/-- Set Present_Value to a reading.  There is nothing to relinquish to, so Null is
not one. -/
def takeReading (F : Family σ α) (self : σ) (value : PropertyValue) : Attempt ObjectError σ :=
  match F.convert self false value with
  | .error e => .refused self e
  | .ok none => .refused self .invalidPropertyType
  | .ok (some reading) => .done (F.setPresentValue self reading)

/-- `get_property` of an input. -/
def readInput (F : Family σ α) (objectType : ObjectType) (self : σ)
    (property : PropertyIdentifier) : Except ObjectError PropertyValue :=
  (F.sharedGet self objectType property).getD (.error .unknownProperty)

/-- `set_property` of an input. -/
def writeInput (F : Family σ α) (self : σ) (property : PropertyIdentifier)
    (value : PropertyValue) : Attempt ObjectError σ :=
  if property = .presentValue ∧ F.outOfService self = true then
    F.takeReading self value
  else
    (F.sharedSet self property value).getD (.refused self .propertyNotWritable)

/-- `is_property_writable` of an input. -/
def inputWritable (F : Family σ α) (self : σ) (property : PropertyIdentifier) : Bool :=
  property == .presentValue && F.outOfService self || F.sharedWritable self property

end Family

namespace Commanded

variable {σ α : Type}

/-- `get_property` of an output or a value. -/
def get (F : Family σ α) (objectType : ObjectType) (commandable : Bool) (self : Commanded σ α)
    (property : PropertyIdentifier) : Except ObjectError PropertyValue :=
  if property = .priorityArray ∧ commandable = true then
    .ok (priorityArrayValue F.read self.priorityArray)
  else if property = .relinquishDefault ∧ commandable = true then
    .ok (F.read self.relinquishDefault)
  else
    F.readInput objectType self.state property

/-- `write_priority`. -/
def writePriority (F : Family σ α) (self : Commanded σ α) (priority : UInt8) (value : Option α) :
    Attempt ObjectError (Commanded σ α) :=
  .store self
    (fun written =>
      { self with
        state := F.setPresentValue self.state written.2
        priorityArray := written.1 })
    (writePrioritySlot self.priorityArray priority value self.relinquishDefault)

/-- The Present_Value branch of `set_property_with_priority`. -/
def command (F : Family σ α) (commandable : Bool) (self : Commanded σ α) (value : PropertyValue)
    (priority : Option UInt8) : Attempt ObjectError (Commanded σ α) :=
  match overridePermitsWrite (F.localOverride self.state) with
  | .error e => .refused self e
  | .ok () =>
      if commandable then
        match F.convert self.state true value with
        | .error e => .refused self e
        | .ok value => self.writePriority F (priority.getD 16) value
      else
        -- The value is simply written, and a priority has nothing to act on.
        .within (fun state => { self with state := state }) (F.takeReading self.state value)

/-- `set_property` of an output or a value. -/
def set (F : Family σ α) (commandable : Bool) (self : Commanded σ α)
    (property : PropertyIdentifier) (value : PropertyValue) :
    Attempt ObjectError (Commanded σ α) :=
  if property = .presentValue then
    self.command F commandable value none
  else
    .within (fun state => { self with state := state })
      ((F.sharedSet self.state property value).getD (.refused self.state .propertyNotWritable))

/-- `set_property_with_priority` of an output or a value. -/
def setWithPriority (F : Family σ α) (commandable : Bool) (self : Commanded σ α)
    (property : PropertyIdentifier) (value : PropertyValue) (priority : Option UInt8) :
    Attempt ObjectError (Commanded σ α) :=
  if property ≠ .presentValue then self.set F commandable property value
  else self.command F commandable value priority

/-- `is_property_writable` of an output or a value. -/
def writable (F : Family σ α) (self : Commanded σ α) (property : PropertyIdentifier) : Bool :=
  property == .presentValue || F.sharedWritable self.state property

/-- The properties a commandable object adds. -/
def trailing (commandable : Bool) : List PropertyIdentifier :=
  if commandable then [.priorityArray, .relinquishDefault] else []

end Commanded

/-! ## §2. The laws of a family -/

/-- A value that passes the checks the shared setters make on a stored value. -/
def Storable (property : PropertyIdentifier) (value : PropertyValue) : Prop :=
  (property = .covIncrement → ∀ x, value = .real x → x.nonNegative = true)
    ∧ (property = .notifyType → value ≠ .enumerated NotifyType.ackNotification.toUInt32)

/-- The properties of a single type, and Present_Value. -/
def typeProperties : List PropertyIdentifier :=
  [.presentValue, .priorityArray, .relinquishDefault, .deviceType]

/-- What is known of a family's shared getter and setter. -/
structure Family.Laws {σ α : Type} (F : Family σ α) where
  /-- What a write of a shared property leaves. -/
  Written : σ → PropertyIdentifier → PropertyValue → σ → Prop
  /-- The shared part of Property_List. -/
  listed : σ → List PropertyIdentifier
  alarm : σ → Option IntrinsicReporting
  /-- Read though not listed. -/
  Unlisted : σ → PropertyIdentifier → Prop
  /-- Written though neither declared writable nor listed. -/
  Undeclared : σ → PropertyIdentifier → Prop
  /-- Declared writable though it may not be listed. -/
  Stray : PropertyIdentifier → Prop
  sharedSet_eq_ok_iff : ∀ {s property value s'},
    F.sharedSet s property value = some (s', .ok ()) ↔ Written s property value s'
  sharedSet_atomic : ∀ {s property value attempt},
    F.sharedSet s property value = some attempt → attempt.Atomic s
  sharedGet_readable_iff : ∀ {s objectType property},
    (∃ v, F.sharedGet s objectType property = some (.ok v))
      ↔ property ∈ listed s ∨ Unlisted s property
  presentValue_mem_listed : ∀ s, .presentValue ∈ listed s
  typeProperties_not_listed : ∀ {s property}, property ∈ typeProperties →
    property ≠ .presentValue → property ∉ listed s ∧ ¬ Unlisted s property
  written_not_typeProperty : ∀ {s property value s'}, Written s property value s' →
    property ∉ typeProperties
  writable_not_typeProperty : ∀ {s property}, F.sharedWritable s property = true →
    property ∉ typeProperties
  written_writable : ∀ {s property value s'}, Written s property value s' →
    ¬ Undeclared s property → F.sharedWritable s property = true
  written_listed : ∀ {s property value s'}, Written s property value s' →
    ¬ Undeclared s property → ¬ Stray property → property ∈ listed s
  written_readBack : ∀ {s property value s' objectType}, Written s property value s' →
    ¬ Undeclared s property → OwnDatatype property value →
    F.sharedGet s' objectType property = some (.ok (asStored property value))
  written_frame : ∀ {s property value s' objectType q}, Written s property value s' →
    q ≠ property → ¬ ComputedFrom (alarm s) q property →
    F.sharedGet s' objectType q = F.sharedGet s objectType q
  written_of_read : ∀ {s property value objectType}, F.sharedWritable s property = true →
    F.sharedGet s objectType property = some (.ok value) → Storable property value →
    ∃ s', Written s property value s'
  /-- Present_Value reads the local override, while there is one. -/
  sharedGet_presentValue : ∀ s objectType, ∃ x,
    F.sharedGet s objectType .presentValue = some (.ok (F.read x))
  sharedGet_setPresentValue : ∀ {s x objectType}, F.localOverride s = none →
    F.sharedGet (F.setPresentValue s x) objectType .presentValue = some (.ok (F.read x))
  setPresentValue_frame : ∀ {s x objectType q}, q ≠ .presentValue →
    F.sharedGet (F.setPresentValue s x) objectType q = F.sharedGet s objectType q
  convert_eq_ok : ∀ {s commandable value x}, F.convert s commandable value = .ok (some x) →
    value = F.read x

/-! ## §3. Inputs -/

section Points

variable {σ α : Type} {F : Family σ α} {s s' : σ} {objectType : ObjectType}
  {property q : PropertyIdentifier} {value : PropertyValue}

theorem Family.takeReading_eq_ok_iff :
    F.takeReading s value = (s', .ok ())
      ↔ ∃ x, F.convert s false value = .ok (some x) ∧ s' = F.setPresentValue s x := by
  unfold takeReading
  split
  · next h => simp [h, Attempt.refused]
  · next h => simp [h, Attempt.refused]
  · next x h =>
      rw [h]
      constructor
      · intro hdone
        exact ⟨x, rfl, (congrArg Prod.fst hdone).symm⟩
      · rintro ⟨y, hy, rfl⟩
        cases hy
        rfl

theorem Family.takeReading_atomic : (F.takeReading s value).Atomic s := by
  unfold takeReading
  split
  · exact Attempt.atomic_refused s _
  · exact Attempt.atomic_refused s _
  · exact Attempt.atomic_done s _

/-- What a write of an input leaves. -/
inductive InputWritten (L : F.Laws) (s : σ) : PropertyIdentifier → PropertyValue → σ → Prop
  | reading (hout : F.outOfService s = true) {value : PropertyValue} {x : α}
      (hvalue : F.convert s false value = .ok (some x)) :
      InputWritten L s .presentValue value (F.setPresentValue s x)
  | shared {property : PropertyIdentifier} {value : PropertyValue} {s' : σ}
      (h : L.Written s property value s') : InputWritten L s property value s'

theorem readInput_readable_iff (L : F.Laws) :
    (∃ v, F.readInput objectType s property = .ok v)
      ↔ property ∈ L.listed s ∨ L.Unlisted s property := by
  unfold Family.readInput
  simp only [getD_unknownProperty_eq_ok_iff]
  exact L.sharedGet_readable_iff

/-- **A successful write of an input is one of the updates.** -/
theorem writeInput_eq_ok_iff (L : F.Laws) :
    F.writeInput s property value = (s', .ok ()) ↔ InputWritten L s property value s' := by
  unfold Family.writeInput
  constructor
  · intro h
    split at h
    · next hpv =>
        obtain ⟨rfl, hout⟩ := hpv
        obtain ⟨x, hvalue, rfl⟩ := Family.takeReading_eq_ok_iff.mp h
        exact .reading hout hvalue
    · cases hset : F.sharedSet s property value with
      | none =>
          rw [hset] at h
          exact absurd h Attempt.refused_ne_ok
      | some attempt =>
          rw [hset] at h
          have hattempt : attempt = (s', .ok ()) := h
          rw [hattempt] at hset
          exact .shared (L.sharedSet_eq_ok_iff.mp hset)
  · intro h
    cases h with
    | reading hout hvalue =>
        rw [if_pos ⟨rfl, hout⟩]
        exact Family.takeReading_eq_ok_iff.mpr ⟨_, hvalue, rfl⟩
    | shared h =>
        have hpv : property ≠ .presentValue := by
          rintro rfl
          exact L.written_not_typeProperty h (by simp [typeProperties])
        rw [if_neg (fun hboth => hpv hboth.1), L.sharedSet_eq_ok_iff.mpr h]
        rfl

theorem writeInput_atomic (L : F.Laws) : (F.writeInput s property value).Atomic s := by
  unfold Family.writeInput
  split
  · exact Family.takeReading_atomic
  · cases hset : F.sharedSet s property value with
    | none => exact Attempt.atomic_refused s _
    | some attempt => exact L.sharedSet_atomic hset

namespace InputWritten

variable {L : F.Laws}

theorem writable (h : InputWritten L s property value s') (hdeclared : ¬ L.Undeclared s property) :
    F.inputWritable s property = true := by
  unfold Family.inputWritable
  cases h with
  | reading hout hvalue => simp [hout]
  | shared h => simp [L.written_writable h hdeclared]

theorem listed (h : InputWritten L s property value s') (hdeclared : ¬ L.Undeclared s property)
    (hstray : ¬ L.Stray property) : property ∈ L.listed s := by
  cases h with
  | reading hout hvalue => exact L.presentValue_mem_listed s
  | shared h => exact L.written_listed h hdeclared hstray

theorem readBack (h : InputWritten L s property value s') (hheld : F.localOverride s = none)
    (hdeclared : ¬ L.Undeclared s property) (hvalue : OwnDatatype property value) :
    F.readInput objectType s' property = .ok (asStored property value) := by
  apply getD_unknownProperty_eq_ok_iff.mpr
  cases h with
  | reading hout hconvert =>
      rw [asStored_of_ne (by simp) (by simp), L.convert_eq_ok hconvert]
      exact L.sharedGet_setPresentValue hheld
  | shared h => exact L.written_readBack h hdeclared hvalue

theorem frame (h : InputWritten L s property value s') (hq : q ≠ property)
    (hcomputed : ¬ ComputedFrom (L.alarm s) q property) :
    F.readInput objectType s' q = F.readInput objectType s q := by
  unfold Family.readInput
  cases h with
  | reading hout hvalue => rw [L.setPresentValue_frame hq]
  | shared h => rw [L.written_frame h hq hcomputed]

/-- What was read can be written, where it converts and passes the setters' checks. -/
theorem of_read (hwritable : F.inputWritable s property = true)
    (hread : F.readInput objectType s property = .ok value) (hstorable : Storable property value)
    (hconvert : property = .presentValue → ∃ x, F.convert s false value = .ok (some x)) :
    ∃ s', InputWritten L s property value s' := by
  unfold Family.inputWritable at hwritable
  by_cases hpv : property = .presentValue
  · obtain ⟨x, hx⟩ := hconvert hpv
    subst hpv
    have hout : F.outOfService s = true := by
      have hshared : F.sharedWritable s .presentValue ≠ true :=
        fun h => L.writable_not_typeProperty h (by simp [typeProperties])
      simpa [hshared] using hwritable
    exact ⟨_, .reading hout hx⟩
  · have hshared : F.sharedWritable s property = true := by simpa [hpv] using hwritable
    obtain ⟨s', hwritten⟩ :=
      L.written_of_read hshared (getD_unknownProperty_eq_ok_iff.mp hread) hstorable
    exact ⟨s', .shared hwritten⟩

end InputWritten

/-! ## §4. Outputs and values -/

variable {commandable : Bool} {o o' : Commanded σ α} {priority : Option UInt8}

/-- What a write of an output or a value leaves. -/
inductive CommandedWritten (L : F.Laws) (commandable : Bool) (o : Commanded σ α)
    (priority : Option UInt8) : PropertyIdentifier → PropertyValue → Commanded σ α → Prop
  | command (hcommandable : commandable = true)
      (hheld : ∀ l, F.localOverride o.state = some l → l.writes ≠ .denied)
      {value : PropertyValue} {x : Option α} (hvalue : F.convert o.state true value = .ok x)
      (hrange : 1 ≤ (priority.getD 16).toNat ∧ (priority.getD 16).toNat ≤ 16)
      {slots : PriorityArray α}
      (hslots : slots = Slots.write o.priorityArray (slotOf (priority.getD 16) hrange, x)) :
      CommandedWritten L commandable o priority .presentValue value
        { o with
          state := F.setPresentValue o.state (effectiveValue slots o.relinquishDefault)
          priorityArray := slots }
  | straight (hcommandable : commandable = false)
      (hheld : ∀ l, F.localOverride o.state = some l → l.writes ≠ .denied)
      {value : PropertyValue} {x : α} (hvalue : F.convert o.state false value = .ok (some x)) :
      CommandedWritten L commandable o priority .presentValue value
        { o with state := F.setPresentValue o.state x }
  | shared {property : PropertyIdentifier} {value : PropertyValue} {state : σ}
      (h : L.Written o.state property value state) :
      CommandedWritten L commandable o priority property value { o with state := state }

namespace Commanded

theorem writePriority_eq_ok_iff {p : UInt8} {x : Option α} :
    o.writePriority F p x = (o', .ok ())
      ↔ ∃ hrange : 1 ≤ p.toNat ∧ p.toNat ≤ 16, ∃ slots,
          slots = Slots.write o.priorityArray (slotOf p hrange, x)
            ∧ o' = { o with
                state := F.setPresentValue o.state (effectiveValue slots o.relinquishDefault)
                priorityArray := slots } := by
  unfold writePriority
  rw [Attempt.store_eq_ok_iff]
  constructor
  · rintro ⟨⟨slots, effective⟩, hwritten, rfl⟩
    obtain ⟨hrange, hslots, heffective⟩ := writePrioritySlot_eq_ok_iff.mp hwritten
    have heq : effective = effectiveValue slots o.relinquishDefault := heffective
    exact ⟨hrange, slots, hslots, by rw [heq]⟩
  · rintro ⟨hrange, slots, rfl, rfl⟩
    exact ⟨_, writePrioritySlot_of_range hrange, rfl⟩

theorem set_eq : o.set F commandable property value
    = o.setWithPriority F commandable property value none := by
  unfold setWithPriority
  split
  · rfl
  · next h =>
      rw [not_not] at h
      unfold set
      rw [if_pos h]

theorem command_eq_ok_iff :
    o.command F commandable value priority = (o', .ok ())
      ↔ (∀ l, F.localOverride o.state = some l → l.writes ≠ .denied)
        ∧ ((commandable = true ∧ ∃ x, F.convert o.state true value = .ok x
              ∧ o.writePriority F (priority.getD 16) x = (o', .ok ()))
          ∨ (commandable = false ∧ ∃ x, F.convert o.state false value = .ok (some x)
              ∧ o' = { o with state := F.setPresentValue o.state x })) := by
  rw [← overridePermitsWrite_eq_ok_iff]
  unfold command
  cases overridePermitsWrite (F.localOverride o.state) with
  | error e => simp [Attempt.refused]
  | ok u =>
      cases commandable with
      | true =>
          cases F.convert o.state true value with
          | error e => simp [Attempt.refused]
          | ok x => simp
      | false =>
          simp only [Bool.false_eq_true, if_false, false_and, false_or, true_and]
          rw [Attempt.within_eq_ok_iff]
          constructor
          · rintro ⟨state, hstate, rfl⟩
            obtain ⟨x, hx, rfl⟩ := Family.takeReading_eq_ok_iff.mp hstate
            exact ⟨x, hx, rfl⟩
          · rintro ⟨x, hx, rfl⟩
            exact ⟨_, Family.takeReading_eq_ok_iff.mpr ⟨x, hx, rfl⟩, rfl⟩

/-- **A successful write of an output or a value is one of the updates.** -/
theorem setWithPriority_eq_ok_iff (L : F.Laws) :
    o.setWithPriority F commandable property value priority = (o', .ok ())
      ↔ CommandedWritten L commandable o priority property value o' := by
  unfold setWithPriority
  constructor
  · intro h
    split at h
    -- Any property but the present value goes to the plain setter.
    · next hpv =>
        unfold set at h
        rw [if_neg hpv] at h
        obtain ⟨state, hstate, rfl⟩ := Attempt.within_eq_ok_iff.mp h
        cases hset : F.sharedSet o.state property value with
        | none =>
            rw [hset] at hstate
            exact absurd hstate Attempt.refused_ne_ok
        | some attempt =>
            rw [hset] at hstate
            have hattempt : attempt = (state, .ok ()) := hstate
            rw [hattempt] at hset
            exact .shared (L.sharedSet_eq_ok_iff.mp hset)
    · next hpv =>
        -- The present value is commanded, or written straight where there are no slots.
        rw [not_not] at hpv
        subst hpv
        obtain ⟨hheld, ⟨hcommandable, x, hvalue, hwrite⟩ | ⟨hcommandable, x, hvalue, rfl⟩⟩ :=
          command_eq_ok_iff.mp h
        · obtain ⟨hrange, slots, hslots, rfl⟩ := writePriority_eq_ok_iff.mp hwrite
          exact .command hcommandable hheld hvalue hrange hslots
        · exact .straight hcommandable hheld hvalue
  · intro h
    cases h with
    | command hcommandable hheld hvalue hrange hslots =>
        rw [if_neg (by simp)]
        exact command_eq_ok_iff.mpr ⟨hheld, .inl ⟨hcommandable, _, hvalue,
          writePriority_eq_ok_iff.mpr ⟨hrange, _, hslots, rfl⟩⟩⟩
    | straight hcommandable hheld hvalue =>
        rw [if_neg (by simp)]
        exact command_eq_ok_iff.mpr ⟨hheld, .inr ⟨hcommandable, _, hvalue, rfl⟩⟩
    | shared h =>
        have hpv : property ≠ .presentValue := by
          rintro rfl
          exact L.written_not_typeProperty h (by simp [typeProperties])
        unfold set
        rw [if_pos hpv, if_neg hpv, L.sharedSet_eq_ok_iff.mpr h]
        rfl

theorem setWithPriority_atomic (L : F.Laws) :
    (o.setWithPriority F commandable property value priority).Atomic o := by
  unfold setWithPriority set command
  split
  · cases hset : F.sharedSet o.state property value with
    | none => exact (Attempt.atomic_refused o.state _).within rfl
    | some attempt => exact (L.sharedSet_atomic hset).within rfl
  · split
    · exact Attempt.atomic_refused o _
    · split
      · split
        · exact Attempt.atomic_refused o _
        · exact Attempt.atomic_store o _ _
      · exact Family.takeReading_atomic.within rfl

theorem get_readable_iff (L : F.Laws) :
    (∃ v, o.get F objectType commandable property = .ok v)
      ↔ property ∈ L.listed o.state ∨ property ∈ trailing commandable
        ∨ L.Unlisted o.state property := by
  unfold get trailing
  split
  · next h => simp [h]
  · next hslots =>
      split
      · next h => simp [h]
      · next hdefault =>
          rw [readInput_readable_iff L]
          cases commandable with
          | false => simp
          | true =>
              simp only [and_true] at hslots hdefault
              simp [hslots, hdefault]

theorem get_eq_readInput
    (hq : q ≠ .priorityArray ∧ q ≠ .relinquishDefault) :
    o.get F objectType commandable q = F.readInput objectType o.state q := by
  unfold get
  rw [if_neg (fun h => hq.1 h.1), if_neg (fun h => hq.2 h.1)]

end Commanded

namespace CommandedWritten

variable {L : F.Laws}

theorem writable (h : CommandedWritten L commandable o priority property value o')
    (hdeclared : ¬ L.Undeclared o.state property) : o.writable F property = true := by
  unfold Commanded.writable
  cases h with
  | command hcommandable hheld hvalue hrange hslots => simp
  | straight hcommandable hheld hvalue => simp
  | shared h => simp [L.written_writable h hdeclared]

theorem listed (h : CommandedWritten L commandable o priority property value o')
    (hdeclared : ¬ L.Undeclared o.state property) (hstray : ¬ L.Stray property) :
    property ∈ L.listed o.state := by
  cases h with
  | command hcommandable hheld hvalue hrange hslots => exact L.presentValue_mem_listed o.state
  | straight hcommandable hheld hvalue => exact L.presentValue_mem_listed o.state
  | shared h => exact L.written_listed h hdeclared hstray

theorem ne_typeProperty {p : PropertyIdentifier} (hp : p ∉ typeProperties) :
    p ≠ .priorityArray ∧ p ≠ .relinquishDefault := by
  constructor
  · rintro rfl
    exact hp (by simp [typeProperties])
  · rintro rfl
    exact hp (by simp [typeProperties])

theorem readBack (h : CommandedWritten L commandable o priority property value o')
    (hheld : F.localOverride o.state = none)
    (hpv : property = .presentValue → commandable = false)
    (hdeclared : ¬ L.Undeclared o.state property) (hvalue : OwnDatatype property value) :
    o'.get F objectType commandable property = .ok (asStored property value) := by
  cases h with
  | command hcommandable _ hconvert hrange hslots =>
      rw [hpv rfl] at hcommandable
      cases hcommandable
  | straight hcommandable _ hconvert =>
      rw [Commanded.get_eq_readInput (by simp), asStored_of_ne (by simp) (by simp),
        L.convert_eq_ok hconvert]
      exact getD_unknownProperty_eq_ok_iff.mpr (L.sharedGet_setPresentValue hheld)
  | shared h =>
      rw [Commanded.get_eq_readInput (ne_typeProperty (L.written_not_typeProperty h))]
      exact getD_unknownProperty_eq_ok_iff.mpr (L.written_readBack h hdeclared hvalue)

/-- A command moves Present_Value and Priority_Array; nothing else is moved but what
is written and what is computed from it. -/
theorem frame (h : CommandedWritten L commandable o priority property value o')
    (hq : q ≠ property) (hslots : property = .presentValue → q ≠ .priorityArray)
    (hcomputed : ¬ ComputedFrom (L.alarm o.state) q property) :
    o'.get F objectType commandable q = o.get F objectType commandable q := by
  cases h with
  | command hcommandable hheld hvalue hrange hwritten =>
      by_cases htype : q = .relinquishDefault
      · subst htype
        simp [Commanded.get, hcommandable]
      · rw [Commanded.get_eq_readInput ⟨hslots rfl, htype⟩,
          Commanded.get_eq_readInput ⟨hslots rfl, htype⟩]
        unfold Family.readInput
        rw [L.setPresentValue_frame hq]
  | straight hcommandable hheld hvalue =>
      unfold Commanded.get Family.readInput
      rw [L.setPresentValue_frame hq]
  | shared h =>
      unfold Commanded.get Family.readInput
      rw [L.written_frame h hq hcomputed]

/-- What was read can be written, where it converts and passes the setters' checks. -/
theorem of_read (hrange : 1 ≤ (priority.getD 16).toNat ∧ (priority.getD 16).toNat ≤ 16)
    (hwritable : o.writable F property = true)
    (hread : o.get F objectType commandable property = .ok value)
    (hstorable : Storable property value)
    (hheld : property = .presentValue →
      ∀ l, F.localOverride o.state = some l → l.writes ≠ .denied)
    (hconvert : property = .presentValue →
      ∃ x, F.convert o.state commandable value = .ok (some x)) :
    ∃ o', CommandedWritten L commandable o priority property value o' := by
  by_cases hpv : property = .presentValue
  · obtain ⟨x, hx⟩ := hconvert hpv
    have hpermits := hheld hpv
    subst hpv
    cases commandable with
    | true => exact ⟨_, .command rfl hpermits hx hrange rfl⟩
    | false => exact ⟨_, .straight rfl hpermits hx⟩
  · have hshared : F.sharedWritable o.state property = true := by
      simpa [Commanded.writable, hpv] using hwritable
    rw [Commanded.get_eq_readInput (ne_typeProperty (L.writable_not_typeProperty hshared))] at hread
    obtain ⟨state, hwritten⟩ :=
      L.written_of_read hshared (getD_unknownProperty_eq_ok_iff.mp hread) hstorable
    exact ⟨_, .shared hwritten⟩

end CommandedWritten

end Points

end BacnetRs.Object
