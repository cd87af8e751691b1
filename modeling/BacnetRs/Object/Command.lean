/-
  BacnetRs.Object.Command — commanding Present_Value by priority
  (`object/mod.rs` and the outputs and values).

  A commandable object keeps sixteen slots and shows them in Priority_Array; a
  command fills or empties one.  What a command does is said here of what the
  object reads (`CommandSpec`), whichever of the six types it is, and then of
  any sequence of commands.

    * `CommandedType.commandSpec` — an output or a value does this.
    * `HostedObject.priority_commands` — after any commands, every slot holds
                            what was last written to it with success.
-/
import BacnetRs.Object.Hosted

namespace BacnetRs.Object

open BacnetRs.Encoding BacnetRs.Property

/-! ## §1. What a command does -/

/-- Null empties a slot. -/
def asSlot : PropertyValue → Option PropertyValue
  | .null => none
  | value => some value

theorem asSlot_of_ne {value : PropertyValue} (h : value ≠ .null) : asSlot value = some value := by
  unfold asSlot
  split
  · exact absurd rfl h
  · rfl

/-- The slot a command addresses: the lowest when it names none. -/
def commandSlot (priority : Option UInt8) : Option (Fin 16) :=
  if h : 1 ≤ (priority.getD 16).toNat ∧ (priority.getD 16).toNat ≤ 16 then
    some (slotOf (priority.getD 16) h)
  else none

section Spec

variable {ω : Type} [BacnetObject ω] [Described ω]

open Described

/-- A value of the object's type that a command may carry, or Null. -/
def Acceptable (o : ω) (value : PropertyValue) : Prop :=
  value = .null
    ∨ ((analog o).isSome = true ∧ ∃ x, value = .real x)
    ∨ ((binary o).isSome = true ∧ (value = .enumerated 0 ∨ value = .enumerated 1))
    ∨ ∃ s, multistate o = some s ∧ ∃ state : UInt32, value = .unsigned state.toUInt64
        ∧ 1 ≤ state ∧ state ≤ s.numberOfStates

/-- What Priority_Array reads. -/
def ReadsSlots (o : ω) (slots : Slots PropertyValue 16) : Prop :=
  ∃ values, BacnetObject.getProperty o .priorityArray = .ok (.array values)
    ∧ values.map asSlot = slots.toList

/-- What a successful command leaves. -/
structure CommandEffect (o : ω) (slot : Fin 16) (value : PropertyValue) (o' : ω) : Prop where
  /-- Only the addressed slot is replaced. -/
  slots : ∀ slots, ReadsSlots o slots → ReadsSlots o' (Slots.write slots (slot, asSlot value))
  /-- The lowest filled slot counts, or else the relinquish default. -/
  presentValue : held o = none → ∃ slots default, ReadsSlots o' slots
    ∧ BacnetObject.getProperty o' .relinquishDefault = .ok default
    ∧ BacnetObject.getProperty o' .presentValue = .ok (effectiveValue slots default)
  others : ∀ q, q ≠ .presentValue → q ≠ .priorityArray →
    BacnetObject.getProperty o' q = BacnetObject.getProperty o q
  commanded_eq : commanded o' = commanded o
  held_eq : held o' = held o
  acceptable_iff : ∀ w, Acceptable o' w ↔ Acceptable o w

/-- How a commandable object takes commands. -/
structure CommandSpec (o : ω) : Prop where
  slots : ∃ slots, ReadsSlots o slots
  default : ∃ default, BacnetObject.getProperty o .relinquishDefault = .ok default
  /-- A command succeeds when its priority is one, its value is acceptable and no
  override denies it. -/
  succeeds_iff : ∀ value priority,
    (∃ o', BacnetObject.setPropertyWithPriority o .presentValue value priority = (o', .ok ()))
      ↔ (commandSlot priority).isSome = true ∧ Acceptable o value ∧ held o ≠ some .denied
  effect : ∀ value priority o' slot,
    BacnetObject.setPropertyWithPriority o .presentValue value priority = (o', .ok ()) →
    commandSlot priority = some slot → CommandEffect o slot value o'
  atomic : ∀ value priority,
    (BacnetObject.setPropertyWithPriority o .presentValue value priority).Atomic o

end Spec

/-! ## §2. Outputs and values -/

section Types

variable {σ α ω : Type} {F : Family σ α} [BacnetObject ω] [Described ω] {L : F.Laws}

/-- What a family has to keep for its objects to be commanded. -/
structure CommandFacts (T : CommandedType L ω) : Prop where
  read_ne_null : ∀ x, F.read x ≠ .null
  /-- What converts is what is acceptable. -/
  converts_iff : ∀ (o : ω) value,
    (∃ x, F.convert (T.core o).state true value = .ok x) ↔ Acceptable o value
  convert_eq : ∀ (o : ω) value x, F.convert (T.core o).state true value = .ok x →
    asSlot value = x.map F.read
  localOverride_eq : ∀ s x, F.localOverride (F.setPresentValue s x) = F.localOverride s
  /-- A command leaves what is acceptable as it was. -/
  acceptable_put : ∀ (o : ω) c x, c.state = F.setPresentValue (T.core o).state x →
    ∀ w, Acceptable (T.put o c) w ↔ Acceptable o w

/-- The slots as values. -/
def slotValues (F : Family σ α) (slots : PriorityArray α) : Slots PropertyValue 16 :=
  slots.map (Option.map F.read)

theorem effectiveValue_slotValues (slots : PriorityArray α) (default : α) :
    effectiveValue (slotValues F slots) (F.read default) = F.read (effectiveValue slots default) := by
  unfold effectiveValue slotValues
  rw [Slots.first_map]
  cases Slots.first slots with
  | none => rfl
  | some x => rfl

theorem priorityArrayValue_eq (hread : ∀ x, F.read x ≠ .null) (slots : PriorityArray α) :
    ∃ values, priorityArrayValue F.read slots = .array values
      ∧ values.map asSlot = (slotValues F slots).toList := by
  refine ⟨_, rfl, ?_⟩
  unfold slotValues
  rw [Vector.toList_map, List.map_map]
  apply List.map_congr_left
  intro slot _
  cases slot with
  | none => rfl
  | some x => exact asSlot_of_ne (hread x)

namespace CommandedType

variable (T : CommandedType L ω)

/-- Priority_Array reads the slots. -/
theorem readsSlots_iff (hread : ∀ x, F.read x ≠ .null) {o : ω} (hc : T.commandable o = true)
    {slots : Slots PropertyValue 16} :
    ReadsSlots o slots ↔ slots = slotValues F (T.core o).priorityArray := by
  have hget : BacnetObject.getProperty o .priorityArray
      = .ok (priorityArrayValue F.read (T.core o).priorityArray) := by
    rw [T.getProperty_eq, orDeviceType_of_ne (by simp)]
    simp [Commanded.get, hc]
  obtain ⟨shown, hshown, hvalues⟩ := priorityArrayValue_eq hread (T.core o).priorityArray
  unfold ReadsSlots
  rw [hget, hshown]
  constructor
  · rintro ⟨values, hvalue, hslots⟩
    cases hvalue
    rw [hvalues] at hslots
    exact (Vector.toList_inj.mp hslots).symm
  · rintro rfl
    exact ⟨shown, rfl, hvalues⟩

theorem getProperty_relinquishDefault {o : ω} (hc : T.commandable o = true) :
    BacnetObject.getProperty o .relinquishDefault
      = .ok (F.read (T.core o).relinquishDefault) := by
  rw [T.getProperty_eq, orDeviceType_of_ne (by simp)]
  simp [Commanded.get, hc]

theorem held_eq_denied_iff {o : ω} : Described.held o ≠ some .denied
    ↔ ∀ l, F.localOverride (T.core o).state = some l → l.writes ≠ .denied := by
  rw [(T.facts o).held]
  cases F.localOverride (T.core o).state with
  | none => simp
  | some l => simp

/-- **An output or a value takes commands as specified.** -/
theorem commandSpec (facts : CommandFacts T) {o : ω} (hc : T.commandable o = true) :
    CommandSpec o where
  slots := ⟨_, (T.readsSlots_iff facts.read_ne_null hc).mpr rfl⟩
  default := ⟨_, T.getProperty_relinquishDefault hc⟩
  succeeds_iff := by
    intro value priority
    rw [← facts.converts_iff, T.held_eq_denied_iff]
    constructor
    · rintro ⟨o', h⟩
      obtain ⟨c', hwritten, _⟩ := T.set_eq_ok_iff.mp h
      cases hwritten with
      | command _ hheld hvalue hrange _ =>
          refine ⟨?_, ⟨_, hvalue⟩, hheld⟩
          rw [commandSlot, dif_pos hrange]
          rfl
      | straight hcommandable _ _ =>
          rw [hc] at hcommandable
          cases hcommandable
      | shared h => exact absurd (L.written_not_typeProperty h) (by simp [typeProperties])
    · rintro ⟨hslot, ⟨x, hvalue⟩, hheld⟩
      -- A slot to command is a priority in range.
      have hrange : 1 ≤ (priority.getD 16).toNat ∧ (priority.getD 16).toNat ≤ 16 := by
        by_contra hout
        rw [commandSlot, dif_neg hout] at hslot
        cases hslot
      exact ⟨_, T.set_eq_ok_iff.mpr ⟨_, .command hc hheld hvalue hrange rfl, rfl⟩⟩
  effect := by
    intro value priority o' slot h hslot
    obtain ⟨c', hwritten, rfl⟩ := T.set_eq_ok_iff.mp h
    cases hwritten with
    | straight hcommandable _ _ =>
        rw [hc] at hcommandable
        cases hcommandable
    | shared hshared =>
        exact absurd (L.written_not_typeProperty hshared) (by simp [typeProperties])
    | @command _ _ value x hvalue hrange slots hslots =>
        rw [commandSlot, dif_pos hrange] at hslot
        cases hslot
        have hc' : ∀ c, T.commandable (T.put o c) = true := fun c => by
          rw [T.commandable_put, hc]
        -- In turn: the slots, the value in effect, the frame, and the three facts that stay.
        refine ⟨?_, ?_, ?_, ?_, ?_, ?_⟩
        · intro values hvalues
          rw [(T.readsSlots_iff facts.read_ne_null hc).mp hvalues,
            T.readsSlots_iff facts.read_ne_null (hc' _), T.core_put,
            facts.convert_eq o value x hvalue]
          simp only [slotValues, hslots, Slots.write_map]
        · intro hheld
          have hnone : F.localOverride (T.core o).state = none := by
            rw [(T.facts o).held] at hheld
            exact Option.map_eq_none_iff.mp hheld
          refine ⟨_, _, (T.readsSlots_iff facts.read_ne_null (hc' _)).mpr rfl,
            T.getProperty_relinquishDefault (hc' _), ?_⟩
          rw [T.core_put, effectiveValue_slotValues, T.getProperty_eq,
            orDeviceType_of_ne (by simp), Commanded.get_eq_readInput (by simp), T.core_put]
          exact getD_unknownProperty_eq_ok_iff.mpr (L.sharedGet_setPresentValue hnone)
        · intro q hpv harray
          rw [T.getProperty_eq, T.getProperty_eq, T.deviceType_put, T.commandable_put, T.core_put]
          congr 1
          unfold Commanded.get Family.readInput
          simp only [harray, false_and, if_false, L.setPresentValue_frame hpv]
        · rw [T.commanded_eq, T.commanded_eq, T.commandable_put]
        · rw [(T.facts _).held, (T.facts o).held, T.core_put, facts.localOverride_eq]
        · exact facts.acceptable_put o _ _ rfl
  atomic := by
    intro value priority
    rw [T.setPropertyWithPriority_eq]
    exact (Commanded.setWithPriority_atomic L).within (T.put_core o)

end CommandedType

/-! ## §3. The three families -/

theorem analogCommandFacts {T : CommandedType analogLaws ω}
    (hanalog : ∀ o : ω, Described.analog o = some (T.core o).state)
    (hbinary : ∀ o : ω, Described.binary o = none)
    (hmultistate : ∀ o : ω, Described.multistate o = none) : CommandFacts T where
  read_ne_null := nofun
  converts_iff := by
    intro o value
    have hiff : Acceptable o value ↔ value = .null ∨ ∃ x, value = .real x := by
      simp [Acceptable, hanalog, hbinary, hmultistate]
    rw [hiff]
    show (∃ x, commandableReal value = .ok x) ↔ _
    simp only [commandableReal_eq_ok_iff]
    constructor
    · rintro ⟨x, ⟨hnull, _⟩ | ⟨reading, hreal, _⟩⟩
      · exact .inl hnull
      · exact .inr ⟨reading, hreal⟩
    · rintro (hnull | ⟨x, hreal⟩)
      · exact ⟨none, .inl ⟨hnull, rfl⟩⟩
      · exact ⟨some x, .inr ⟨x, hreal, rfl⟩⟩
  convert_eq := by
    intro o value x h
    rcases commandableReal_eq_ok_iff.mp h with ⟨rfl, rfl⟩ | ⟨reading, rfl, rfl⟩
    · rfl
    · rfl
  localOverride_eq := fun _ _ => rfl
  acceptable_put := by
    intro o c x _ w
    simp [Acceptable, hanalog, hbinary, hmultistate]

theorem binaryCommandFacts {T : CommandedType binaryLaws ω}
    (hanalog : ∀ o : ω, Described.analog o = none)
    (hbinary : ∀ o : ω, Described.binary o = some (T.core o).state)
    (hmultistate : ∀ o : ω, Described.multistate o = none) : CommandFacts T where
  read_ne_null := nofun
  converts_iff := by
    intro o value
    have hiff : Acceptable o value
        ↔ value = .null ∨ value = .enumerated 0 ∨ value = .enumerated 1 := by
      simp [Acceptable, hanalog, hbinary, hmultistate]
    rw [hiff]
    show (∃ x, commandableBinary value = .ok x) ↔ _
    simp only [commandableBinary_eq_ok_iff]
    constructor
    · rintro ⟨x, ⟨hnull, _⟩ | ⟨state, hvalue, _⟩⟩
      · exact .inl hnull
      · cases state with
        | inactive => exact .inr (.inl hvalue)
        | active => exact .inr (.inr hvalue)
    · rintro (hnull | hvalue | hvalue)
      · exact ⟨none, .inl ⟨hnull, rfl⟩⟩
      · exact ⟨some .inactive, .inr ⟨.inactive, hvalue, rfl⟩⟩
      · exact ⟨some .active, .inr ⟨.active, hvalue, rfl⟩⟩
  convert_eq := by
    intro o value x h
    rcases commandableBinary_eq_ok_iff.mp h with ⟨rfl, rfl⟩ | ⟨state, rfl, rfl⟩
    · rfl
    · rfl
  localOverride_eq := fun _ _ => rfl
  acceptable_put := by
    intro o c x _ w
    simp [Acceptable, hanalog, hbinary, hmultistate]

theorem multistateCommandFacts {T : CommandedType multistateLaws ω}
    (hanalog : ∀ o : ω, Described.analog o = none)
    (hbinary : ∀ o : ω, Described.binary o = none)
    (hmultistate : ∀ o : ω, Described.multistate o = some (T.core o).state) : CommandFacts T where
  read_ne_null := nofun
  converts_iff := by
    intro o value
    have hiff : Acceptable o value ↔ value = .null ∨ ∃ state : UInt32,
        value = .unsigned state.toUInt64 ∧ 1 ≤ state
          ∧ state ≤ (T.core o).state.numberOfStates := by
      simp [Acceptable, hanalog, hbinary, hmultistate]
    rw [hiff]
    show (∃ x, (T.core o).state.convert true value = .ok x) ↔ _
    simp only [MultistateState.convert_eq_ok_iff]
    constructor
    · rintro ⟨x, ⟨hnull, _⟩ | ⟨state, hvalue, hlow, hhigh, _⟩⟩
      · exact .inl hnull
      · exact .inr ⟨state, hvalue, hlow, hhigh⟩
    · rintro (hnull | ⟨state, hvalue, hlow, hhigh⟩)
      · exact ⟨none, .inl ⟨hnull, rfl⟩⟩
      · exact ⟨some state, .inr ⟨state, hvalue, hlow, hhigh, rfl⟩⟩
  convert_eq := by
    intro o value x h
    rcases MultistateState.convert_eq_ok_iff.mp h with ⟨rfl, rfl⟩ | ⟨state, rfl, _, _, rfl⟩
    · rfl
    · rfl
  localOverride_eq := fun _ _ => rfl
  acceptable_put := by
    intro o c x hstate w
    simp [Acceptable, hanalog, hbinary, hmultistate, T.core_put, hstate, multistateFamily]

end Types

/-! ## §4. Objects of any type -/

namespace HostedObject

/-- What an object's type does, the object does. -/
theorem commandSpec_of_state {o : HostedObject} (h : CommandSpec o.state) : CommandSpec o where
  slots := h.slots
  default := h.default
  succeeds_iff := by
    intro value priority
    have hiff : (commandSlot priority).isSome = true ∧ Acceptable o value
          ∧ Described.held o ≠ some .denied
        ↔ (commandSlot priority).isSome = true ∧ Acceptable o.state value
          ∧ Described.held o.state ≠ some .denied := Iff.rfl
    rw [hiff, ← h.succeeds_iff value priority]
    constructor
    · rintro ⟨o', hset⟩
      obtain ⟨state, hstate, _⟩ := Attempt.within_eq_ok_iff.mp hset
      exact ⟨state, hstate⟩
    · rintro ⟨state, hstate⟩
      exact ⟨o.withState state, Attempt.within_eq_ok_iff.mpr ⟨state, hstate, rfl⟩⟩
  effect := by
    intro value priority o' slot hset hslot
    obtain ⟨state, hstate, rfl⟩ := Attempt.within_eq_ok_iff.mp hset
    have heffect := h.effect value priority state slot hstate hslot
    exact ⟨heffect.slots, heffect.presentValue, heffect.others, heffect.commanded_eq,
      heffect.held_eq, heffect.acceptable_iff⟩
  atomic := fun _ _ => LawfulObject.atomic

/-- The six types that are commanded, each by its family. -/
theorem commandSpec {o : HostedObject} (h : Described.commanded o = some true) : CommandSpec o := by
  apply commandSpec_of_state
  obtain ⟨cls, state⟩ := o
  cases cls with
  | analogOutput =>
      exact analogOutputType.commandSpec
        (analogCommandFacts (fun _ => rfl) (fun _ => rfl) (fun _ => rfl)) rfl
  | analogValue =>
      exact analogValueType.commandSpec
        (analogCommandFacts (fun _ => rfl) (fun _ => rfl) (fun _ => rfl)) (Option.some.inj h)
  | binaryOutput =>
      exact binaryOutputType.commandSpec
        (binaryCommandFacts (fun _ => rfl) (fun _ => rfl) (fun _ => rfl)) rfl
  | binaryValue =>
      exact binaryValueType.commandSpec
        (binaryCommandFacts (fun _ => rfl) (fun _ => rfl) (fun _ => rfl)) (Option.some.inj h)
  | multiStateOutput =>
      exact multiStateOutputType.commandSpec
        (multistateCommandFacts (fun _ => rfl) (fun _ => rfl) (fun _ => rfl)) rfl
  | multiStateValue =>
      exact multiStateValueType.commandSpec
        (multistateCommandFacts (fun _ => rfl) (fun _ => rfl) (fun _ => rfl)) (Option.some.inj h)
  | device => cases h
  | analogInput => cases h
  | binaryInput => cases h
  | multiStateInput => cases h
  | schedule => cases h
  | calendar => cases h
  | notificationClass => cases h
  | file => cases h

/-! ## §5. Any sequence of commands -/

/-- A call of `set_property_with_priority` on Present_Value. -/
structure Call where
  value : PropertyValue
  priority : Option UInt8

/-- Make a call. -/
def command (o : HostedObject) (call : Call) : Attempt ObjectError HostedObject :=
  BacnetObject.setPropertyWithPriority o .presentValue call.value call.priority

/-- The object after the calls, whether each succeeded or not. -/
def afterCommands (o : HostedObject) (calls : List Call) : HostedObject :=
  calls.foldl (fun o call => (o.command call).1) o

/-- What the successful calls wrote, slot by slot. -/
def successfulWrites (o : HostedObject) : List Call → List (Fin 16 × Option PropertyValue)
  | [] => []
  | call :: rest =>
      match o.command call with
      | (o', .ok ()) =>
          (commandSlot call.priority).toList.map (fun slot => (slot, asSlot call.value))
            ++ o'.successfulWrites rest
      | (o', .error _) => o'.successfulWrites rest

/-- Commands leave an object commanded, with the same override. -/
theorem command_commanded {o : HostedObject} (h : Described.commanded o = some true)
    (call : Call) : Described.commanded (o.command call).1 = some true := by
  have hspec := commandSpec h
  obtain ⟨value, priority⟩ := call
  unfold command
  cases hset : BacnetObject.setPropertyWithPriority o .presentValue value priority with
  | mk o' result =>
      cases result with
      | error e =>
          have heq : o' = o := by
            have hatomic := hspec.atomic value priority e
            rw [hset] at hatomic
            exact hatomic rfl
          rw [heq, h]
      | ok u =>
          have hsome := ((hspec.succeeds_iff value priority).mp ⟨o', hset⟩).1
          obtain ⟨slot, hslot⟩ := Option.isSome_iff_exists.mp hsome
          rw [(hspec.effect value priority o' slot hset hslot).commanded_eq, h]

theorem afterCommands_commanded {o : HostedObject} (h : Described.commanded o = some true)
    (calls : List Call) : Described.commanded (o.afterCommands calls) = some true := by
  induction calls generalizing o with
  | nil => exact h
  | cons call rest ih => exact ih (command_commanded h call)

/-- The slots after the calls are those before with the successful writes made. -/
theorem afterCommands_slots {o : HostedObject} (h : Described.commanded o = some true)
    (calls : List Call) {slots : Slots PropertyValue 16} (hslots : ReadsSlots o slots) :
    ReadsSlots (o.afterCommands calls) (Slots.writeAll slots (o.successfulWrites calls)) := by
  induction calls generalizing o slots with
  | nil => exact hslots
  | cons call rest ih =>
      have hspec := commandSpec h
      have hnext := command_commanded h call
      show ReadsSlots ((o.command call).1.afterCommands rest) _
      unfold successfulWrites
      cases hset : o.command call with
      | mk o' result =>
          rw [hset] at hnext
          cases result with
          | error e =>
              have heq : o' = o := by
                have hatomic := hspec.atomic call.value call.priority e
                unfold command at hset
                rw [hset] at hatomic
                exact hatomic rfl
              exact ih hnext (by rw [heq]; exact hslots)
          | ok u =>
              have hsome := ((hspec.succeeds_iff call.value call.priority).mp ⟨o', hset⟩).1
              obtain ⟨slot, hslot⟩ := Option.isSome_iff_exists.mp hsome
              have heffect := hspec.effect call.value call.priority o' slot hset hslot
              have hwritten := ih hnext (heffect.slots slots hslots)
              simpa [hslot, Slots.writeAll] using hwritten

theorem commandSlot_isSome_iff {priority : Option UInt8} :
    (commandSlot priority).isSome = true
      ↔ 1 ≤ (priority.getD 16).toNat ∧ (priority.getD 16).toNat ≤ 16 := by
  unfold commandSlot
  split
  · next h => simp [h]
  · next h => simp [h]

/-- **Commands act slot by slot.**  Of an object that is commanded, whichever of the
six types it is: every call succeeds exactly when its priority is one, its value is
acceptable and no override denies it; a success replaces the addressed slot and puts
the lowest filled one in effect; a failure changes nothing; and after all of them a
slot holds what was last written to it with success. -/
theorem priority_commands {o : HostedObject} (h : Described.commanded o = some true)
    (calls : List Call) :
    (∀ before call after, calls = before ++ call :: after →
      ((∃ o', (o.afterCommands before).command call = (o', .ok ()))
        ↔ (1 ≤ (call.priority.getD 16).toNat ∧ (call.priority.getD 16).toNat ≤ 16)
          ∧ Acceptable (o.afterCommands before) call.value
          ∧ Described.held (o.afterCommands before) ≠ some .denied)
      ∧ (∀ o' slot, (o.afterCommands before).command call = (o', .ok ()) →
          commandSlot call.priority = some slot →
          CommandEffect (o.afterCommands before) slot call.value o')
      ∧ ∀ o' e, (o.afterCommands before).command call = (o', .error e) →
          o' = o.afterCommands before)
    ∧ ∃ slots slots', ReadsSlots o slots ∧ ReadsSlots (o.afterCommands calls) slots'
      ∧ ∀ i : Fin 16,
          slots'[i] = (Slots.lastTo i (o.successfulWrites calls)).getD slots[i] := by
  constructor
  -- Before each call the object is still commanded, and its law speaks of that call.
  · intro before call after _
    have hspec := commandSpec (afterCommands_commanded h before)
    refine ⟨?_, ?_, ?_⟩
    · rw [← commandSlot_isSome_iff]
      exact hspec.succeeds_iff call.value call.priority
    · intro o' slot hset hslot
      exact hspec.effect call.value call.priority o' slot hset hslot
    · intro o' e hset
      have hatomic := hspec.atomic call.value call.priority e
      have hset' : BacnetObject.setPropertyWithPriority (o.afterCommands before) .presentValue
          call.value call.priority = (o', .error e) := hset
      rw [hset'] at hatomic
      exact hatomic rfl
  -- Slot by slot, the last successful write is what is read.
  · obtain ⟨slots, hslots⟩ := (commandSpec h).slots
    refine ⟨slots, _, hslots, afterCommands_slots h calls hslots, ?_⟩
    intro i
    exact Slots.getElem_writeAll slots _ i

/-- A new Analog Value is commanded at priority 8 and then, in vain, at 17. -/
theorem priority_commands_setpoint :
    ∃ slots', ReadsSlots ((⟨.analogValue, .new 1 "Setpoint"⟩ : HostedObject).afterCommands
        [⟨.real ⟨0x41200000⟩, some 8⟩, ⟨.null, some 17⟩]) slots'
      ∧ slots'[(7 : Fin 16)] = some (.real ⟨0x41200000⟩) := by
  obtain ⟨_, slots, slots', _, hslots, hlast⟩ :=
    @priority_commands ⟨.analogValue, .new 1 "Setpoint"⟩ rfl
      [⟨.real ⟨0x41200000⟩, some 8⟩, ⟨.null, some 17⟩]
  refine ⟨slots', hslots, ?_⟩
  rw [hlast 7]
  rfl

end HostedObject

end BacnetRs.Object
