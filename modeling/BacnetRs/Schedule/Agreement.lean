/-
  BacnetRs.Schedule.Agreement — schedules and what they told their targets.

  The engine writes a value to the references of a schedule when it differs from
  the Present_Value, or when it has never driven the identifier.  Between two
  ticks, though, an object may be removed and another added under its identifier,
  a reference may be added, and an operator may park a schedule on a value while
  it is out of service.  Then the value may be the Present_Value already, and
  not everything that is referenced has been told.

    * `operation_kept`     — what an operation that disturbs nothing leaves.
    * `Told`, `Driven`     — each reference was last told the Present_Value, and
                             which schedules that is true of between ticks.
    * `evaluate_agrees`, `schedules_agree`
                           — one evaluation, and any run of undisturbed ticks.
    * `readded_untold`     — and without the condition a target need not know.
-/
import BacnetRs.Schedule.Run

namespace BacnetRs.Scheduling

open BacnetRs.Encoding BacnetRs.Object BacnetRs.Property
open BacnetRs.Object.ObjectDatabase (Operation)

/-! ## §1. What an operation leaves of a schedule -/

/-- A schedule, if it is there, was there with its Present_Value and its references. -/
def Kept (before after : ObjectDatabase) (identifier : ObjectIdentifier) : Prop :=
  ∀ s', scheduleAt after identifier = some s' → ∃ s, scheduleAt before identifier = some s
    ∧ s'.presentValue = s.presentValue
    ∧ s'.listOfObjectPropertyReferences ⊆ s.listOfObjectPropertyReferences

theorem Kept.of_eq {before after : ObjectDatabase} {identifier : ObjectIdentifier}
    (h : scheduleAt after identifier = scheduleAt before identifier) :
    Kept before after identifier :=
  fun s' hs' => ⟨s', h ▸ hs', rfl, fun _ hmem => hmem⟩

theorem Kept.trans {x y z : ObjectDatabase} {identifier : ObjectIdentifier}
    (hxy : Kept x y identifier) (hyz : Kept y z identifier) : Kept x z identifier := by
  intro s'' hs''
  obtain ⟨s', hs', hvalue', hreferences'⟩ := hyz s'' hs''
  obtain ⟨s, hs, hvalue, hreferences⟩ := hxy s' hs'
  exact ⟨s, hs, hvalue'.trans hvalue, fun r hr => hreferences (hreferences' hr)⟩

/-- Of a write of a schedule, only that of its Present_Value parks it. -/
theorem presentValue_of_written {s s' : Schedule} {property : PropertyIdentifier}
    {value : PropertyValue} (h : s.Written property value s') (hproperty : property ≠ .presentValue) :
    s'.presentValue = s.presentValue := by
  cases h with
  | presentValue => exact absurd rfl hproperty
  | _ => rfl

section Operations

variable {database : ObjectDatabase} {identifier : ObjectIdentifier}

theorem setPropertyWithPriority_other {target : ObjectIdentifier} {property : PropertyIdentifier}
    {value : PropertyValue} {priority : Option UInt8} (hother : identifier ≠ target) :
    scheduleAt (database.setPropertyWithPriority target property value priority).1 identifier
      = scheduleAt database identifier := by
  cases hattempt : database.setPropertyWithPriority target property value priority with
  | mk after result =>
      cases result with
      | error e =>
          rw [ObjectDatabase.unchanged_of_refused hattempt]
      | ok u =>
          obtain ⟨_, _, _, _, hlookup, _⟩ := ObjectDatabase.setPropertyWithPriority_eq_ok hattempt
          unfold scheduleAt
          show (after.objects.lookup identifier).bind scheduleMut = _
          rw [hlookup, if_neg hother]

theorem quiet_of_disturbedBy {property : PropertyIdentifier} {after : ObjectDatabase}
    (h : disturbedBy database identifier property (after, .ok ()) ≠ some identifier) :
    property ≠ .presentValue ∧ referencesAt after identifier ⊆ referencesAt database identifier := by
  have hguard : ¬ (property == .presentValue
      || !(referencesAt after identifier).all
        (fun target => (referencesAt database identifier).contains target)) = true :=
    fun hguard => h (if_pos hguard)
  rw [Bool.or_eq_true, not_or, beq_iff_eq, Bool.not_eq_true, Bool.not_eq_false',
    List.all_eq_true] at hguard
  refine ⟨hguard.1, fun target htarget => ?_⟩
  simpa using hguard.2 target htarget

/-- **A write that disturbs nothing** keeps a schedule's value and adds no reference. -/
theorem setPropertyWithPriority_kept {target : ObjectIdentifier} {property : PropertyIdentifier}
    {value : PropertyValue} {priority : Option UInt8}
    (h : disturbedBy database target property
      (database.setPropertyWithPriority target property value priority) ≠ some identifier) :
    Kept database (database.setPropertyWithPriority target property value priority).1
      identifier := by
  by_cases hother : identifier = target
  · subst hother
    cases hattempt : database.setPropertyWithPriority identifier property value priority with
    | mk after result =>
        rw [hattempt] at h
        cases result with
        | error e =>
            have hsame : after = database := ObjectDatabase.unchanged_of_refused hattempt
            exact .of_eq (by rw [hsame])
        | ok u =>
            obtain ⟨hproperty, hreferences⟩ := quiet_of_disturbedBy h
            obtain ⟨object, object', hobject, hset, hlookup, _⟩ :=
              ObjectDatabase.setPropertyWithPriority_eq_ok hattempt
            intro s' hs'
            have hafter := scheduleAt_eq_some_iff.mp hs'
            rw [hlookup, if_pos rfl] at hafter
            obtain ⟨state, hstate, hobject'⟩ := Attempt.within_eq_ok_iff.mp hset
            obtain ⟨cls, before⟩ := object
            cases (Option.some.inj hafter).symm.trans hobject'
            have hs : scheduleAt database identifier = some before :=
              scheduleAt_eq_some_iff.mpr hobject
            unfold referencesAt at hreferences
            rw [hs, hs'] at hreferences
            exact ⟨before, hs, presentValue_of_written
              (Schedule.setProperty_eq_ok_iff.mp hstate) hproperty, hreferences⟩
  · exact .of_eq (setPropertyWithPriority_other hother)

/-- **An operation that disturbs nothing** keeps a schedule's value and adds no reference. -/
theorem operation_kept {operation : Operation}
    (h : disturbed database operation ≠ some identifier) :
    Kept database (operation.attempt database).1 identifier := by
  cases operation with
  | addObject object =>
      show Kept database (database.addObject object).1 identifier
      rcases ObjectDatabase.addObject_cases database object with ⟨e, hrefused⟩ | ⟨_, after, hdone, hadded⟩
      · rw [hrefused]
        exact .of_eq rfl
      -- An object added under this identifier would have disturbed it.
      · have hne : identifier ≠ BacnetObject.identifier object := by
          rintro rfl
          apply h
          show (if (database.addObject object).2.isOk then _ else none) = _
          rw [hdone]
          rfl
        rw [hdone]
        apply Kept.of_eq
        unfold scheduleAt
        show (after.objects.lookup identifier).bind scheduleMut = _
        rw [hadded.objects, KeyedTable.lookup_insert_eq_ite, if_neg hne]
  | removeObject removed =>
      show Kept database (database.removeObject removed).1 identifier
      rcases ObjectDatabase.removeObject_cases database removed with
        ⟨e, hrefused⟩ | ⟨_, _, after, hdone, hremoved⟩
      · rw [hrefused]
        exact .of_eq rfl
      · rw [hdone]
        intro s' hs'
        have hafter : (after.objects.lookup identifier).bind scheduleMut = some s' := hs'
        rw [hremoved.objects, KeyedTable.lookup_erase_eq_ite] at hafter
        -- A schedule that is gone asks for nothing.
        split at hafter
        · cases hafter
        · exact ⟨s', hafter, rfl, fun _ hmem => hmem⟩
  | setProperty target property value =>
      show Kept database (database.setProperty target property value).1 identifier
      rw [ObjectDatabase.setProperty_eq]
      apply setPropertyWithPriority_kept
      rw [← ObjectDatabase.setProperty_eq]
      exact h
  | setPropertyWithPriority target property value priority => exact setPropertyWithPriority_kept h

end Operations

/-! ## §2. What the references have been told -/

/-- Each reference of the schedule was last told its Present_Value. -/
def Told (w : World) (schedule : ObjectIdentifier) : Prop :=
  ∀ s, scheduleAt w.database schedule = some s → ∀ target ∈ s.listOfObjectPropertyReferences,
    lastWrite schedule target w.history = some s.presentValue

theorem Told.of_kept {w w' : World} {schedule : ObjectIdentifier} (h : Told w schedule)
    (hkept : Kept w.database w'.database schedule)
    (hhistory : ∀ target, lastWrite schedule target w'.history
      = lastWrite schedule target w.history) : Told w' schedule := by
  intro s' hs' target htarget
  obtain ⟨s, hs, hvalue, hreferences⟩ := hkept s' hs'
  rw [hhistory, hvalue]
  exact h s hs target (hreferences htarget)

/-- What holds between ticks: a schedule the engine has driven and that is as it left it has
told its references. -/
structure Driven (w : World) : Prop where
  indexed : w.database.Indexed
  told : ∀ schedule ∈ w.engine.primed, schedule ∉ w.stale → Told w schedule

theorem Driven.operate {w : World} (h : Driven w) (operation : Operation) :
    Driven (w.operate operation) := by
  constructor
  · rcases operation.attempt_cases w.database with ⟨e, hrefused⟩ | ⟨after, hdone, hindexed, _⟩
    · show (operation.attempt w.database).1.Indexed
      rw [hrefused]
      exact h.indexed
    · show (operation.attempt w.database).1.Indexed
      rw [hdone]
      exact hindexed h.indexed
  · intro schedule hprimed hstale
    obtain ⟨hquiet, hstale⟩ : disturbed w.database operation ≠ some schedule
        ∧ schedule ∉ w.stale := by
      simpa [World.operate, Option.mem_toList, eq_comm] using hstale
    refine (h.told schedule hprimed hstale).of_kept (operation_kept hquiet) (fun target => ?_)
    -- Only what is added ends what is remembered of it, and that is disturbed.
    cases hadded : addedBy w.database operation with
    | none => simp only [World.operate, hadded, Option.map_none, Option.toList_none, List.nil_append]
    | some identifier =>
        have hne : identifier ≠ schedule := by
          rintro rfl
          apply hquiet
          cases operation with
          | addObject object => exact hadded
          | _ => cases hadded
        simp only [World.operate, hadded, Option.map_some, Option.toList_some, List.singleton_append,
          lastWrite]
        rw [if_neg hne]

theorem Driven.refresh {w : World} (h : Driven w) (date : DateValue) : Driven (w.refresh date) := by
  have hrefreshed : Refreshed w.database (refreshCalendars w.database date).1 :=
    refreshCalendars_refreshed
  refine ⟨hrefreshed.indexed h.indexed, fun schedule hprimed hstale => ?_⟩
  exact (h.told schedule hprimed hstale).of_kept (.of_eq (hrefreshed.schedules schedule))
    (fun _ => rfl)

/-! ## §3. The writes of one schedule -/

/-- The engine wrote `value` to `targets` for `schedule`. -/
structure WroteTo (w w' : World) (schedule : ObjectIdentifier) (value : PropertyValue)
    (targets : List ObjectPropertyReference) : Prop where
  engine : w'.engine = w.engine
  indexed : w.database.Indexed → w'.database.Indexed
  listed : w'.database.getObjectsByType .schedule = w.database.getObjectsByType .schedule
  untouched : ∀ other, (∀ target ∈ targets, target.objectIdentifier ≠ other) →
    scheduleAt w'.database other = scheduleAt w.database other
  kept : ∀ other, other ∉ w'.stale → other ∉ w.stale ∧ Kept w.database w'.database other
  others : ∀ other ≠ schedule, ∀ target, lastWrite other target w'.history
    = lastWrite other target w.history
  own : ∀ target, lastWrite schedule target w'.history
    = if target ∈ targets then some value else lastWrite schedule target w.history

section Writes

variable {w : World} {schedule : ObjectIdentifier} {value : PropertyValue} {priority : UInt8}

/-- A write keeps the lists of the types. -/
theorem setPropertyWithPriority_listed {database : ObjectDatabase} {identifier : ObjectIdentifier}
    {property : PropertyIdentifier} {priority : Option UInt8} (objectType : ObjectType) :
    (database.setPropertyWithPriority identifier property value priority).1.getObjectsByType
        objectType = database.getObjectsByType objectType := by
  cases hattempt : database.setPropertyWithPriority identifier property value priority with
  | mk after result =>
      cases result with
      | error e =>
          rw [ObjectDatabase.unchanged_of_refused hattempt]
      | ok u =>
          obtain ⟨_, _, hrenamed⟩ := ObjectDatabase.setPropertyWithPriority_renamed hattempt
          show (after.typeIndex.lookup objectType).getD [] = _
          rw [hrenamed.types]
          rfl

theorem write_wroteTo (target : ObjectPropertyReference) :
    WroteTo w (w.write schedule value priority target) schedule value [target] := by
  let operation := Operation.setPropertyWithPriority target.objectIdentifier
    target.propertyIdentifier value (some priority)
  refine ⟨rfl, fun h => ?_, setPropertyWithPriority_listed _, fun other hother => ?_,
    fun other hstale => ?_, fun other hother asked => ?_, fun asked => ?_⟩
  · rcases operation.attempt_cases w.database with ⟨e, hrefused⟩ | ⟨after, hdone, hindexed, _⟩
    · show (operation.attempt w.database).1.Indexed
      rw [hrefused]
      exact h
    · show (operation.attempt w.database).1.Indexed
      rw [hdone]
      exact hindexed h
  · exact setPropertyWithPriority_other (hother target (List.mem_singleton_self target)).symm
  · obtain ⟨hquiet, hstale⟩ : disturbed w.database operation ≠ some other ∧ other ∉ w.stale := by
      have hstale : other ∉ (disturbed w.database operation).toList ++ w.stale := hstale
      simpa [Option.mem_toList, eq_comm] using hstale
    exact ⟨hstale, operation_kept hquiet⟩
  · show (if schedule = other ∧ target = asked then _ else _) = _
    rw [if_neg (fun h => hother h.1.symm)]
  · show (if schedule = schedule ∧ target = asked then some value else _) = _
    simp only [true_and, List.mem_singleton, eq_comm]

theorem WroteTo.trans {w₁ w₂ : World} {first rest : List ObjectPropertyReference}
    (hfirst : WroteTo w w₁ schedule value first) (hrest : WroteTo w₁ w₂ schedule value rest) :
    WroteTo w w₂ schedule value (first ++ rest) where
  engine := hrest.engine.trans hfirst.engine
  indexed := fun h => hrest.indexed (hfirst.indexed h)
  listed := hrest.listed.trans hfirst.listed
  untouched := by
    intro other hother
    obtain ⟨hbefore, hafter⟩ := List.forall_mem_append.mp hother
    exact (hrest.untouched other hafter).trans (hfirst.untouched other hbefore)
  kept := by
    intro other hstale
    obtain ⟨hstale, hafter⟩ := hrest.kept other hstale
    obtain ⟨hstale, hbefore⟩ := hfirst.kept other hstale
    exact ⟨hstale, hbefore.trans hafter⟩
  others := fun other hother target =>
    (hrest.others other hother target).trans (hfirst.others other hother target)
  own := by
    intro target
    rw [hrest.own, hfirst.own]
    by_cases hlater : target ∈ rest
    · rw [if_pos hlater, if_pos (List.mem_append_right first hlater)]
    · rw [if_neg hlater]
      exact if_congr (by simp [hlater]) rfl rfl

/-- **Whatever the targets are**, each was told. -/
theorem writes_wroteTo (targets : List ObjectPropertyReference) :
    WroteTo w (targets.foldl (fun w target => w.write schedule value priority target) w) schedule
      value targets := by
  induction targets generalizing w with
  | nil =>
      exact ⟨rfl, id, rfl, fun _ _ => rfl, fun _ h => ⟨h, .of_eq rfl⟩, fun _ _ _ => rfl,
        fun _ => rfl⟩
  | cons target rest ih =>
      have hfirst : WroteTo w (w.write schedule value priority target) schedule value [target] :=
        write_wroteTo target
      exact hfirst.trans ih

end Writes

/-! ## §4. Evaluations -/

/-- The schedule reports what it commands at `date` and `time`, and its references have been
told so.  Equal is what `==` says; a NaN is the same as itself. -/
structure Agrees (w : World) (covers : ObjectIdentifier → Bool) (date : DateValue)
    (time : TimeValue) (schedule : ObjectIdentifier) (s : Schedule) : Prop where
  commands : s.presentValue = s.valueAt date time covers
    ∨ (s.valueAt date time covers).eq s.presentValue = true
  told : ∀ target ∈ s.listOfObjectPropertyReferences,
    lastWrite schedule target w.history = some s.presentValue

/-- A schedule in service agrees. -/
def InAgreement (w : World) (covers : ObjectIdentifier → Bool) (date : DateValue)
    (time : TimeValue) (schedule : ObjectIdentifier) : Prop :=
  ∀ s, scheduleAt w.database schedule = some s → s.outOfService = false →
    Agrees w covers date time schedule s

theorem InAgreement.of_eq {w w' : World} {covers : ObjectIdentifier → Bool} {date : DateValue}
    {time : TimeValue} {schedule : ObjectIdentifier} (h : InAgreement w covers date time schedule)
    (hschedule : scheduleAt w'.database schedule = scheduleAt w.database schedule)
    (hhistory : ∀ target, lastWrite schedule target w'.history
      = lastWrite schedule target w.history) : InAgreement w' covers date time schedule := by
  intro s hs hservice
  rw [hschedule] at hs
  obtain ⟨hcommands, htold⟩ := h s hs hservice
  exact ⟨hcommands, fun target htarget => (hhistory target).trans (htold target htarget)⟩

section Evaluations

variable {w : World} {date : DateValue} {time : TimeValue} {active : List ObjectIdentifier}
  {schedule : ObjectIdentifier}

/-- What is committed is what a schedule in service commands, to its references. -/
theorem committed_eq_some {value : PropertyValue} {targets : List ObjectPropertyReference}
    {priority : UInt8} (h : w.engine.committed w.database schedule date time active
      = some (value, targets, priority)) :
    ∃ s, scheduleAt w.database schedule = some s
      ∧ value = s.valueAt date time (fun calendar => active.contains calendar)
      ∧ targets = s.listOfObjectPropertyReferences := by
  unfold ScheduleEngine.committed at h
  cases hs : scheduleAt w.database schedule with
  | none =>
      rw [hs] at h
      cases h
  | some s =>
      rw [hs] at h
      simp only at h
      split at h
      · cases h
      · split at h
        · cases h
        · cases h
          exact ⟨s, rfl, rfl, rfl⟩

/-- Where nothing is committed a schedule in service commands its Present_Value, and the
engine has driven it. -/
theorem committed_eq_none {s : Schedule}
    (h : w.engine.committed w.database schedule date time active = none)
    (hs : scheduleAt w.database schedule = some s) (hservice : s.outOfService = false) :
    (s.valueAt date time (fun calendar => active.contains calendar)).eq s.presentValue = true
      ∧ schedule ∈ w.engine.primed := by
  unfold ScheduleEngine.committed at h
  rw [hs] at h
  simp only [hservice, Bool.false_eq_true, if_false] at h
  split at h
  · next hsame => simpa using hsame
  · cases h

theorem scheduleAt_committing {s : Schedule} {value : PropertyValue} {database : ObjectDatabase}
    (hs : scheduleAt database schedule = some s) (other : ObjectIdentifier) :
    scheduleAt (database.withObjectMut schedule (committing value)) other
      = if other = schedule then some { s with presentValue := value }
        else scheduleAt database other := by
  have hlookup := scheduleAt_eq_some_iff.mp hs
  unfold scheduleAt
  rw [ObjectDatabase.lookup_withObjectMut]
  split
  · next heq =>
      rw [heq, hlookup]
      rfl
  · rfl

/-- A schedule that commits what it commands, and tells its references, comes to agree; those
that did still do. -/
theorem commit_agrees {w' : World} {s : Schedule} {value : PropertyValue}
    {evaluated : List ObjectIdentifier} (h : Driven w)
    (hevaluated : ∀ other ∈ evaluated,
      InAgreement w (fun calendar => active.contains calendar) date time other)
    (hs : scheduleAt w.database schedule = some s)
    (hvalue : value = s.valueAt date time (fun calendar => active.contains calendar))
    (hok : ∀ target ∈ s.listOfObjectPropertyReferences,
      target.objectIdentifier ∉ schedule :: evaluated)
    (hwrote : WroteTo (w.commit schedule value) w' schedule value
      s.listOfObjectPropertyReferences) :
    Driven w' ∧ ∀ other ∈ schedule :: evaluated,
      InAgreement w' (fun calendar => active.contains calendar) date time other := by
  have hcommit (other : ObjectIdentifier) :
      scheduleAt (w.commit schedule value).database other
        = if other = schedule then some { s with presentValue := value }
          else scheduleAt w.database other :=
    scheduleAt_committing hs other
  -- No target is the schedule itself, or one evaluated before it.
  have huntouched : ∀ other ∈ schedule :: evaluated, scheduleAt w'.database other
      = scheduleAt (w.commit schedule value).database other := by
    intro other hother
    apply hwrote.untouched other
    rintro target htarget rfl
    exact hok target htarget hother
  have hself : scheduleAt w'.database schedule = some { s with presentValue := value } :=
    (huntouched schedule List.mem_cons_self).trans ((hcommit schedule).trans (if_pos rfl))
  have htold : Told w' schedule := by
    intro s' hs' target htarget
    cases hself.symm.trans hs'
    exact (hwrote.own target).trans (if_pos htarget)
  have hagrees : InAgreement w' (fun calendar => active.contains calendar) date time schedule := by
    intro s' hs' _
    refine ⟨.inl ?_, htold s' hs'⟩
    cases hself.symm.trans hs'
    exact hvalue
  refine ⟨⟨hwrote.indexed ?_, ?_⟩, List.forall_mem_cons.mpr ⟨hagrees, ?_⟩⟩
  · exact h.indexed.withObjectMut (fun c state => by cases c <;> rfl)
  · intro other hprimed hstale
    obtain ⟨hstale, hkept⟩ := hwrote.kept other hstale
    by_cases hother : other = schedule
    · exact hother ▸ htold
    · rw [hwrote.engine] at hprimed
      have hstale : other ∉ w.stale := by
        intro hmem
        exact hstale (List.mem_filter.mpr ⟨hmem, by simpa using hother⟩)
      have hbefore := h.told other ((List.mem_insert_iff.mp hprimed).resolve_left hother) hstale
      have hmoved : Kept w.database (w.commit schedule value).database other :=
        .of_eq ((hcommit other).trans (if_neg hother))
      exact hbefore.of_kept (hmoved.trans hkept) (hwrote.others other hother)
  · intro other hother
    by_cases hsame : other = schedule
    · exact hsame ▸ hagrees
    · refine (hevaluated other hother).of_eq ?_ (hwrote.others other hsame)
      rw [huntouched other (List.mem_cons_of_mem schedule hother)]
      exact (hcommit other).trans (if_neg hsame)

/-- **One evaluation**: the schedule comes to agree, and those that did still do. -/
theorem evaluate_agrees {evaluated : List ObjectIdentifier} (h : Driven w)
    (hevaluated : ∀ other ∈ evaluated,
      InAgreement w (fun calendar => active.contains calendar) date time other)
    (hok : w.EvaluationOk date time active evaluated schedule) :
    Driven (w.evaluate date time active schedule)
      ∧ (w.evaluate date time active schedule).database.getObjectsByType .schedule
          = w.database.getObjectsByType .schedule
      ∧ ∀ other ∈ schedule :: evaluated, InAgreement (w.evaluate date time active schedule)
          (fun calendar => active.contains calendar) date time other := by
  unfold World.evaluate
  unfold World.EvaluationOk at hok
  -- Nothing was committed: the value is the one the targets were told before.
  cases hcommitted : w.engine.committed w.database schedule date time active with
  | none =>
      rw [hcommitted] at hok
      refine ⟨h, rfl, List.forall_mem_cons.mpr ⟨fun s hs hservice => ?_, hevaluated⟩⟩
      obtain ⟨hsame, hprimed⟩ := committed_eq_none hcommitted hs hservice
      have hstale : schedule ∉ w.stale := by
        rcases hok with hout | hstale
        · rw [hs] at hout
          exact absurd (hservice.symm.trans hout) (by decide)
        · exact hstale
      exact ⟨.inr hsame, h.told schedule hprimed hstale s hs⟩
  -- A new value is committed first and then written to each target in turn.
  | some committed =>
      obtain ⟨value, targets, priority⟩ := committed
      rw [hcommitted] at hok
      obtain ⟨s, hs, hvalue, rfl⟩ := committed_eq_some hcommitted
      have hwrote : WroteTo (w.commit schedule value)
          (s.listOfObjectPropertyReferences.foldl
            (fun w target => w.write schedule value priority target) (w.commit schedule value))
          schedule value s.listOfObjectPropertyReferences :=
        writes_wroteTo s.listOfObjectPropertyReferences
      obtain ⟨hdriven, hagree⟩ := commit_agrees h hevaluated hs hvalue hok hwrote
      exact ⟨hdriven, hwrote.listed, hagree⟩

/-- **All the evaluations of a tick.** -/
theorem evaluateAll_agrees {schedules evaluated : List ObjectIdentifier} (h : Driven w)
    (hevaluated : ∀ other ∈ evaluated,
      InAgreement w (fun calendar => active.contains calendar) date time other)
    (hok : World.EvaluationsOk date time active w evaluated schedules) :
    Driven (World.evaluateAll date time active w schedules)
      ∧ (World.evaluateAll date time active w schedules).database.getObjectsByType .schedule
          = w.database.getObjectsByType .schedule
      ∧ ∀ other, other ∈ schedules ∨ other ∈ evaluated →
          InAgreement (World.evaluateAll date time active w schedules)
            (fun calendar => active.contains calendar) date time other := by
  induction schedules generalizing w evaluated with
  | nil => exact ⟨h, rfl, fun other hother => hevaluated other (hother.resolve_left List.not_mem_nil)⟩
  | cons schedule rest ih =>
      obtain ⟨hfirst, hrest⟩ := hok
      obtain ⟨hdriven, hlisted, hagree⟩ := evaluate_agrees h hevaluated hfirst
      obtain ⟨hlast, hlistedLast, hagreeLast⟩ := ih hdriven hagree hrest
      refine ⟨hlast, hlistedLast.trans hlisted, fun other hother => hagreeLast other ?_⟩
      rw [List.mem_cons] at hother ⊢
      tauto

end Evaluations

/-! ## §5. Runs -/

/-- Every schedule in service agrees, with the calendars that covered the date when the tick
began. -/
def World.AllAgree (w : World) (before : ObjectDatabase) (date : DateValue) (time : TimeValue) :
    Prop :=
  ∀ schedule s, schedule.objectType = .schedule → scheduleAt w.database schedule = some s →
    s.outOfService = false →
      Agrees w (fun calendar => calendar.objectType = .calendar && covered before date calendar)
        date time schedule s

theorem Driven.start {device : Device} (hdevice : device.identifier.objectType = .device) :
    Driven (World.start device) :=
  ⟨ObjectDatabase.new_indexed hdevice, fun _ hprimed => absurd hprimed List.not_mem_nil⟩

/-- **One tick.** -/
theorem Driven.tick {w : World} {date : DateValue} {time : TimeValue} (h : Driven w)
    (hok : w.Undisturbed (.tick date time)) :
    Driven (w.ticked date time) ∧ (w.ticked date time).AllAgree w.database date time := by
  obtain ⟨hdriven, hlisted, hagree⟩ := evaluateAll_agrees (h.refresh date)
    (fun _ hother => absurd hother List.not_mem_nil) hok
  refine ⟨hdriven, fun schedule s htype hs hservice => ?_⟩
  have hcovers : (fun calendar => (refreshCalendars w.database date).2.contains calendar)
      = fun calendar => calendar.objectType = .calendar
          && covered w.database date calendar := by
    funext calendar
    rw [Bool.eq_iff_iff]
    have hactive : calendar ∈ (refreshCalendars w.database date).2
        ↔ calendar.objectType = .calendar ∧ covered w.database date calendar = true :=
      mem_active_iff h.indexed
    simpa using hactive
  rw [← hcovers]
  apply hagree schedule (.inl ?_) s hs hservice
  -- It is there after the tick, so the tick went over it.
  rw [← hlisted, hdriven.indexed.mem_iff]
  refine ⟨htype, ?_⟩
  show ((w.ticked date time).database.objects.lookup schedule).isSome = true
  rw [scheduleAt_eq_some_iff.mp hs]
  rfl

theorem Driven.next {w w' : World} (happening : Happening) (hok : w.Undisturbed happening)
    (h : Driven w) (hstep : w.step happening = some w') : Driven w' := by
  cases happening with
  | operate operation =>
      cases hstep
      exact h.operate operation
  | tick date time =>
      rw [step_tick] at hstep
      cases hstep
      exact (h.tick hok).1

/-- **After each tick of a run, schedules and their targets agree**, when its ticks find what
they do not write as the engine left it. -/
theorem schedules_agree {device : Device} (hdevice : device.identifier.objectType = .device)
    {happenings : List Happening} {date : DateValue} {time : TimeValue} {w w' : World}
    (hok : Machine.Throughout World.step World.Undisturbed (.start device)
      (happenings ++ [.tick date time]))
    (hrun : Machine.run World.step (.start device) happenings = some w)
    (htick : w.step (.tick date time) = some w') : w'.AllAgree w.database date time := by
  obtain ⟨hbefore, hlast⟩ := Machine.throughout_append.mp hok
  have hdriven := Machine.run_invariant_throughout
    (fun _ happening _ hok h hstep => Driven.next happening hok h hstep) hbefore
    (Driven.start hdevice) hrun
  rw [step_tick] at htick
  cases htick
  exact (hdriven.tick (hlast w hrun).1).2

/-- A schedule that is 1 at all times, and drives an analog value. -/
def steady : Schedule where
  identifier := ⟨.schedule, 1⟩
  objectName := "Always"
  description := ""
  presentValue := .unsigned 1
  scheduleDefault := .unsigned 1
  effectivePeriod := ⟨(255, 255, 255, 255), (255, 255, 255, 255)⟩
  weeklySchedule := .replicate 7 ⟨[]⟩
  exceptionSchedule := []
  listOfObjectPropertyReferences := [⟨⟨.analogValue, 1⟩, .presentValue, none⟩]
  priorityForWriting := 16
  reliability := .noFaultDetected
  outOfService := false
  capacity := ⟨none, none⟩

/-- The end of a run of a small device, when it satisfies a check. -/
theorem exists_run (happenings : List Happening) (last : Happening) (check : World → Bool)
    (h : ((Machine.run World.step (.start (.new 1 "Device")) happenings).bind (fun w =>
      (w.step last).map check)) = some true) :
    ∃ w w', Machine.run World.step (.start (.new 1 "Device")) happenings = some w
      ∧ w.step last = some w' ∧ check w' = true := by
  obtain ⟨w, hrun, h⟩ := Option.bind_eq_some_iff.mp h
  obtain ⟨w', hlast, hcheck⟩ := Option.map_eq_some_iff.mp h
  exact ⟨w, w', hrun, hlast, hcheck⟩

/-- A schedule is added, driven, and at noon commands what it did in the morning. -/
theorem schedules_agree_noon : ∃ w w',
    Machine.run World.step (.start (.new 1 "Device"))
        [.operate (.addObject ⟨.schedule, steady⟩), .tick (2026, 7, 30, 4) (7, 0, 0, 0)] = some w
      ∧ w.step (.tick (2026, 7, 30, 4) (12, 0, 0, 0)) = some w'
      ∧ w'.AllAgree w.database (2026, 7, 30, 4) (12, 0, 0, 0) := by
  obtain ⟨w, w', hrun, htick, _⟩ := exists_run
    [.operate (.addObject ⟨.schedule, steady⟩), .tick (2026, 7, 30, 4) (7, 0, 0, 0)]
    (.tick (2026, 7, 30, 4) (12, 0, 0, 0)) (fun _ => true) (by decide +kernel)
  exact ⟨w, w', hrun, htick, schedules_agree rfl (by decide +kernel) hrun htick⟩

/-- A target that has been told nothing since its schedule was added. -/
def untold (w : World) : Bool :=
  (scheduleAt w.database ⟨.schedule, 1⟩).any (fun s => !s.outOfService
    && s.listOfObjectPropertyReferences.any (fun target =>
      (lastWrite ⟨.schedule, 1⟩ target w.history).isNone))

theorem not_allAgree_of_untold {w : World} {before : ObjectDatabase} {date : DateValue}
    {time : TimeValue} (h : untold w = true) : ¬ w.AllAgree before date time := by
  intro hagree
  unfold untold at h
  cases hs : scheduleAt w.database ⟨.schedule, 1⟩ with
  | none =>
      rw [hs] at h
      cases h
  | some s =>
      rw [hs] at h
      obtain ⟨hservice, hany⟩ := Bool.and_eq_true_iff.mp h
      obtain ⟨target, htarget, hnone⟩ := List.any_eq_true.mp hany
      have htold := (hagree ⟨.schedule, 1⟩ s rfl hs (by simpa using hservice)).told target htarget
      rw [htold] at hnone
      cases hnone

/-- **A schedule that replaces another is not driven**: one is added, driven and removed, and
the one added under its identifier has told its target nothing when the next tick is over. -/
theorem readded_untold : ∃ w w',
    Machine.run World.step (.start (.new 1 "Device"))
        [.operate (.addObject ⟨.schedule, steady⟩), .tick (2026, 7, 30, 4) (7, 0, 0, 0),
          .operate (.removeObject ⟨.schedule, 1⟩), .operate (.addObject ⟨.schedule, steady⟩)]
      = some w
      ∧ w.step (.tick (2026, 7, 30, 4) (12, 0, 0, 0)) = some w'
      ∧ ¬ w'.AllAgree w.database (2026, 7, 30, 4) (12, 0, 0, 0) := by
  obtain ⟨w, w', hrun, htick, huntold⟩ := exists_run
    [.operate (.addObject ⟨.schedule, steady⟩), .tick (2026, 7, 30, 4) (7, 0, 0, 0),
      .operate (.removeObject ⟨.schedule, 1⟩), .operate (.addObject ⟨.schedule, steady⟩)]
    (.tick (2026, 7, 30, 4) (12, 0, 0, 0)) untold (by decide +kernel)
  exact ⟨w, w', hrun, htick, not_allAgree_of_untold huntold⟩

end BacnetRs.Scheduling
