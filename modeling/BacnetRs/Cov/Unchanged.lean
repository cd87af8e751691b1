/-
  BacnetRs.Cov.Unchanged — a tick after which nothing changed.

  What a tick told a subscription, or left untold because it had not moved, it
  reads again at the next.  A value equals itself and is not worth sending
  twice; a real that is measured against an increment is as far as zero from
  itself, and an increment of zero or less lets even that through.

    * `eq_self`            — a value without a NaN equals itself.
    * `reportable_self`    — when a value is reported though it is the one
                             reported before.
    * `quiet_again_iff`    — when a second tick announces nothing.
-/
import BacnetRs.Cov.Engine
import BacnetRs.Library.Floating

namespace BacnetRs.Cov

open BacnetRs.Encoding BacnetRs.Object BacnetRs.Property BacnetRs.Network

/-! ## §1. A value and itself -/

mutual

/-- Whether there is a NaN in a value. -/
def hasNaN : PropertyValue → Bool
  | .real x => x.toFloat.isNaN
  | .double x => x.toFloat.isNaN
  | .array values => anyNaN values
  | .list values => anyNaN values
  | .covSubscription x => x.covIncrement.any (fun increment => increment.toFloat.isNaN)
  | .dailySchedule ⟨timeValues⟩ => anyTimeNaN timeValues
  | .specialEvent ⟨_, timeValues, _⟩ => anyTimeNaN timeValues
  | _ => false

/-- Whether there is a NaN in one of the values. -/
def anyNaN : List PropertyValue → Bool
  | [] => false
  | value :: values => hasNaN value || anyNaN values

/-- Whether there is a NaN in one of the scheduled values. -/
def anyTimeNaN : List (TimeValueValue PropertyValue) → Bool
  | [] => false
  | ⟨_, value⟩ :: timeValues => hasNaN value || anyTimeNaN timeValues

end

theorem optionF32Eq_self (x : Option F32) :
    optionF32Eq x x = !x.any (fun increment => increment.toFloat.isNaN) := by
  cases x with
  | none => rfl
  | some x => exact Floating.beq_self32 x.toFloat

mutual

/-- **A value without a NaN equals itself**, and one with a NaN does not. -/
theorem eq_self : ∀ value : PropertyValue, value.eq value = !hasNaN value
  | .real x => Floating.beq_self32 x.toFloat
  | .double x => Floating.beq_self64 x.toFloat
  | .array values => eqList_self values
  | .list values => eqList_self values
  | .covSubscription x => by
      show x.eq x = _
      unfold CovSubscriptionValue.eq
      rw [optionF32Eq_self]
      simp [hasNaN]
  | .dailySchedule ⟨timeValues⟩ => eqTimeValues_self timeValues
  | .specialEvent ⟨period, timeValues, priority⟩ => by
      unfold PropertyValue.eq hasNaN
      rw [eqTimeValues_self timeValues]
      simp
  | .boolean _ | .unsigned _ | .signed _ | .octetString _ | .characterString _ | .enumerated _
  | .bitString _ | .date _ | .time _ | .objectIdentifier _ | .addressBinding _ | .timestamp _
  | .objectPropertyReference _ | .destination _ | .calendarEntry _ | .dateRange _ | .valueSource _
  | .null | .unknown _ => by simp [PropertyValue.eq, hasNaN]

theorem eqList_self : ∀ values : List PropertyValue,
    PropertyValue.eqList values values = !anyNaN values
  | [] => rfl
  | value :: values => by
      unfold PropertyValue.eqList anyNaN
      rw [eq_self value, eqList_self values, Bool.not_or]

theorem eqTimeValues_self : ∀ timeValues : List (TimeValueValue PropertyValue),
    PropertyValue.eqTimeValues timeValues timeValues = !anyTimeNaN timeValues
  | [] => rfl
  | ⟨time, value⟩ :: timeValues => by
      unfold PropertyValue.eqTimeValues anyTimeNaN
      rw [eq_self value, eqTimeValues_self timeValues, Bool.not_or, beq_self_eq_true,
        Bool.true_and]

end

/-! ## §2. What is reported again -/

/-- A value that never settles: a finite real, measured against an increment of zero or less. -/
def neverSettles (value : PropertyValue) (increment : Option F32) : Bool :=
  match value, increment with
  | .real x, some increment =>
      x.toFloat.isFinite && decide (increment.toFloat ≤ (F32.mk 0).toFloat)
  | _, _ => false

/-- When a value is reported though it is the one reported before. -/
theorem reportable_self {value : PropertyValue} (hvalue : hasNaN value = false)
    (increment : Option F32) :
    reportable (some value) value increment = neverSettles value increment := by
  have hequal : (!value.eq value) = false := by
    rw [eq_self, hvalue]
    rfl
  cases value with
  | real x =>
      cases increment with
      | none => exact hequal
      | some increment =>
          show decide (increment.toFloat ≤ (x.toFloat - x.toFloat).abs)
            = (x.toFloat.isFinite && decide (increment.toFloat ≤ (F32.mk 0).toFloat))
          rw [Bool.eq_iff_iff, decide_eq_true_iff, Floating.le_abs_sub_self_iff, Bool.and_eq_true,
            decide_eq_true_iff]
          exact Iff.rfl
  | _ => exact hequal

/-- What never settles is reported, whatever was reported before. -/
theorem reportable_of_neverSettles {value : PropertyValue} {increment : Option F32}
    (h : neverSettles value increment = true) {previous : Option PropertyValue}
    (hprevious : ∀ before, previous = some before → hasNaN before = false) :
    reportable previous value increment = true := by
  unfold neverSettles at h
  split at h
  next x increment =>
    obtain ⟨hfinite, hincrement⟩ := Bool.and_eq_true_iff.mp h
    cases previous with
    | none => rfl
    | some before =>
        have hbefore := hprevious before rfl
        cases before with
        | real y =>
            exact decide_eq_true
              (Floating.le_abs_sub hfinite hbefore (of_decide_eq_true hincrement))
        | _ => rfl
  · cases h

/-! ## §3. The second tick -/

namespace CovEngine

/-- What is held at a later time was held before. -/
theorem held_of_advanceTo {table : CovSubscriptions} {now : Nat} {key : SubscriptionKey}
    {subscription : Subscription} (h : (table.advanceTo now).held key = some subscription) :
    table.held key = some subscription :=
  (CovSubscriptions.held_expire_eq_some.mp h).1

variable {engine : CovEngine} {database : DatabaseView} {subscriptions : CovSubscriptions}
  {now later : Nat} {key : SubscriptionKey} {subscription : Subscription}

/-- What is worth sending is remembered. -/
theorem baseline_of_worthSending
    (hheld : (subscriptions.advanceTo now).held key = some subscription)
    (hworth : engine.worthSending database subscription = true) {property : PropertyIdentifier}
    {value : PropertyValue} (hread : (property, value) ∈ observed database subscription) :
    (engine.tick database subscriptions now).engine.baseline key property = some value := by
  apply (baseline_tick_iff engine database subscriptions now hheld).mpr
  left
  refine ⟨engine.announcement database now subscription, ?_, ?_⟩
  · exact (sent_iff engine database subscriptions now).mpr ⟨subscription, hheld, hworth, rfl⟩
  · exact (carries_announcement engine database now subscription).mpr hread

/-- What is not worth sending is remembered as it was. -/
theorem baseline_of_not_worthSending
    (hheld : (subscriptions.advanceTo now).held key = some subscription)
    (hworth : engine.worthSending database subscription = false) (property : PropertyIdentifier) :
    (engine.tick database subscriptions now).engine.baseline key property
      = engine.baseline key property := by
  have hsilent : ∀ value,
      ¬ Tells (engine.tick database subscriptions now).announced key property value := by
    rintro value ⟨sent, hsent, _⟩
    obtain ⟨subscription', hheld', hworth', _⟩ :=
      (sent_iff engine database subscriptions now).mp hsent
    rw [hheld] at hheld'
    cases hheld'
    exact Bool.false_ne_true (hworth.symm.trans hworth')
  have hiff : ∀ value,
      (engine.tick database subscriptions now).engine.baseline key property = some value
        ↔ engine.baseline key property = some value := by
    intro value
    rw [baseline_tick_iff engine database subscriptions now hheld]
    constructor
    · rintro (htells | ⟨hbefore, _⟩)
      · exact absurd htells (hsilent value)
      · exact hbefore
    · intro hbefore
      exact .inr ⟨hbefore, hsilent⟩
  exact Option.ext hiff

/-- **What is worth sending again**: one of the properties read never settles. -/
theorem worthSending_again_iff
    (hheld : (subscriptions.advanceTo now).held key = some subscription)
    (hread : ∀ read ∈ observed database subscription, hasNaN read.2 = false)
    (hremembered : ∀ property value, engine.baseline key property = some value →
      hasNaN value = false) :
    (engine.tick database subscriptions now).engine.worthSending database subscription = true
      ↔ ∃ read ∈ observed database subscription,
          neverSettles read.2 (incrementFor database subscription read.1) = true := by
  have hkey : subscription.key = key :=
    (subscriptions.advanceTo now).keyed key subscription hheld
  cases hworth : engine.worthSending database subscription with
  | true =>
      unfold worthSending
      rw [List.any_eq_true]
      apply exists_congr
      intro read
      apply and_congr_right
      intro hmem
      rw [hkey, baseline_of_worthSending hheld hworth hmem, reportable_self (hread read hmem)]
  | false =>
      have hsame : (engine.tick database subscriptions now).engine.worthSending database
          subscription = engine.worthSending database subscription := by
        apply worthSending_congr
        intro property
        rw [hkey]
        exact baseline_of_not_worthSending hheld hworth property
      rw [hsame, hworth]
      apply iff_of_false Bool.false_ne_true
      -- It would have been worth sending the first time.
      rintro ⟨read, hmem, hnever⟩
      unfold worthSending at hworth
      have hreported := List.any_eq_false.mp hworth read hmem
      apply hreported
      apply reportable_of_neverSettles hnever
      intro before hbefore
      rw [hkey] at hbefore
      exact hremembered read.1 before hbefore

/-- **A second tick announces nothing exactly when every real that a subscription held watches
settles**: measured against an increment, its own or the object's, that is above zero.  The
objects and the table are as the first tick left them. -/
theorem quiet_again_iff (engine : CovEngine) (database : DatabaseView)
    (subscriptions : CovSubscriptions) (now later : Nat)
    (hread : ∀ key subscription, (subscriptions.advanceTo now).held key = some subscription →
      ∀ read ∈ observed database subscription, hasNaN read.2 = false)
    (hremembered : ∀ key property value, engine.baseline key property = some value →
      hasNaN value = false) :
    ((engine.tick database subscriptions now).engine.tick database
        (engine.tick database subscriptions now).subscriptions later).notifications = []
      ↔ ∀ key subscription,
          ((subscriptions.advanceTo now).advanceTo later).held key = some subscription →
          ∀ read ∈ observed database subscription,
            neverSettles read.2 (incrementFor database subscription read.1) = false := by
  unfold Ticked.notifications
  rw [List.map_eq_nil_iff, List.eq_nil_iff_forall_not_mem]
  constructor
  · intro hquiet key subscription hheld read hmem
    by_contra hsettles
    have hnever := Bool.eq_true_of_not_eq_false hsettles
    have hbefore := held_of_advanceTo hheld
    have hworth := (worthSending_again_iff hbefore (hread key subscription hbefore)
      (hremembered key)).mpr ⟨read, hmem, hnever⟩
    obtain ⟨sent, hsent⟩ := (announced_iff _ database _ later hheld).mpr hworth
    exact hquiet (key, sent) hsent
  · rintro hsettles ⟨key, sent⟩ hsent
    obtain ⟨subscription, hheld, hworth, _⟩ := (sent_iff _ database _ later).mp hsent
    have hbefore := held_of_advanceTo hheld
    obtain ⟨read, hmem, hnever⟩ := (worthSending_again_iff hbefore
      (hread key subscription hbefore) (hremembered key)).mp hworth
    exact Bool.false_ne_true ((hsettles key subscription hheld read hmem).symm.trans hnever)

end CovEngine

end BacnetRs.Cov
