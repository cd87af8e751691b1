/-
  BacnetRs.Server.Settling — subscriptions to what does not change.

  Once a tick has told its subscribers what there is, and nothing is
  subscribed, written or lapses, the next tick has nothing to say.  That takes
  increments above zero: a request for COV of a property brings any increment
  it likes, and one of zero or less is met by a value that did not move.

    * `baselines_numeric`     — no NaN is remembered where none is read.
    * `second_tick_quiet_iff` — when a second tick announces nothing.
    * `zero_increment_repeats`
                              — an increment of zero, which every tick meets.
-/
import BacnetRs.Server.Reporting
import BacnetRs.Cov.Unchanged

namespace BacnetRs.Server

open BacnetRs.Encoding BacnetRs.Object BacnetRs.Property BacnetRs.Service BacnetRs.Network
open BacnetRs.Cov

/-! ## §1. Databases of numbers -/

/-- No property reads as a NaN. -/
def Numeric (database : DatabaseView) : Prop :=
  ∀ object property value, database.getProperty object property = .ok value →
    hasNaN value = false

namespace Reporting

/-- Nothing is written that makes a property read as a NaN. -/
def Event.Numeric : Event → Prop
  | .write database => Server.Numeric database
  | _ => True

/-- Neither what is read nor what is remembered has a NaN in it. -/
structure Ordinary (reporting : Reporting) : Prop where
  numeric : Numeric reporting.database
  remembered : ∀ key property value, reporting.engine.baseline key property = some value →
    hasNaN value = false

theorem Ordinary.requested {reporting : Reporting} (h : reporting.Ordinary)
    (outcome : Except ObjectError CovSubscriptions) : (reporting.requested outcome).Ordinary := by
  cases outcome with
  | ok subscriptions => exact ⟨h.numeric, h.remembered⟩
  | error refused => exact h

/-- What is observed is what is read. -/
theorem Ordinary.observed {reporting : Reporting} (h : reporting.Ordinary)
    (subscription : Subscription) :
    ∀ read ∈ observed reporting.database subscription, hasNaN read.2 = false := by
  intro read hmem
  exact h.numeric _ _ _ (mem_observed.mp hmem).2

/-- **No NaN is remembered where none is read.** -/
theorem baselines_numeric {reporting reporting' : Reporting} {event : Event}
    (hevent : event.Numeric) (h : reporting.Ordinary)
    (hstep : step reporting event = some reporting') : reporting'.Ordinary := by
  rw [← Option.some.inj hstep]
  cases event with
  | subscribeCov request source => exact h.requested _
  | subscribeCovProperty request source => exact h.requested _
  | write database => exact ⟨hevent, h.remembered⟩
  | tick now =>
      refine ⟨h.numeric, ?_⟩
      intro key property value hbaseline
      obtain ⟨subscription, hheld⟩ :=
        CovSubscriptions.mem_keys_iff.mp (CovEngine.baseline_tick_held hbaseline)
      rcases (CovEngine.baseline_tick_iff _ _ _ now hheld).mp hbaseline with
        ⟨sent, hsent, hcarries⟩ | ⟨hbefore, _⟩
      · obtain ⟨subscription', _, _, rfl⟩ := (CovEngine.sent_iff _ _ _ now).mp hsent
        exact h.observed subscription' _ ((CovEngine.carries_announcement _ _ now _).mp hcarries)
      · exact h.remembered key property value hbefore

/-! ## §2. The second tick -/

/-- **A second tick announces nothing exactly when every real that is watched settles**: it is
measured against an increment, the subscription's own or the object's, that is above zero.
Between the ticks nothing is subscribed and nothing written, and what lapses is no matter. -/
theorem second_tick_quiet_iff {database : DatabaseView} {limits : CovLimits}
    {events : List Event} {reporting : Reporting} (hdatabase : Numeric database)
    (hevents : Machine.Throughout step (fun _ event => event.Numeric) (start database limits)
      events)
    (hrun : Machine.run step (start database limits) events = some reporting)
    (now later : Nat) :
    ((reporting.react (.tick now)).ticked later).notifications = []
      ↔ ∀ key subscription,
          ((reporting.subscriptions.advanceTo now).advanceTo later).held key = some subscription →
          ∀ read ∈ observed reporting.database subscription,
            neverSettles read.2 (incrementFor reporting.database subscription read.1)
              = false := by
  have hstart : (start database limits).Ordinary := by
    refine ⟨hdatabase, ?_⟩
    intro key property value h
    cases h
  have hordinary := Machine.run_invariant_throughout
    (fun _ _ _ hevent h hstep => baselines_numeric hevent h hstep) hevents hstart hrun
  exact CovEngine.quiet_again_iff reporting.engine reporting.database reporting.subscriptions now
    later (fun _ subscription _ => hordinary.observed subscription) hordinary.remembered

/-! ## §3. An increment that every tick meets -/

/-- A device whose analog value stays at 21.0, with a COV increment of its own of 0.5. -/
def constantTemperature : DatabaseView where
  deviceId := ⟨.device, 1234⟩
  getProperty := fun _ property =>
    if property = .presentValue then .ok (.real ⟨0x41A80000⟩)
    else if property = .covIncrement then .ok (.real ⟨0x3F000000⟩)
    else .error .unknownProperty

theorem constantTemperature_numeric : Numeric constantTemperature := by
  intro object property value h
  unfold constantTemperature at h
  simp only at h
  split at h
  · cases h
    decide +kernel
  · split at h
    · cases h
      decide +kernel
    · cases h

/-- A request of process 1 for COV of the present value, with an increment. -/
def watchTemperature (increment : F32) : Event :=
  .subscribeCovProperty ⟨1, ⟨.analogValue, 1⟩, some false, none, ⟨.presentValue, none⟩,
    some increment⟩ (some (.v4 0 47808))

/-- With an increment of 0.5 the second tick is quiet. -/
theorem second_tick_quiet_iff_temperature :
    ∃ reporting, Machine.run step (start constantTemperature ⟨none, none⟩)
        [watchTemperature ⟨0x3F000000⟩] = some reporting
      ∧ ((reporting.react (.tick 0)).ticked 1).notifications = [] := by
  let reporting := (start constantTemperature ⟨none, none⟩).react (watchTemperature ⟨0x3F000000⟩)
  refine ⟨reporting, rfl, ?_⟩
  have hnumeric : Machine.Throughout step (fun _ event => event.Numeric)
      (start constantTemperature ⟨none, none⟩) [watchTemperature ⟨0x3F000000⟩] :=
    ⟨trivial, fun _ _ => trivial⟩
  have hsettles : ((reporting.subscriptions.advanceTo 0).advanceTo 1).all.all (fun subscription =>
      (observed reporting.database subscription).all (fun read =>
        !neverSettles read.2 (incrementFor reporting.database subscription read.1))) = true := by
    decide +kernel
  apply (second_tick_quiet_iff constantTemperature_numeric hnumeric rfl 0 1).mpr
  intro key subscription hheld read hread
  have hkey := ((reporting.subscriptions.advanceTo 0).advanceTo 1).keyed key subscription hheld
  rw [← hkey] at hheld
  have hthis := List.all_eq_true.mp
    (List.all_eq_true.mp hsettles subscription (CovSubscriptions.mem_all_iff.mpr hheld)) read hread
  exact Bool.not_eq_true' _ |>.mp hthis

/-- **With an increment of zero every tick repeats the last**, though nothing was written. -/
theorem zero_increment_repeats :
    ∃ reporting, Machine.run step (start constantTemperature ⟨none, none⟩)
        [watchTemperature ⟨0⟩] = some reporting
      ∧ ((reporting.react (.tick 0)).ticked 1).notifications ≠ [] := by
  refine ⟨_, rfl, ?_⟩
  have hcount : (((((start constantTemperature ⟨none, none⟩).react (watchTemperature ⟨0⟩)).react
      (.tick 0)).ticked 1).notifications).length = 1 := by decide +kernel
  intro hnone
  have h := hcount.symm.trans (congrArg List.length hnone)
  cases h

end Reporting

end BacnetRs.Server
