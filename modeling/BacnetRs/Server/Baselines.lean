/-
  BacnetRs.Server.Baselines — what the engine remembers is what it last told.

  Beside the run of subscribers, writers and ticks stands the history of what
  the ticks did: which keys were live at each, and what was announced to whom.
  A key's baseline for a property is read off that history alone: the value
  the latest notification that carried the property brought, as far back as
  the key has been live at every tick.

    * `baseline_last_told`   — the invariant, step by step.
    * `baselines_told`       — over every run, with what it makes of the next
                               tick's decision.
    * `omitted_remembered`   — a notification that leaves a property out does
                               not end the baseline.
-/
import BacnetRs.Server.Reporting
import BacnetRs.Library.Since

namespace BacnetRs.Server

open BacnetRs.Encoding BacnetRs.Object BacnetRs.Property BacnetRs.Service BacnetRs.Network
open BacnetRs.Cov History

/-! ## §1. The history of the ticks -/

/-- What one tick did. -/
structure Moment where
  /-- The keys in the engine's live set. -/
  live : List SubscriptionKey
  announced : List (SubscriptionKey × AddressedCovNotification)

/-- A tick at which the key was live. -/
def Moment.Live (key : SubscriptionKey) (moment : Moment) : Prop := key ∈ moment.live

/-- A tick that told the key `value` of the property. -/
def Moment.Told (key : SubscriptionKey) (property : PropertyIdentifier) (value : PropertyValue)
    (moment : Moment) : Prop :=
  Tells moment.announced key property value

/-- A tick that told the key of the property, whatever it told. -/
def Moment.ToldOf (key : SubscriptionKey) (property : PropertyIdentifier) (moment : Moment) :
    Prop :=
  ∃ value, moment.Told key property value

/-- Which properties each notification carried. -/
def Moment.carried (moment : Moment) : List (SubscriptionKey × List PropertyIdentifier) :=
  moment.announced.map (fun sent =>
    (sent.1, sent.2.notification.listOfValues.map CovPropertyValue.propertyIdentifier))

/-- The property has been sent to the key since it entered the live set. -/
def Transmitted (key : SubscriptionKey) (property : PropertyIdentifier) (ticks : List Moment) :
    Prop :=
  Since (Moment.Live key) (fun moment _ => moment.ToldOf key property) ticks

/-- Since the key entered the live set, the latest notification sent to it that carried the
property carried `value`. -/
def LastTold (key : SubscriptionKey) (property : PropertyIdentifier) (value : PropertyValue)
    (ticks : List Moment) : Prop :=
  Since (fun moment => moment.Live key ∧ ¬ moment.ToldOf key property)
    (fun moment _ => moment.Told key property value) ticks

/-- What has been transmitted was last told as something. -/
theorem transmitted_iff_lastTold {key : SubscriptionKey} {property : PropertyIdentifier}
    {ticks : List Moment} :
    Transmitted key property ticks ↔ ∃ value, LastTold key property value ticks := by
  constructor
  · intro h
    exact since_exists.mp h.latest
  · rintro ⟨value, h⟩
    exact h.mono (fun _ hlive => hlive.1) (fun _ _ htold => ⟨value, htold⟩)

/-- The state of a run, and what its ticks did, the latest first. -/
structure Recorded where
  reporting : Reporting
  ticks : List Moment

namespace Recorded

/-- Nobody subscribed, and no tick yet. -/
def start (database : DatabaseView) (limits : CovLimits) : Recorded :=
  ⟨Reporting.start database limits, []⟩

/-- What the tick at `now` does. -/
def moment (recorded : Recorded) (now : Nat) : Moment where
  live := (recorded.reporting.ticked now).subscriptions.all.map Subscription.key
  announced := (recorded.reporting.ticked now).announced

/-- The ticks after an event. -/
def ticksAfter (recorded : Recorded) : Reporting.Event → List Moment
  | .tick now => recorded.moment now :: recorded.ticks
  | .subscribeCov _ _ => recorded.ticks
  | .subscribeCovProperty _ _ => recorded.ticks
  | .write _ => recorded.ticks

/-- One step of a run. -/
def step (recorded : Recorded) (event : Reporting.Event) : Option Recorded :=
  (Reporting.step recorded.reporting event).map
    (fun reporting => ⟨reporting, recorded.ticksAfter event⟩)

/-! ## §2. The invariant -/

/-- Every baseline is what was last told. -/
def BaselinesTold (recorded : Recorded) : Prop :=
  ∀ key property value, recorded.reporting.engine.baseline key property = some value
    ↔ LastTold key property value recorded.ticks

theorem start_baselinesTold (database : DatabaseView) (limits : CovLimits) :
    (start database limits).BaselinesTold := by
  intro key property value
  constructor
  · intro h
    cases h
  · intro h
    exact h.elim

theorem requested_engine (reporting : Reporting)
    (outcome : Except ObjectError CovSubscriptions) :
    (reporting.requested outcome).engine = reporting.engine := by
  cases outcome <;> rfl

/-- Only ticks change what is remembered, and a tick changes it by what it tells. -/
theorem baseline_last_told {recorded recorded' : Recorded} {event : Reporting.Event}
    (h : recorded.BaselinesTold) (hstep : step recorded event = some recorded') :
    recorded'.BaselinesTold := by
  obtain ⟨reporting, hreact, rfl⟩ := Option.map_eq_some_iff.mp hstep
  rw [← Option.some.inj hreact]
  intro key property value
  cases event with
  | subscribeCov request source =>
      show ((recorded.reporting.requested _).engine.baseline key property = some value) ↔ _
      rw [requested_engine]
      exact h key property value
  | subscribeCovProperty request source =>
      show ((recorded.reporting.requested _).engine.baseline key property = some value) ↔ _
      rw [requested_engine]
      exact h key property value
  | write database => exact h key property value
  | tick now =>
      show (recorded.reporting.ticked now).engine.baseline key property = some value
        ↔ (recorded.moment now).Told key property value
          ∨ (((recorded.moment now).Live key ∧ ¬ (recorded.moment now).ToldOf key property)
            ∧ LastTold key property value recorded.ticks)
      rw [← h key property value]
      by_cases hlive : (recorded.moment now).Live key
      · obtain ⟨subscription, hheld⟩ := CovSubscriptions.mem_keys_iff.mp hlive
        refine (CovEngine.baseline_tick_iff _ _ _ now hheld).trans (or_congr_right ?_)
        constructor
        · rintro ⟨hbefore, hsilent⟩
          exact ⟨⟨hlive, fun ⟨other, htold⟩ => hsilent other htold⟩, hbefore⟩
        · rintro ⟨⟨_, hsilent⟩, hbefore⟩
          exact ⟨hbefore, fun other htold => hsilent ⟨other, htold⟩⟩
      · -- neither remembered nor told, since it is not in the live set
        constructor
        · intro hbaseline
          exact absurd (CovEngine.baseline_tick_held hbaseline) hlive
        · rintro (htold | ⟨⟨hstill, _⟩, _⟩)
          · exact absurd (CovEngine.key_mem_of_tells htold) hlive
          · exact absurd hstill hlive

/-! ## §3. Over every run -/

/-- The next tick finds something to report of a property it has not told the key of, or
one that has moved reportably from what it last told. -/
def MovedSinceTold (recorded : Recorded) (subscription : Subscription) : Prop :=
  ∃ property value, (property, value) ∈ observed recorded.reporting.database subscription
    ∧ (¬ Transmitted subscription.key property recorded.ticks
      ∨ ∃ told, LastTold subscription.key property told recorded.ticks
        ∧ reportable (some told) value
          (incrementFor recorded.reporting.database subscription property) = true)

/-- A baseline decides as what was last told does. -/
theorem reportable_iff {recorded : Recorded} (h : recorded.BaselinesTold) (key : SubscriptionKey)
    (property : PropertyIdentifier) (value : PropertyValue) (increment : Option F32) :
    reportable (recorded.reporting.engine.baseline key property) value increment = true
      ↔ ¬ Transmitted key property recorded.ticks
        ∨ ∃ told, LastTold key property told recorded.ticks
          ∧ reportable (some told) value increment = true := by
  have hlast := h key property
  rw [transmitted_iff_lastTold]
  simp only [← hlast]
  cases recorded.reporting.engine.baseline key property with
  | none => simp [reportable]
  | some told => simp

theorem worthSending_iff {recorded : Recorded} (h : recorded.BaselinesTold)
    (subscription : Subscription) :
    recorded.reporting.engine.worthSending recorded.reporting.database subscription = true
      ↔ recorded.MovedSinceTold subscription := by
  unfold CovEngine.worthSending
  rw [List.any_eq_true]
  constructor
  · rintro ⟨⟨property, value⟩, hmem, hreport⟩
    exact ⟨property, value, hmem, (reportable_iff h _ _ _ _).mp hreport⟩
  · rintro ⟨property, value, hmem, hmoved⟩
    exact ⟨(property, value), hmem, (reportable_iff h _ _ _ _).mpr hmoved⟩

/-- **The engine remembers what it last told, and measures from there.**  Whatever is
subscribed, cancelled and written, and whenever the ticks come: a baseline is held for a
key and a property exactly when the property has been sent to the key since it entered the
live set, it is the value the latest notification to carry the property carried, and the
next tick announces a subscription exactly when a property it reads was not sent before
or has moved reportably from what was sent last. -/
theorem baselines_told (database : DatabaseView) (limits : CovLimits)
    (events : List Reporting.Event) {recorded : Recorded}
    (hrun : Machine.run step (start database limits) events = some recorded)
    (key : SubscriptionKey) :
    (∀ property,
      ((∃ value, recorded.reporting.engine.baseline key property = some value)
        ↔ Transmitted key property recorded.ticks)
      ∧ ∀ value, recorded.reporting.engine.baseline key property = some value
        ↔ LastTold key property value recorded.ticks)
    ∧ ∀ now subscription,
        (recorded.reporting.subscriptions.advanceTo now).held key = some subscription →
        ((∃ notification, (key, notification) ∈ (recorded.reporting.ticked now).announced)
          ↔ recorded.MovedSinceTold subscription) := by
  have htold : recorded.BaselinesTold :=
    Machine.run_invariant (P := BaselinesTold) (fun _ _ _ h hstep => baseline_last_told h hstep)
      (start_baselinesTold database limits) hrun
  refine ⟨fun property => ⟨?_, htold key property⟩, ?_⟩
  · rw [transmitted_iff_lastTold]
    exact exists_congr (htold key property)
  · intro now subscription hheld
    exact (CovEngine.announced_iff _ _ _ now hheld).trans (worthSending_iff htold subscription)

/-! ## §4. A notification that leaves a property out -/

/-- The device of the constant 5 with its value out of reach, and in fault. -/
def outOfReach : DatabaseView where
  deviceId := Reporting.constantFive.deviceId
  getProperty := fun _ property =>
    if property = .statusFlags then .ok (.bitString [false, true, false, false])
    else .error .unknownProperty

/-- Subscribed, announced, the value lost, announced again. -/
def lostValue : List Reporting.Event :=
  [Reporting.requestOf (some false), .tick 0, .write outOfReach, .tick 1]

/-- The state it ends in, and the subscription held there. -/
theorem baselines_told_lostValue :
    ∃ recorded, Machine.run step (start Reporting.constantFive ⟨none, none⟩) lostValue
        = some recorded
      ∧ ((∃ value, recorded.reporting.engine.baseline Reporting.requestOfKey .presentValue
            = some value)
          ↔ Transmitted Reporting.requestOfKey .presentValue recorded.ticks)
      ∧ ((∃ notification, (Reporting.requestOfKey, notification)
            ∈ (recorded.reporting.ticked 2).announced)
          ↔ recorded.MovedSinceTold ⟨Reporting.requestOfKey, false, none, none⟩) := by
  have hheld : (Machine.run step (start Reporting.constantFive ⟨none, none⟩) lostValue).map
      (fun recorded => (recorded.reporting.subscriptions.advanceTo 2).held Reporting.requestOfKey)
      = some (some ⟨Reporting.requestOfKey, false, none, none⟩) := by decide +kernel
  obtain ⟨recorded, hrun, hsubscription⟩ := Option.map_eq_some_iff.mp hheld
  obtain ⟨htold, hnext⟩ := baselines_told Reporting.constantFive ⟨none, none⟩ lostValue hrun
    Reporting.requestOfKey
  exact ⟨recorded, hrun, (htold .presentValue).1, hnext 2 _ hsubscription⟩

/-- **A notification that leaves a property out does not end the baseline.**  The last
notification sent carries the status flags alone, and a value is still remembered. -/
theorem omitted_remembered :
    ∃ recorded last past sent, Machine.run step (start Reporting.constantFive ⟨none, none⟩)
        lostValue = some recorded
      ∧ recorded.ticks = last :: past ∧ last.Live Reporting.requestOfKey
      ∧ last.announced = [(Reporting.requestOfKey, sent)]
      ∧ (∀ value, ¬ sent.notification.Carries .presentValue value)
      ∧ ∃ value, recorded.reporting.engine.baseline Reporting.requestOfKey .presentValue
          = some value := by
  -- The run, evaluated: the value is remembered, and only the flags were announced.
  have hfacts : (Machine.run step (start Reporting.constantFive ⟨none, none⟩) lostValue).map
      (fun recorded =>
        ((recorded.reporting.engine.baseline Reporting.requestOfKey .presentValue).isSome
            && recorded.ticks.all (fun moment => moment.live == [Reporting.requestOfKey]),
          recorded.ticks.map Moment.carried))
      = some (true, [[(Reporting.requestOfKey, [.statusFlags])],
          [(Reporting.requestOfKey, [.presentValue, .statusFlags])]]) := by
    decide +kernel
  obtain ⟨recorded, hrun, hends⟩ := Option.map_eq_some_iff.mp hfacts
  obtain ⟨hbaseline, hticks⟩ := Prod.mk.inj hends
  obtain ⟨hvalue, hlives⟩ := Bool.and_eq_true_iff.mp hbaseline
  obtain ⟨last, past, hlast, hcarried, _⟩ := List.map_eq_cons_iff.mp hticks
  obtain ⟨⟨key, sent⟩, hsent, hone⟩ := List.map_eq_singleton_iff.mp hcarried
  obtain ⟨rfl, hproperties⟩ := Prod.mk.inj hone
  refine ⟨recorded, last, past, sent, hrun, hlast, ?_, hsent, ?_,
    Option.isSome_iff_exists.mp hvalue⟩
  · have hlive := List.all_eq_true.mp hlives last (hlast ▸ List.mem_cons_self)
    show Reporting.requestOfKey ∈ last.live
    rw [eq_of_beq hlive]
    exact List.mem_singleton.mpr rfl
  · intro value hcarries
    have hmem := List.mem_map_of_mem (f := CovPropertyValue.propertyIdentifier) hcarries
    rw [hproperties] at hmem
    have hsame : PropertyIdentifier.presentValue = .statusFlags := List.mem_singleton.mp hmem
    exact absurd hsame (by decide)

end Recorded

end BacnetRs.Server
