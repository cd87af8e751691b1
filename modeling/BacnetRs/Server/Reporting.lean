/-
  BacnetRs.Server.Reporting — subscribers, writers and ticks together.

  Requests and writes come in any order between one tick and the next.  The
  engine sees the table at ticks only, and forgets what it reported to the
  subscriptions that are gone by then: a key cancelled and subscribed again in
  between is not gone, and what the earlier subscription was told stands.

    * `remembers_held`       — what the engine remembers, it remembers for keys
                               the last tick held.
    * `entered_announced_iff`
                             — the next tick announces every key that entered
                               the table exactly when no old baseline stands
                               unmoved.
    * `stale_baseline_suppresses`
                             — a run in which one does.
-/
import BacnetRs.Server.ObjectService
import BacnetRs.Cov.Engine
import BacnetRs.Library.Machine

namespace BacnetRs.Server

open BacnetRs.Object BacnetRs.Property BacnetRs.Service BacnetRs.Network BacnetRs.Cov

/-! ## §1. States and events -/

/-- The hosted objects, the subscription table and the engine over them. -/
structure Reporting where
  database : DatabaseView
  subscriptions : CovSubscriptions
  engine : CovEngine
  /-- The keys the last tick left in the table. -/
  heldAtTick : List SubscriptionKey
  /-- The keys that became present since the last tick. -/
  entered : List SubscriptionKey

namespace Reporting

/-- What can happen. -/
inductive Event where
  | subscribeCov (request : SubscribeCovRequest) (source : Option SocketAddr)
  | subscribeCovProperty (request : SubscribeCovPropertyRequest) (source : Option SocketAddr)
  /-- Objects are written, added or removed: the database reads differently. -/
  | write (database : DatabaseView)
  | tick (now : Nat)

/-- A device with the given objects and limits, nobody subscribed. -/
def start (database : DatabaseView) (limits : CovLimits) : Reporting where
  database := database
  subscriptions := CovSubscriptions.empty limits
  engine := CovEngine.new database.deviceId.instanceNumber
  heldAtTick := []
  entered := []

/-- The keys present in a table that were absent before. -/
def newKeys (before after : CovSubscriptions) : List SubscriptionKey :=
  (after.all.map Subscription.key).filter (fun key => (before.held key).isNone)

/-- The table a request leaves: its own, or the old one when it is refused. -/
def requested (reporting : Reporting) (outcome : Except ObjectError CovSubscriptions) : Reporting :=
  match outcome with
  | .ok subscriptions =>
      { reporting with
        subscriptions := subscriptions
        entered := reporting.entered ++ newKeys reporting.subscriptions subscriptions }
  | .error _ => reporting

/-- The tick at `now`. -/
def ticked (reporting : Reporting) (now : Nat) : Ticked :=
  reporting.engine.tick reporting.database reporting.subscriptions now

/-- What an event does. -/
def react (reporting : Reporting) : Event → Reporting
  | .subscribeCov request source =>
      reporting.requested
        (Server.subscribeCov reporting.database reporting.subscriptions request source)
  | .subscribeCovProperty request source =>
      reporting.requested
        (Server.subscribeCovProperty reporting.database reporting.subscriptions request source)
  | .write database => { reporting with database := database }
  | .tick now =>
      { reporting with
        subscriptions := (reporting.ticked now).subscriptions
        engine := (reporting.ticked now).engine
        heldAtTick := (reporting.ticked now).subscriptions.all.map Subscription.key
        entered := [] }

/-- One step of a run. -/
def step (reporting : Reporting) (event : Event) : Option Reporting := some (reporting.react event)

/-! ## §2. What the engine remembers -/

/-- What the engine remembers, it remembers for keys the last tick held. -/
def RemembersHeld (reporting : Reporting) : Prop :=
  ∀ key property value, reporting.engine.baseline key property = some value →
    key ∈ reporting.heldAtTick

theorem start_remembersHeld (database : DatabaseView) (limits : CovLimits) :
    (start database limits).RemembersHeld := by
  intro key property value h
  cases h

theorem requested_remembersHeld {reporting : Reporting} (h : reporting.RemembersHeld)
    (outcome : Except ObjectError CovSubscriptions) :
    (reporting.requested outcome).RemembersHeld := by
  cases outcome with
  | ok subscriptions => exact h
  | error error => exact h

/-- **Nothing between ticks is remembered**, and a tick remembers what it holds. -/
theorem remembers_held {reporting reporting' : Reporting} {event : Event}
    (h : reporting.RemembersHeld) (hstep : step reporting event = some reporting') :
    reporting'.RemembersHeld := by
  rw [← Option.some.inj hstep]
  cases event with
  | subscribeCov request source => exact requested_remembersHeld h _
  | subscribeCovProperty request source => exact requested_remembersHeld h _
  | write database => exact h
  | tick now =>
      intro key property value hbaseline
      exact CovEngine.baseline_tick_held hbaseline

/-! ## §3. The first notification -/

/-- A key that entered the table since the last tick, held live at the next one with
`subscription`, some property of which can be read. -/
def Enters (reporting : Reporting) (now : Nat) (key : SubscriptionKey)
    (subscription : Subscription) : Prop :=
  key ∈ reporting.entered
    ∧ (reporting.subscriptions.advanceTo now).held key = some subscription
    ∧ observed reporting.database subscription ≠ []

/-- A tick announces every key that entered the table since the last. -/
def AnnouncesEntered (reporting : Reporting) : Event → Prop
  | .tick now =>
      ∀ key subscription, reporting.Enters now key subscription →
        ∃ notification, (key, notification) ∈ (reporting.ticked now).announced
  | .subscribeCov _ _ => True
  | .subscribeCovProperty _ _ => True
  | .write _ => True

/-- At a tick, a key that entered the table and was held at the last tick reads some
property for the first time, or one that has moved reportably since. -/
def MovedSinceHeld (reporting : Reporting) : Event → Prop
  | .tick now =>
      ∀ key subscription, reporting.Enters now key subscription → key ∈ reporting.heldAtTick →
        ∃ property value, (property, value) ∈ observed reporting.database subscription
          ∧ reportable (reporting.engine.baseline key property) value
            (incrementFor reporting.database subscription property) = true
  | .subscribeCov _ _ => True
  | .subscribeCovProperty _ _ => True
  | .write _ => True

/-- A key the engine remembers nothing about is worth sending to. -/
theorem worthSending_of_not_held {reporting : Reporting} (h : reporting.RemembersHeld)
    {subscription : Subscription} (hheld : subscription.key ∉ reporting.heldAtTick)
    (hread : observed reporting.database subscription ≠ []) :
    reporting.engine.worthSending reporting.database subscription = true := by
  obtain ⟨⟨property, value⟩, hmem⟩ := List.exists_mem_of_ne_nil _ hread
  refine List.any_eq_true.mpr ⟨(property, value), hmem, ?_⟩
  cases hbaseline : reporting.engine.baseline subscription.key property with
  | none => rfl
  | some old => exact absurd (h _ _ _ hbaseline) hheld

/-- One tick announces what entered exactly when no old baseline stands unmoved. -/
theorem movedSinceHeld_iff {reporting : Reporting} (h : reporting.RemembersHeld)
    (event : Event) : reporting.MovedSinceHeld event ↔ reporting.AnnouncesEntered event := by
  cases event with
  | subscribeCov request source => exact Iff.rfl
  | subscribeCovProperty request source => exact Iff.rfl
  | write database => exact Iff.rfl
  | tick now =>
      have hkey : ∀ {key subscription}, reporting.Enters now key subscription →
          subscription.key = key := fun henters =>
        (reporting.subscriptions.advanceTo now).keyed _ _ henters.2.1
      constructor
      · intro hmoved key subscription henters
        refine (CovEngine.announced_iff _ _ _ now henters.2.1).mpr ?_
        by_cases hheld : key ∈ reporting.heldAtTick
        · obtain ⟨property, value, hmem, hreportable⟩ := hmoved key subscription henters hheld
          refine List.any_eq_true.mpr ⟨(property, value), hmem, ?_⟩
          rw [hkey henters]
          exact hreportable
        · rw [← hkey henters] at hheld
          exact worthSending_of_not_held h hheld henters.2.2
      · intro hannounces key subscription henters _
        have hworth := (CovEngine.announced_iff _ _ _ now henters.2.1).mp
          (hannounces key subscription henters)
        obtain ⟨⟨property, value⟩, hmem, hreportable⟩ := List.any_eq_true.mp hworth
        rw [hkey henters] at hreportable
        exact ⟨property, value, hmem, hreportable⟩

/-- **A subscription is announced at the next tick exactly when no old baseline stands
unmoved.**  Whatever is subscribed, cancelled and written, and whenever the ticks come:
every tick of a run announces every readable subscription that entered the table since
the last, if and only if each of them that was held at the last tick under the same key
has a property read for the first time or moved reportably since. -/
theorem entered_announced_iff (database : DatabaseView) (limits : CovLimits)
    (events : List Event) :
    Machine.Throughout step MovedSinceHeld (start database limits) events
      ↔ Machine.Throughout step AnnouncesEntered (start database limits) events :=
  Machine.throughout_iff (P := RemembersHeld) (fun _ event h => movedSinceHeld_iff h event)
    (fun _ _ _ _ h hstep => remembers_held h hstep) (start_remembersHeld database limits)

/-! ## §4. A baseline that outlives its subscription -/

/-- A device whose multi-state value stays at 5, in no alarm or fault. -/
def constantFive : DatabaseView where
  deviceId := ⟨.device, 1234⟩
  getProperty := fun _ property =>
    if property = .presentValue then .ok (.unsigned 5)
    else if property = .statusFlags then .ok (.bitString [false, false, false, false])
    else .error .unknownProperty

/-- A request of process 1 about the object, from one address. -/
def requestOf (issueConfirmedNotifications : Option Bool) : Event :=
  .subscribeCov ⟨1, ⟨.multiStateValue, 1⟩, issueConfirmedNotifications, none⟩ (some (.v4 0 47808))

/-- The key of those requests. -/
def requestOfKey : SubscriptionKey := ⟨1, ⟨.multiStateValue, 1⟩, none, .v4 0 47808⟩

/-- **An old baseline suppresses the first notification.**  Subscribed, announced at the
first tick, cancelled, subscribed again: the second tick announces nothing. -/
theorem stale_baseline_suppresses :
    ∃ reporting, Machine.run step (start constantFive ⟨none, none⟩)
        [requestOf (some false), .tick 0, requestOf none, requestOf (some false)] = some reporting
      ∧ ¬ reporting.AnnouncesEntered (.tick 1) := by
  have hrun : (Machine.run step (start constantFive ⟨none, none⟩)
      [requestOf (some false), .tick 0, requestOf none, requestOf (some false)]).map
        (fun reporting => (reporting.entered,
          (reporting.subscriptions.advanceTo 1).held requestOfKey,
          (observed reporting.database ⟨requestOfKey, false, none, none⟩).length,
          (reporting.ticked 1).announced.length))
      = some ([requestOfKey], some ⟨requestOfKey, false, none, none⟩, 2, 0) := by
    decide +kernel
  obtain ⟨reporting, hreached, hfacts⟩ := Option.map_eq_some_iff.mp hrun
  obtain ⟨hentered, hheld, hobserved, hannounced⟩ :
      reporting.entered = [requestOfKey]
        ∧ (reporting.subscriptions.advanceTo 1).held requestOfKey
          = some ⟨requestOfKey, false, none, none⟩
        ∧ (observed reporting.database ⟨requestOfKey, false, none, none⟩).length = 2
        ∧ (reporting.ticked 1).announced.length = 0 := by
    simpa only [Prod.mk.injEq] using hfacts
  refine ⟨reporting, hreached, fun hannounces => ?_⟩
  obtain ⟨notification, hmem⟩ := hannounces requestOfKey ⟨requestOfKey, false, none, none⟩
    ⟨by rw [hentered]; exact List.mem_singleton.mpr rfl, hheld,
      fun hnil => by rw [hnil] at hobserved; cases hobserved⟩
  rw [List.length_eq_zero_iff.mp hannounced] at hmem
  exact absurd hmem List.not_mem_nil

end Reporting

end BacnetRs.Server
