/-
  BacnetRs.Server.Subscribing — what a request for COV does to the table
  (`subscribe_cov` and `subscribe_cov_property` in `server/object_service.rs`).

  The two services differ in what they watch, not in how it is maintained: both
  look for what is to be watched, and then subscribe or cancel under the key
  the request names.  The look comes first for a cancellation too, so a
  subscription to what is no longer there cannot be cancelled.

    * `held_left_of_ne`     — a request leaves every entry but its own alone.
    * `held_left_iff_cancelled`
                            — when a cancellation leaves nothing held.
    * `cancellations_take_iff`
                            — over every run.
    * `cancellation_ignored` — a run in which one does not.
-/
import BacnetRs.Server.Reporting
import BacnetRs.Object.Store

namespace BacnetRs.Server

open BacnetRs.Encoding BacnetRs.Object BacnetRs.Property BacnetRs.Service BacnetRs.Network
open BacnetRs.Cov

/-! ## §1. The two requests -/

/-- A request for COV, of an object or of one of its properties. -/
inductive CovRequest where
  | object (request : SubscribeCovRequest)
  | property (request : SubscribeCovPropertyRequest)

namespace CovRequest

/-- The key the request names, when it comes from `address`. -/
def key (address : SocketAddr) : CovRequest → SubscriptionKey
  | .object request =>
      ⟨request.subscriberProcessIdentifier, request.monitoredObjectIdentifier, none, address⟩
  | .property request =>
      ⟨request.subscriberProcessIdentifier, request.monitoredObjectIdentifier,
        some request.monitoredProperty.propertyIdentifier, address⟩

/-- `is_cancellation`. -/
def isCancellation : CovRequest → Bool
  | .object request => request.isCancellation
  | .property request => request.isCancellation

/-- `issue_confirmed_notifications`. -/
def issueConfirmedNotifications : CovRequest → Option Bool
  | .object request => request.issueConfirmedNotifications
  | .property request => request.issueConfirmedNotifications

/-- `lifetime`. -/
def lifetime : CovRequest → Option UInt32
  | .object request => request.lifetime
  | .property request => request.lifetime

/-- `cov_increment`, which only a request about a property brings. -/
def covIncrement : CovRequest → Option F32
  | .object _ => none
  | .property request => request.covIncrement

/-- What the request asks to hold under its key. -/
def terms (subscriptions : CovSubscriptions) (address : SocketAddr) (asked : CovRequest) :
    Subscription :=
  ⟨asked.key address, asked.issueConfirmedNotifications.getD false,
    subscriptions.expiryFor asked.lifetime, asked.covIncrement⟩

/-- What is to be watched is there: the object has a present value, or the property named, which
is no element of an array. -/
def watchable (database : DatabaseView) : CovRequest → Bool
  | .object request =>
      (database.getProperty request.monitoredObjectIdentifier .presentValue).isOk
  | .property request =>
      request.monitoredProperty.propertyArrayIndex.isNone
        && (database.getProperty request.monitoredObjectIdentifier
          request.monitoredProperty.propertyIdentifier).isOk

/-- What the service makes of the table. -/
def perform (database : DatabaseView) (subscriptions : CovSubscriptions)
    (source : Option SocketAddr) : CovRequest → Except ObjectError CovSubscriptions
  | .object request => subscribeCov database subscriptions request source
  | .property request => subscribeCovProperty database subscriptions request source

/-- The table the request leaves, which a refused one does not change. -/
def left (database : DatabaseView) (subscriptions : CovSubscriptions)
    (source : Option SocketAddr) (asked : CovRequest) : CovSubscriptions :=
  match asked.perform database subscriptions source with
  | .ok after => after
  | .error _ => subscriptions

variable {database : DatabaseView} {subscriptions : CovSubscriptions} {address : SocketAddr}
  {asked : CovRequest}

/-- What cannot be watched is refused. -/
theorem perform_of_not_watchable (h : asked.watchable database = false)
    (source : Option SocketAddr) :
    ∃ refused, asked.perform database subscriptions source = .error refused := by
  cases source with
  | none => cases asked <;> exact ⟨_, rfl⟩
  | some address =>
      cases asked with
      | object request =>
          cases hread : database.getProperty request.monitoredObjectIdentifier .presentValue with
          | error refused =>
              refine ⟨.notFound, ?_⟩
              simp only [perform, subscribeCov, hread]
          | ok value => simp [watchable, hread, Except.isOk, Except.toBool] at h
      | property request =>
          cases hindex : request.monitoredProperty.propertyArrayIndex with
          | some index =>
              refine ⟨.optionalFunctionalityNotSupported, ?_⟩
              simp [perform, subscribeCovProperty, hindex]
          | none =>
              cases hread : database.getProperty request.monitoredObjectIdentifier
                  request.monitoredProperty.propertyIdentifier with
              | error refused =>
                  refine ⟨refused, ?_⟩
                  simp [perform, subscribeCovProperty, hindex, hread]
              | ok value => simp [watchable, hindex, hread, Except.isOk, Except.toBool] at h

/-- What can be watched is maintained under the key. -/
theorem perform_of_watchable (h : asked.watchable database = true) (address : SocketAddr) :
    asked.perform database subscriptions (some address)
      = maintain subscriptions (asked.key address) asked.isCancellation
          asked.issueConfirmedNotifications asked.lifetime asked.covIncrement := by
  cases asked with
  | object request =>
      cases hread : database.getProperty request.monitoredObjectIdentifier .presentValue with
      | error refused => simp [watchable, hread, Except.isOk, Except.toBool] at h
      | ok value => simp only [perform, subscribeCov, hread]; rfl
  | property request =>
      obtain ⟨hindex, hreads⟩ := Bool.and_eq_true_iff.mp h
      have hwhole : request.monitoredProperty.propertyArrayIndex.isSome = false := by
        rw [← Option.not_isNone, hindex]
        rfl
      cases hread : database.getProperty request.monitoredObjectIdentifier
          request.monitoredProperty.propertyIdentifier with
      | error refused => simp [hread, Except.isOk, Except.toBool] at hreads
      | ok value =>
          simp only [perform, subscribeCovProperty, hwhole, hread, Bool.false_eq_true, if_false]
          rfl

/-! ## §2. What is held afterwards -/

theorem left_of_not_watchable (h : asked.watchable database = false)
    (source : Option SocketAddr) : asked.left database subscriptions source = subscriptions := by
  have hrefuses : ∃ refused, asked.perform database subscriptions source = .error refused :=
    perform_of_not_watchable h source
  obtain ⟨refused, hrefused⟩ := hrefuses
  unfold left
  rw [hrefused]

/-- A cancellation of what can be watched takes what is held under its key. -/
theorem left_of_cancellation (h : asked.watchable database = true)
    (hcancellation : asked.isCancellation = true) (address : SocketAddr) :
    asked.left database subscriptions (some address)
      = (subscriptions.cancel (asked.key address)).1 := by
  unfold left
  rw [perform_of_watchable h, hcancellation]
  rfl

/-- A subscription to what can be watched holds its terms, if there is room for it. -/
theorem left_of_subscription (h : asked.watchable database = true)
    (hsubscription : asked.isCancellation = false) (address : SocketAddr) :
    asked.left database subscriptions (some address)
      = match subscriptions.subscribe (asked.terms subscriptions address) with
        | .ok after => after
        | .error _ => subscriptions := by
  unfold left
  rw [perform_of_watchable h, hsubscription]
  unfold maintain
  rw [if_neg Bool.false_ne_true]
  show (match (match subscriptions.subscribe (asked.terms subscriptions address) with
      | .ok after => .ok after
      | .error _ => .error .noSpaceToAddListElement : Except ObjectError CovSubscriptions) with
    | .ok after => after
    | .error _ => subscriptions) = _
  cases subscriptions.subscribe (asked.terms subscriptions address) <;> rfl

/-- **A request leaves every entry but its own alone.** -/
theorem held_left_of_ne {address : SocketAddr} {other : SubscriptionKey}
    (hne : other ≠ asked.key address) :
    (asked.left database subscriptions (some address)).held other = subscriptions.held other := by
  cases hwatchable : asked.watchable database with
  | false => rw [left_of_not_watchable hwatchable]
  | true =>
      cases hcancellation : asked.isCancellation with
      | true =>
          rw [left_of_cancellation hwatchable hcancellation, CovSubscriptions.held_cancel,
            if_neg hne]
      | false =>
          rw [left_of_subscription hwatchable hcancellation]
          cases hsubscribe : subscriptions.subscribe (asked.terms subscriptions address) with
          | error full => rfl
          | ok after =>
              obtain ⟨_, rfl⟩ := CovSubscriptions.subscribe_eq_ok.mp hsubscribe
              show ((subscriptions.insert (asked.terms subscriptions address)).held other) = _
              rw [CovSubscriptions.held_insert]
              exact if_neg hne

/-- **When a cancellation leaves nothing held under its key.** -/
theorem held_left_iff_cancelled (hcancellation : asked.isCancellation = true)
    (address : SocketAddr) :
    (asked.left database subscriptions (some address)).held (asked.key address) = none
      ↔ asked.watchable database = true ∨ subscriptions.held (asked.key address) = none := by
  cases hwatchable : asked.watchable database with
  | false =>
      rw [left_of_not_watchable hwatchable]
      simp
  | true =>
      rw [left_of_cancellation hwatchable hcancellation, CovSubscriptions.held_cancel, if_pos rfl]
      simp

/-- **When a request leaves what is held under its key as it is.** -/
theorem held_left_iff_kept {held : Subscription}
    (hheld : subscriptions.held (asked.key address) = some held) :
    (asked.left database subscriptions (some address)).held (asked.key address) = some held
      ↔ asked.watchable database = false
        ∨ (asked.isCancellation = false ∧ asked.terms subscriptions address = held) := by
  cases hwatchable : asked.watchable database with
  | false =>
      rw [left_of_not_watchable hwatchable, hheld]
      simp
  | true =>
      cases hcancellation : asked.isCancellation with
      | true =>
          rw [left_of_cancellation hwatchable hcancellation, CovSubscriptions.held_cancel,
            if_pos rfl]
          simp
      | false =>
          -- A renewal needs no room.
          have hsubscribe : subscriptions.subscribe (asked.terms subscriptions address)
              = .ok (subscriptions.insert (asked.terms subscriptions address)) := by
            apply CovSubscriptions.subscribe_eq_ok.mpr
            refine ⟨?_, rfl⟩
            intro hnone
            exact absurd (hheld.symm.trans hnone) (Option.some_ne_none held)
          rw [left_of_subscription hwatchable hcancellation, hsubscribe]
          show (subscriptions.insert (asked.terms subscriptions address)).held (asked.key address)
            = some held ↔ _
          rw [CovSubscriptions.held_insert, if_pos (show asked.key address
            = (asked.terms subscriptions address).key from rfl)]
          simp

end CovRequest

/-! ## §3. Cancellations over a run -/

namespace Reporting

/-- The request an event makes, and where it comes from. -/
def Event.asks : Event → Option (CovRequest × Option SocketAddr)
  | .subscribeCov request source => some (.object request, source)
  | .subscribeCovProperty request source => some (.property request, source)
  | .write _ => none
  | .tick _ => none

theorem subscriptions_requested (reporting : Reporting)
    (outcome : Except ObjectError CovSubscriptions) :
    (reporting.requested outcome).subscriptions
      = match outcome with
        | .ok after => after
        | .error _ => reporting.subscriptions := by
  cases outcome <;> rfl

/-- A request leaves the table it does. -/
theorem subscriptions_react {reporting : Reporting} {event : Event} {asked : CovRequest}
    {source : Option SocketAddr} (h : event.asks = some (asked, source)) :
    (reporting.react event).subscriptions
      = asked.left reporting.database reporting.subscriptions source := by
  cases event with
  | subscribeCov request source' =>
      cases h
      exact subscriptions_requested reporting _
  | subscribeCovProperty request source' =>
      cases h
      exact subscriptions_requested reporting _
  | write database => cases h
  | tick now => cases h

/-- After a cancellation nothing is held under its key, and every other entry is as it was. -/
def CancellationTakes (reporting : Reporting) (event : Event) : Prop :=
  ∀ asked address, event.asks = some (asked, some address) → asked.isCancellation = true →
    (reporting.react event).subscriptions.held (asked.key address) = none
      ∧ ∀ other ≠ asked.key address,
        (reporting.react event).subscriptions.held other = reporting.subscriptions.held other

/-- What a cancellation names can still be watched, or nothing is held under its key. -/
def Cancellable (reporting : Reporting) (event : Event) : Prop :=
  ∀ asked address, event.asks = some (asked, some address) → asked.isCancellation = true →
    asked.watchable reporting.database = true
      ∨ reporting.subscriptions.held (asked.key address) = none

theorem cancellable_iff (reporting : Reporting) (event : Event) :
    reporting.Cancellable event ↔ reporting.CancellationTakes event := by
  unfold Cancellable CancellationTakes
  apply forall_congr'
  intro asked
  apply forall_congr'
  intro address
  apply forall_congr'
  intro hasks
  apply forall_congr'
  intro hcancellation
  rw [subscriptions_react hasks, CovRequest.held_left_iff_cancelled hcancellation]
  constructor
  · intro h
    exact ⟨h, fun other hne => CovRequest.held_left_of_ne hne⟩
  · exact And.left

/-- **A cancellation takes exactly when what it names can still be watched**, or there was
nothing to cancel.  Whatever is subscribed, cancelled and written, and whenever the ticks come:
every cancellation of a run leaves nothing held under its key and every other entry as it was,
if and only if at each of them the object, and the property if one is named, is there to be read,
no element of an array is named, or nothing is held under the key. -/
theorem cancellations_take_iff (database : DatabaseView) (limits : CovLimits)
    (events : List Event) :
    Machine.Throughout step Cancellable (start database limits) events
      ↔ Machine.Throughout step CancellationTakes (start database limits) events :=
  Machine.throughout_iff (P := fun _ => True)
    (fun reporting event _ => cancellable_iff reporting event) (fun _ _ _ _ _ _ => trivial) trivial

/-! ## §4. A subscription that cannot be cancelled -/

/-- A device with one analog value. -/
def oneSetpoint : ObjectDatabase :=
  ((ObjectDatabase.new (.new 1234 "Test device")).addObject
    ⟨.analogValue, .new 1 "Setpoint"⟩).1

/-- The same device, with the analog value removed. -/
def noSetpoint : ObjectDatabase := (oneSetpoint.removeObject ⟨.analogValue, 1⟩).1

/-- A request of process 1 about the analog value; one without a preference cancels. -/
def askSetpoint (issueConfirmedNotifications : Option Bool) : Event :=
  .subscribeCov ⟨1, ⟨.analogValue, 1⟩, issueConfirmedNotifications, none⟩ (some (.v4 0 47808))

/-- **What is removed stays subscribed.**  The analog value is subscribed and then removed, and
the cancellation that follows is refused. -/
theorem cancellation_ignored :
    ∃ reporting, Machine.run step (start oneSetpoint.view ⟨none, none⟩)
        [askSetpoint (some false), .write noSetpoint.view] = some reporting
      ∧ ¬ reporting.CancellationTakes (askSetpoint none) := by
  refine ⟨_, rfl, ?_⟩
  intro htakes
  have hgone := (htakes _ _ rfl rfl).1
  have hheld : ((((start oneSetpoint.view ⟨none, none⟩).react (askSetpoint (some false))).react
      (.write noSetpoint.view)).react (askSetpoint none)).subscriptions.held
        ⟨1, ⟨.analogValue, 1⟩, none, .v4 0 47808⟩
      = some ⟨⟨1, ⟨.analogValue, 1⟩, none, .v4 0 47808⟩, false, none, none⟩ := by
    decide +kernel
  exact Option.some_ne_none _ (hheld.symm.trans hgone)

end Reporting

end BacnetRs.Server
