/-
  BacnetRs.Server.Requesters — whose subscriptions a request touches.

  A requester is known by two addresses: the one its datagram came from, and,
  behind a router, the network and MAC the router gives for it.  The response
  goes back to both.  The subscription it asks for is held under the first
  alone, and what is behind one router shares the router's.

    * `subscriptions_dispatch` — what a request for COV leaves of the table.
    * `spares_iff`          — when it leaves another's subscriptions alone.
    * `subscribers_apart_iff` — over every run.
    * `neighbour_cancelled` — two requesters behind one router.
-/
import BacnetRs.Server.Serving
import BacnetRs.Server.Subscribing

namespace BacnetRs.Server

open BacnetRs.Encoding BacnetRs.Object BacnetRs.Property BacnetRs.Service BacnetRs.Network
open BacnetRs.App BacnetRs.Cov

/-! ## §1. A request for COV -/

namespace ServerDispatcher

/-- What a confirmed request asks for, if the dispatcher gets as far as asking for COV. -/
def askedCov (server : ServerDispatcher ObjectService) (npdu : Npdu)
    (request : ConfirmedRequest) : Option CovRequest :=
  if npdu.isNetworkMessage || request.segmented
      || !server.objects.supportsConfirmedService request.serviceChoice then none
  else
    match request.serviceChoice with
    | .subscribeCov => (SubscribeCovRequest.decode request.serviceData).okPart.map .object
    | .subscribeCovProperty =>
        (SubscribeCovPropertyRequest.decode request.serviceData).okPart.map .property
    | _ => none

/-- The two services that change the table. -/
def ForCov (request : ConfirmedRequest) : Prop :=
  request.serviceChoice = .subscribeCov ∨ request.serviceChoice = .subscribeCovProperty

instance (request : ConfirmedRequest) : Decidable (ForCov request) :=
  inferInstanceAs (Decidable (_ ∨ _))

variable {server : ServerDispatcher ObjectService} {npdu : Npdu} {request : ConfirmedRequest}
  {source : Option SocketAddr}

/-- A service that stores a table leaves it, and nothing else of one that is refused. -/
theorem subscriptions_changeAnswer {service : ObjectService} (invokeId : UInt8)
    (choice : ConfirmedServiceChoice) (outcome : Except ObjectError CovSubscriptions) :
    (ObjectService.changeAnswer invokeId choice
        (.store service (fun after => { service with subscriptions := after }) outcome)
      ).1.subscriptions
      = match outcome with
        | .ok after => after
        | .error _ => service.subscriptions := by
  cases outcome <;> rfl

/-- **What a request for COV leaves of the table.** -/
theorem subscriptions_dispatch (hcov : ForCov request) :
    (server.dispatch ObjectService.services npdu (.confirmedRequest request) source
      ).1.objects.subscriptions
      = match server.askedCov npdu request with
        | some asked => asked.left server.objects.database.view server.objects.subscriptions source
        | none => server.objects.subscriptions := by
  unfold dispatch askedCov
  cases hnpdu : npdu.isNetworkMessage with
  | true => rfl
  | false =>
      cases hsegmented : request.segmented with
      | true => simp [hsegmented]
      | false =>
          simp only [Bool.false_eq_true, if_false, hsegmented, Bool.false_or]
          show (server.objects.dispatchConfirmed request.invokeId request.serviceChoice
            request.serviceData source).1.subscriptions = _
          unfold ObjectService.dispatchConfirmed
          cases hsupports : server.objects.supportsConfirmedService request.serviceChoice with
          | false => rfl
          | true =>
              rcases hcov with hchoice | hchoice
              · rw [hchoice]
                simp only [Bool.true_eq_false, if_false, Bool.not_true, Bool.false_eq_true]
                unfold ObjectService.serve
                cases SubscribeCovRequest.decode request.serviceData with
                | ok decoded => exact subscriptions_changeAnswer _ _ _
                | error fault => cases fault <;> rfl
              · rw [hchoice]
                simp only [Bool.true_eq_false, if_false, Bool.not_true, Bool.false_eq_true]
                unfold ObjectService.serve
                cases SubscribeCovPropertyRequest.decode request.serviceData with
                | ok decoded => exact subscriptions_changeAnswer _ _ _
                | error fault => cases fault <;> rfl

end ServerDispatcher

/-! ## §2. Who made what is held -/

/-- Who asks: where the datagram came from, and what is behind the router there, if it is one. -/
structure Requester where
  source : SocketAddr
  behind : Option NetworkAddress
  deriving DecidableEq

/-- A server, and the requester whose request for it was last taken, for each key. -/
structure Tenancy where
  server : ServerDispatcher ObjectService
  madeBy : SubscriptionKey → Option Requester
  /-- A key has the address its maker's datagrams come from. -/
  addressed : ∀ key maker, madeBy key = some maker → maker.source = key.address

namespace Tenancy

/-- The table. -/
def subscriptions (tenancy : Tenancy) : CovSubscriptions := tenancy.server.objects.subscriptions

/-- The objects, as they read. -/
def database (tenancy : Tenancy) : DatabaseView := tenancy.server.objects.database.view

/-- What can happen. -/
inductive Event where
  | request (npdu : Npdu) (request : ConfirmedRequest) (source : SocketAddr)
  /-- The engine's tick publishes the time and expires what has lapsed. -/
  | tick (now : Nat)
  /-- Objects are written, added or removed. -/
  | write (database : ObjectDatabase)

/-- The key a request makes a subscription under, if it is taken. -/
def makes (tenancy : Tenancy) (npdu : Npdu) (request : ConfirmedRequest) (source : SocketAddr) :
    Option SubscriptionKey :=
  match tenancy.server.askedCov npdu request with
  | some asked =>
      if !asked.isCancellation
          && (asked.perform tenancy.database tenancy.subscriptions (some source)).isOk then
        some (asked.key source)
      else none
  | none => none

theorem address_of_makes {tenancy : Tenancy} {npdu : Npdu} {request : ConfirmedRequest}
    {source : SocketAddr} {key : SubscriptionKey}
    (h : tenancy.makes npdu request source = some key) : key.address = source := by
  unfold makes at h
  split at h
  next asked hasked =>
    split at h
    · cases h
      cases asked <;> rfl
    · cases h
  · cases h

/-- What an event does. -/
def react (tenancy : Tenancy) : Event → Tenancy
  | .request npdu request source =>
      { server := (tenancy.server.dispatch ObjectService.services npdu (.confirmedRequest request)
          (some source)).1
        madeBy := fun key =>
          if tenancy.makes npdu request source = some key then some ⟨source, npdu.source⟩
          else tenancy.madeBy key
        addressed := by
          intro key maker h
          split at h
          next hmakes =>
            cases h
            exact (address_of_makes hmakes).symm
          · exact tenancy.addressed key maker h }
  | .tick now =>
      { tenancy with
        server :=
          { tenancy.server with
            objects :=
              { tenancy.server.objects with
                subscriptions := tenancy.server.objects.subscriptions.advanceTo now } } }
  | .write database =>
      { tenancy with
        server :=
          { tenancy.server with objects := { tenancy.server.objects with database := database } } }

/-- One step of a run. -/
def step (tenancy : Tenancy) (event : Event) : Option Tenancy := some (tenancy.react event)

/-! ## §3. Subscribers apart -/

/-- A request for COV leaves every subscription another requester made as it is. -/
def Spares (tenancy : Tenancy) : Event → Prop
  | .request npdu request source =>
      ServerDispatcher.ForCov request →
        ∀ key held maker, tenancy.subscriptions.held key = some held →
          tenancy.madeBy key = some maker → maker ≠ ⟨source, npdu.source⟩ →
            (tenancy.react (.request npdu request source)).subscriptions.held key = some held
  | .tick _ => True
  | .write _ => True

/-- Where a request for COV names a subscription that another requester made, behind the same
router, what it asks for cannot be watched, or is what is held. -/
def Apart (tenancy : Tenancy) : Event → Prop
  | .request npdu request source =>
      ServerDispatcher.ForCov request →
        ∀ asked, tenancy.server.askedCov npdu request = some asked →
          ∀ held maker, tenancy.subscriptions.held (asked.key source) = some held →
            tenancy.madeBy (asked.key source) = some maker → maker.source = source →
              maker.behind ≠ npdu.source →
                asked.watchable tenancy.database = false
                  ∨ (asked.isCancellation = false
                    ∧ asked.terms tenancy.subscriptions source = held)
  | .tick _ => True
  | .write _ => True

/-- The address in the key of a request is its own. -/
theorem key_address (asked : CovRequest) (source : SocketAddr) :
    (asked.key source).address = source := by
  cases asked <;> rfl

/-- **One request leaves another's subscriptions alone exactly when it is apart.** -/
theorem spares_iff (tenancy : Tenancy) (event : Event) :
    tenancy.Apart event ↔ tenancy.Spares event := by
  cases event with
  | tick now => exact Iff.rfl
  | write database => exact Iff.rfl
  | request npdu request source =>
      apply forall_congr'
      intro hcov
      -- Of all that a COV request does, what it leaves of the subscriptions is what counts here.
      have hleaves : (tenancy.react (.request npdu request source)).subscriptions
          = match tenancy.server.askedCov npdu request with
            | some asked => asked.left tenancy.database tenancy.subscriptions (some source)
            | none => tenancy.subscriptions := ServerDispatcher.subscriptions_dispatch hcov
      rw [hleaves]
      cases hasked : tenancy.server.askedCov npdu request with
      | none =>
          apply iff_of_true
          · intro asked h
            cases h
          · intro key held maker hheld _ _
            exact hheld
      | some asked =>
          simp only [Option.some.injEq, forall_eq']
          constructor
          · intro hapart key held maker hheld hmaker hother
            -- Only the subscription under the request's own key can be replaced.
            by_cases hkey : key = asked.key source
            · subst hkey
              apply (CovRequest.held_left_iff_kept hheld).mpr
              have hsource : maker.source = source :=
                (tenancy.addressed _ maker hmaker).trans (key_address asked source)
              apply hapart held maker hheld hmaker hsource
              intro hbehind
              apply hother
              rw [← hsource, ← hbehind]
            · rw [CovRequest.held_left_of_ne hkey]
              exact hheld
          · intro hspares held maker hheld hmaker _ hbehind
            apply (CovRequest.held_left_iff_kept hheld).mp
            apply hspares _ held maker hheld hmaker
            intro hsame
            exact hbehind (congrArg Requester.behind hsame)

/-- **Subscribers do not interfere exactly when they are apart.**  From any state of the server,
and whatever is asked, written and expired: every request of a run leaves the subscriptions that
other requesters made as they are, if and only if none of them names, for something that can be
watched, the process, the object and the property of a subscription that another requester behind
the same router made, other than to ask for just what is held. -/
theorem subscribers_apart_iff (start : Tenancy) (events : List Event) :
    Machine.Throughout step Apart start events ↔ Machine.Throughout step Spares start events :=
  Machine.throughout_iff (P := fun _ => True) (fun tenancy event _ => spares_iff tenancy event)
    (fun _ _ _ _ _ _ => trivial) trivial

/-! ## §4. Two requesters behind one router -/

/-- A device with one analog value, and nothing subscribed. -/
def quietSetpoint : Tenancy where
  server := ⟨.new Reporting.oneSetpoint, .empty⟩
  madeBy := fun _ => none
  addressed := nofun

/-- The router. -/
def routerAddress : SocketAddr := .v4 0x0A000001 47808

/-- SubscribeCOV of process 1 to the analog value, with what the data goes on to say, from one
of the devices behind the router. -/
def askedBehind (mac : UInt8) (more : Bytes) : Event :=
  .request (Npdu.new.setSource ⟨1001, [mac]⟩)
    { segmented := false
      moreFollows := false
      segmentedResponseAccepted := false
      maxSegments := .unspecified
      maxResponseSize := .up1476
      invokeId := 1
      sequenceNumber := none
      proposedWindowSize := none
      serviceChoice := .subscribeCov
      serviceData := [0x09, 0x01, 0x1C, 0x00, 0x80, 0x00, 0x01] ++ more }
    routerAddress

/-- The key all of these name. -/
def setpointKey : SubscriptionKey := ⟨1, ⟨.analogValue, 1⟩, none, routerAddress⟩

/-- **A neighbour's cancellation.**  Device 1 behind the router subscribes, and device 2 behind
it, which never did, cancels: what device 1 made is gone. -/
theorem neighbour_cancelled :
    ∃ tenancy, Machine.run step quietSetpoint [askedBehind 1 [0x29, 0x00]] = some tenancy
      ∧ tenancy.madeBy setpointKey = some ⟨routerAddress, some ⟨1001, [1]⟩⟩
      ∧ ¬ tenancy.Spares (askedBehind 2 []) := by
  have hmaker : (quietSetpoint.react (askedBehind 1 [0x29, 0x00])).madeBy setpointKey
      = some ⟨routerAddress, some ⟨1001, [1]⟩⟩ := by decide +kernel
  have hheld : (quietSetpoint.react (askedBehind 1 [0x29, 0x00])).subscriptions.held setpointKey
      = some ⟨setpointKey, false, none, none⟩ := by decide +kernel
  have hgone : ((quietSetpoint.react (askedBehind 1 [0x29, 0x00])).react
      (askedBehind 2 [])).subscriptions.held setpointKey = none := by decide +kernel
  refine ⟨_, rfl, hmaker, ?_⟩
  intro hspares
  have hkept := hspares (.inl rfl) setpointKey _ _ hheld hmaker (by decide)
  exact Option.some_ne_none _ (hkept.symm.trans hgone)

end Tenancy

end BacnetRs.Server
