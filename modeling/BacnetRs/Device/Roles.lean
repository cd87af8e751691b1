/-
  BacnetRs.Device.Roles — a device that is client and server at once, among
  peers that are both too.

  The client endpoint and the server's dispatcher each hold requests this
  device has sent.  A peer's Abort or SegmentAck with the server flag clear is
  about a request of the peer's own, whatever its invoke id.  Neither receiver
  looks at the flag.

    * `roles_apart_iff`     — along a run, such an APDU changes no transaction
                              of this device's exactly when it never names one
                              that it could pass for an answer to.
    * `peers_abort_mistaken`
                            — a run in which it does, at either receiver.
-/
import BacnetRs.Client.Roles
import BacnetRs.Server.Dispatcher

namespace BacnetRs

open BacnetRs.Object BacnetRs.Service BacnetRs.Network BacnetRs.App BacnetRs.Client BacnetRs.Server

/-! ## §1. The device -/

/-- The client endpoint's world, and the dispatcher of the server beside it. -/
structure Device (σ : Type) where
  client : World
  server : ServerDispatcher σ

namespace Device

/-- What can happen at the server. -/
inductive ServerEvent (σ : Type) where
  /-- A notifier sends a confirmed request. -/
  | register (destination : SocketAddr) (invokeId : UInt8) (service : ConfirmedServiceChoice)
      (frame : Bytes) (now : Instant)
  | withdraw (destination : SocketAddr) (invokeId : UInt8)
  | poll (now : Instant)
  | dispatch (npdu : Npdu) (apdu : Apdu) (source : Option SocketAddr)
  /-- The application changes what is served. -/
  | change (objects : σ)

/-- What can happen at the device. -/
inductive Event (σ : Type) where
  | client (event : Client.Event)
  | server (event : ServerEvent σ)

variable {σ : Type}

/-- What an event at the server does. -/
def serve (services : Services σ) (server : ServerDispatcher σ) :
    ServerEvent σ → ServerDispatcher σ
  | .register destination invokeId service frame now =>
      { server with
        transactions := server.transactions.register destination invokeId service frame now }
  | .withdraw destination invokeId =>
      { server with transactions := server.transactions.withdraw destination invokeId }
  | .poll now =>
      { server with
        transactions := (server.transactions.due (services.database server.objects) now).1 }
  | .dispatch npdu apdu source => (server.dispatch services npdu apdu source).1
  | .change objects => { server with objects := objects }

/-- One step of a run, at either side. -/
def step (services : Services σ) (device : Device σ) : Event σ → Option (Device σ)
  | .client event =>
      (World.step device.client event).map (fun client => { device with client := client })
  | .server event => some { device with server := serve services device.server event }

/-! ## §2. Roles kept apart -/

/-- A client-spoken APDU changes no transaction this device started: the client sends,
answers, re-times and removes nothing, and the server records nothing. -/
def RolesApart (services : Services σ) (device : Device σ) : Event σ → Prop
  | .client (.packet now sendTo data source) =>
      ∀ apdu route, packetApdu data source = some (apdu, route) → clientSpoken apdu = true →
        ∃ outcome, device.client.endpoint.handlePacket (device.client.host now sendTo) data source
            = some outcome
          ∧ device.client.endpoint.Undisturbed outcome
  | .server (.dispatch npdu apdu source) =>
      clientSpoken apdu = true →
        (device.server.dispatch services npdu apdu source).1.transactions
          = device.server.transactions
  | _ => True

/-- A client-spoken APDU names no transaction of this device's that it could pass for an
answer to: at the client none pending at its source under its invoke id (for a
SegmentAck, with a segment of its number still going out), at the server, for an Abort,
none in flight to its source under its invoke id. -/
def NamesNone (device : Device σ) : Event σ → Prop
  | .client (.packet _ _ data source) =>
      ∀ apdu route, packetApdu data source = some (apdu, route) → clientSpoken apdu = true →
        device.client.endpoint.Unmistakable source apdu
  | .server (.dispatch npdu (.abort false invokeId _) source) =>
      npdu.isNetworkMessage = false → ∀ peer, source = some peer →
        device.server.transactions.inFlight peer invokeId = false
  | _ => True

/-- The dispatcher takes a client-spoken Abort for a refusal of whatever its id names. -/
theorem dispatch_abort_iff (services : Services σ) (server : ServerDispatcher σ) (npdu : Npdu)
    (serverFlag : Bool) (invokeId : UInt8) (reason : AbortReason) (source : Option SocketAddr) :
    (server.dispatch services npdu (.abort serverFlag invokeId reason) source).1.transactions
        = server.transactions
      ↔ (npdu.isNetworkMessage = false → ∀ peer, source = some peer →
          server.transactions.inFlight peer invokeId = false) := by
  cases hnpdu : npdu.isNetworkMessage with
  | true =>
      refine ⟨fun _ h => (by cases h), fun _ => ?_⟩
      unfold ServerDispatcher.dispatch
      rw [if_pos hnpdu]
  | false =>
      rw [server.dispatch_transactions_of_reply services source hnpdu rfl, server.answered_iff]
      exact ⟨fun h _ => h, fun h => h rfl⟩

/-- One event keeps the roles apart exactly when it names none. -/
theorem namesNone_iff (services : Services σ) (device : Device σ) (event : Event σ) :
    device.NamesNone event ↔ device.RolesApart services event := by
  cases event with
  | client event =>
      cases event with
      | packet now sendTo data source =>
          refine forall_congr' (fun apdu => forall_congr' (fun route => ?_))
          refine forall_congr' (fun hpacket => forall_congr' (fun hspoken => ?_))
          exact (device.client.endpoint.handlePacket_undisturbed_iff
            (device.client.host now sendTo) hpacket hspoken).symm
      | command now sendTo command => exact Iff.rfl
      | timeouts now sendTo visits => exact Iff.rfl
      | drop channel => exact Iff.rfl
      | stop now error => exact Iff.rfl
  | server event =>
      cases event with
      -- Of what a client may say, only an abort touches the server's transactions.
      | dispatch npdu apdu source =>
          show _ ↔ (clientSpoken apdu = true →
            (device.server.dispatch services npdu apdu source).1.transactions
              = device.server.transactions)
          cases apdu with
          | abort serverFlag invokeId reason =>
              cases serverFlag with
              | true => exact ⟨fun _ h => (by cases h), fun _ => trivial⟩
              | false =>
                  rw [dispatch_abort_iff]
                  exact ⟨fun h _ => h, fun h => h rfl⟩
          | segmentAck negative serverFlag invokeId sequenceNumber windowSize =>
              refine ⟨fun _ _ => ?_, fun _ => trivial⟩
              exact device.server.dispatch_transactions_of_no_reply services npdu source rfl
          | confirmedRequest request => exact ⟨fun _ h => (by cases h), fun _ => trivial⟩
          | unconfirmedRequest choice data => exact ⟨fun _ h => (by cases h), fun _ => trivial⟩
          | simpleAck invokeId choice => exact ⟨fun _ h => (by cases h), fun _ => trivial⟩
          | complexAck ack => exact ⟨fun _ h => (by cases h), fun _ => trivial⟩
          | error invokeId choice errorClass errorCode firstFailed =>
              exact ⟨fun _ h => (by cases h), fun _ => trivial⟩
          | reject invokeId reason => exact ⟨fun _ h => (by cases h), fun _ => trivial⟩
      | register destination invokeId service frame now => exact Iff.rfl
      | withdraw destination invokeId => exact Iff.rfl
      | poll now => exact Iff.rfl
      | change objects => exact Iff.rfl

/-- **The roles stay apart along a run exactly when no peer's request shares an id with
one of this device's.**  Whatever is sent, received, timed out and polled on both sides:
every client-spoken Abort and SegmentAck of a run leaves this device's transactions
alone, if and only if each names none of them. -/
theorem roles_apart_iff (services : Services σ) (device : Device σ) (events : List (Event σ)) :
    Machine.Throughout (step services) NamesNone device events
      ↔ Machine.Throughout (step services) (RolesApart services) device events :=
  Machine.throughout_iff (P := fun _ => True)
    (fun device event _ => namesNone_iff services device event) (fun _ _ _ _ _ _ => trivial)
    trivial

/-! ## §3. A peer's own request, aborted -/

/-- Services that reject every request, over a database that reads nothing. -/
def rejectingServices : Services Unit where
  database := fun _ => ⟨⟨.device, 1234⟩, fun _ _ => .error .notFound⟩
  dispatchConfirmed := fun _ invokeId _ _ _ => ((), .ok (.reject invokeId .invalidTag))

/-- A device with nothing outstanding on either side. -/
def quietDevice : Device Unit := ⟨World.beforeRequest, ⟨(), Table.empty⟩⟩

/-- The device once its client has a three-segment request out to a peer under id 0, and
its server a confirmed notification to the same peer under the same id. -/
def busyDevice : Device Unit where
  client := World.afterRequest
  server := serve rejectingServices ⟨(), Table.empty⟩
    (.register World.segmentingPeer.address 0 .confirmedCovNotification [1] 0)

/-- The peer aborts a request of its own, which it too numbered 0. -/
def peersAbort : Apdu := .abort false 0 .invalidApduInThisState

/-- The peer acknowledges a segment of an answer to a request of its own. -/
def peersSegmentAck : Apdu := .segmentAck false false 0 0 1

/-- An APDU from the peer, as the client's socket receives it. -/
def fromPeer (apdu : Apdu) : Event Unit :=
  .client (.packet 1 World.takesAll (wrapUnicast Npdu.new apdu) World.segmentingPeer.address)

/-- A client-spoken APDU that reaches a pending transaction of the busy device's. -/
theorem busyDevice_mistakes {apdu : Apdu} (hspoken : clientSpoken apdu = true)
    (hpacket : packetApdu (wrapUnicast Npdu.new apdu) World.segmentingPeer.address
      = some (apdu, none))
    (hfits : ¬ busyDevice.client.endpoint.Unmistakable World.segmentingPeer.address apdu) :
    ¬ busyDevice.RolesApart rejectingServices (fromPeer apdu) := by
  intro hapart
  refine hfits ?_
  exact (busyDevice.client.endpoint.handlePacket_undisturbed_iff
    (busyDevice.client.host 1 World.takesAll) hpacket hspoken).mp (hapart apdu none hpacket hspoken)

/-- **A peer's own Abort, mistaken at either receiver; its SegmentAck, at the client.** -/
theorem peers_abort_mistaken :
    Machine.run (step rejectingServices) quietDevice
        [.client World.hundredOctets,
          .server (.register World.segmentingPeer.address 0 .confirmedCovNotification [1] 0)]
      = some busyDevice
      ∧ ¬ busyDevice.RolesApart rejectingServices (fromPeer peersAbort)
      ∧ ¬ busyDevice.RolesApart rejectingServices (fromPeer peersSegmentAck)
      ∧ ¬ busyDevice.RolesApart rejectingServices
          (.server (.dispatch Npdu.new peersAbort (some World.segmentingPeer.address))) := by
  have hpending : (busyDevice.client.endpoint.pending.lookup
      (World.segmentingPeer.address, 0)).isSome = true := by decide +kernel
  obtain ⟨transaction, hlookup⟩ := Option.isSome_iff_exists.mp hpending
  refine ⟨?_, ?_, ?_, ?_⟩
  · rw [Machine.run_cons_eq_some]
    refine ⟨{ quietDevice with client := World.afterRequest }, ?_, rfl⟩
    have hstep : World.step quietDevice.client World.hundredOctets = some World.afterRequest :=
      World.step_hundredOctets
    rw [step, hstep]
    rfl
  · refine busyDevice_mistakes rfl (by decide +kernel) (fun hnone => ?_)
    rw [show busyDevice.client.endpoint.pending.lookup (World.segmentingPeer.address, 0) = none
      from hnone] at hlookup
    cases hlookup
  · refine busyDevice_mistakes rfl (by decide +kernel) (fun hnone => ?_)
    have hframes : (busyDevice.client.endpoint.pending.lookup
        (World.segmentingPeer.address, 0)).map (fun found =>
          found.outbound.map (fun outbound => outbound.frames.length)) = some (some 3) := by
      decide +kernel
    rw [hlookup, Option.map_some, Option.some.injEq] at hframes
    obtain ⟨outbound, houtbound, hlength⟩ := Option.map_eq_some_iff.mp hframes
    have hle := hnone transaction outbound hlookup houtbound
    rw [hlength] at hle
    cases hle
  · intro hapart
    have hrecorded : (busyDevice.server.dispatch rejectingServices Npdu.new peersAbort
        (some World.segmentingPeer.address)).1.transactions.answered.length
        ≠ busyDevice.server.transactions.answered.length := by
      decide +kernel
    exact hrecorded (congrArg (fun table => table.answered.length) (hapart rfl))

end Device

end BacnetRs
