/-
  BacnetRs.Client.World — the endpoint among its callers, its peers and time
  (`Endpoint::run` in `client/async_client.rs`).

  `run` sleeps until a command, a datagram or the earliest deadline, handles
  it, and reclaims what callers have cancelled before it sleeps again.  A run
  of the machine here is any interleaving of those with callers dropping their
  receivers: what arrives, when, in which order, what the socket answers and
  in which order a hash map yields its expired keys are all the event's
  choice.  Channels are numbers, fresh for each command.
-/
import BacnetRs.Client.Endpoint
import BacnetRs.Library.Machine

namespace BacnetRs.Client

open BacnetRs.Network BacnetRs.App

/-! ## §1. States and events -/

/-- The endpoint and everything around it that a run depends on. -/
structure World where
  endpoint : Endpoint
  /-- Whether the task is still in its loop. -/
  running : Bool
  /-- The last reading of the clock. -/
  clock : Instant
  /-- The channels handed to the endpoint so far. -/
  issued : List Channel
  /-- The channels whose receivers are gone. -/
  dropped : List Channel
  /-- What the endpoint has done, oldest first. -/
  trace : List Entry

/-- What can happen next. -/
inductive Event where
  | command (now : Instant) (sendTo : SocketAddr → Bytes → Option IoError)
      (command : Endpoint.EndpointCommand)
  | packet (now : Instant) (sendTo : SocketAddr → Bytes → Option IoError) (data : Bytes)
      (source : SocketAddr)
  /-- The timer fires; `visits` are the expired keys in the map's order, each with
  the clock read when it is visited. -/
  | timeouts (now : Instant) (sendTo : SocketAddr → Bytes → Option IoError)
      (visits : List (TransactionKey × Instant))
  /-- A caller stops waiting on a channel. -/
  | drop (channel : Channel)
  /-- Every command handle is gone, or the socket fails. -/
  | stop (now : Instant) (error : Option IoError)

/-- The channels a command brings. -/
def Endpoint.EndpointCommand.channels : Endpoint.EndpointCommand → List Channel
  | .confirmed _ _ _ response => [response]
  | .discoverDevices _ _ sink => [sink]
  | .discoverRouters _ _ sink => [sink]
  | .subscribeCov _ _ _ sink response => [sink, response]

namespace World

/-- A fresh endpoint, before anything has happened. -/
def start (timeout : Duration) (retries : UInt8) (acceptedApdu : MaxApduSize) : World where
  endpoint := Endpoint.new timeout retries acceptedApdu
  running := true
  clock := 0
  issued := []
  dropped := []
  trace := []

/-- What a handler reads in this world. -/
def host (world : World) (now : Instant) (sendTo : SocketAddr → Bytes → Option IoError) : Host :=
  ⟨now, sendTo, world.dropped⟩

/-! ## §2. Steps -/

/-- Whether the timer is due: some deadline has passed. -/
def timerDue (world : World) (now : Instant) : Bool :=
  !(world.endpoint.expired now).isEmpty
    || (world.endpoint.deviceDiscoveries ++ world.endpoint.routerDiscoveries).any
      (fun discovery => decide (discovery.deadline ≤ now))

/-- Times read in order, none before `now`. -/
def ordered (now : Instant) : List Instant → Bool
  | [] => true
  | time :: times => decide (now ≤ time) && ordered time times

/-- Whether an event can happen next. -/
def permits (world : World) : Event → Bool
  | .command now _ command =>
      world.running && decide (world.clock ≤ now) && decide command.channels.Nodup
        && command.channels.all (fun channel => !world.issued.contains channel)
  | .packet now _ _ _ => world.running && decide (world.clock ≤ now)
  | .timeouts now _ visits =>
      world.running && decide (world.clock ≤ now) && world.timerDue now
        && (visits.map Prod.fst).isPerm (world.endpoint.expired now)
        && ordered now (visits.map Prod.snd)
  | .drop channel => world.issued.contains channel
  | .stop now _ => world.running && decide (world.clock ≤ now)

/-- The top of the loop after a handler: cancelled work is reclaimed. -/
def resume (world : World) (now : Instant) (outcome : Endpoint × List Entry) : World :=
  { world with
    endpoint := outcome.1.removeCancelled world.dropped
    clock := now
    trace := world.trace ++ outcome.2 }

/-- The task ends: nothing it holds can be answered any more. -/
def halt (world : World) (now : Instant) (entries : List Entry) : World :=
  { world with
    endpoint := { world.endpoint with
      pending := ∅, deviceDiscoveries := [], routerDiscoveries := [], covSubscribers := ∅ }
    running := false
    clock := now
    trace := world.trace ++ entries }

/-- What an event does. -/
def react (world : World) : Event → World
  | .command now sendTo command =>
      { world with issued := command.channels ++ world.issued }.resume now
        (world.endpoint.handleCommand (world.host now sendTo) command)
  | .packet now sendTo data source =>
      match world.endpoint.handlePacket (world.host now sendTo) data source with
      | some outcome => world.resume now outcome
      | none => world.halt now []
  | .timeouts now sendTo visits =>
      world.resume ((visits.map Prod.snd).getLastD now)
        (world.endpoint.handleTimeouts (world.host now sendTo) visits)
  | .drop channel => { world with dropped := channel :: world.dropped }
  | .stop now error =>
      world.halt now
        (world.endpoint.failAll now (error.elim .endpointClosed ClientError.io)).2

/-- One step of a run. -/
def step (world : World) (event : Event) : Option World :=
  if world.permits event then some (world.react event) else none

/-- The worlds a run can reach. -/
def Reachable (timeout : Duration) (retries : UInt8) (acceptedApdu : MaxApduSize)
    (world : World) : Prop :=
  Machine.Reachable step (start timeout retries acceptedApdu) world

/-- What the endpoint did between two worlds of one run. -/
def entriesSince (earlier later : World) : List Entry :=
  later.trace.drop earlier.trace.length

theorem step_eq_some {world world' : World} {event : Event} :
    step world event = some world' ↔ world.permits event = true ∧ world' = world.react event := by
  unfold step
  cases h : world.permits event with
  | true => simp [eq_comm]
  | false => simp

/-- A packet is handled, or its handling ends the task. -/
theorem react_packet (world : World) (now : Instant) (sendTo : SocketAddr → Bytes → Option IoError)
    (data : Bytes) (source : SocketAddr) :
    (∃ outcome, world.endpoint.handlePacket (world.host now sendTo) data source = some outcome
        ∧ world.react (.packet now sendTo data source) = world.resume now outcome)
      ∨ world.react (.packet now sendTo data source) = world.halt now [] := by
  simp only [react]
  cases hhandled : world.endpoint.handlePacket (world.host now sendTo) data source with
  | none => exact .inr rfl
  | some outcome => exact .inl ⟨outcome, rfl, rfl⟩

/-! ## §3. A request under way -/

/-- A peer that takes fifty octets and any number of segments. -/
def segmentingPeer : BacnetTarget where
  address := .v4 0 47808
  route := none
  capabilities := some { maxApdu := 50, segmentation := .both }

/-- A socket that takes every frame. -/
def takesAll : SocketAddr → Bytes → Option IoError := fun _ _ => none

/-- A socket that refuses every frame. -/
def refusesAll : SocketAddr → Bytes → Option IoError := fun _ _ => some ⟨101⟩

/-- A request of a hundred octets: three segments of at most forty-four. -/
def hundredOctets : Event :=
  .command 0 takesAll (.confirmed segmentingPeer .writeProperty (List.replicate 100 0) 0)

/-- A request of one octet, whole, to be answered in channel `response`. -/
def oneOctet (now : Instant) (sendTo : SocketAddr → Bytes → Option IoError)
    (response : Channel) : Event :=
  .command now sendTo (.confirmed segmentingPeer .readProperty [0] response)

/-- The peer's segment `sequence`, answering the request with id `invokeId`, with more
to follow. -/
def segmentArrived (now : Instant) (sendTo : SocketAddr → Bytes → Option IoError)
    (invokeId sequence : UInt8) : Event :=
  .packet now sendTo
    (wrapUnicast Npdu.new (.complexAck
      { segmented := true, moreFollows := true, invokeId, sequenceNumber := some sequence
        proposedWindowSize := some 1, serviceChoice := .readProperty, serviceData := [0] }))
    segmentingPeer.address

/-- A fresh endpoint. -/
def beforeRequest : World := start 3000000000 3 .up1476

/-- The key of the request of a hundred octets. -/
def requestKey : TransactionKey := (segmentingPeer.address, 0)

/-- The world once the request has been opened. -/
def afterRequest : World := beforeRequest.react hundredOctets

theorem step_hundredOctets : step beforeRequest hundredOctets = some afterRequest :=
  step_eq_some.mpr ⟨by decide +kernel, rfl⟩

end World

end BacnetRs.Client
