/-
  BacnetRs.Client.Endpoint — the endpoint task and its handlers
  (`Endpoint` in `client/async_client.rs`).

  One task owns the socket and every transaction.  A handler takes the state
  and what it reads from outside (the clock, what the socket answers, which
  channels their receivers have dropped) and returns the new state with the
  entries it adds to the trace, in order:

    * what the source does that others can see: frames sent, results put into
      callers' channels, notifications and discoveries forwarded;
    * `reserved`, an internal move: an invoke id was handed out.

  A handler that slices out of bounds unwinds the task; packet handlers return
  `none` for that.
-/
import BacnetRs.Client.Transaction
import BacnetRs.Library.KeyedTable

namespace BacnetRs.Client

open BacnetRs.Object BacnetRs.Service BacnetRs.Network BacnetRs.App

/-! ## §1. State and trace -/

/-- What a COV notification is routed by: device instance and object. -/
abbrev CovKey := UInt32 × ObjectIdentifier

/-- One in-progress discovery. -/
structure ActiveDiscovery where
  sink : Channel
  deadline : Instant
  deriving Repr, DecidableEq

/-- The endpoint's state. -/
structure Endpoint where
  pending : KeyedTable TransactionKey PendingTransaction
  /-- Invoke IDs that timed out, and the instant each may be issued again. -/
  quarantined : KeyedTable TransactionKey Instant
  deviceDiscoveries : List ActiveDiscovery
  routerDiscoveries : List ActiveDiscovery
  covSubscribers : KeyedTable CovKey Channel
  nextInvokeId : UInt8
  rtt : KeyedTable SocketAddr Rtt
  timeout : Duration
  retries : UInt8
  /-- What peers are told, and so the largest response any should send. -/
  acceptedApdu : MaxApduSize

/-- What a discovery forwards to its caller. -/
inductive Discovered where
  | device (info : DeviceInfo)
  | router (router : DiscoveredRouter)
  deriving Repr, DecidableEq

/-- One thing the endpoint does. -/
inductive Effect where
  /-- `reserve_invoke_id` returned this key's id. -/
  | reserved (key : TransactionKey)
  /-- The socket took a frame. -/
  | sent (purpose : Purpose) (destination : SocketAddr) (frame : Bytes)
  /-- A result was put into a caller's response channel. -/
  | answered (response : Channel) (result : Except ClientError Bytes)
  /-- A notification was put into a subscription's channel. -/
  | notified (sink : Channel) (notification : CovNotification)
  /-- A discovery was told something. -/
  | discovered (sink : Channel) (found : Except ClientError Discovered)

/-- An effect and when it happened. -/
structure Entry where
  time : Instant
  effect : Effect

/-- What a handler reads from outside. -/
structure Host where
  /-- The clock. -/
  now : Instant
  /-- What the socket answers to a frame: `none`, or the error. -/
  sendTo : SocketAddr → Bytes → Option IoError
  /-- The channels whose receivers are gone. -/
  dropped : List Channel

/-- `is_closed`. -/
def Host.isClosed (host : Host) (channel : Channel) : Bool := host.dropped.contains channel

/-- The same surroundings at a later reading of the clock. -/
def Host.later (host : Host) (now : Instant) : Host := { host with now := now }

/-- An entry at the host's reading of the clock. -/
def Host.entry (host : Host) (effect : Effect) : Entry := ⟨host.now, effect⟩

namespace Endpoint

/-- `Endpoint::new`. -/
def new (timeout : Duration) (retries : UInt8) (acceptedApdu : MaxApduSize) : Endpoint where
  pending := ∅
  quarantined := ∅
  deviceDiscoveries := []
  routerDiscoveries := []
  covSubscribers := ∅
  nextInvokeId := 0
  rtt := ∅
  timeout := timeout
  retries := retries
  acceptedApdu := acceptedApdu

/-! ## §2. Timeouts of a peer -/

/-- `ceiling`. -/
def ceiling (endpoint : Endpoint) : Duration :=
  Duration.saturatingMul endpoint.timeout timeoutCeiling

/-- `rto`: how long to wait for `peer`'s answer, from what its answers have taken. -/
def rto (endpoint : Endpoint) (peer : SocketAddr) : Duration :=
  match endpoint.rtt.lookup peer with
  | none => endpoint.timeout
  | some rtt => min (max rtt.timeout (min minTimeout endpoint.ceiling)) endpoint.ceiling

/-- `attempt_wait`: the wait before the `sent`-th attempt, twice the last. -/
def attemptWait (endpoint : Endpoint) (peer : SocketAddr) (sent : Nat) : Duration :=
  min (Duration.saturatingMul (endpoint.rto peer) (2 ^ min sent 4)) endpoint.ceiling

/-- `transaction_budget`: every attempt's wait added up. -/
def transactionBudget (endpoint : Endpoint) (peer : SocketAddr) : Duration :=
  ((List.range (endpoint.retries.toNat + 1)).map (endpoint.attemptWait peer)).foldl
    Duration.saturatingAdd 0

/-- `backoff`: the wait after a retransmission. -/
def backoff (endpoint : Endpoint) (peer : SocketAddr) (retriesRemaining : UInt8) : Duration :=
  endpoint.attemptWait peer (endpoint.retries.toNat - retriesRemaining.toNat + 1)

/-! ## §3. Invoke ids -/

/-- Whether `reserve_invoke_id` passes over a key. -/
def occupied (endpoint : Endpoint) (key : TransactionKey) : Bool :=
  (endpoint.pending.lookup key).isSome || (endpoint.quarantined.lookup key).isSome

/-- The rotating search: the id found, and the cursor afterwards. -/
def searchInvokeId (taken : UInt8 → Bool) : Nat → UInt8 → Option UInt8 × UInt8
  | 0, next => (none, next)
  | tries + 1, next =>
      if taken next then searchInvokeId taken tries (next + 1) else (some next, next + 1)

/-- `quarantined.retain(|_, until| *until > now)`. -/
def releaseQuarantine (endpoint : Endpoint) (now : Instant) : Endpoint :=
  { endpoint with
    quarantined := KeyedTable.retain (fun _ releasedAt => decide (now < releasedAt))
      endpoint.quarantined }

/-- `reserve_invoke_id`: a free id for a request to `peer`, and the endpoint with
its cursor moved. -/
def reserveInvokeId (endpoint : Endpoint) (now : Instant) (peer : SocketAddr) :
    Option UInt8 × Endpoint :=
  let endpoint := endpoint.releaseQuarantine now
  let search :=
    searchInvokeId (fun invokeId => endpoint.occupied (peer, invokeId)) 256 endpoint.nextInvokeId
  (search.1, { endpoint with nextInvokeId := search.2 })

/-! ## §4. Leaving `pending` -/

/-- `pending.insert`. -/
def insertPending (endpoint : Endpoint) (key : TransactionKey)
    (transaction : PendingTransaction) : Endpoint :=
  { endpoint with pending := endpoint.pending.insert key transaction }

/-- `pending.remove`. -/
def removePending (endpoint : Endpoint) (key : TransactionKey) : Endpoint :=
  { endpoint with pending := endpoint.pending.erase key }

/-- Remove a transaction and put `result` into its caller's channel. -/
def fail (endpoint : Endpoint) (host : Host) (key : TransactionKey)
    (error : ClientError) : Endpoint × List Entry :=
  match endpoint.pending.lookup key with
  | none => (endpoint, [])
  | some transaction =>
      (endpoint.removePending key, [host.entry (.answered transaction.response (.error error))])

/-- `send_or_fail`: send one frame, failing the transaction if the socket refuses
it.  The last component says whether the frame went out. -/
def sendOrFail (endpoint : Endpoint) (host : Host) (key : TransactionKey)
    (parcel : Purpose × Bytes) : Endpoint × List Entry × Bool :=
  match host.sendTo key.1 parcel.2 with
  | none => (endpoint, [host.entry (.sent parcel.1 key.1 parcel.2)], true)
  | some error =>
      let (endpoint, entries) := endpoint.fail host key (.io error)
      (endpoint, entries, false)

/-- Send frames in order, up to the first the socket refuses. -/
def sendAll (endpoint : Endpoint) (host : Host) (key : TransactionKey) :
    List (Purpose × Bytes) → Endpoint × List Entry
  | [] => (endpoint, [])
  | parcel :: parcels =>
      match endpoint.sendOrFail host key parcel with
      | (endpoint, entries, false) => (endpoint, entries)
      | (endpoint, entries, true) =>
          let (endpoint, more) := endpoint.sendAll host key parcels
          (endpoint, entries ++ more)

/-- Send a frame whose outcome nothing depends on. -/
def sendIgnored (host : Host) (purpose : Purpose) (destination : SocketAddr) (frame : Bytes) :
    List Entry :=
  match host.sendTo destination frame with
  | none => [host.entry (.sent purpose destination frame)]
  | some _ => []

/-- `settle`: remove a transaction the peer answered, taking its round trip as a
sample. -/
def settle (endpoint : Endpoint) (now : Instant) (key : TransactionKey)
    (transaction : PendingTransaction) : Endpoint :=
  let endpoint := endpoint.removePending key
  -- Karn's algorithm: an answer to a retransmission measures nothing.
  if transaction.retransmitted then endpoint
  else
    let sample := now - transaction.sentAt
    let rtt :=
      match endpoint.rtt.lookup key.1 with
      | some rtt => rtt.observe sample
      | none => Rtt.first sample
    { endpoint with rtt := endpoint.rtt.insert key.1 rtt }

/-- Settle a transaction with its final answer. -/
def finish (endpoint : Endpoint) (host : Host) (key : TransactionKey)
    (result : Except ClientError Bytes) : Endpoint × List Entry :=
  match endpoint.pending.lookup key with
  | none => (endpoint, [])
  | some transaction =>
      (endpoint.settle host.now key transaction,
        [host.entry (.answered transaction.response result)])

/-- `abandon`: stop a transfer, telling the peer and the caller why. -/
def abandon (endpoint : Endpoint) (host : Host) (key : TransactionKey) (reason : AbortReason)
    (route : Option NetworkAddress) : Endpoint × List Entry :=
  let (endpoint, entries) := endpoint.fail host key (.abort reason)
  (endpoint, sendIgnored host (.abort key) key.1 (abortFrame key.2 reason route) ++ entries)

/-- `remove_cancelled`: reclaim what callers have stopped waiting for. -/
def removeCancelled (endpoint : Endpoint) (dropped : List Channel) : Endpoint :=
  { endpoint with
    pending := KeyedTable.retain (fun _ transaction => !dropped.contains transaction.response)
      endpoint.pending
    deviceDiscoveries := endpoint.deviceDiscoveries.filter (fun d => !dropped.contains d.sink)
    routerDiscoveries := endpoint.routerDiscoveries.filter (fun d => !dropped.contains d.sink)
    covSubscribers := KeyedTable.retain (fun _ sink => !dropped.contains sink)
      endpoint.covSubscribers }

/-- `fail_all`: every caller gets `error`. -/
def failAll (endpoint : Endpoint) (now : Instant) (error : ClientError) : Endpoint × List Entry :=
  ({ endpoint with pending := ∅, deviceDiscoveries := [], routerDiscoveries := [] },
    (KeyedTable.values endpoint.pending).map
        (fun transaction => ⟨now, .answered transaction.response (.error error)⟩)
      ++ (endpoint.deviceDiscoveries ++ endpoint.routerDiscoveries).map
        (fun discovery => ⟨now, .discovered discovery.sink (.error error)⟩))

/-! ## §5. Commands -/

/-- What goes out first and, when the request goes out in segments, the transfer:
until the peer names its window, nothing says a second segment would be looked
at. -/
def requestTransfer (key : TransactionKey) :
    RequestFrames → (Purpose × Bytes) × Option OutboundSegments
  | .whole frame => ((.request key, frame), none)
  | .segmented frames => ((.segment key 0, frames.headD []), some ⟨frames, none, 1⟩)

/-- `handle_confirmed_command`. -/
def handleConfirmedCommand (endpoint : Endpoint) (host : Host) (target : BacnetTarget)
    (serviceChoice : ConfirmedServiceChoice) (serviceData : Bytes) (response : Channel) :
    Endpoint × List Entry :=
  if host.isClosed response then (endpoint, [])
  else
    let endpoint := endpoint.removeCancelled host.dropped
    match endpoint.reserveInvokeId host.now target.address with
    | (none, endpoint) =>
        (endpoint, [host.entry (.answered response (.error .tooManyTransactions))])
    | (some invokeId, endpoint) =>
        let key := (target.address, invokeId)
        -- Logged where the id is taken, whether or not anything is sent.
        let reserved := host.entry (.reserved key)
        match splitRequest target invokeId serviceChoice serviceData endpoint.acceptedApdu with
        | .error error => (endpoint, [reserved, host.entry (.answered response (.error error))])
        | .ok frames =>
            let (parcel, outbound) := requestTransfer key frames
            let endpoint := endpoint.insertPending key
              { serviceChoice, outbound, response
                frame := parcel.2
                retriesRemaining := endpoint.retries
                deadline := host.now + endpoint.rto target.address
                sentAt := host.now
                retransmitted := false
                reassembly := none }
            let (endpoint, entries, _) := endpoint.sendOrFail host key parcel
            (endpoint, reserved :: entries)

/-- `start_discovery`: the window it opens, if any, and what the caller is told. -/
def startDiscovery (endpoint : Endpoint) (host : Host) (frame : Bytes) (destination : SocketAddr)
    (sink : Channel) : Option ActiveDiscovery × List Entry :=
  if host.isClosed sink then (none, [])
  else
    match host.sendTo destination frame with
    | some error => (none, [host.entry (.discovered sink (.error (.io error)))])
    | none =>
        (some ⟨sink, host.now + endpoint.timeout⟩, [host.entry (.sent .discovery destination frame)])

/-- What callers ask of the endpoint. -/
inductive EndpointCommand where
  | confirmed (target : BacnetTarget) (serviceChoice : ConfirmedServiceChoice)
      (serviceData : Bytes) (response : Channel)
  | discoverDevices (frame : Bytes) (destination : SocketAddr) (sink : Channel)
  | discoverRouters (frame : Bytes) (destination : SocketAddr) (sink : Channel)
  | subscribeCov (target : BacnetTarget) (key : CovKey) (serviceData : Bytes)
      (sink response : Channel)
  deriving Repr, DecidableEq

/-- `handle_command`. -/
def handleCommand (endpoint : Endpoint) (host : Host) : EndpointCommand → Endpoint × List Entry
  | .confirmed target serviceChoice serviceData response =>
      endpoint.handleConfirmedCommand host target serviceChoice serviceData response
  | .discoverDevices frame destination sink =>
      let (discovery, entries) := endpoint.startDiscovery host frame destination sink
      ({ endpoint with
          deviceDiscoveries := endpoint.deviceDiscoveries ++ discovery.toList }, entries)
  | .discoverRouters frame destination sink =>
      let (discovery, entries) := endpoint.startDiscovery host frame destination sink
      ({ endpoint with
          routerDiscoveries := endpoint.routerDiscoveries ++ discovery.toList }, entries)
  | .subscribeCov target key serviceData sink response =>
      -- Registered before the request goes out, so a notification that arrives
      -- right behind the acknowledgement is never missed.
      { endpoint with covSubscribers := endpoint.covSubscribers.insert key sink
        }.handleConfirmedCommand host target .subscribeCov serviceData response

/-! ## §6. Segments -/

/-- The accepting and the gap arm: keep the acknowledgement, restart the clock and
send it. -/
def acknowledgeSegment (endpoint : Endpoint) (host : Host) (key : TransactionKey)
    (stored : PendingTransaction) (transfer : Reassembly) (frame : Bytes) :
    Endpoint × List Entry :=
  let stored := { stored with reassembly := some { transfer with lastAck := frame } }
  -- Each segment is progress, so the clock restarts.
  let endpoint := endpoint.insertPending key
    (stored.restart endpoint.retries (host.now + endpoint.timeout))
  let (endpoint, entries, _) := endpoint.sendOrFail host key (.segmentAck key, frame)
  (endpoint, entries)

/-- `accept_response_segment`: take one segment, acknowledge it, and complete the
transaction once the last has landed. -/
def acceptResponseSegment (endpoint : Endpoint) (host : Host) (key : TransactionKey)
    (sequenceNumber : Option UInt8) (moreFollows : Bool) (serviceData : Bytes)
    (route : Option NetworkAddress) : Endpoint × List Entry :=
  match sequenceNumber with
  | none => endpoint.abandon host key .invalidApduInThisState route
  | some sequence =>
      match endpoint.pending.lookup key with
      | none => (endpoint, [])
      | some transaction =>
          let (outcome, transfer) := transaction.transfer.accept sequence moreFollows serviceData
          let stored := { transaction with reassembly := some transfer }
          match outcome with
          | .accepted last =>
              endpoint.acknowledgeSegment host key stored transfer
                (segmentAckFrame key.2 last false route)
          | .missing last =>
              endpoint.acknowledgeSegment host key stored transfer
                (segmentAckFrame key.2 last true route)
          | .repeat =>
              let endpoint := endpoint.insertPending key stored
              if transaction.transfer.lastAck.isEmpty then (endpoint, [])
              else
                let (endpoint, entries, _) :=
                  endpoint.sendOrFail host key (.segmentAck key, transaction.transfer.lastAck)
                (endpoint, entries)
          | .complete last data =>
              -- Acknowledged before the caller is answered, or the peer holds the
              -- transaction open until its own timer expires.
              let (endpoint, entries) :=
                (endpoint.insertPending key stored).finish host key (.ok data)
              (endpoint,
                sendIgnored host (.segmentAck key) key.1 (segmentAckFrame key.2 last false route)
                  ++ entries)
          | .abandon reason => (endpoint.insertPending key stored).abandon host key reason route

/-- `advance_outbound`: send the next window of a request going out in segments. -/
def advanceOutbound (endpoint : Endpoint) (host : Host) (key : TransactionKey)
    (sequenceNumber windowSize : UInt8) : Endpoint × List Entry :=
  match endpoint.pending.lookup key with
  | none => (endpoint, [])
  | some transaction =>
      match transaction.outbound with
      | none => (endpoint, [])
      | some outbound =>
          if outbound.frames.length ≤ sequenceNumber.toNat then (endpoint, [])
          else
            let outbound := outbound.acknowledge sequenceNumber windowSize
            let transaction :=
              transaction.restart endpoint.retries (host.now + endpoint.timeout)
            if outbound.allAcked then
              -- The response now arrives on the ordinary path.
              (endpoint.insertPending key { transaction with outbound := none, frame := [] }, [])
            else
              let parcels := outbound.windowFrames key
              let endpoint := endpoint.insertPending key
                { transaction with
                  outbound := some outbound
                  frame := (parcels.map Prod.snd).headD transaction.frame }
              endpoint.sendAll host key parcels

/-! ## §7. Notifications -/

/-- `dispatch_cov_notification`: route a notification to the subscription for the
object it says it is about. -/
def dispatchCovNotification (endpoint : Endpoint) (host : Host) (notification : CovNotification) :
    List Entry :=
  match endpoint.covSubscribers.lookup
      (notification.initiatingDevice.instanceNumber, notification.monitoredObject) with
  | some sink => [host.entry (.notified sink notification)]
  | none => []

/-- `handle_confirmed_cov_notification`: decode, dispatch, and acknowledge. -/
def handleConfirmedCovNotification (endpoint : Endpoint) (host : Host)
    (request : ConfirmedRequest) (source : SocketAddr) (npduSource : Option NetworkAddress) :
    Option (List Entry) :=
  let reply (ack : Apdu) := sendIgnored host .reply source (buildResponseFrame ack npduSource)
  if request.segmented then
    some (reply (.abort true request.invokeId .segmentationNotSupported))
  else
    match CovNotification.decode request.serviceData with
    | .error .panic => none
    | .ok notification =>
        some (endpoint.dispatchCovNotification host notification
          ++ reply (.simpleAck request.invokeId
            ConfirmedServiceChoice.confirmedCovNotification.toByte))
    -- A notification that cannot be read is refused, not passed over.
    | .error (.error _) => some (reply (.reject request.invokeId .invalidTag))

/-- The arm of `handle_packet` for a network message: I-Am-Router-To-Network
matters while a router discovery is open. -/
def handleNetworkMessage (endpoint : Endpoint) (host : Host) (data : Bytes) (source : SocketAddr) :
    Option (List Entry) :=
  -- While nobody discovers, the message is not even parsed.
  if endpoint.routerDiscoveries.isEmpty then some []
  else
    match parseIAmRouterResponse data source with
    | .error .panic => none
    | .error (.error ()) => some []
    | .ok router =>
        some (endpoint.routerDiscoveries.map
          (fun discovery => host.entry (.discovered discovery.sink (.ok (.router router)))))

/-- I-Am, while a device discovery is open. -/
def handleIAm (endpoint : Endpoint) (host : Host) (data : Bytes) (source : SocketAddr) :
    Option (List Entry) :=
  if endpoint.deviceDiscoveries.isEmpty then some []
  else
    match parseIamResponse data source with
    | .error .panic => none
    | .error (.error ()) => some []
    | .ok device =>
        some (endpoint.deviceDiscoveries.map
          (fun discovery => host.entry (.discovered discovery.sink (.ok (.device device)))))

/-- An UnconfirmedCOVNotification, while a subscription is live. -/
def handleUnconfirmedCov (endpoint : Endpoint) (host : Host) (payload : Bytes) :
    Option (List Entry) :=
  if endpoint.covSubscribers.entries.isEmpty then some []
  else
    match Apdu.decode payload with
    | .error .panic => none
    | .ok (.unconfirmedRequest .unconfirmedCovNotification serviceData) =>
        match CovNotification.decode serviceData with
        | .error .panic => none
        | .ok notification => some (endpoint.dispatchCovNotification host notification)
        | .error (.error _) => some []
    | _ => some []

/-! ## §8. Packets -/

/-- The invoke id of an APDU that answers or paces a request. -/
def responseInvokeId : Apdu → Option UInt8
  | .complexAck ack => some ack.invokeId
  | .simpleAck invokeId _ => some invokeId
  | .error invokeId _ _ _ _ => some invokeId
  | .reject invokeId _ => some invokeId
  | .abort _ invokeId _ => some invokeId
  | .segmentAck _ _ invokeId _ _ => some invokeId
  | .confirmedRequest _ => none
  | .unconfirmedRequest _ _ => none

/-- `response_matches_service`. -/
def responseMatchesService (apdu : Apdu) (expected : ConfirmedServiceChoice) : Bool :=
  match apdu with
  | .complexAck ack => ack.serviceChoice == expected
  | .error _ serviceChoice _ _ _ => serviceChoice == expected
  | .simpleAck _ serviceChoice => serviceChoice == expected.toByte
  | .reject _ _ => true
  | .abort _ _ _ => true
  | _ => false

/-- `response_result`. -/
def responseResult : Apdu → Except ClientError Bytes
  | .complexAck ack => .ok ack.serviceData
  | .simpleAck _ _ => .ok []
  | .error _ _ errorClass errorCode firstFailedWrite =>
      .error (.refused errorClass errorCode firstFailedWrite)
  | .reject _ rejectReason => .error (.rejected rejectReason)
  | .abort _ _ abortReason => .error (.abort abortReason)
  | _ => .error .noResponse

/-- An APDU about the transaction at `key`, as `handle_packet` takes it once the
transaction is known to be pending. -/
def handleResponse (endpoint : Endpoint) (host : Host) (key : TransactionKey)
    (transaction : PendingTransaction) (apdu : Apdu) (route : Option NetworkAddress) :
    Endpoint × List Entry :=
  match apdu with
  | .segmentAck _ _ _ sequenceNumber windowSize =>
      -- It paces a request this client is sending and answers nothing.
      endpoint.advanceOutbound host key sequenceNumber windowSize
  | apdu =>
      if !responseMatchesService apdu transaction.serviceChoice then (endpoint, [])
      else
        match apdu with
        | .complexAck ack =>
            if ack.segmented then
              endpoint.acceptResponseSegment host key ack.sequenceNumber ack.moreFollows
                ack.serviceData route
            else endpoint.finish host key (responseResult apdu)
        | apdu => endpoint.finish host key (responseResult apdu)

/-- The last part of `handle_packet`: keyed on where the response came from as
well as the id it carries. -/
def handleApdu (endpoint : Endpoint) (host : Host) (apdu : Apdu) (source : SocketAddr)
    (route : Option NetworkAddress) : Endpoint × List Entry :=
  match responseInvokeId apdu with
  | none => (endpoint, [])
  | some invokeId =>
      match endpoint.pending.lookup (source, invokeId) with
      | none => (endpoint, [])
      | some transaction =>
          endpoint.handleResponse host (source, invokeId) transaction apdu route

/-- An APDU that is not an unconfirmed request. -/
def handleDecoded (endpoint : Endpoint) (host : Host) (apdu : Apdu) (source : SocketAddr)
    (route : Option NetworkAddress) : Option (Endpoint × List Entry) :=
  match apdu with
  | .confirmedRequest request =>
      if request.serviceChoice = .confirmedCovNotification then
        (endpoint.handleConfirmedCovNotification host request source route).map
          (fun entries => (endpoint, entries))
      else some (endpoint.handleApdu host apdu source route)
  | apdu => some (endpoint.handleApdu host apdu source route)

/-- `handle_packet`. -/
def handlePacket (endpoint : Endpoint) (host : Host) (data : Bytes) (source : SocketAddr) :
    Option (Endpoint × List Entry) :=
  match decodeBacnetIpFrame data source with
  | .error .panic => none
  | .error (.error ()) => some (endpoint, [])
  | .ok frame =>
      if frame.npdu.isNetworkMessage then
        (endpoint.handleNetworkMessage host data source).map (fun entries => (endpoint, entries))
      -- 0x10 is an unconfirmed request, which names no transaction.
      else if frame.payload.head? = some 0x10 then
        (endpoint.handleIAm host data source).bind (fun found =>
          (endpoint.handleUnconfirmedCov host frame.payload).map
            (fun entries => (endpoint, found ++ entries)))
      else
        match Apdu.decode frame.payload with
        | .error .panic => none
        | .error (.error _) => some (endpoint, [])
        | .ok apdu => endpoint.handleDecoded host apdu source frame.npdu.source

/-! ## §9. Timeouts -/

/-- The keys whose deadline has passed. -/
def expired (endpoint : Endpoint) (now : Instant) : List TransactionKey :=
  (endpoint.pending.entries.filter (fun entry => decide (entry.2.deadline ≤ now))).map Sigma.fst

/-- The body of `handle_timeouts`' loop, for one expired key. -/
def expireOne (endpoint : Endpoint) (host : Host) (key : TransactionKey) :
    Endpoint × List Entry :=
  match endpoint.pending.lookup key with
  | none => (endpoint, [])
  | some transaction =>
      if host.isClosed transaction.response then (endpoint.removePending key, [])
      else if transaction.retriesRemaining = 0 then
        -- The id is held back for another budget, in case the answer is only late.
        let releasedAt := host.now + endpoint.transactionBudget key.1
        ({ endpoint.removePending key with
            quarantined := endpoint.quarantined.insert key releasedAt },
          [host.entry (.answered transaction.response (.error .timeout))])
      else
        let deadline := host.now + endpoint.backoff key.1 transaction.retriesRemaining
        (endpoint.insertPending key (transaction.retransmit deadline)).sendAll host key
          ((transaction.retransmission key).filter (fun parcel => !parcel.2.isEmpty))

/-- The loop over the expired keys, each visited at its own reading of the clock. -/
def expireEach (endpoint : Endpoint) (host : Host) :
    List (TransactionKey × Instant) → Endpoint × List Entry
  | [] => (endpoint, [])
  | (key, now) :: visits =>
      let (endpoint, entries) := endpoint.expireOne (host.later now) key
      let (endpoint, more) := endpoint.expireEach host visits
      (endpoint, entries ++ more)

/-- `handle_timeouts`. -/
def handleTimeouts (endpoint : Endpoint) (host : Host)
    (visits : List (TransactionKey × Instant)) : Endpoint × List Entry :=
  { endpoint with
    deviceDiscoveries := endpoint.deviceDiscoveries.filter (fun d => decide (host.now < d.deadline))
    routerDiscoveries := endpoint.routerDiscoveries.filter (fun d => decide (host.now < d.deadline))
    }.expireEach host visits

end Endpoint

end BacnetRs.Client
