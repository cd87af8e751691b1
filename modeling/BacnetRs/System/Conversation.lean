/-
  BacnetRs.System.Conversation — a client, a device, and the network between
  them (`client/async_client.rs`, `server/bip.rs`, `server/dispatcher.rs`).

  The network keeps every frame it was ever given and may deliver any of them
  at any time, any number of times or never; what else reaches the two ends,
  and what else the device does meanwhile, is anybody's choice.

    * `Conversation` — both ends, and what has passed between them.
    * `step`         — the four moves, and what each of them is.
    * `Reachable`    — the conversations that runs of moves reach.
-/
import BacnetRs.Client.Transactions
import BacnetRs.System.Answering

namespace BacnetRs.System

open BacnetRs.Encoding BacnetRs.Object BacnetRs.Service BacnetRs.Network BacnetRs.App
  BacnetRs.Server BacnetRs.Client

/-! ## §1. Two ends and a network -/

/-- The addresses of the two ends. -/
structure Ends where
  client : SocketAddr
  device : SocketAddr
  deriving Repr, DecidableEq

/-- What a caller asked for, and the invoke id it was given. -/
structure Asked where
  target : BacnetTarget
  invokeId : UInt8
  serviceChoice : ConfirmedServiceChoice
  serviceData : Bytes
  acceptedApdu : MaxApduSize
  response : Channel
  deriving Repr, DecidableEq

/-- Where the transaction is kept. -/
def Asked.key (asked : Asked) : TransactionKey := (asked.target.address, asked.invokeId)

/-- The request goes out in this APDU, whole or as one of its segments. -/
def Asked.Carries (asked : Asked) (request : ConfirmedRequest) : Prop :=
  Endpoint.RequestPdu asked.target asked.invokeId asked.serviceChoice asked.serviceData
    asked.acceptedApdu request

/-- The APDU of the whole request. -/
def Asked.whole (asked : Asked) : ConfirmedRequest :=
  confirmedApdu asked.target asked.invokeId asked.serviceChoice asked.serviceData asked.acceptedApdu

/-- A confirmed request that reached the device's dispatcher, as the dispatcher then was, and what
it was answered. -/
structure Answer where
  server : ServerDispatcher ObjectService
  npdu : Npdu
  request : ConfirmedRequest
  response : ServerResponse

/-- The answer is the dispatcher's. -/
def Answer.Given (ends : Ends) (answer : Answer) : Prop :=
  (answer.server.dispatch ObjectService.services answer.npdu (.confirmedRequest answer.request)
    (some ends.client)).2 = .ok (some answer.response)

/-- The client, the device, and what has passed between them. -/
structure Conversation where
  client : World
  server : ServerDispatcher ObjectService
  /-- The frames that the device sent the client. -/
  replies : List Bytes
  /-- The transactions the client has opened. -/
  asked : List Asked
  /-- The answers the device has given the client's requests. -/
  answers : List Answer

/-- What can happen next. -/
inductive Move where
  /-- Something happens at the client that is no datagram of the device's. -/
  | client (event : Event)
  /-- A frame that the client sent reaches the device. -/
  | request (frame : Bytes)
  /-- A frame that the device sent reaches the client. -/
  | reply (now : Instant) (sendTo : SocketAddr → Bytes → Option IoError) (frame : Bytes)
  /-- The device does something of its own, and sends frames that answer nothing. -/
  | elsewhere (server : ServerDispatcher ObjectService) (announced : List Bytes)

/-! ## §2. Steps -/

/-- What a command asks of a device. -/
def request? : Endpoint.EndpointCommand →
    Option (BacnetTarget × ConfirmedServiceChoice × Bytes × Channel)
  | .confirmed target serviceChoice serviceData response =>
      some (target, serviceChoice, serviceData, response)
  | .subscribeCov target _ serviceData _ response => some (target, .subscribeCov, serviceData, response)
  | .discoverDevices _ _ _ => none
  | .discoverRouters _ _ _ => none

/-- The key whose id was handed out. -/
def reservedIn (entries : List Client.Entry) : Option TransactionKey :=
  entries.findSome? (fun entry =>
    match entry.effect with
    | .reserved key => some key
    | _ => none)

/-- The transaction that an event opens. -/
def opens (world : World) : Event → Option Asked
  | .command now sendTo command => do
      let (target, serviceChoice, serviceData, response) ← request? command
      let key ← reservedIn (world.endpoint.handleCommand (world.host now sendTo) command).2
      return ⟨target, key.2, serviceChoice, serviceData, world.endpoint.acceptedApdu, response⟩
  | _ => none

/-- A server makes no confirmed request out of the frame. -/
def asksNothing (frame : Bytes) : Bool :=
  match Server.decodeBacnetIpFrame frame with
  | none => true
  | some (npdu, payload, _) =>
      npdu.isNetworkMessage ||
        match requestOf payload with
        | .ok (.confirmedRequest _) => false
        | .ok _ => true
        | .error data => (responseForUndecodableApdu npdu data).isNone

/-- The client makes no answer out of the device's frame. -/
def answersNothing (ends : Ends) (frame : Bytes) : Bool :=
  match packetApdu frame ends.device with
  | some (apdu, _) => (Endpoint.responseInvokeId apdu).isNone
  | none => true

/-- A destination whose MAC address has a length octet. -/
def routable (target : BacnetTarget) : Bool :=
  target.route.all (fun address => decide (address.address.length ≤ 255))

/-- An event that is no datagram of the device's, and whose command is for a destination that can
be written, or a discovery. -/
def proper (ends : Ends) : Event → Bool
  | .packet _ _ _ source => decide (source ≠ ends.device)
  | .command _ _ (.confirmed target _ _ _) => routable target
  | .command _ _ (.subscribeCov target _ _ _ _) => routable target
  | .command _ _ (.discoverDevices frame _ _) => asksNothing frame
  | .command _ _ (.discoverRouters frame _ _) => asksNothing frame
  | _ => true

/-- The frames the client has sent the device. -/
def sentToDevice (ends : Ends) (trace : List Client.Entry) : List Bytes :=
  trace.filterMap (fun entry =>
    match entry.effect with
    | .sent _ destination frame => if destination = ends.device then some frame else none
    | _ => none)

/-- The frames of `serve_once` that go to the client. -/
def framesFor (ends : Ends) (sent : Checked ServerError (List (Bytes × SocketAddr))) : List Bytes :=
  match sent with
  | .ok frames => (frames.filter (fun frame => decide (frame.2 = ends.client))).map Prod.fst
  | .error _ => []

/-- What the dispatcher answers the request in a frame of the client's. -/
def answerTo (ends : Ends) (server : ServerDispatcher ObjectService) (frame : Bytes) :
    Option Answer :=
  match Server.decodeBacnetIpFrame frame with
  | none => none
  | some (npdu, payload, _) =>
      match requestOf payload with
      | .ok (.confirmedRequest request) =>
          match (server.dispatch ObjectService.services npdu (.confirmedRequest request)
              (some ends.client)).2 with
          | .ok (some response) => some ⟨server, npdu, request, response⟩
          | _ => none
      | _ => none

/-- One step of a conversation. -/
def step (ends : Ends) (conversation : Conversation) : Move → Option Conversation
  | .client event =>
      if proper ends event then
        (World.step conversation.client event).map (fun client =>
          { conversation with
            client := client
            asked := conversation.asked ++ (opens conversation.client event).toList })
      else none
  | .request frame =>
      if frame ∈ sentToDevice ends conversation.client.trace then
        let (server, sent) := serveOnce (ServerDispatcher.dispatch ObjectService.services)
          conversation.server frame ends.client
        some { conversation with
          server := server
          replies := conversation.replies ++ framesFor ends sent
          answers := conversation.answers ++ (answerTo ends conversation.server frame).toList }
      else none
  | .reply now sendTo frame =>
      if frame ∈ conversation.replies then
        (World.step conversation.client (.packet now sendTo frame ends.device)).map (fun client =>
          { conversation with client := client })
      else none
  | .elsewhere server announced =>
      if announced.all (answersNothing ends) then
        some { conversation with server := server, replies := conversation.replies ++ announced }
      else none

/-! ## §3. What each move is -/

section Moves

variable {ends : Ends} {before after : Conversation}

theorem step_client {event : Event} (h : step ends before (.client event) = some after) :
    proper ends event = true ∧ ∃ client, World.step before.client event = some client
      ∧ after = { before with
          client := client
          asked := before.asked ++ (opens before.client event).toList } := by
  have hstep : (if proper ends event then (World.step before.client event).map _ else none)
      = some after := h
  split at hstep
  · next hproper =>
      obtain ⟨client, hclient, rfl⟩ := Option.map_eq_some_iff.mp hstep
      exact ⟨hproper, client, hclient, rfl⟩
  · cases hstep

theorem step_request {frame : Bytes} (h : step ends before (.request frame) = some after) :
    frame ∈ sentToDevice ends before.client.trace
      ∧ after = { before with
          server := (serveOnce (ServerDispatcher.dispatch ObjectService.services) before.server frame
            ends.client).1
          replies := before.replies ++ framesFor ends (serveOnce
            (ServerDispatcher.dispatch ObjectService.services) before.server frame ends.client).2
          answers := before.answers ++ (answerTo ends before.server frame).toList } := by
  have hstep : (if frame ∈ sentToDevice ends before.client.trace then some _ else none)
      = some after := h
  split at hstep
  · next hframe =>
      cases hstep
      exact ⟨hframe, rfl⟩
  · cases hstep

theorem step_reply {now : Instant} {sendTo : SocketAddr → Bytes → Option IoError} {frame : Bytes}
    (h : step ends before (.reply now sendTo frame) = some after) :
    frame ∈ before.replies
      ∧ ∃ client, World.step before.client (.packet now sendTo frame ends.device) = some client
        ∧ after = { before with client := client } := by
  have hstep : (if frame ∈ before.replies then
      (World.step before.client (.packet now sendTo frame ends.device)).map _ else none)
        = some after := h
  split at hstep
  · next hframe =>
      obtain ⟨client, hclient, rfl⟩ := Option.map_eq_some_iff.mp hstep
      exact ⟨hframe, client, hclient, rfl⟩
  · cases hstep

theorem step_elsewhere {server : ServerDispatcher ObjectService} {announced : List Bytes}
    (h : step ends before (.elsewhere server announced) = some after) :
    (∀ frame ∈ announced, answersNothing ends frame = true)
      ∧ after = { before with server := server, replies := before.replies ++ announced } := by
  have hstep : (if announced.all (answersNothing ends) then some _ else none) = some after := h
  split at hstep
  · next hall =>
      cases hstep
      exact ⟨List.all_eq_true.mp hall, rfl⟩
  · cases hstep

end Moves

/-- A fresh client, a device, and nothing said. -/
def start (timeout : Duration) (retries : UInt8) (acceptedApdu : MaxApduSize)
    (server : ServerDispatcher ObjectService) : Conversation where
  client := World.start timeout retries acceptedApdu
  server := server
  replies := []
  asked := []
  answers := []

/-- The conversations a run can reach. -/
def Reachable (ends : Ends) (timeout : Duration) (retries : UInt8) (acceptedApdu : MaxApduSize)
    (server : ServerDispatcher ObjectService) (conversation : Conversation) : Prop :=
  Machine.Reachable (step ends) (start timeout retries acceptedApdu server) conversation

end BacnetRs.System
