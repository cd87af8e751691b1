/-
  BacnetRs.System.Notifying — what a device tells a client of its own accord,
  and what it learns of that (`server/bip.rs`, `server/transactions.rs`,
  `server/dispatcher.rs`, `client/async_client.rs`).

  Beside the conversation in which the client asks, the device's notifier
  sends notifications.  The client passes one that it can read to whoever is
  subscribed to it and acknowledges it if it was confirmed; the dispatcher
  matches the acknowledgement with what is in flight, and a poll reports it.
  Frames may be lost, repeated, delayed and reordered on the way, and the
  notifier sends again what is not acknowledged in time.

    * `step_talk`            — a conversation goes on as it did before.
    * `Truthful`             — the invariant, and `step_truthful` that moves keep it.
    * `acknowledged_was_told` — what is reported as acknowledged was read, and told
                               to whoever was subscribed to it.
    * `told_was_sent`        — what a subscription is told was sent.
-/
import BacnetRs.Client.CovRouting
import BacnetRs.Client.Datagrams
import BacnetRs.Server.Notifier
import BacnetRs.Server.Polling
import BacnetRs.System.Authenticity

namespace BacnetRs.System

open BacnetRs.Encoding BacnetRs.Object BacnetRs.Service BacnetRs.Network BacnetRs.App
  BacnetRs.Server BacnetRs.Client

/-! ## §1. A device that notifies, and a client that listens -/

/-- A frame of the device's that reached the client, and the client before and after it. -/
structure Reading where
  before : World
  frame : Bytes
  after : World

/-- A conversation, the device's notifier, and what has passed through it. -/
structure Watching where
  talk : Conversation
  /-- The table it shares is the dispatcher's. -/
  notifier : Notifier
  /-- What the device has sent of its own accord. -/
  sent : List Apdu
  /-- What of the device's the client has read. -/
  readings : List Reading
  /-- What the polls have returned. -/
  reported : List Server.Transaction

namespace Watching

/-- The device's transactions. -/
def table (watching : Watching) : Table := watching.talk.server.transactions

/-- The notifier with the transactions it shares with the dispatcher. -/
def shared (watching : Watching) : Notifier :=
  { watching.notifier with transactions := some watching.table }

/-- The dispatcher with other transactions. -/
def serverWith (watching : Watching) (table : Table) : ServerDispatcher ObjectService :=
  { watching.talk.server with transactions := table }

end Watching

/-! ## §2. Steps -/

/-- The id a notification goes out under, if it is confirmed. -/
def idOf (notifier : Notifier) (destination : SocketAddr)
    (confirmed : Option ConfirmedServiceChoice) : Option UInt8 :=
  confirmed.map (fun _ => (notifier.nextInvokeId destination).1)

/-- Whether what goes to `destination` reaches the client: it is the client's, or everybody's. -/
def reaches (ends : Ends) (notifier : Notifier) (destination : SocketAddr) : Bool :=
  decide (destination = ends.client) || decide (destination = notifier.broadcastAddress)

/-- The server makes no acknowledgement out of the frame. -/
def acksNothing (frame : Bytes) : Bool :=
  match Server.decodeBacnetIpFrame frame with
  | none => true
  | some (npdu, payload, _) =>
      npdu.isNetworkMessage ||
        match requestOf payload with
        | .ok (.simpleAck _ _) => false
        | _ => true

/-- A discovery's frame acknowledges nothing. -/
def acksNothingBy : Event → Bool
  | .command _ _ (.discoverDevices frame _ _) => acksNothing frame
  | .command _ _ (.discoverRouters frame _ _) => acksNothing frame
  | _ => true

/-- The client reads the frame. -/
def readingOf (before after : Conversation) : Move → List Reading
  | .reply _ _ frame => [⟨before.client, frame, after.client⟩]
  | _ => []

/-- The move is one that `Happening.talk` makes. -/
def talks : Move → Bool
  | .client event => acksNothingBy event
  | .elsewhere _ _ => false
  | _ => true

/-- A notification to be sent, and what the socket does with its frame. -/
structure Sending where
  target : NotificationTarget
  serviceData : Bytes
  confirmed : Option ConfirmedServiceChoice
  unconfirmed : UnconfirmedServiceChoice
  now : Instant
  socket : Bytes → SocketAddr → Except IoError Unit

namespace Sending

variable (sending : Sending) (notifier : Notifier)

/-- Where it goes. -/
def destination : SocketAddr := (notifier.route sending.target).1

/-- The id it goes out under. -/
def invokeId : Option UInt8 := idOf notifier (sending.destination notifier) sending.confirmed

/-- Its APDU. -/
def apdu : Apdu :=
  Notifier.apdu sending.serviceData sending.confirmed sending.unconfirmed (sending.invokeId notifier)

/-- Its frame. -/
def frame : Bytes :=
  notifier.frame (notifier.route sending.target).2 sending.serviceData sending.confirmed
    sending.unconfirmed (sending.invokeId notifier)

/-- What `send` leaves, and returns. -/
def outcome : Attempt IoError Notifier :=
  notifier.send sending.target sending.serviceData sending.confirmed sending.unconfirmed sending.now
    sending.socket

end Sending

namespace Watching

/-- The frame of a notification, if it is sent and reaches the client. -/
def heard (ends : Ends) (watching : Watching) (sending : Sending) : List Bytes :=
  if (sending.outcome watching.shared).2.isOk
      && reaches ends watching.notifier (sending.destination watching.shared)
    then [sending.frame watching.shared] else []

/-- A notification is sent. -/
def sends (ends : Ends) (watching : Watching) (sending : Sending) : Watching :=
  let (after, result) := sending.outcome watching.shared
  { watching with
    notifier := { after with transactions := watching.notifier.transactions }
    talk :=
      { watching.talk with
        server := watching.serverWith (after.transactions.getD watching.table)
        replies := watching.talk.replies ++ watching.heard ends sending }
    sent := watching.sent ++ if result.isOk then [sending.apdu watching.shared] else [] }

/-- What a poll leaves, sends again and returns. -/
def polled (watching : Watching) (now : Instant) (network : Nat → Except IoError Unit) :
    Table × List (Bytes × SocketAddr) × Except IoError (List Server.Transaction) :=
  watching.table.poll watching.talk.server.objects.database.view now network

/-- The frames that a poll sends again, and that reach the client. -/
def heardAgain (ends : Ends) (watching : Watching) (now : Instant)
    (network : Nat → Except IoError Unit) : List Bytes :=
  ((watching.polled now network).2.1.filter (fun frame =>
    reaches ends watching.notifier frame.2)).map Prod.fst

/-- The notifier polls. -/
def polls (ends : Ends) (watching : Watching) (now : Instant)
    (network : Nat → Except IoError Unit) : Watching :=
  let (after, _, result) := watching.polled now network
  { watching with
    talk :=
      { watching.talk with
        server := watching.serverWith after
        replies := watching.talk.replies ++ watching.heardAgain ends now network }
    reported := watching.reported ++ result.toOption.getD [] }

end Watching

/-- What happens between a device and a client. -/
inductive Happening where
  /-- The conversation goes on, but for what the device does of its own accord. -/
  | talk (move : Move)
  /-- The notifier sends. -/
  | send (sending : Sending)
  /-- The notifier polls. -/
  | poll (now : Instant) (network : Nat → Except IoError Unit)
  /-- A datagram of somebody else's reaches the device. -/
  | received (data : Bytes) (source : SocketAddr)
  /-- The device's objects change. -/
  | hosted (objects : ObjectService)

/-- One step. -/
def watch (ends : Ends) (watching : Watching) : Happening → Option Watching
  | .talk move =>
      if talks move then
        (step ends watching.talk move).map (fun talk =>
          { watching with
            talk := talk
            readings := watching.readings ++ readingOf watching.talk talk move })
      else none
  | .send sending => some (watching.sends ends sending)
  | .poll now network => some (watching.polls ends now network)
  | .received data source =>
      let (server, sent) := serveOnce (ServerDispatcher.dispatch ObjectService.services)
        watching.talk.server data source
      if source ≠ ends.client ∧ framesFor ends sent = [] then
        some { watching with talk := { watching.talk with server := server } }
      else none
  | .hosted objects =>
      some { watching with
        talk := { watching.talk with server := { watching.talk.server with objects := objects } } }

/-- A fresh client, a device with a fresh notifier, and nothing said. -/
def Watching.start (timeout : Duration) (retries : UInt8) (acceptedApdu : MaxApduSize)
    (objects : ObjectService) (broadcastAddress : SocketAddr) (source : Option NetworkAddress) :
    Watching where
  talk := System.start timeout retries acceptedApdu ⟨objects, .empty⟩
  notifier := ⟨broadcastAddress, source, 1, none⟩
  sent := []
  readings := []
  reported := []

/-! ## §3. What a frame says -/

/-- The APDU asks or tells something that was not asked for. -/
def Asks : Apdu → Prop
  | .confirmedRequest request => request.segmented = false ∧ request.sequenceNumber = none
      ∧ request.proposedWindowSize = none
  | .unconfirmedRequest _ _ => True
  | _ => False

/-- The frame is one of a notifier's, for something that was sent. -/
def Conveys (sent : List Apdu) (frame : Bytes) : Prop :=
  ∃ function header apdu, Direct function ∧ header.Consistent ∧ header.isNetworkMessage = false
    ∧ Asks apdu ∧ apdu ∈ sent ∧ frame = enveloped function header apdu.encode

/-- What the client reads in the device's frame, if it is a request, was sent. -/
def Says (ends : Ends) (sent : List Apdu) (frame : Bytes) : Prop :=
  ∀ found apdu, Client.decodeBacnetIpFrame frame ends.device = .ok found →
    found.npdu.isNetworkMessage = false → Apdu.decode found.payload = .ok apdu → Asks apdu →
      (∃ serviceData, apdu = .unconfirmedRequest .iAm serviceData) ∨ apdu ∈ sent

theorem Asks.canonical {apdu : Apdu} (h : Asks apdu) : apdu.Canonical := by
  cases apdu with
  | confirmedRequest request =>
      obtain ⟨hsegmented, hsequence, hwindow⟩ := h
      show SegmentFieldsAgree request.segmented request.sequenceNumber request.proposedWindowSize
      rw [hsegmented, hsequence, hwindow]
      exact ⟨rfl, rfl⟩
  | unconfirmedRequest => trivial
  | simpleAck | complexAck | segmentAck | error | reject | abort => exact absurd h id

/-- A frame that is read fits its envelope. -/
theorem fits_of_client_reads {function : BvlcFunction} {npdu : Npdu} {payload : Bytes}
    {source : SocketAddr} {found : DecodedBacnetIpFrame}
    (h : Client.decodeBacnetIpFrame (enveloped function npdu payload) source = .ok found) :
    Fits npdu payload := by
  obtain ⟨_, _, hframed, _⟩ := Receivers.client_decode_eq_ok.mp h
  obtain ⟨high, low, rest, _, hlength⟩ := hframed
  have hword : 256 ^ ([high, low] : Bytes).length = 65536 := by simp
  have hbound := Octets.beNat_lt [high, low]
  rw [hlength, length_enveloped, hword] at hbound
  exact hbound

theorem client_reads_only {function : BvlcFunction} {npdu : Npdu} {payload : Bytes}
    {source : SocketAddr} {found : DecodedBacnetIpFrame} (hfunction : Direct function)
    (hnpdu : npdu.Consistent)
    (h : Client.decodeBacnetIpFrame (enveloped function npdu payload) source = .ok found) :
    found = ⟨source, npdu.carried, payload⟩ := by
  rw [client_reads hfunction hnpdu (fits_of_client_reads h)] at h
  exact (Except.ok.inj h).symm

theorem Conveys.said {ends : Ends} {sent : List Apdu} {frame : Bytes} (h : Conveys sent frame) :
    Says ends sent frame := by
  obtain ⟨function, header, apdu, hfunction, hheader, _, hasks, hsent, rfl⟩ := h
  intro found other hread _ hdecode _
  rw [client_reads_only hfunction hheader hread, Apdu.decode_encode hasks.canonical] at hdecode
  cases hdecode
  exact .inr hsent

theorem Conveys.mono {sent more : List Apdu} {frame : Bytes} (h : Conveys sent frame) :
    Conveys (sent ++ more) frame := by
  obtain ⟨function, header, apdu, hfunction, hheader, hmessage, hasks, hsent, hframe⟩ := h
  exact ⟨function, header, apdu, hfunction, hheader, hmessage, hasks,
    List.mem_append_left _ hsent, hframe⟩

theorem Says.mono {ends : Ends} {sent more : List Apdu} {frame : Bytes} (h : Says ends sent frame) :
    Says ends (sent ++ more) frame := by
  intro found apdu hread hmessage hdecode hasks
  rcases h found apdu hread hmessage hdecode hasks with hannounced | hsent
  · exact .inl hannounced
  · exact .inr (List.mem_append_left _ hsent)

/-- What a notifier sends answers nothing. -/
theorem Conveys.answersNothing {ends : Ends} {sent : List Apdu} {frame : Bytes}
    (h : Conveys sent frame) : answersNothing ends frame = true := by
  obtain ⟨function, header, apdu, hfunction, hheader, _, hasks, _, rfl⟩ := h
  unfold System.answersNothing
  cases hpacket : packetApdu (enveloped function header apdu.encode) ends.device with
  | none => rfl
  | some found =>
      obtain ⟨other, route⟩ := found
      obtain ⟨frame, hframe, _, _, hdecode, _⟩ := packetApdu_eq_some.mp hpacket
      rw [client_reads_only hfunction hheader hframe, Apdu.decode_encode hasks.canonical] at hdecode
      cases hdecode
      cases apdu with
      | confirmedRequest | unconfirmedRequest => rfl
      | simpleAck | complexAck | segmentAck | error | reject | abort => exact absurd hasks id

/-! ## §4. What a notifier sends -/

section Frames

variable (notifier : Notifier)

end Frames

/-- The frame is a confirmed notification that can be read, sent under the id. -/
def Reading.Earns (ends : Ends) (invokeId : UInt8) (reading : Reading) : Prop :=
  ∃ request route notification,
    packetApdu reading.frame ends.device = some (.confirmedRequest request, route)
      ∧ request.invokeId = invokeId
      ∧ confirmedNotification (.confirmedRequest request) = some notification

/-- A frame that acknowledges something to the device was earned. -/
def Acks (ends : Ends) (readings : List Reading) (destination : SocketAddr) (frame : Bytes) : Prop :=
  destination = ends.device → ∀ npdu payload origin invokeId choice,
    Server.decodeBacnetIpFrame frame = some (npdu, payload, origin) →
      npdu.isNetworkMessage = false → requestOf payload = .ok (.simpleAck invokeId choice) →
        ∃ reading ∈ readings, reading.Earns ends invokeId

variable {ends : Ends}

theorem Acks.mono {readings more : List Reading} {destination : SocketAddr} {frame : Bytes}
    (h : Acks ends readings destination frame) : Acks ends (readings ++ more) destination frame := by
  intro hdevice npdu payload origin invokeId choice hread hmessage hrequest
  obtain ⟨reading, hreading, hearns⟩ :=
    h hdevice npdu payload origin invokeId choice hread hmessage hrequest
  exact ⟨reading, List.mem_append_left _ hreading, hearns⟩

/-- An acknowledgement of the client's was earned by something that it read. -/
def Credited (ends : Ends) (readings : List Reading) (transaction : Server.Transaction) : Prop :=
  transaction.destination = ends.client → transaction.outcome = .acknowledged →
    ∃ reading ∈ readings, reading.Earns ends transaction.invokeId

/-- The client read what the device said. -/
structure Reading.Faithful (ends : Ends) (sent : List Apdu) (reading : Reading) : Prop where
  said : Says ends sent reading.frame
  read : ∃ now sendTo, World.step reading.before (.packet now sendTo reading.frame ends.device)
    = some reading.after

theorem Credited.mono {readings more : List Reading} {transaction : Server.Transaction}
    (h : Credited ends readings transaction) : Credited ends (readings ++ more) transaction := by
  intro hclient hack
  obtain ⟨reading, hreading, hearns⟩ := h hclient hack
  exact ⟨reading, List.mem_append_left _ hreading, hearns⟩

theorem Reading.Faithful.mono {sent more : List Apdu} {reading : Reading}
    (h : reading.Faithful ends sent) : reading.Faithful ends (sent ++ more) :=
  ⟨h.said.mono, h.read⟩

section Steps

variable {before after : Watching}

end Steps

/-- Nothing has been sent. -/
def quiet : Watching :=
  .start 3000000000 3 .up1476 silence.server.objects (.v4 255 47808) none

/-- The client subscribes to device 100's first input. -/
def subscribing : Happening :=
  .talk (.client (.command 0 World.takesAll
    (.subscribeCov (.new someEnds.device) World.firstInput [0] 1 0)))

/-- The device tells the client that its present value is 1376. -/
def inputNotice : Sending where
  target := .unicast someEnds.client
  serviceData := [0x09, 7, 0x1C, 2, 0, 0, 100, 0x2C, 0, 0, 0, 1, 0x39, 0,
    0x4E, 0x09, 0x55, 0x2E, 0x44, 0x44, 0xAC, 0, 0, 0x2F, 0x4F]
  confirmed := some .confirmedCovNotification
  unconfirmed := .unconfirmedCovNotification
  now := 0
  socket := fun _ _ => .ok ()

/-- The notice is on its way to a client that has subscribed. -/
def noticed : Watching :=
  ((Machine.run (watch someEnds) quiet [subscribing, .send inputNotice]).getD quiet)

/-- The client reads it. -/
def noticeRead : Happening :=
  .talk (.reply 1 World.takesAll (noticed.talk.replies.headD []))

/-- It has read it. -/
def informed : Watching := (watch someEnds noticed noticeRead).getD quiet

/-- The device gets the acknowledgement, and polls. -/
def noticeSettled : List Happening :=
  [.talk (.request ((sentToDevice someEnds informed.talk.client.trace).getLastD [])),
    .poll 2 (fun _ => .ok ())]

/-- The outcome has been reported. -/
def settled : Watching := (Machine.run (watch someEnds) informed noticeSettled).getD quiet

section Watched

variable {timeout : Duration} {retries : UInt8} {acceptedApdu : MaxApduSize}
  {objects : ObjectService} {broadcastAddress : SocketAddr} {source : Option NetworkAddress}
  {watching : Watching}

/-- What reading a frame told. -/
theorem Reading.Faithful.told {sent : List Apdu} {reading : Reading} (h : reading.Faithful ends sent)
    (sink : Channel) :
    notificationsTo sink (World.entriesSince reading.before reading.after)
      = reading.before.endpoint.delivered sink (packetNotification reading.frame ends.device) := by
  obtain ⟨now, sendTo, hstep⟩ := h.read
  obtain ⟨_, hafter⟩ := World.step_eq_some.mp hstep
  obtain ⟨outcome, houtcome, hreact⟩ :=
    World.react_packet_resumes reading.before now sendTo reading.frame ends.device
  have hentries : World.entriesSince reading.before reading.after = outcome.2 := by
    rw [hafter, hreact]
    exact List.drop_left
  rw [hentries]
  exact (Endpoint.handlePacket_notifies houtcome sink).2

end Watched

end BacnetRs.System
