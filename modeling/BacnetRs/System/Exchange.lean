/-
  BacnetRs.System.Exchange — a request that gets through is answered
  (`client/async_client.rs`, `server/bip.rs`, `server/dispatcher.rs`).

  The other half of `Authenticity`: not only is what a caller is told an answer
  that was given, but whatever the dispatcher answers can be told.  A request
  that went out whole stays on the wire; the device that gets it at any later
  time sends its dispatcher's answer; and the client that gets that at any
  later time, its caller still waiting, hands the caller exactly what the
  answer says and forgets the transaction.

    * `request_sent`    — a command that leaves a transaction has sent its request.
    * `request_served`  — the device that gets it sends what its dispatcher answers.
    * `reply_told`      — the client that gets that tells its caller.
    * `exchange_completes` — the three together, with any moves in between.
-/
import BacnetRs.System.Authenticity

namespace BacnetRs.System

open BacnetRs.Encoding BacnetRs.Object BacnetRs.Service BacnetRs.Network BacnetRs.App
  BacnetRs.Server BacnetRs.Client

variable {ends : Ends} {before after : Conversation}

/-! ## §1. The request goes out -/

/-- The frame that a whole request goes out in. -/
def Asked.frame (asked : Asked) : Bytes :=
  wrapRequest asked.target (.confirmedRequest asked.whole)

/-- The request fits an APDU that the peer takes. -/
def Asked.Short (asked : Asked) : Prop :=
  asked.serviceData.length + segmentedRequestHeader
    ≤ (peerLimits asked.target asked.acceptedApdu).maxApdu

/-- The caller is still waiting. -/
def Asked.Waits (asked : Asked) (world : World) : Prop :=
  ∃ transaction, world.endpoint.pending.lookup asked.key = some transaction
    ∧ transaction.response = asked.response

theorem Asked.Short.carries {asked : Asked} (h : asked.Short) : asked.Carries asked.whole := by
  have hlimit := Endpoint.requestLimit_le asked.target asked.acceptedApdu
  have hshort : asked.serviceData.length + segmentedRequestHeader
      ≤ requestLimit asked.target asked.acceptedApdu := by
    rw [← peerLimits_maxApdu]
    exact h
  refine .whole ?_
  unfold segmentedRequestHeader at hshort
  omega

/-- What a command opens is what its entries say. -/
theorem opens_command {world : World} {event : Event} {one : Asked}
    (h : opens world event = some one) :
    ∃ now sendTo command, event = .command now sendTo command
      ∧ request? command = some (one.target, one.serviceChoice, one.serviceData, one.response)
      ∧ one.acceptedApdu = world.endpoint.acceptedApdu
      ∧ ∃ key, reservedIn (world.endpoint.handleCommand (world.host now sendTo) command).2 = some key
        ∧ key.2 = one.invokeId := by
  cases event with
  | packet | timeouts | drop | stop => cases h
  | command now sendTo command =>
      obtain ⟨⟨target, serviceChoice, serviceData, response⟩, hrequest, hrest⟩ :=
        Option.bind_eq_some_iff.mp h
      obtain ⟨key, hkey, hone⟩ := Option.bind_eq_some_iff.mp hrest
      cases hone
      exact ⟨now, sendTo, command, rfl, hrequest, rfl, key, hkey, rfl⟩

/-- A transaction that a command leaves pending under the id it handed out was sent. -/
theorem sent_of_admission {endpoint : Endpoint} {host : Host} {one : Asked}
    {outcome : Endpoint × List Client.Entry} (haccepted : one.acceptedApdu = endpoint.acceptedApdu)
    (h : Endpoint.Admission endpoint host one.target one.serviceChoice one.serviceData one.response
      outcome)
    (hreserved : ∃ key, reservedIn outcome.2 = some key ∧ key.2 = one.invokeId)
    {transaction : PendingTransaction} (hlookup : outcome.1.pending.lookup one.key = some transaction)
    (hshort : one.Short) :
    host.entry (.sent (.request one.key) one.target.address one.frame) ∈ outcome.2 := by
  obtain ⟨key, hkey, hid⟩ := hreserved
  cases h with
  | cancelled => cases hkey
  | exhausted => cases hkey
  | refused invokeId error hfree =>
      cases hkey
      have hsame : one.key = (one.target.address, invokeId) := by
        unfold Asked.key
        rw [← hid]
      rw [hsame, hfree.1] at hlookup
      cases hlookup
  | admitted invokeId frames hfree hsplit =>
      cases hkey
      have hsame : one.invokeId = invokeId := hid.symm
      have hwhole : splitRequest one.target invokeId one.serviceChoice one.serviceData
          endpoint.acceptedApdu = .ok (.whole one.frame) := by
        unfold splitRequest Asked.frame Asked.whole
        rw [← haccepted, hsame]
        exact if_pos hshort
      rw [hwhole] at hsplit
      cases hsplit
      unfold Asked.key
      rw [hsame]
      exact List.mem_cons_of_mem _ List.mem_cons_self
  | unsent invokeId error hfree =>
      cases hkey
      have hsame : one.key = (one.target.address, invokeId) := by
        unfold Asked.key
        rw [← hid]
      have herased : ((endpoint.swept host one.target.address).pending.erase
          (one.target.address, invokeId)).lookup one.key = some transaction := hlookup
      rw [KeyedTable.lookup_erase_eq_ite, if_pos hsame] at herased
      cases herased

/-- **A command whose caller waits afterwards has sent its request.** -/
theorem request_sent {event : Event} {one : Asked}
    (hask : step ends before (.client event) = some after)
    (hopens : opens before.client event = some one) (hdevice : one.target.address = ends.device)
    (hshort : one.Short) (hwaits : one.Waits after.client) :
    one.frame ∈ sentToDevice ends after.client.trace := by
  obtain ⟨_, client, hclient, rfl⟩ := step_client hask
  obtain ⟨now, sendTo, command, rfl, hrequest, haccepted, hreserved⟩ := opens_command hopens
  obtain ⟨_, rfl⟩ := World.step_eq_some.mp hclient
  obtain ⟨transaction, hlookup, _⟩ := hwaits
  obtain ⟨hafter, _⟩ := World.resume_lookup hlookup
  have hsettings := Endpoint.registered_settings before.client.endpoint command
  have hkept : one.acceptedApdu = (before.client.endpoint.registered command).acceptedApdu :=
    haccepted.trans (congrArg (fun settings => settings.2.2) hsettings).symm
  have hsent : (before.client.host now sendTo).entry
      (.sent (.request one.key) one.target.address one.frame)
        ∈ (before.client.endpoint.handleCommand (before.client.host now sendTo) command).2 := by
    rcases request_cases before.client.endpoint (before.client.host now sendTo) command with
      ⟨hnone, _⟩ | ⟨target, serviceChoice, serviceData, response, hsome, hadmission⟩
    · rw [hnone] at hrequest
      cases hrequest
    · rw [hsome] at hrequest
      simp only [Option.some.injEq, Prod.mk.injEq] at hrequest
      obtain ⟨rfl, rfl, rfl, rfl⟩ := hrequest
      exact sent_of_admission hkept hadmission hreserved hafter hshort
  refine List.mem_filterMap.mpr ⟨_, List.mem_append_right _ hsent, ?_⟩
  exact if_pos hdevice

/-! ## §2. The device answers it -/

/-- **What a server does with a whole request** is what its dispatcher does. -/
theorem serveOnce_frame {one : Asked} (hroute : Routable one.target.route) (hshort : one.Short)
    (server : ServerDispatcher ObjectService) :
    serveOnce (ServerDispatcher.dispatch ObjectService.services) server one.frame ends.client
      = ((server.dispatch ObjectService.services (requestNpdu one.target.route)
            (.confirmedRequest one.whole) (some ends.client)).1,
          (server.dispatch ObjectService.services (requestNpdu one.target.route)
            (.confirmedRequest one.whole) (some ends.client)).2.map
            (fun answered => (answered.map (fun response =>
              (encodeResponse response, ends.client))).toList)) := by
  have hcarries := hshort.carries
  have hnpdu := requestNpdu_consistent hroute
  have hfits : Fits (requestNpdu one.target.route) (Apdu.confirmedRequest one.whole).encode :=
    fits_routed _ rfl rfl hroute (by have := hcarries.length; omega)
  have hread : Server.decodeBacnetIpFrame one.frame
      = some (requestNpdu one.target.route, (Apdu.confirmedRequest one.whole).encode, none) := by
    have hframe : one.frame = enveloped .originalUnicastNpdu (requestNpdu one.target.route)
        (Apdu.confirmedRequest one.whole).encode := wrapUnicast_eq _ _ hfits
    rw [hframe, server_reads (.inl rfl) hnpdu hfits, carried_requestNpdu]
  have hrequest : requestOf (Apdu.confirmedRequest one.whole).encode
      = .ok (.confirmedRequest one.whole) := by
    unfold requestOf
    rw [Apdu.decode_encode hcarries.canonical]
    rfl
  have hmessage : (requestNpdu one.target.route).isNetworkMessage = false := by
    cases one.target.route <;> rfl
  unfold serveOnce processDatagram
  rw [hread]
  simp only [hmessage, Bool.false_eq_true, if_false, hrequest, Server.answer]
  cases (server.dispatch ObjectService.services (requestNpdu one.target.route)
    (.confirmedRequest one.whole) (some ends.client)).2 with
  | error fault => rfl
  | ok answered => cases answered <;> rfl

/-- **The device that gets a request sends what its dispatcher answers.** -/
theorem request_served {one : Asked} (hroute : Routable one.target.route) (hshort : one.Short)
    (hsent : one.frame ∈ sentToDevice ends before.client.trace) {response : ServerResponse}
    (hanswer : (before.server.dispatch ObjectService.services (requestNpdu one.target.route)
      (.confirmedRequest one.whole) (some ends.client)).2 = .ok (some response)) :
    ∃ served, step ends before (.request one.frame) = some served
      ∧ encodeResponse response ∈ served.replies ∧ served.client = before.client := by
  have hreply : encodeResponse response ∈ framesFor ends (serveOnce
      (ServerDispatcher.dispatch ObjectService.services) before.server one.frame ends.client).2 := by
    rw [serveOnce_frame hroute hshort, hanswer]
    show encodeResponse response
      ∈ ([(encodeResponse response, ends.client)].filter _).map Prod.fst
    rw [List.filter_cons_of_pos (by simp)]
    exact List.mem_cons_self
  exact ⟨_, if_pos hsent, List.mem_append_right _ hreply, rfl⟩

/-! ## §3. The caller is told -/

/-- An answer to a request is about the service it was for. -/
theorem matches_of_answers {invokeId : UInt8} {choice : ConfirmedServiceChoice} {apdu : Apdu}
    (h : ObjectService.Answers invokeId choice apdu) :
    Endpoint.responseMatchesService apdu choice = true := by
  cases apdu with
  | simpleAck answeredId answered => exact beq_iff_eq.mpr h.2
  | complexAck ack => exact beq_iff_eq.mpr h.2
  | error answeredId answered errorClass errorCode firstFailedWrite => exact beq_iff_eq.mpr h.2
  | reject answeredId reason => rfl
  | abort server answeredId reason => rfl
  | confirmedRequest | unconfirmedRequest | segmentAck => exact absurd h id

/-- What a client makes of a datagram that carries a response. -/
theorem handlePacket_response {endpoint : Endpoint} {host : Host} {data : Bytes} {source : SocketAddr}
    {apdu : Apdu} {route : Option NetworkAddress} {invokeId : UInt8}
    (hpacket : packetApdu data source = some (apdu, route))
    (hid : Endpoint.responseInvokeId apdu = some invokeId) {transaction : PendingTransaction}
    (hpending : endpoint.pending.lookup (source, invokeId) = some transaction) :
    endpoint.handlePacket host data source
      = some (endpoint.handleResponse host (source, invokeId) transaction apdu route) := by
  rw [endpoint.handlePacket_decoded host hpacket]
  -- A request names a transaction of the device's, not of this client's.
  cases apdu with
  | confirmedRequest request => cases hid
  | _ =>
      unfold Endpoint.handleDecoded Endpoint.handleApdu
      simp only [hid, hpending]

/-- The task runs while it holds a transaction. -/
def Attends (world : World) : Prop :=
  world.running = true ∨ world.endpoint.pending = ∅

theorem attends_step {world world' : World} {event : Event} (h : Attends world)
    (hstep : World.step world event = some world') : Attends world' := by
  obtain ⟨hpermits, rfl⟩ := World.step_eq_some.mp hstep
  cases event with
  | command now sendTo command =>
      simp only [World.permits, Bool.and_eq_true] at hpermits
      exact .inl hpermits.1.1.1
  | timeouts now sendTo visits =>
      simp only [World.permits, Bool.and_eq_true] at hpermits
      exact .inl hpermits.1.1.1.1
  | packet now sendTo data source =>
      simp only [World.permits, Bool.and_eq_true] at hpermits
      rcases World.react_packet world now sendTo data source with ⟨outcome, _, hreact⟩ | hreact
      · rw [hreact]
        exact .inl hpermits.1
      · rw [hreact]
        exact .inr rfl
  | drop channel => exact h
  | stop now error => exact .inr rfl

theorem Reachable.attends {timeout : Duration} {retries : UInt8} {acceptedApdu : MaxApduSize}
    {server : ServerDispatcher ObjectService} {conversation : Conversation}
    (h : Reachable ends timeout retries acceptedApdu server conversation) :
    Attends conversation.client := by
  refine Machine.Reachable.invariant (P := fun conversation => Attends conversation.client) ?_
    (Or.inl rfl) h
  intro a move b hattends hstep
  cases move with
  | client event =>
      obtain ⟨_, client, hclient, rfl⟩ := step_client hstep
      exact attends_step hattends hclient
  | request frame =>
      obtain ⟨_, rfl⟩ := step_request hstep
      exact hattends
  | reply now sendTo frame =>
      obtain ⟨_, client, hclient, rfl⟩ := step_reply hstep
      exact attends_step hattends hclient
  | elsewhere server announced =>
      obtain ⟨_, rfl⟩ := step_elsewhere hstep
      exact hattends

/-- **The client that gets an answer tells its caller**, and forgets the transaction. -/
theorem reply_told {timeout : Duration} {retries : UInt8} {acceptedApdu : MaxApduSize}
    {server : ServerDispatcher ObjectService}
    (h : Reachable ends timeout retries acceptedApdu server before) {one : Asked}
    (hone : one ∈ before.asked) (hdevice : one.target.address = ends.device)
    (hwaits : one.Waits before.client) {response : ServerResponse}
    (hplain : Plain one.invokeId one.serviceChoice response.apdu)
    (hpacket : packetApdu (encodeResponse response) ends.device = some (response.apdu, none))
    (hframe : encodeResponse response ∈ before.replies) {now : Instant}
    (hnow : before.client.clock ≤ now) (sendTo : SocketAddr → Bytes → Option IoError) :
    ∃ told, step ends before (.reply now sendTo (encodeResponse response)) = some told
      ∧ World.entriesSince before.client told.client
        = [⟨now, .answered one.response (Endpoint.responseResult response.apdu)⟩]
      ∧ told.client.endpoint.pending.lookup one.key = none := by
  obtain ⟨transaction, hlookup, hresponse⟩ := hwaits
  have hkey : one.key = (ends.device, one.invokeId) := Prod.ext hdevice rfl
  -- The transaction is the caller's own, so the service is the one that was asked for.
  obtain ⟨other, hother, _, hsame, hservice⟩ := h.sound.pending _ transaction hlookup
  rw [h.sound.own hone hother (hsame.trans hresponse)] at hservice
  have hrunning : before.client.running = true := by
    rcases h.attends with hrunning | hempty
    · exact hrunning
    · rw [hempty] at hlookup
      cases hlookup
  have hpermits : before.client.permits
      (.packet now sendTo (encodeResponse response) ends.device) = true := by
    simp only [World.permits, hrunning, Bool.true_and, decide_eq_true_eq]
    exact hnow
  have hmatches : Endpoint.responseMatchesService response.apdu transaction.serviceChoice = true := by
    rw [← hservice]
    exact matches_of_answers hplain.answers
  obtain ⟨rtt, hfinish⟩ := Endpoint.finish_handled hlookup (before.client.host now sendTo)
    (Endpoint.responseResult response.apdu)
  have hhandled : before.client.endpoint.handlePacket (before.client.host now sendTo)
      (encodeResponse response) ends.device = some (before.client.endpoint.handleResponse
        (before.client.host now sendTo) (ends.device, one.invokeId) transaction response.apdu none) :=
    handlePacket_response hpacket (responseInvokeId_of_answers hplain.answers) (hkey ▸ hlookup)
  rw [handleResponse_plain hplain, if_pos hmatches, ← hkey, hfinish, hresponse] at hhandled
  have hreact : before.client.react (.packet now sendTo (encodeResponse response) ends.device)
      = before.client.resume now
        ({ before.client.endpoint.removePending one.key with rtt := rtt },
          [(before.client.host now sendTo).entry
            (.answered one.response (Endpoint.responseResult response.apdu))]) := by
    simp only [World.react, hhandled]
  refine ⟨{ before with
    client := before.client.react (.packet now sendTo (encodeResponse response) ends.device) },
    ?_, ?_, ?_⟩
  · show (if encodeResponse response ∈ before.replies then _ else none) = _
    rw [if_pos hframe, World.step_eq_some.mpr ⟨hpermits, rfl⟩]
    rfl
  · show World.entriesSince before.client (before.client.react _) = _
    rw [hreact, World.entriesSince_resume]
    rfl
  · show (before.client.react _).endpoint.pending.lookup one.key = none
    rw [hreact]
    refine Option.eq_none_iff_forall_ne_some.mpr (fun kept hkept => ?_)
    have herased : (before.client.endpoint.pending.erase one.key).lookup one.key = some kept :=
      (World.resume_lookup hkept).1
    rw [KeyedTable.lookup_erase_eq_ite, if_pos rfl] at herased
    cases herased

/-! ## §4. The whole exchange -/

/-- **A request that gets through is answered.**  A request went out whole and its caller waits.
Whenever the device gets it, and the dispatcher answers, the device's frame hands that answer to
the caller whenever the client gets it, if the caller still waits then; and with that the
transaction is over. -/
theorem exchange_completes {timeout : Duration} {retries : UInt8} {acceptedApdu : MaxApduSize}
    {server : ServerDispatcher ObjectService} {started asking arriving : Conversation}
    (h : Reachable ends timeout retries acceptedApdu server started) {event : Event} {one : Asked}
    (hask : step ends started (.client event) = some asking)
    (hopens : opens started.client event = some one) (hdevice : one.target.address = ends.device)
    (hroute : Routable one.target.route) (hshort : one.Short) (hsent : one.Waits asking.client)
    {moves : List Move} (hrun : Machine.run (step ends) asking moves = some arriving)
    {response : ServerResponse}
    (hanswer : (arriving.server.dispatch ObjectService.services (requestNpdu one.target.route)
      (.confirmedRequest one.whole) (some ends.client)).2 = .ok (some response)) :
    ∃ served, step ends arriving (.request one.frame) = some served
      ∧ ∀ later waiting, Machine.run (step ends) served later = some waiting →
        one.Waits waiting.client → ∀ now sendTo, waiting.client.clock ≤ now →
          ∃ told, step ends waiting (.reply now sendTo (encodeResponse response)) = some told
            ∧ World.entriesSince waiting.client told.client
              = [⟨now, .answered one.response (Endpoint.responseResult response.apdu)⟩]
            ∧ told.client.endpoint.pending.lookup one.key = none := by
  have hasking := Machine.Reachable.next h hask
  have harriving := Machine.Reachable.run_to hasking hrun
  have hframe := (run_grows hrun).sent.subset (request_sent hask hopens hdevice hshort hsent)
  obtain ⟨served, hserved, hreply, _⟩ := request_served hroute hshort hframe hanswer
  refine ⟨served, hserved, fun later waiting hlater hwaits now sendTo hnow => ?_⟩
  have hwaiting := Machine.Reachable.run_to (Machine.Reachable.next harriving hserved) hlater
  have hone : one ∈ waiting.asked := by
    have hopened : one ∈ asking.asked := by
      obtain ⟨_, client, _, rfl⟩ := step_client hask
      exact List.mem_append_right _ (Option.mem_toList.mpr hopens)
    have harrived := (run_grows hrun).asked.subset hopened
    obtain ⟨_, rfl⟩ := step_request hserved
    exact (run_grows hlater).asked.subset harrived
  have hsource : Routable (requestNpdu one.target.route).source := by
    cases one.target.route <;> exact fun address haddress => by cases haddress
  exact reply_told hwaiting hone hdevice hwaits (dispatch_answer hanswer).1
    (packetApdu_answer hsource hanswer ends.device) ((run_grows hlater).replies.subset hreply) hnow sendTo

/-- The answer to a request for a service that the device does not execute. -/
def rejection : ServerResponse :=
  Server.respond (requestNpdu none) (.reject 0 .unrecognizedService)

/-- The request of a silent conversation, and its rejection. -/
theorem exchange_completes_rejection :
    ∃ served, step someEnds (requested .reinitializeDevice [])
        (.request (askedFor .reinitializeDevice []).frame) = some served
      ∧ ∀ later waiting, Machine.run (step someEnds) served later = some waiting →
        (askedFor .reinitializeDevice []).Waits waiting.client →
          ∀ now sendTo, waiting.client.clock ≤ now →
            ∃ told, step someEnds waiting (.reply now sendTo (encodeResponse rejection)) = some told
              ∧ World.entriesSince waiting.client told.client
                = [⟨now, .answered 0 (.error (.rejected .unrecognizedService))⟩]
              ∧ told.client.endpoint.pending.lookup (askedFor .reinitializeDevice []).key = none := by
  have hroute : Routable (askedFor .reinitializeDevice []).target.route := by
    rintro address ⟨⟩
  have hshort : (askedFor .reinitializeDevice []).Short := by
    show (6 : Nat) ≤ 1476
    decide
  have hwaits : (askedFor .reinitializeDevice []).Waits (requested .reinitializeDevice []).client := by
    have hchannel : ((requested .reinitializeDevice []).client.endpoint.pending.lookup
        (askedFor .reinitializeDevice []).key).map PendingTransaction.response = some 0 := by
      decide +kernel
    obtain ⟨transaction, hlookup, hresponse⟩ := Option.map_eq_some_iff.mp hchannel
    exact ⟨transaction, hlookup, hresponse⟩
  have hanswer : ((requested .reinitializeDevice []).server.dispatch ObjectService.services
      (requestNpdu none) (.confirmedRequest (askedFor .reinitializeDevice []).whole)
      (some someEnds.client)).2 = .ok (some rejection) := by
    rfl
  have hrun : Machine.run (step someEnds) (requested .reinitializeDevice []) []
      = some (requested .reinitializeDevice []) := rfl
  exact exchange_completes ⟨[], rfl⟩ reinitialize_goesWell.step_requested
    reinitialize_goesWell.opens rfl hroute hshort hwaits hrun hanswer

end BacnetRs.System
