/-
  BacnetRs.System.Authenticity — whose answer a caller gets
  (`client/async_client.rs`, `server/bip.rs`, `server/dispatcher.rs`).

  The frames a client sends ask a device only what its callers asked for, the
  frames a device sends carry only answers that its dispatcher gave, and a
  pending transaction is one that was opened.  Every move of a conversation
  keeps these three, and they meet where a datagram closes a transaction.

    * `Speaks`          — what a frame may ask of the server that reads it.
    * `Sound`           — the invariant, and `step_sound` that moves keep it.
    * `answer_authentic` — a caller's result is an answer that was given.
    * `answer_own`      — to its own request, if its id was handed out once.
-/
import BacnetRs.System.Conversation

namespace BacnetRs.System

open BacnetRs.Encoding BacnetRs.Object BacnetRs.Service BacnetRs.Network BacnetRs.App
  BacnetRs.Server BacnetRs.Client

/-! ## §1. What a frame asks -/

/-- The server that reads the frame makes of it a request that was asked of `destination`, or no
request at all. -/
def Speaks (asked : List Asked) (destination : SocketAddr) (frame : Bytes) : Prop :=
  ∀ npdu payload origin, Server.decodeBacnetIpFrame frame = some (npdu, payload, origin) →
    npdu.isNetworkMessage = false →
      match requestOf payload with
      | .ok (.confirmedRequest request) =>
          ∃ one ∈ asked, one.target.address = destination ∧ one.Carries request
      | .ok _ => True
      | .error data => responseForUndecodableApdu npdu data = none

theorem Speaks.mono {asked more : List Asked} {destination : SocketAddr} {frame : Bytes}
    (h : Speaks asked destination frame) : Speaks (asked ++ more) destination frame := by
  intro npdu payload origin hread hmessage
  have hold := h npdu payload origin hread hmessage
  cases hrequest : requestOf payload with
  | error data =>
      rw [hrequest] at hold
      exact hold
  | ok apdu =>
      rw [hrequest] at hold
      cases apdu with
      | confirmedRequest request =>
          obtain ⟨one, hone, hasked⟩ := hold
          exact ⟨one, List.mem_append_left _ hone, hasked⟩
      | _ => trivial

/-- A frame that asks nothing may go anywhere. -/
theorem speaks_of_asksNothing {asked : List Asked} {destination : SocketAddr} {frame : Bytes}
    (h : asksNothing frame = true) : Speaks asked destination frame := by
  intro npdu payload origin hread hmessage
  unfold asksNothing at h
  rw [hread] at h
  simp only [hmessage, Bool.false_or] at h
  cases hrequest : requestOf payload with
  | error data =>
      rw [hrequest] at h
      exact Option.isNone_iff_eq_none.mp h
  | ok apdu =>
      rw [hrequest] at h
      cases apdu with
      | confirmedRequest request => cases h
      | _ => trivial

/-- What a server reads in a frame of the client's. -/
theorem requestOf_wrapUnicast {npdu header : Npdu} {apdu : Apdu} {payload : Bytes}
    {origin : Option SocketAddr} (hnpdu : npdu.Consistent) (hfits : Fits npdu apdu.encode)
    (hcanonical : apdu.Canonical)
    (hread : Server.decodeBacnetIpFrame (wrapUnicast npdu apdu) = some (header, payload, origin)) :
    header = npdu.carried ∧ origin = none ∧ requestOf payload = .ok apdu := by
  rw [wrapUnicast_eq npdu apdu hfits, server_reads (.inl rfl) hnpdu hfits] at hread
  cases hread
  refine ⟨rfl, rfl, ?_⟩
  unfold requestOf
  rw [Apdu.decode_encode hcanonical]
  rfl

theorem length_encode_ownAnswer {apdu : Apdu} (h : OwnAnswer apdu) : apdu.encode.length ≤ 4 := by
  cases apdu with
  | segmentAck negative server invokeId sequenceNumber windowSize => exact Nat.le_refl 4
  | simpleAck invokeId serviceChoice => exact Nat.le_succ 3
  | reject invokeId reason => exact Nat.le_succ 3
  | abort server invokeId reason => exact Nat.le_succ 3
  | confirmedRequest | unconfirmedRequest | complexAck | error => exact absurd h id

theorem canonical_ownAnswer {apdu : Apdu} (h : OwnAnswer apdu) : apdu.Canonical := by
  cases apdu with
  | segmentAck | simpleAck | reject | abort => trivial
  | confirmedRequest | unconfirmedRequest | complexAck | error => exact absurd h id

/-- The client's own answers ask nothing. -/
theorem speaks_allowsAnswers (asked : List Asked) : AllowsAnswers (Speaks asked) := by
  intro destination apdu route hown hroute header payload origin hread hmessage
  have hlength := length_encode_ownAnswer hown
  have hfits : Fits (routed Npdu.new route) apdu.encode :=
    fits_routed Npdu.new rfl rfl hroute (by omega)
  obtain ⟨_, _, hrequest⟩ := requestOf_wrapUnicast
    (routed_consistent Npdu.Built.new.consistent hroute) hfits (canonical_ownAnswer hown) hread
  rw [hrequest]
  cases apdu with
  | confirmedRequest request => exact absurd hown id
  | _ => trivial

theorem replies_speak (asked : List Asked) (event : Event) :
    World.Replies (Speaks asked) event := by
  cases event with
  | packet now sendTo data source => exact (speaks_allowsAnswers asked).reply data source
  | command | timeouts | drop | stop => trivial

theorem Asked.Carries.canonical {asked : Asked} {request : ConfirmedRequest}
    (h : asked.Carries request) : (Apdu.confirmedRequest request).Canonical := by
  cases h with
  | whole => exact ⟨rfl, rfl⟩
  | segment => exact ⟨rfl, rfl⟩

theorem Asked.Carries.length {asked : Asked} {request : ConfirmedRequest}
    (h : asked.Carries request) : (Apdu.confirmedRequest request).encode.length ≤ 1476 := by
  cases h with
  | whole hshort =>
      rw [confirmedApdu_encode_length]
      omega
  | segment sequenceNumber moreFollows chunk hshort =>
      rw [requestSegmentApdu_encode_length]
      omega

/-- A carried request keeps the id and the service that were asked for. -/
theorem Asked.Carries.same {asked : Asked} {request : ConfirmedRequest}
    (h : asked.Carries request) :
    request.invokeId = asked.invokeId ∧ request.serviceChoice = asked.serviceChoice := by
  cases h with
  | whole => exact ⟨rfl, rfl⟩
  | segment => exact ⟨rfl, rfl⟩

/-- **A request's frames ask what was asked.** -/
theorem speaks_request {asked : List Asked} {one : Asked} (hone : one ∈ asked)
    (hroute : Routable one.target.route) {request : ConfirmedRequest} (h : one.Carries request) :
    Speaks asked one.target.address (wrapRequest one.target (.confirmedRequest request)) := by
  intro header payload origin hread hmessage
  have hfits : Fits (requestNpdu one.target.route) (Apdu.confirmedRequest request).encode :=
    fits_routed _ rfl rfl hroute (by have := h.length; omega)
  obtain ⟨_, _, hrequest⟩ := requestOf_wrapUnicast (requestNpdu_consistent hroute) hfits
    h.canonical hread
  rw [hrequest]
  exact ⟨one, hone, rfl, h⟩

/-! ## §2. What a command opens -/

section Opens

variable {endpoint : Endpoint} {host : Host} {target : BacnetTarget}
  {serviceChoice : ConfirmedServiceChoice} {serviceData : Bytes} {response : Channel}
  {outcome : Endpoint × List Client.Entry}

/-- The id that is handed out is the one found in the entries. -/
theorem reservedIn_of_admission
    (h : Endpoint.Admission endpoint host target serviceChoice serviceData response outcome)
    {invokeId : UInt8} (hmem : host.entry (.reserved (target.address, invokeId)) ∈ outcome.2) :
    reservedIn outcome.2 = some (target.address, invokeId) := by
  -- Where the first entry says which id was handed out, no other entry does.
  have hfirst : ∀ (other : UInt8) (rest : List Client.Entry),
      (∀ entry ∈ rest, entry.effect ≠ .reserved (target.address, invokeId)) →
      host.entry (.reserved (target.address, invokeId))
          ∈ host.entry (.reserved (target.address, other)) :: rest →
        reservedIn (host.entry (.reserved (target.address, other)) :: rest)
          = some (target.address, invokeId) := by
    intro other rest hrest hin
    rcases List.mem_cons.mp hin with heq | hin
    · have hother : Effect.reserved (target.address, invokeId)
          = .reserved (target.address, other) := congrArg Client.Entry.effect heq
      cases hother
      rfl
    · exact absurd rfl (hrest _ hin)
  have hanswer : ∀ (error : ClientError),
      ∀ entry ∈ [host.entry (.answered response (.error error))],
        entry.effect ≠ .reserved (target.address, invokeId) := by
    intro error entry hentry heffect
    rw [List.mem_singleton.mp hentry] at heffect
    cases heffect
  cases h with
  | cancelled => exact absurd hmem List.not_mem_nil
  | exhausted =>
      rcases List.mem_singleton.mp hmem with heq
      cases congrArg Client.Entry.effect heq
  | refused other error hfree => exact hfirst other _ (hanswer error) hmem
  | unsent other error hfree => exact hfirst other _ (hanswer (.io error)) hmem
  | admitted other frames hfree hsplit =>
      refine hfirst other _ ?_ hmem
      intro entry hentry heffect
      obtain ⟨parcel, _, rfl⟩ := List.mem_map.mp hentry
      cases heffect

/-- What is pending after a command was pending before, or is what the command opened. -/
theorem pending_of_admission
    (h : Endpoint.Admission endpoint host target serviceChoice serviceData response outcome)
    {key : TransactionKey} {transaction : PendingTransaction}
    (hlookup : outcome.1.pending.lookup key = some transaction) :
    endpoint.pending.lookup key = some transaction
      ∨ (reservedIn outcome.2 = some key ∧ key.1 = target.address
        ∧ transaction.response = response ∧ transaction.serviceChoice = serviceChoice) := by
  have hswept : (endpoint.swept host target.address).pending.lookup key = some transaction →
      endpoint.pending.lookup key = some transaction :=
    fun hkept => ((KeyedTable.lookup_retain_eq_some _ _ _ _).mp hkept).1
  cases h with
  | cancelled => exact .inl hlookup
  | exhausted => exact .inl (hswept hlookup)
  | refused invokeId error hfree => exact .inl (hswept hlookup)
  | admitted invokeId frames hfree hsplit =>
      rw [Endpoint.insertPending_lookup] at hlookup
      split at hlookup
      · next hkey =>
          cases hlookup
          rw [hkey]
          exact .inr ⟨rfl, rfl, rfl, rfl⟩
      · exact .inl (hswept hlookup)
  | unsent invokeId error hfree =>
      have herased : ((endpoint.swept host target.address).pending.erase
          (target.address, invokeId)).lookup key = some transaction := hlookup
      rw [KeyedTable.lookup_erase_eq_ite] at herased
      split at herased
      · cases herased
      · exact .inl (hswept herased)

end Opens

/-- A command asks a device for something, or leaves the transactions as they are. -/
theorem request_cases (endpoint : Endpoint) (host : Host) (command : Endpoint.EndpointCommand) :
    (request? command = none
        ∧ (endpoint.handleCommand host command).1.pending = endpoint.pending)
      ∨ ∃ target serviceChoice serviceData response,
        request? command = some (target, serviceChoice, serviceData, response)
          ∧ Endpoint.Admission (endpoint.registered command) host target serviceChoice serviceData
            response (endpoint.handleCommand host command) := by
  cases command with
  | confirmed | subscribeCov =>
      exact .inr ⟨_, _, _, _, rfl, Endpoint.handleConfirmedCommand_admission _ _ _ _ _ _⟩
  | discoverDevices | discoverRouters => exact .inl ⟨rfl, rfl⟩

/-- The transaction a command opens, once its id is known. -/
theorem opens_eq {world : World} {now : Instant} {sendTo : SocketAddr → Bytes → Option IoError}
    {command : Endpoint.EndpointCommand} {target : BacnetTarget}
    {serviceChoice : ConfirmedServiceChoice} {serviceData : Bytes} {response : Channel}
    {key : TransactionKey} (hrequest : request? command
      = some (target, serviceChoice, serviceData, response))
    (hreserved : reservedIn (world.endpoint.handleCommand (world.host now sendTo) command).2
      = some key) :
    opens world (.command now sendTo command)
      = some ⟨target, key.2, serviceChoice, serviceData, world.endpoint.acceptedApdu, response⟩ := by
  unfold opens
  simp only [hrequest, hreserved]
  rfl

theorem routable_iff {target : BacnetTarget} : routable target = true ↔ Routable target.route := by
  unfold routable Routable
  cases target.route with
  | none => simp
  | some address => simp

/-- What a command that is proper makes the endpoint send asks only for what it opens. -/
theorem commands_speak {ends : Ends} {world : World} {event : Event} (hproper : proper ends event = true)
    (asked : List Asked) :
    world.Commands (Speaks (asked ++ (opens world event).toList)) event := by
  cases event with
  | packet | timeouts | drop | stop => trivial
  | command now sendTo command =>
      have hrequest : ∀ {target : BacnetTarget} {serviceChoice : ConfirmedServiceChoice}
          {serviceData : Bytes} {response : Channel} {endpoint : Endpoint},
          request? command = some (target, serviceChoice, serviceData, response) →
          routable target = true →
          Endpoint.Admission endpoint (world.host now sendTo) target serviceChoice serviceData
            response (world.endpoint.handleCommand (world.host now sendTo) command) →
          ∀ invokeId, (world.host now sendTo).entry (.reserved (target.address, invokeId))
              ∈ (world.endpoint.handleCommand (world.host now sendTo) command).2 →
            Endpoint.RequestAllowed
              (Speaks (asked ++ (opens world (.command now sendTo command)).toList))
              target invokeId serviceChoice serviceData world.endpoint.acceptedApdu := by
        intro target serviceChoice serviceData response endpoint hrequest hroute hadmission invokeId
          hmem request hpdu
        rw [opens_eq hrequest (reservedIn_of_admission hadmission hmem)]
        have hone : (⟨target, invokeId, serviceChoice, serviceData, world.endpoint.acceptedApdu,
            response⟩ : Asked) ∈ asked ++ [⟨target, invokeId, serviceChoice, serviceData,
              world.endpoint.acceptedApdu, response⟩] :=
          List.mem_append_right _ List.mem_cons_self
        exact speaks_request hone (routable_iff.mp hroute) hpdu
      cases command with
      | confirmed target serviceChoice serviceData response =>
          exact hrequest rfl hproper (Endpoint.handleConfirmedCommand_admission _ _ _ _ _ _)
      | subscribeCov target key serviceData sink response =>
          exact hrequest rfl hproper (Endpoint.handleConfirmedCommand_admission _ _ _ _ _ _)
      | discoverDevices frame destination sink => exact speaks_of_asksNothing hproper
      | discoverRouters frame destination sink => exact speaks_of_asksNothing hproper

/-! ## §3. The invariant -/

/-- All that a frame of the device's answers was answered by its dispatcher. -/
def Relays (ends : Ends) (answers : List Answer) (frame : Bytes) : Prop :=
  ∀ apdu route invokeId, packetApdu frame ends.device = some (apdu, route) →
    Endpoint.responseInvokeId apdu = some invokeId →
      ∃ answer ∈ answers, answer.request.invokeId = invokeId ∧ answer.response.apdu = apdu

/-- An answer to a request of this client's: the dispatcher gave it, to what was asked of it. -/
structure Answer.Due (ends : Ends) (asked : List Asked) (answer : Answer) : Prop where
  given : answer.Given ends
  asked : ∃ one ∈ asked, one.target.address = ends.device ∧ one.Carries answer.request

/-- What holds of every reachable conversation. -/
structure Sound (ends : Ends) (conversation : Conversation) : Prop where
  ready : conversation.client.endpoint.AllReady (Speaks conversation.asked)
  sent : Sends (Speaks conversation.asked) conversation.client.trace
  pending : ∀ key transaction,
    conversation.client.endpoint.pending.lookup key = some transaction →
      ∃ one ∈ conversation.asked, one.key = key ∧ one.response = transaction.response
        ∧ one.serviceChoice = transaction.serviceChoice
  issued : ∀ one ∈ conversation.asked, one.response ∈ conversation.client.issued
  distinct : conversation.asked.Pairwise (fun one other => one.response ≠ other.response)
  replies : ∀ frame ∈ conversation.replies, Relays ends conversation.answers frame
  answers : ∀ answer ∈ conversation.answers, answer.Due ends conversation.asked

variable {ends : Ends} {before after : Conversation}

/-- A channel belongs to one request. -/
theorem Sound.own (h : Sound ends before) {one other : Asked} (hone : one ∈ before.asked)
    (hother : other ∈ before.asked) (hsame : other.response = one.response) : other = one := by
  have hsymm : Std.Symm (fun one other : Asked => one.response ≠ other.response) :=
    ⟨fun _ _ hab => hab.symm⟩
  by_contra hne
  exact h.distinct.forall hother hone hne hsame

/-- The service a transaction is for does not change. -/
theorem serviceChoice_of_evolves {world : World} {key : TransactionKey}
    {transaction kept : PendingTransaction} {event : Event} {indices : List Nat}
    (h : World.Evolves world key transaction event kept indices) :
    kept.serviceChoice = transaction.serviceChoice := by
  cases h with
  | idle => rfl
  | heard now sendTo data apdu route kept entries hpacket hid hkeeps =>
      cases hkeeps with
      | segment ack kept entries hsegmented hservice hkeeps => cases hkeeps <;> rfl
      | advanced | cleared => rfl
  | attempted now sendTo visits kept indices h => exact h.serviceChoice_eq

/-- What is pending after a step was pending before it, or is what the step opened. -/
theorem pending_of_step {world world' : World} {event : Event}
    (hstep : World.step world event = some world') {key : TransactionKey}
    {kept : PendingTransaction} (hkept : world'.endpoint.pending.lookup key = some kept) :
    (∃ transaction, world.endpoint.pending.lookup key = some transaction
        ∧ transaction.response = kept.response ∧ transaction.serviceChoice = kept.serviceChoice)
      ∨ ∃ one, opens world event = some one ∧ one.key = key ∧ one.response = kept.response
        ∧ one.serviceChoice = kept.serviceChoice := by
  rcases World.step_evolves hstep hkept with
    ⟨transaction, hbefore, hevolves⟩ | ⟨now, sendTo, command, rfl, _, _⟩
  · exact .inl ⟨transaction, hbefore, hevolves.response_eq.symm,
      (serviceChoice_of_evolves hevolves).symm⟩
  · obtain ⟨_, rfl⟩ := World.step_eq_some.mp hstep
    obtain ⟨hlookup, _⟩ := World.resume_lookup hkept
    -- Of the commands only a request opens a transaction.
    rcases request_cases world.endpoint (world.host now sendTo) command with
      ⟨_, hsame⟩ | ⟨target, serviceChoice, serviceData, response, hrequest, hadmission⟩
    · have hbefore : world.endpoint.pending.lookup key = some kept := hsame ▸ hlookup
      exact .inl ⟨kept, hbefore, rfl, rfl⟩
    · rcases pending_of_admission hadmission hlookup with
        hbefore | ⟨hreserved, hpeer, hresponse, hservice⟩
      · rw [Endpoint.registered_pending] at hbefore
        exact .inl ⟨kept, hbefore, rfl, rfl⟩
      · refine .inr ⟨_, opens_eq hrequest hreserved, ?_, hresponse.symm, hservice.symm⟩
        exact Prod.ext hpeer.symm rfl

/-- The channel a transaction is opened with is the command's, and new. -/
theorem response_of_opens {world world' : World} {event : Event}
    (hstep : World.step world event = some world') {one : Asked} (h : opens world event = some one) :
    one.response ∉ world.issued ∧ one.response ∈ world'.issued := by
  cases event with
  | packet | timeouts | drop | stop => cases h
  | command now sendTo command =>
      refine World.not_issued_of_command hstep ?_
      obtain ⟨⟨target, serviceChoice, serviceData, response⟩, hrequest, hrest⟩ :=
        Option.bind_eq_some_iff.mp h
      obtain ⟨key, _, hone⟩ := Option.bind_eq_some_iff.mp hrest
      cases hone
      cases command with
      | confirmed | subscribeCov =>
          cases hrequest
          simp [Endpoint.EndpointCommand.channels]
      | discoverDevices | discoverRouters => cases hrequest

theorem Answer.Due.mono {asked more : List Asked} {answer : Answer} (h : answer.Due ends asked) :
    answer.Due ends (asked ++ more) := by
  obtain ⟨one, hone, hasked⟩ := h.asked
  exact ⟨h.given, one, List.mem_append_left _ hone, hasked⟩

theorem Relays.mono {answers more : List Answer} {frame : Bytes} (h : Relays ends answers frame) :
    Relays ends (answers ++ more) frame := by
  intro apdu route invokeId hpacket hid
  obtain ⟨answer, hanswer, hsame⟩ := h apdu route invokeId hpacket hid
  exact ⟨answer, List.mem_append_left _ hanswer, hsame⟩

/-- What the endpoint has sent, after a step. -/
theorem trace_eq {world world' : World} {event : Event}
    (hstep : World.step world event = some world') :
    world'.trace = world.trace ++ World.entriesSince world world' := by
  obtain ⟨added, hadded⟩ := World.step_trace hstep
  unfold World.entriesSince
  rw [← hadded, List.drop_left]

/-- What happens at the client, if what it makes the client send is what was asked. -/
theorem world_sound (h : Sound ends before) {event : Event} {client : World}
    (hclient : World.step before.client event = some client)
    (hcommands : before.client.Commands
      (Speaks (before.asked ++ (opens before.client event).toList)) event) :
    Sound ends { before with
      client := client
      asked := before.asked ++ (opens before.client event).toList } := by
  have hready : before.client.endpoint.AllReady
      (Speaks (before.asked ++ (opens before.client event).toList)) :=
    h.ready.mono (fun _ _ hspeaks => hspeaks.mono)
  obtain ⟨hafter, hsends⟩ := World.step_within (speaks_allowsAnswers _).pacing hready hclient
    hcommands (replies_speak _ event)
  refine ⟨hafter, ?_, ?_, ?_, ?_, h.replies, fun answer hanswer => (h.answers answer hanswer).mono⟩
  · show Sends _ client.trace
    rw [trace_eq hclient]
    exact (h.sent.mono (fun _ _ hspeaks => hspeaks.mono)).append hsends
  · intro key transaction hlookup
    rcases pending_of_step hclient hlookup with
      ⟨old, hold, hresponse, hservice⟩ | ⟨one, hone, hkey, hresponse, hservice⟩
    · obtain ⟨one, hone, hkey, hsame, hchoice⟩ := h.pending key old hold
      exact ⟨one, List.mem_append_left _ hone, hkey, hsame.trans hresponse, hchoice.trans hservice⟩
    · exact ⟨one, List.mem_append_right _ (Option.mem_toList.mpr hone), hkey, hresponse, hservice⟩
  · intro one hone
    rcases List.mem_append.mp hone with hone | hone
    · exact World.step_issued hclient (h.issued one hone)
    · exact (response_of_opens hclient (Option.mem_toList.mp hone)).2
  · refine List.pairwise_append.mpr ⟨h.distinct, ?_, ?_⟩
    · cases opens before.client event with
      | none => exact List.Pairwise.nil
      | some one => exact List.pairwise_singleton _ one
    · intro one hone other hother hsame
      have hfresh := (response_of_opens hclient (Option.mem_toList.mp hother)).1
      exact hfresh (hsame ▸ h.issued one hone)

/-- **Something happens at the client.** -/
theorem client_sound (h : Sound ends before) {event : Event}
    (hstep : step ends before (.client event) = some after) : Sound ends after := by
  obtain ⟨hproper, client, hclient, rfl⟩ := step_client hstep
  exact world_sound h hclient (commands_speak hproper before.asked)

/-- **A datagram of the device's reaches the client.** -/
theorem reply_sound (h : Sound ends before) {now : Instant}
    {sendTo : SocketAddr → Bytes → Option IoError} {frame : Bytes}
    (hstep : step ends before (.reply now sendTo frame) = some after) : Sound ends after := by
  obtain ⟨_, client, hclient, rfl⟩ := step_reply hstep
  have hsound := world_sound h hclient trivial
  rwa [show before.asked ++ (opens before.client _).toList = before.asked from
    List.append_nil _] at hsound

/-- A frame of the client's is for the device when it was sent there. -/
theorem toDevice_of_sends {P : SocketAddr → Bytes → Prop} {trace : List Client.Entry}
    (h : Sends P trace) {frame : Bytes} (hframe : frame ∈ sentToDevice ends trace) :
    P ends.device frame := by
  obtain ⟨entry, hentry, hsome⟩ := List.mem_filterMap.mp hframe
  split at hsome
  · next purpose destination sent heffect =>
      split at hsome
      · next hdevice =>
          cases hsome
          rw [← hdevice]
          exact h entry hentry purpose destination frame heffect
      · cases hsome
  · cases hsome

/-- Where a header the server reads came from can be answered. -/
theorem routable_of_read {frame payload : Bytes} {npdu : Npdu} {origin : Option SocketAddr}
    (h : Server.decodeBacnetIpFrame frame = some (npdu, payload, origin)) :
    Routable npdu.source := by
  obtain ⟨start, consumed, _, hdecode, _⟩ := Server.decodeBacnetIpFrame_eq_some.mp h
  exact routable_of_decode _ _ hdecode

/-- A frame of an unconfirmed request answers nothing, whatever it is sent in. -/
theorem relays_unconfirmed (answers : List Answer) {npdu : Npdu} (hnpdu : npdu.Consistent)
    {serviceChoice : UnconfirmedServiceChoice} {serviceData : Bytes}
    (hfits : Fits npdu (Apdu.unconfirmedRequest serviceChoice serviceData).encode) :
    Relays ends answers (enveloped .originalUnicastNpdu npdu
      (Apdu.unconfirmedRequest serviceChoice serviceData).encode) := by
  intro apdu route invokeId hpacket hid
  obtain ⟨frame, hframe, _, hhead, _, _⟩ := packetApdu_eq_some.mp hpacket
  rw [client_reads (.inl rfl) hnpdu hfits ends.device] at hframe
  cases hframe
  exact absurd rfl hhead

/-- What the device sends the client for one of its frames. -/
theorem served_frame {server : ServerDispatcher ObjectService} {frame sent : Bytes}
    (h : sent ∈ framesFor ends (serveOnce (ServerDispatcher.dispatch ObjectService.services) server
      frame ends.client).2) :
    ∃ npdu payload origin response,
      Server.decodeBacnetIpFrame frame = some (npdu, payload, origin)
        ∧ npdu.isNetworkMessage = false
        ∧ (Server.answer (ServerDispatcher.dispatch ObjectService.services) server npdu
            (requestOf payload) (some ends.client)).2 = .ok (some response)
        ∧ sent = encodeResponse response := by
  unfold serveOnce processDatagram at h
  cases hread : Server.decodeBacnetIpFrame frame with
  | none =>
      rw [hread] at h
      exact absurd h List.not_mem_nil
  | some read =>
      obtain ⟨npdu, payload, origin⟩ := read
      rw [hread] at h
      simp only at h
      split at h
      · exact absurd h List.not_mem_nil
      · next hmessage =>
          simp only at h
          cases hanswer : (Server.answer (ServerDispatcher.dispatch ObjectService.services) server
              npdu (requestOf payload) (some ends.client)).2 with
          | error fault =>
              rw [hanswer] at h
              exact absurd h List.not_mem_nil
          | ok found =>
              rw [hanswer] at h
              cases found with
              | none => exact absurd h List.not_mem_nil
              | some response =>
                  obtain ⟨reply, hreply, rfl⟩ := List.mem_map.mp h
                  obtain ⟨hmem, _⟩ := List.mem_filter.mp hreply
                  rw [List.mem_singleton.mp hmem]
                  exact ⟨npdu, payload, origin, response, rfl,
                    Bool.eq_false_of_not_eq_true hmessage, hanswer, rfl⟩

/-- What a Who-Is is answered with, if anything, is an I-Am. -/
theorem whoIs_eq_ok {database : DatabaseView} {serviceData : Bytes} {apdu : Apdu}
    (h : ServerDispatcher.whoIs database serviceData = .ok (some apdu)) :
    ∃ announced encoded, iAm database = .ok announced ∧ announced.encode = .ok encoded
      ∧ apdu = .unconfirmedRequest .iAm encoded := by
  unfold ServerDispatcher.whoIs at h
  cases hrequest : WhoIsRequest.decode serviceData with
  | error fault =>
      rw [hrequest] at h
      cases fault <;> cases h
  | ok request =>
      rw [hrequest] at h
      simp only at h
      split at h
      · cases h
      · obtain ⟨announced, hiAm, h⟩ := Checked.bind_eq_ok.mp h
        obtain ⟨encoded, hencoded, h⟩ := Checked.bind_eq_ok.mp h
        cases h
        exact ⟨announced, encoded, Checked.ofExcept_eq_ok.mp (Checked.mapErr_eq_ok.mp hiAm),
          Checked.ofExcept_eq_ok.mp (Checked.mapErr_eq_ok.mp hencoded), rfl⟩

/-- What the device answers an unconfirmed request with answers nothing. -/
theorem relays_whoIs (answers : List Answer) {server : ServerDispatcher ObjectService} {npdu : Npdu}
    {serviceChoice : UnconfirmedServiceChoice} {serviceData : Bytes} {source : Option SocketAddr}
    {response : ServerResponse} (hsource : Routable npdu.source)
    (h : (server.dispatch ObjectService.services npdu
      (.unconfirmedRequest serviceChoice serviceData) source).2 = .ok (some response)) :
    Relays ends answers (encodeResponse response) := by
  unfold ServerDispatcher.dispatch at h
  split at h
  · cases h
  · cases serviceChoice with
    | whoIs =>
        simp only at h
        cases hfound : ServerDispatcher.whoIs (ObjectService.services.database server.objects)
            serviceData with
        | error fault =>
            rw [hfound] at h
            cases h
        | ok found =>
            rw [hfound] at h
            cases found with
            | none => cases h
            | some apdu =>
                cases h
                obtain ⟨announced, encoded, _, hencoded, rfl⟩ := whoIs_eq_ok hfound
                have hshort := length_iAm hencoded
                rw [encodeResponse_eq, respond_npdu]
                refine relays_unconfirmed answers
                  (routed_consistent Npdu.Built.new.consistent hsource)
                  (fits_routed Npdu.new rfl rfl hsource ?_)
                show (_ :: _ :: encoded : Bytes).length ≤ 65000
                simp only [List.length_cons]
                omega
    | _ => cases h

/-- An answer carries the id of its request. -/
theorem responseInvokeId_of_answers {invokeId : UInt8} {choice : ConfirmedServiceChoice} {apdu : Apdu}
    (h : ObjectService.Answers invokeId choice apdu) :
    Endpoint.responseInvokeId apdu = some invokeId := by
  cases apdu with
  | simpleAck answeredId answered => exact congrArg some h.1
  | complexAck ack => exact congrArg some h.1
  | error answeredId answered errorClass errorCode firstFailedWrite => exact congrArg some h.1
  | reject answeredId reason => exact congrArg some h
  | abort server answeredId reason => exact congrArg some h
  | confirmedRequest | unconfirmedRequest | segmentAck => exact absurd h id

theorem answerTo_eq_some {server : ServerDispatcher ObjectService} {frame : Bytes} {answer : Answer}
    (h : answerTo ends server frame = some answer) :
    ∃ payload origin, Server.decodeBacnetIpFrame frame = some (answer.npdu, payload, origin)
      ∧ requestOf payload = .ok (.confirmedRequest answer.request) ∧ answer.Given ends := by
  unfold answerTo at h
  split at h
  · cases h
  · next npdu payload origin hread =>
      split at h
      · next request hrequest =>
          split at h
          · next response hgiven =>
              cases h
              exact ⟨payload, origin, hread, hrequest, hgiven⟩
          · cases h
      · cases h

/-- No request is answered in a network-layer message. -/
theorem not_message_of_given {answer : Answer} (h : answer.Given ends) :
    answer.npdu.isNetworkMessage = false := by
  unfold Answer.Given ServerDispatcher.dispatch at h
  split at h
  · cases h
  · next hmessage => exact Bool.eq_false_of_not_eq_true hmessage

/-- **A frame of the client's reaches the device.** -/
theorem request_sound (h : Sound ends before) {frame : Bytes}
    (hstep : step ends before (.request frame) = some after) : Sound ends after := by
  obtain ⟨hframe, rfl⟩ := step_request hstep
  have hspeaks := toDevice_of_sends h.sent hframe
  refine ⟨h.ready, h.sent, h.pending, h.issued, h.distinct, ?_, ?_⟩
  · intro reply hreply
    rcases List.mem_append.mp hreply with hreply | hreply
    · exact (h.replies reply hreply).mono
    · obtain ⟨npdu, payload, origin, response, hread, hmessage, hanswer, rfl⟩ := served_frame hreply
      have hsource := routable_of_read hread
      have hasked := hspeaks npdu payload origin hread hmessage
      cases hrequest : requestOf payload with
      -- What the client sends is no request that cannot be read.
      | error data =>
          rw [hrequest] at hanswer hasked
          have hnone : responseForUndecodableApdu npdu data = some response :=
            Except.ok.inj hanswer
          rw [hasked] at hnone
          cases hnone
      | ok apdu =>
          rw [hrequest] at hanswer
          cases apdu with
          | confirmedRequest request =>
              intro found route invokeId hpacket hid
              have hgiven : (before.server.dispatch ObjectService.services npdu
                  (.confirmedRequest request) (some ends.client)).2 = .ok (some response) := hanswer
              rw [packetApdu_answer hsource hgiven ends.device] at hpacket
              cases hpacket
              refine ⟨⟨before.server, npdu, request, response⟩, List.mem_append_right _ ?_, ?_, rfl⟩
              · unfold answerTo
                simp only [hread, hrequest, hgiven]
                exact List.mem_cons_self
              · rw [responseInvokeId_of_answers (dispatch_answer hgiven).1.answers] at hid
                exact Option.some.inj hid
          | unconfirmedRequest serviceChoice serviceData => exact relays_whoIs _ hsource hanswer
          | _ =>
              unfold Server.answer ServerDispatcher.dispatch at hanswer
              simp only [hmessage] at hanswer
              cases hanswer
  · intro answer hanswer
    rcases List.mem_append.mp hanswer with hanswer | hanswer
    · exact h.answers answer hanswer
    · obtain ⟨payload, origin, hread, hrequest, hgiven⟩ := answerTo_eq_some (Option.mem_toList.mp hanswer)
      have hasked := hspeaks answer.npdu payload origin hread (not_message_of_given hgiven)
      rw [hrequest] at hasked
      exact ⟨hgiven, hasked⟩

/-- **The device does something of its own.** -/
theorem elsewhere_sound (h : Sound ends before) {server : ServerDispatcher ObjectService}
    {announced : List Bytes} (hstep : step ends before (.elsewhere server announced) = some after) :
    Sound ends after := by
  obtain ⟨hquiet, rfl⟩ := step_elsewhere hstep
  refine ⟨h.ready, h.sent, h.pending, h.issued, h.distinct, ?_, h.answers⟩
  intro frame hframe
  rcases List.mem_append.mp hframe with hframe | hframe
  · exact h.replies frame hframe
  · intro apdu route invokeId hpacket hid
    have hnone := hquiet frame hframe
    unfold answersNothing at hnone
    rw [hpacket] at hnone
    simp only [hid] at hnone
    cases hnone

/-- **Every move keeps the invariant.** -/
theorem step_sound (h : Sound ends before) {move : Move} (hstep : step ends before move = some after) :
    Sound ends after := by
  cases move with
  | client event => exact client_sound h hstep
  | request frame => exact request_sound h hstep
  | reply now sendTo frame => exact reply_sound h hstep
  | elsewhere server announced => exact elsewhere_sound h hstep

theorem sound_start (ends : Ends) (timeout : Duration) (retries : UInt8) (acceptedApdu : MaxApduSize)
    (server : ServerDispatcher ObjectService) :
    Sound ends (start timeout retries acceptedApdu server) where
  ready := by rintro key transaction ⟨⟩
  sent := .nil
  pending := by rintro key transaction ⟨⟩
  issued := fun one hone => absurd hone List.not_mem_nil
  distinct := List.Pairwise.nil
  replies := fun frame hframe => absurd hframe List.not_mem_nil
  answers := fun answer hanswer => absurd hanswer List.not_mem_nil

theorem Reachable.sound {timeout : Duration} {retries : UInt8} {acceptedApdu : MaxApduSize}
    {server : ServerDispatcher ObjectService} {conversation : Conversation}
    (h : Reachable ends timeout retries acceptedApdu server conversation) :
    Sound ends conversation :=
  Machine.Reachable.invariant (fun _ _ _ hsound hstep => step_sound hsound hstep)
    (sound_start ends timeout retries acceptedApdu server) h

/-! ## §4. Whose answer a caller gets -/

/-- What the client does with an answer that is sent whole. -/
theorem handleResponse_plain {endpoint : Endpoint} {host : Host} {key : TransactionKey}
    {transaction : PendingTransaction} {invokeId : UInt8} {choice : ConfirmedServiceChoice}
    {apdu : Apdu} (h : Plain invokeId choice apdu) (route : Option NetworkAddress) :
    endpoint.handleResponse host key transaction apdu route
      = if Endpoint.responseMatchesService apdu transaction.serviceChoice then
          endpoint.finish host key (Endpoint.responseResult apdu)
        else (endpoint, []) := by
  have hanswers := h.answers
  cases apdu with
  | complexAck ack =>
      have hwhole := h.whole ack rfl
      unfold Endpoint.handleResponse
      simp only [hwhole, Bool.false_eq_true, if_false]
      cases Endpoint.responseMatchesService (.complexAck ack) transaction.serviceChoice <;> rfl
  | simpleAck answeredId answered =>
      unfold Endpoint.handleResponse
      cases hmatches : Endpoint.responseMatchesService (.simpleAck answeredId answered)
        transaction.serviceChoice <;> simp [hmatches]
  | error answeredId answered errorClass errorCode firstFailedWrite =>
      unfold Endpoint.handleResponse
      cases hmatches : Endpoint.responseMatchesService (.error answeredId answered errorClass
        errorCode firstFailedWrite) transaction.serviceChoice <;> simp [hmatches]
  | reject answeredId reason => rfl
  | abort server answeredId reason => rfl
  | confirmedRequest | unconfirmedRequest | segmentAck => exact absurd hanswers id

/-- An answer that a datagram brings a caller is the one that its APDU carries. -/
theorem answered_of_packet {world world' : World} {now : Instant}
    {sendTo : SocketAddr → Bytes → Option IoError} {data : Bytes} {source : SocketAddr}
    (hstep : World.step world (.packet now sendTo data source) = some world')
    (hplain : ∀ apdu route invokeId, packetApdu data source = some (apdu, route) →
      Endpoint.responseInvokeId apdu = some invokeId → ∃ choice, Plain invokeId choice apdu)
    {entry : Client.Entry} (hentry : entry ∈ World.entriesSince world world') {channel : Channel}
    {result : Except ClientError Bytes} (heffect : entry.effect = .answered channel result) :
    ∃ apdu route invokeId transaction, packetApdu data source = some (apdu, route)
      ∧ Endpoint.responseInvokeId apdu = some invokeId
      ∧ world.endpoint.pending.lookup (source, invokeId) = some transaction
      ∧ transaction.response = channel
      ∧ Endpoint.responseMatchesService apdu transaction.serviceChoice = true
      ∧ result = Endpoint.responseResult apdu := by
  obtain ⟨_, rfl⟩ := World.step_eq_some.mp hstep
  rcases World.react_packet world now sendTo data source with ⟨outcome, hhandled, hreact⟩ | hreact
  · rw [hreact, World.entriesSince_resume] at hentry
    rcases Endpoint.handlePacket_cases hhandled with
      ⟨_, hquiet⟩ | ⟨apdu, route, invokeId, transaction, hpacket, hid, hbefore, houtcome⟩
    · have hnot := hquiet entry hentry
      unfold Client.Entry.isTransactional at hnot
      rw [heffect] at hnot
      cases hnot
    · obtain ⟨choice, hone⟩ := hplain apdu route invokeId hpacket hid
      rw [houtcome, handleResponse_plain hone] at hentry
      split at hentry
      · next hmatches =>
          obtain ⟨rtt, hfinish⟩ := Endpoint.finish_handled hbefore (world.host now sendTo)
            (Endpoint.responseResult apdu)
          rw [hfinish] at hentry
          rw [List.mem_singleton.mp hentry] at heffect
          cases heffect
          exact ⟨apdu, route, invokeId, transaction, hpacket, hid, hbefore, rfl, hmatches, rfl⟩
      · exact absurd hentry List.not_mem_nil
  · have hnone : World.entriesSince world (world.halt now []) = [] := List.drop_left
    rw [hreact, hnone] at hentry
    exact absurd hentry List.not_mem_nil

/-- **A caller's result is an answer that was given.**  Whatever the network did, what a datagram
of the device's puts into a caller's channel is what the device's dispatcher once answered to a
request that this client sent it under the same id, and is about the service the caller asked
for. -/
theorem answer_authentic {timeout : Duration} {retries : UInt8} {acceptedApdu : MaxApduSize}
    {server : ServerDispatcher ObjectService}
    (h : Reachable ends timeout retries acceptedApdu server before) {now : Instant}
    {sendTo : SocketAddr → Bytes → Option IoError} {frame : Bytes}
    (hstep : step ends before (.reply now sendTo frame) = some after) {entry : Client.Entry}
    (hentry : entry ∈ World.entriesSince before.client after.client) {channel : Channel}
    {result : Except ClientError Bytes} (heffect : entry.effect = .answered channel result) :
    ∃ one ∈ before.asked, ∃ answer ∈ before.answers,
      one.response = channel ∧ one.target.address = ends.device
        ∧ answer.Given ends ∧ answer.request.invokeId = one.invokeId
        ∧ (∃ other ∈ before.asked, other.key = one.key ∧ other.Carries answer.request)
        ∧ World.AboutService answer.response.apdu one.serviceChoice
        ∧ result = Endpoint.responseResult answer.response.apdu := by
  have hsound := h.sound
  obtain ⟨hframe, client, hclient, rfl⟩ := step_reply hstep
  have hrelays := hsound.replies frame hframe
  have hplain : ∀ apdu route invokeId, packetApdu frame ends.device = some (apdu, route) →
      Endpoint.responseInvokeId apdu = some invokeId → ∃ choice, Plain invokeId choice apdu := by
    intro apdu route invokeId hpacket hid
    obtain ⟨answer, hanswer, rfl, rfl⟩ := hrelays apdu route invokeId hpacket hid
    exact ⟨_, (dispatch_answer (hsound.answers answer hanswer).given).1⟩
  obtain ⟨apdu, route, invokeId, transaction, hpacket, hid, hpending, hchannel, hmatches, hresult⟩ :=
    answered_of_packet hclient hplain hentry heffect
  obtain ⟨answer, hanswer, hrequestId, rfl⟩ := hrelays apdu route invokeId hpacket hid
  obtain ⟨one, hone, hkey, hresponse, hservice⟩ := hsound.pending _ transaction hpending
  have hdue := hsound.answers answer hanswer
  obtain ⟨other, hother, hdevice, hcarries⟩ := hdue.asked
  have haddress : one.target.address = ends.device := congrArg Prod.fst hkey
  have hinvokeId : one.invokeId = invokeId := congrArg Prod.snd hkey
  refine ⟨one, hone, answer, hanswer, hresponse.trans hchannel, haddress, hdue.given,
    hrequestId.trans hinvokeId.symm, ⟨other, hother, ?_, hcarries⟩, ?_, hresult⟩
  · refine Prod.ext (hdevice.trans haddress.symm) ?_
    show other.invokeId = one.invokeId
    rw [← hcarries.same.1, hrequestId, hinvokeId]
  · rw [hservice]
    exact World.aboutService_of_matches hmatches

/-! ## §5. One id, one request -/

/-- What was asked, answered and sent is still on record. -/
structure Grows (before after : Conversation) : Prop where
  asked : before.asked <+: after.asked
  answers : before.answers <+: after.answers
  replies : before.replies <+: after.replies
  trace : before.client.trace <+: after.client.trace

theorem Grows.sent (h : Grows before after) :
    sentToDevice ends before.client.trace <+: sentToDevice ends after.client.trace :=
  h.trace.filterMap _

/-- What was asked, answered and sent stays on record. -/
theorem run_grows {moves : List Move} (h : Machine.run (step ends) before moves = some after) :
    Grows before after := by
  refine Machine.run_relates
    (fun _ => ⟨List.prefix_rfl, List.prefix_rfl, List.prefix_rfl, List.prefix_rfl⟩)
    (fun _ _ _ hab hbc => ⟨hab.asked.trans hbc.asked, hab.answers.trans hbc.answers,
      hab.replies.trans hbc.replies, hab.trace.trans hbc.trace⟩) ?_ h
  intro a move b hstep
  cases move with
  | client event =>
      obtain ⟨_, client, hclient, rfl⟩ := step_client hstep
      exact ⟨List.prefix_append _ _, List.prefix_rfl, List.prefix_rfl, World.step_trace hclient⟩
  | request frame =>
      obtain ⟨_, rfl⟩ := step_request hstep
      exact ⟨List.prefix_rfl, List.prefix_append _ _, List.prefix_append _ _, List.prefix_rfl⟩
  | reply now sendTo frame =>
      obtain ⟨_, client, hclient, rfl⟩ := step_reply hstep
      exact ⟨List.prefix_rfl, List.prefix_rfl, List.prefix_rfl, World.step_trace hclient⟩
  | elsewhere server announced =>
      obtain ⟨_, rfl⟩ := step_elsewhere hstep
      exact ⟨List.prefix_rfl, List.prefix_rfl, List.prefix_append _ _, List.prefix_rfl⟩

/-- A device answers a segment of a request with an Abort. -/
theorem whole_of_given {one : Asked} {answer : Answer} (h : answer.Given ends)
    (hcarries : one.Carries answer.request) :
    answer.request = one.whole
      ∨ Endpoint.responseResult answer.response.apdu
        = .error (.abort .segmentationNotSupported) := by
  obtain ⟨answering, npdu, request, response⟩ := answer
  cases hcarries with
  | whole => exact .inl rfl
  | segment =>
      exact .inr (congrArg (fun answered : ServerResponse => Endpoint.responseResult answered.apdu)
        (dispatch_segmented rfl h))

/-- **A caller whose id was handed out once gets the answer to its own request**, given after the
request was made: or the Abort with which a device refuses a request in segments. -/
theorem answer_own {timeout : Duration} {retries : UInt8} {acceptedApdu : MaxApduSize}
    {server : ServerDispatcher ObjectService} {started asking : Conversation}
    (h : Reachable ends timeout retries acceptedApdu server started) {event : Event} {one : Asked}
    (hask : step ends started (.client event) = some asking)
    (hopens : opens started.client event = some one) {moves : List Move}
    (hrun : Machine.run (step ends) asking moves = some before)
    (honce : ∀ other ∈ before.asked, other.key = one.key → other = one) {now : Instant}
    {sendTo : SocketAddr → Bytes → Option IoError} {frame : Bytes}
    (hstep : step ends before (.reply now sendTo frame) = some after) {entry : Client.Entry}
    (hentry : entry ∈ World.entriesSince before.client after.client)
    {result : Except ClientError Bytes} (heffect : entry.effect = .answered one.response result) :
    ∃ answer ∈ before.answers.drop started.answers.length,
      answer.Given ends ∧ result = Endpoint.responseResult answer.response.apdu
        ∧ (answer.request = one.whole ∨ result = .error (.abort .segmentationNotSupported)) := by
  have hbefore : Reachable ends timeout retries acceptedApdu server before :=
    (Machine.Reachable.next h hask).run_to hrun
  obtain ⟨waiting, hwaiting, answer, hanswer, hchannel, haddress, hgiven, hid, ⟨other, hother, hkey,
    hcarries⟩, _, hresult⟩ := answer_authentic hbefore hstep hentry heffect
  have hrecords := run_grows hrun
  obtain ⟨_, client, hclient, rfl⟩ := step_client hask
  -- The caller's channel tells which transaction it was.
  have hone : one ∈ before.asked := by
    refine hrecords.asked.subset (List.mem_append_right _ ?_)
    exact Option.mem_toList.mpr hopens
  have hsame : waiting = one := hbefore.sound.own hone hwaiting hchannel
  subst hsame
  obtain rfl := honce other hother hkey
  refine ⟨answer, ?_, hgiven, hresult, ?_⟩
  · obtain ⟨later, hlater⟩ := hrecords.answers
    have hlater : started.answers ++ later = before.answers := hlater
    rw [← hlater] at hanswer ⊢
    rw [List.drop_left]
    rcases List.mem_append.mp hanswer with hold | hlate
    -- What was answered before was asked before, under an id that was not handed out yet.
    · obtain ⟨earlier, hearlier, hdevice, hcarried⟩ := (h.sound.answers answer hold).asked
      have hsame := honce earlier
        (hrecords.asked.subset (List.mem_append_left _ hearlier))
        (Prod.ext (hdevice.trans haddress.symm) (hcarried.same.1.symm.trans hid))
      have hissued := h.sound.issued earlier hearlier
      rw [hsame] at hissued
      exact absurd hissued (response_of_opens hclient hopens).1
    · exact hlate
  · rcases whole_of_given hgiven hcarries with hwhole | habort
    · exact .inl hwhole
    · exact .inr (hresult.trans habort)

/-! ## §6. A request that is refused -/

/-- Two ends. -/
def someEnds : Ends := ⟨.v4 1 47808, .v4 2 47808⟩

/-- Nothing has been said to a device that hosts one object. -/
def silence : Conversation :=
  start 3000000000 3 .up1476 (ObjectService.serverHosting ⟨.analogValue, .new 1 "Setpoint"⟩)

section Example

variable (choice : ConfirmedServiceChoice) (data : Bytes)

/-- A caller asks for a service. -/
def calling : Event :=
  .command 0 World.takesAll (.confirmed (.new someEnds.device) choice data 0)

/-- What it asked, under the first id. -/
def askedFor : Asked := ⟨.new someEnds.device, 0, choice, data, .up1476, 0⟩

/-- The request is on its way. -/
def requested : Conversation := (step someEnds silence (.client (calling choice data))).getD silence

/-- Its frame. -/
def requestFrame : Bytes := (sentToDevice someEnds (requested choice data).client.trace).headD []

/-- The device has answered it. -/
def answered : Conversation :=
  (step someEnds (requested choice data) (.request (requestFrame choice data))).getD
    (requested choice data)

/-- The frame of the answer. -/
def answerFrame : Bytes := (answered choice data).replies.headD []

/-- The client has the answer. -/
def returned : Conversation :=
  (step someEnds (answered choice data) (.reply 1 World.takesAll (answerFrame choice data))).getD
    (answered choice data)

end Example

theorem step_of_isSome {conversation : Conversation} {move : Move}
    (h : (step ends conversation move).isSome = true) :
    step ends conversation move = some ((step ends conversation move).getD conversation) := by
  obtain ⟨after, hafter⟩ := Option.isSome_iff_exists.mp h
  rw [hafter]
  rfl

/-- A call that goes well: each move of it is one, and the caller is told `result`. -/
structure GoesWell (choice : ConfirmedServiceChoice) (data : Bytes)
    (result : Except ClientError Bytes) : Prop where
  opens : opens silence.client (calling choice data) = some (askedFor choice data)
  sends : (step someEnds silence (.client (calling choice data))).isSome = true
  serves : (step someEnds (requested choice data)
    (.request (requestFrame choice data))).isSome = true
  tells : (step someEnds (answered choice data)
    (.reply 1 World.takesAll (answerFrame choice data))).isSome = true
  once : ∀ other ∈ (answered choice data).asked,
    other.key = (askedFor choice data).key → other = askedFor choice data
  told : (World.entriesSince (answered choice data).client (returned choice data).client).any
    (fun entry =>
      match entry.effect with
      | .answered channel found => channel == 0 && decide (found = result)
      | _ => false) = true

namespace GoesWell

variable {choice : ConfirmedServiceChoice} {data : Bytes} {result : Except ClientError Bytes}

theorem step_requested (h : GoesWell choice data result) :
    step someEnds silence (.client (calling choice data)) = some (requested choice data) :=
  step_of_isSome h.sends

theorem step_answered (h : GoesWell choice data result) :
    step someEnds (requested choice data) (.request (requestFrame choice data))
      = some (answered choice data) :=
  step_of_isSome h.serves

theorem step_returned (h : GoesWell choice data result) :
    step someEnds (answered choice data)
        (.reply 1 World.takesAll (answerFrame choice data))
      = some (returned choice data) :=
  step_of_isSome h.tells

theorem run_answered (h : GoesWell choice data result) :
    Machine.run (step someEnds) (requested choice data)
        [.request (requestFrame choice data)]
      = some (answered choice data) :=
  Machine.run_cons_eq_some.mpr ⟨answered choice data, h.step_answered, rfl⟩

/-- The caller is told. -/
theorem exists_told (h : GoesWell choice data result) :
    ∃ entry ∈ World.entriesSince (answered choice data).client
      (returned choice data).client, entry.effect = .answered 0 result := by
  obtain ⟨entry, hentry, hmatch⟩ := List.any_eq_true.mp h.told
  refine ⟨entry, hentry, ?_⟩
  split at hmatch
  · next channel found heffect =>
      obtain ⟨hchannel, hfound⟩ := Bool.and_eq_true_iff.mp hmatch
      rw [heffect, eq_of_beq hchannel, of_decide_eq_true hfound]
  · cases hmatch

end GoesWell

/-- The device does not execute ReinitializeDevice. -/
theorem reinitialize_goesWell :
    GoesWell .reinitializeDevice [] (.error (.rejected .unrecognizedService)) := by
  constructor <;> decide +kernel

theorem rejected_reachable : Reachable someEnds 3000000000 3 .up1476
    (ObjectService.serverHosting ⟨.analogValue, .new 1 "Setpoint"⟩)
    (answered .reinitializeDevice []) :=
  Machine.Reachable.next (Machine.Reachable.next ⟨[], rfl⟩ reinitialize_goesWell.step_requested)
    reinitialize_goesWell.step_answered

/-- The rejection of the one request. -/
theorem answer_authentic_refused :
    ∃ one ∈ (answered .reinitializeDevice []).asked,
      ∃ answer ∈ (answered .reinitializeDevice []).answers,
        one.response = 0 ∧ one.target.address = someEnds.device
          ∧ answer.Given someEnds ∧ answer.request.invokeId = one.invokeId
          ∧ (∃ other ∈ (answered .reinitializeDevice []).asked,
              other.key = one.key ∧ other.Carries answer.request)
          ∧ World.AboutService answer.response.apdu one.serviceChoice
          ∧ .error (.rejected .unrecognizedService)
            = Endpoint.responseResult answer.response.apdu := by
  obtain ⟨entry, hentry, heffect⟩ := reinitialize_goesWell.exists_told
  exact answer_authentic rejected_reachable reinitialize_goesWell.step_returned hentry heffect

theorem answer_own_refused :
    ∃ answer ∈ (answered .reinitializeDevice []).answers.drop silence.answers.length,
      answer.Given someEnds
        ∧ .error (.rejected .unrecognizedService) = Endpoint.responseResult answer.response.apdu
        ∧ (answer.request = (askedFor .reinitializeDevice []).whole
          ∨ (.error (.rejected .unrecognizedService) : Except ClientError Bytes)
            = .error (.abort .segmentationNotSupported)) := by
  obtain ⟨entry, hentry, heffect⟩ := reinitialize_goesWell.exists_told
  exact answer_own ⟨[], rfl⟩ reinitialize_goesWell.step_requested reinitialize_goesWell.opens
    reinitialize_goesWell.run_answered reinitialize_goesWell.once
    reinitialize_goesWell.step_returned hentry heffect

end BacnetRs.System
