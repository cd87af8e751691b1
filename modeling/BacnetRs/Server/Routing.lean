/-
  BacnetRs.Server.Routing — one request to many devices (`route` in
  `server/router.rs`).

  A request that names a network, or all of them, is given to each device it
  reaches, in the order of their addresses.  The devices are apart: each is a
  dispatcher of its own, and what one answers is no matter to another.  The
  loop over them is not: a dispatcher that fails ends it, and what the devices
  before it answered is lost along with what those after it would have.

    * `dispatch_ok_iff`     — when a device's dispatcher answers or stays silent, and
                            does not fail.
    * `askEach_of_nodup`    — devices that are reached once each answer from the state
                            they were in.
    * `replies_exact_iff`   — when the replies are those of the devices, one by one.
-/
import BacnetRs.Server.RouterDevices
import BacnetRs.Server.Serving

namespace BacnetRs.Server

open BacnetRs.Encoding BacnetRs.Object BacnetRs.Service BacnetRs.Network BacnetRs.App

/-! ## §1. A device on its own -/

namespace ServerDispatcher

/-- A device can make the announcement that a Who-Is asks for. -/
def Announceable (server : ServerDispatcher ObjectService) (data : Bytes) : Prop :=
  ∀ request, WhoIsRequest.decode data = .ok request →
    request.matches server.objects.database.view.deviceId.instanceNumber = true →
    ∃ iam octets, iAm server.objects.database.view = .ok iam ∧ iam.encode = .ok octets

/-- What a request asks a device for can be encoded: its announcement, or all that is read. -/
def Answerable (server : ServerDispatcher ObjectService) : Apdu → Prop
  | .unconfirmedRequest .whoIs data => server.Announceable data
  | .confirmedRequest request =>
      request.segmented = true
        ∨ server.objects.supportsConfirmedService request.serviceChoice = false
        ∨ server.objects.ReadsEncodable request.serviceChoice request.serviceData
  | _ => True

variable {server : ServerDispatcher ObjectService} {npdu : Npdu} {source : Option SocketAddr}

theorem whoIs_ok_iff (data : Bytes) :
    (∃ response, whoIs server.objects.database.view data = .ok response)
      ↔ server.Announceable data := by
  unfold whoIs Announceable
  rcases (WhoIsRequest.decode_meets data).cases with ⟨request, hok, _⟩ | ⟨e, herror⟩
  · rw [hok]
    simp only [Except.ok.injEq, forall_eq']
    cases hmatches : request.matches server.objects.database.view.deviceId.instanceNumber with
    | false => exact iff_of_true ⟨none, rfl⟩ (fun h => by cases h)
    | true =>
        cases hiam : iAm server.objects.database.view with
        | error refused =>
            apply iff_of_false
            · rintro ⟨response, h⟩
              cases h
            · intro h
              obtain ⟨_, _, hsome, _⟩ := h rfl
              cases hsome
        | ok iam =>
            cases hencoded : iam.encode with
            | error refused =>
                apply iff_of_false
                · rintro ⟨response, h⟩
                  simp [Checked.ofExcept, Checked.mapErr, Checked.fail, hencoded, bind,
                    Except.bind] at h
                · intro h
                  obtain ⟨found, octets, hsome, hoctets⟩ := h rfl
                  cases hsome
                  rw [hencoded] at hoctets
                  cases hoctets
            | ok octets =>
                apply iff_of_true
                · refine ⟨some (.unconfirmedRequest .iAm octets), ?_⟩
                  simp [Checked.ofExcept, Checked.mapErr, hencoded, bind, Except.bind, pure,
                    Except.pure]
                · exact fun _ => ⟨iam, octets, rfl, hencoded⟩
  · rw [herror]
    exact iff_of_true ⟨none, rfl⟩ (fun request h => by cases h)

/-- **A dispatcher fails only where it cannot encode.** -/
theorem dispatch_ok_iff (hnpdu : npdu.isNetworkMessage = false) (apdu : Apdu) :
    (∃ response, (server.dispatch ObjectService.services npdu apdu source).2 = .ok response)
      ↔ server.Answerable apdu := by
  have hmap : ∀ {α β : Type} {f : α → β} {x : Checked ServerError α},
      (∃ b, x.map f = .ok b) ↔ ∃ a, x = .ok a := by
    intro α β f x
    cases x with
    | error fault => exact iff_of_false (fun ⟨_, h⟩ => by cases h) (fun ⟨_, h⟩ => by cases h)
    | ok a => exact iff_of_true ⟨f a, rfl⟩ ⟨a, rfl⟩
  unfold dispatch
  rw [hnpdu, if_neg Bool.false_ne_true]
  cases apdu with
  | unconfirmedRequest choice data =>
      cases choice with
      | whoIs => exact hmap.trans (whoIs_ok_iff data)
      | _ => exact iff_of_true ⟨none, rfl⟩ trivial
  | confirmedRequest request =>
      simp only
      cases hsegmented : request.segmented with
      | true => exact iff_of_true ⟨_, rfl⟩ (.inl hsegmented)
      | false =>
          refine (hmap.trans hmap).trans ?_
          show (∃ answer, (server.objects.dispatchConfirmed request.invokeId request.serviceChoice
            request.serviceData source).2 = .ok answer) ↔ _
          have hanswers := ObjectService.dispatchConfirmed_answers_iff server.objects
            request.invokeId request.serviceChoice request.serviceData source
          show _ ↔ request.segmented = true ∨ _
          rw [hsegmented, ← hanswers]
          simp only [Bool.false_eq_true, false_or]
          exact exists_congr (fun answer =>
            (and_iff_left_of_imp ObjectService.dispatchConfirmed_ok).symm)
  | simpleAck invokeId choice => exact iff_of_true ⟨none, rfl⟩ trivial
  | complexAck ack => exact iff_of_true ⟨none, rfl⟩ trivial
  | segmentAck negative server' invokeId sequenceNumber windowSize =>
      exact iff_of_true ⟨none, rfl⟩ trivial
  | error invokeId choice errorClass errorCode firstFailed => exact iff_of_true ⟨none, rfl⟩ trivial
  | reject invokeId reason => exact iff_of_true ⟨none, rfl⟩ trivial
  | abort server' invokeId reason => exact iff_of_true ⟨none, rfl⟩ trivial

/-- Reading changes nothing. -/
theorem dispatchConfirmed_of_read {service : ObjectService} {choice : ConfirmedServiceChoice}
    (hread : choice = .readProperty ∨ choice = .readPropertyMultiple) (invokeId : UInt8)
    (data : Bytes) : (service.dispatchConfirmed invokeId choice data source).1 = service := by
  have hanswer : ∀ response, (service.readAnswer invokeId choice response).1 = service := by
    intro response
    cases response <;> rfl
  unfold ObjectService.dispatchConfirmed
  split
  · rfl
  · rcases hread with rfl | rfl
    · simp only [ObjectService.serve]
      split
      · exact hanswer _
      · rfl
      · rfl
    · simp only [ObjectService.serve]
      split
      · exact hanswer _
      · rfl
      · rfl

/-- Being asked does not change whether a device can answer. -/
theorem answerable_dispatch (apdu : Apdu) :
    ((server.dispatch ObjectService.services npdu apdu source).1.Answerable apdu)
      ↔ server.Answerable apdu := by
  unfold dispatch
  by_cases hnpdu : npdu.isNetworkMessage = true
  · rw [if_pos hnpdu]
  rw [if_neg hnpdu]
  cases apdu with
  | unconfirmedRequest choice data => cases choice <;> exact Iff.rfl
  | confirmedRequest request =>
      simp only
      by_cases hsegmented : request.segmented = true
      · rw [if_pos hsegmented]
      · rw [if_neg hsegmented]
        show (request.segmented = true ∨ ((server.objects.dispatchConfirmed request.invokeId
            request.serviceChoice request.serviceData source).1.supportsConfirmedService
              request.serviceChoice = false
            ∨ (server.objects.dispatchConfirmed request.invokeId request.serviceChoice
              request.serviceData source).1.ReadsEncodable request.serviceChoice
                request.serviceData)) ↔ _
        by_cases hread : request.serviceChoice = .readProperty
            ∨ request.serviceChoice = .readPropertyMultiple
        · rw [dispatchConfirmed_of_read hread]
          exact Iff.rfl
        · -- Nothing that is not read has to be encoded.
          have hencodable : ∀ service : ObjectService,
              service.ReadsEncodable request.serviceChoice request.serviceData := by
            intro service
            unfold ObjectService.ReadsEncodable
            split
            · next heq => exact absurd (.inl heq) hread
            · next heq => exact absurd (.inr heq) hread
            · trivial
          exact iff_of_true (.inr (.inr (hencodable _))) (.inr (.inr (hencodable _)))
  | simpleAck invokeId choice => exact iff_of_true trivial trivial
  | complexAck ack => exact Iff.rfl
  | segmentAck negative server' invokeId sequenceNumber windowSize => exact Iff.rfl
  | error invokeId choice errorClass errorCode firstFailed => exact iff_of_true trivial trivial
  | reject invokeId reason => exact iff_of_true trivial trivial
  | abort server' invokeId reason => exact iff_of_true trivial trivial

/-- A response goes back to where the request came from. -/
theorem npdu_of_dispatch {apdu : Apdu} {response : ServerResponse}
    (h : (server.dispatch ObjectService.services npdu apdu source).2 = .ok (some response)) :
    response.npdu = (respond npdu response.apdu).npdu := by
  have hmap : ∀ {x : Checked ServerError (Option Apdu)},
      x.map (fun answer => answer.map (respond npdu)) = .ok (some response) →
        response.npdu = (respond npdu response.apdu).npdu := by
    intro x hx
    cases x with
    | error fault => cases hx
    | ok answer =>
        cases answer with
        | none => cases hx
        | some answer =>
            cases hx
            rfl
  unfold dispatch at h
  split at h
  · cases h
  -- Only a Who-Is and a confirmed request are answered, both by way of `respond`.
  · cases apdu with
    | unconfirmedRequest choice data =>
        cases choice with
        | whoIs => exact hmap h
        | _ => cases h
    | confirmedRequest request =>
        simp only at h
        split at h
        · cases h
          rfl
        · cases hconfirmed : (server.confirmed ObjectService.services request source).2 with
          | error fault =>
              rw [hconfirmed] at h
              cases h
          | ok answer =>
              rw [hconfirmed] at h
              cases h
              rfl
    | simpleAck invokeId choice => cases h
    | complexAck ack => cases h
    | segmentAck negative server' invokeId sequenceNumber windowSize => cases h
    | error invokeId choice errorClass errorCode firstFailed => cases h
    | reject invokeId reason => cases h
    | abort server' invokeId reason => cases h

end ServerDispatcher

/-! ## §2. Each device in turn -/

section Loop

variable {σ δ : Type}

/-- The outcome of a request at each device in turn, whatever the others answer. -/
def askEach (dispatch : δ → Dispatch σ) (npdu : Npdu) (apdu : Apdu) (source : Option SocketAddr) :
    σ → List (NetworkAddress × δ) →
      List (NetworkAddress × Checked ServerError (Option ServerResponse))
  | _, [] => []
  | state, (address, device) :: rest =>
      (address, (dispatch device state npdu apdu source).2)
        :: askEach dispatch npdu apdu source (dispatch device state npdu apdu source).1 rest

/-- The reply to an outcome, if it is a response, from the device's address. -/
def replyOf (replyTo : SocketAddr)
    (outcome : NetworkAddress × Checked ServerError (Option ServerResponse)) :
    Option (Bytes × SocketAddr) :=
  match outcome.2 with
  | .ok (some response) =>
      some (encodeResponse { response with npdu := response.npdu.setSource outcome.1 }, replyTo)
  | _ => none

/-- **The loop replies with what each device answers, if none fails.** -/
theorem routeEach_eq_ok (dispatch : δ → Dispatch σ) (npdu : Npdu) (apdu : Apdu) (alone : Bool)
    (source replyTo : SocketAddr) (reached : List (NetworkAddress × δ)) :
    ∀ (state : σ) (replies : List (Bytes × SocketAddr)),
      (routeEach dispatch npdu (.ok apdu) alone source replyTo state reached).2 = .ok replies
        ↔ (∀ outcome ∈ askEach dispatch npdu apdu (some source) state reached,
            ∃ response, outcome.2 = .ok response)
          ∧ replies = (askEach dispatch npdu apdu (some source) state reached).filterMap
              (replyOf replyTo) := by
  induction reached with
  | nil =>
      intro state replies
      show Except.ok [] = Except.ok replies ↔ _
      simp [askEach, eq_comm]
  | cons device rest ih =>
      obtain ⟨address, device⟩ := device
      intro state replies
      have hanswer : answer (dispatch device) state npdu (.ok apdu) (some source)
          = dispatch device state npdu apdu (some source) := rfl
      have hread : (!(Except.ok apdu : Except Bytes Apdu).toOption.isNone || alone) = true := rfl
      simp only [routeEach, askEach, hanswer]
      generalize dispatch device state npdu apdu (some source) = outcome
      obtain ⟨after, result⟩ := outcome
      cases result with
      | error fault =>
          -- The devices that are left are not asked.
          apply iff_of_false
          · intro h
            cases h
          · rintro ⟨hall, _⟩
            obtain ⟨response, h⟩ := hall _ List.mem_cons_self
            cases h
      | ok response =>
          have hfirst : (∀ outcome ∈ (address, (Except.ok response :
                Checked ServerError (Option ServerResponse)))
                :: askEach dispatch npdu apdu (some source) after rest,
                ∃ response, outcome.2 = .ok response)
              ↔ ∀ outcome ∈ askEach dispatch npdu apdu (some source) after rest,
                ∃ response, outcome.2 = .ok response := by
            rw [List.forall_mem_cons]
            exact and_iff_right ⟨response, rfl⟩
          simp only
          rw [hfirst, List.filterMap_cons]
          have hmore := ih after
          cases hrest : (routeEach dispatch npdu (.ok apdu) alone source replyTo after rest).2 with
          | error fault =>
              apply iff_of_false
              · intro h
                cases h
              · rintro ⟨hall, _⟩
                have hok := (hmore _).mpr ⟨hall, rfl⟩
                rw [hrest] at hok
                cases hok
          | ok more =>
              obtain ⟨hall, hreplies⟩ := (hmore more).mp hrest
              rw [and_iff_right hall, ← hreplies]
              show Except.ok _ = Except.ok replies ↔ _
              rw [Except.ok.injEq, eq_comm]
              cases response <;> exact Iff.rfl

end Loop

/-! ## §3. Devices apart from each other -/

section Devices

variable {δ : Type}

/-- What is reached is in the order of the addresses. -/
theorem reachedBy_ascending {routes : Routes δ} (h : Machine.Reachable Routes.step .new routes)
    {destination : NetworkAddress} {reached : List (NetworkAddress × δ)}
    (hreached : routes.reachedBy destination = some reached) :
    Ordered.Ascending (fun device => addressOrder device.1) reached := by
  have hascending := (Routes.reachable_sound h).devices_ascending
  unfold Routes.reachedBy at hreached
  split at hreached
  · cases hreached
    exact hascending
  · split at hreached
    · cases hreached
    · split at hreached
      · cases hreached
        exact hascending.sublist
          ((List.takeWhile_sublist _).trans (List.dropWhile_sublist _))
      · cases hreached
        cases routes.devices.find? (fun device => device.1 == destination) with
        | none => exact List.Pairwise.nil
        | some device => exact List.pairwise_singleton _ device

variable [DecidableEq δ]

/-- The devices of a site, each a dispatcher of its own. -/
abbrev Devices (δ : Type) := δ → ServerDispatcher ObjectService

/-- The dispatcher of one device, as it changes the site. -/
def hosted (device : δ) : Dispatch (Devices δ) :=
  fun devices npdu apdu source =>
    let (after, response) := (devices device).dispatch ObjectService.services npdu apdu source
    (Function.update devices device after, response)

variable {npdu : Npdu} {apdu : Apdu} {source : Option SocketAddr}

/-- **A device reached at one address only answers from the state it was in**, whatever was
asked of the others before it. -/
theorem askEach_of_nodup (reached : List (NetworkAddress × δ)) :
    ∀ devices : Devices δ, (reached.map Prod.snd).Nodup →
      askEach hosted npdu apdu source devices reached
        = reached.map (fun device => (device.1,
            ((devices device.2).dispatch ObjectService.services npdu apdu source).2)) := by
  induction reached with
  | nil =>
      intro devices _
      rfl
  | cons device rest ih =>
      obtain ⟨address, device⟩ := device
      intro devices hnodup
      obtain ⟨hfresh, hrest⟩ := List.nodup_cons.mp hnodup
      have hlater := ih (hosted device devices npdu apdu source).1 hrest
      unfold askEach
      rw [hlater, List.map_cons]
      congr 1
      apply List.map_congr_left
      intro other hother
      have hne : other.2 ≠ device := by
        intro hsame
        exact hfresh (List.mem_map.mpr ⟨other, hother, hsame⟩)
      show (other.1, ((Function.update devices device _ other.2).dispatch _ npdu apdu source).2)
        = _
      rw [Function.update_of_ne hne]

/-- No device fails exactly when each can encode what it is asked for. -/
theorem askEach_ok_iff (hnpdu : npdu.isNetworkMessage = false)
    (reached : List (NetworkAddress × δ)) :
    ∀ devices : Devices δ,
      (∀ outcome ∈ askEach hosted npdu apdu source devices reached,
          ∃ response, outcome.2 = .ok response)
        ↔ ∀ device ∈ reached, (devices device.2).Answerable apdu := by
  induction reached with
  | nil =>
      intro devices
      simp [askEach]
  | cons device rest ih =>
      obtain ⟨address, device⟩ := device
      intro devices
      unfold askEach
      rw [List.forall_mem_cons, List.forall_mem_cons, ih]
      apply and_congr (ServerDispatcher.dispatch_ok_iff hnpdu apdu)
      apply forall₂_congr
      intro other hother
      by_cases hsame : other.2 = device
      · rw [hsame]
        show (Function.update devices device _ device).Answerable apdu ↔ _
        rw [Function.update_self]
        exact ServerDispatcher.answerable_dispatch apdu
      · show (Function.update devices device _ other.2).Answerable apdu ↔ _
        rw [Function.update_of_ne hsame]

/-- The header of a reply: from the device, and to where the request came from. -/
def replyHeader (npdu : Npdu) (address : NetworkAddress) : Npdu where
  version := 1
  control := ⟨false, npdu.source.isSome, true, false, 0⟩
  destination := npdu.source
  source := some address
  hopCount := npdu.source.map (fun _ => 255)

/-- The replies to a request: one for each outcome that is a response, from its address. -/
def repliesTo (npdu : Npdu) (replyTo : SocketAddr)
    (outcomes : List (NetworkAddress × Checked ServerError (Option ServerResponse))) :
    List (Bytes × SocketAddr) :=
  outcomes.filterMap (fun outcome =>
    match outcome.2 with
    | .ok (some response) =>
        some (encodeResponse ⟨replyHeader npdu outcome.1, response.apdu⟩, replyTo)
    | _ => none)

theorem setSource_respond (npdu : Npdu) (apdu : Apdu) (address : NetworkAddress) :
    (respond npdu apdu).npdu.setSource address = replyHeader npdu address := by
  unfold respond replyHeader
  cases npdu.source <;> rfl

/-- What the loop sends is what the header says. -/
theorem filterMap_replyOf (replyTo : SocketAddr) (reached : List (NetworkAddress × δ)) :
    ∀ devices : Devices δ,
      (askEach hosted npdu apdu source devices reached).filterMap (replyOf replyTo)
        = repliesTo npdu replyTo (askEach hosted npdu apdu source devices reached) := by
  induction reached with
  | nil =>
      intro devices
      rfl
  | cons device rest ih =>
      obtain ⟨address, device⟩ := device
      intro devices
      unfold askEach repliesTo
      rw [List.filterMap_cons, List.filterMap_cons, ih]
      have hreply : replyOf replyTo (address, (hosted device devices npdu apdu source).2)
          = match (hosted device devices npdu apdu source).2 with
            | .ok (some response) =>
                some (encodeResponse ⟨replyHeader npdu address, response.apdu⟩, replyTo)
            | _ => none := by
        unfold replyOf
        cases hanswer : (hosted device devices npdu apdu source).2 with
        | error fault => rfl
        | ok response =>
            cases response with
            | none => rfl
            | some response =>
                have hnpdu := ServerDispatcher.npdu_of_dispatch
                  (show ((devices device).dispatch ObjectService.services npdu apdu source).2
                    = .ok (some response) from hanswer)
                simp only
                rw [hnpdu, setSource_respond]
      rw [hreply]
      rfl

/-- A reject goes back to where the request came from too. -/
theorem npdu_of_undecodable {data : Bytes} {response : ServerResponse}
    (h : responseForUndecodableApdu npdu data = some response) :
    response.npdu = (respond npdu response.apdu).npdu := by
  obtain ⟨apdu, rfl, _⟩ := responseForUndecodableApdu_eq_some h
  rfl

/-- What each device answers to a payload.  One that cannot be read is no matter to a device,
and only one addressed on its own has it rejected. -/
def answers (devices : Devices δ) (npdu : Npdu) (payload : Bytes) (alone : Bool)
    (source : SocketAddr) (reached : List (NetworkAddress × δ)) :
    List (NetworkAddress × Checked ServerError (Option ServerResponse)) :=
  match requestOf payload with
  | .ok apdu => askEach hosted npdu apdu (some source) devices reached
  | .error data =>
      reached.map (fun device =>
        (device.1, .ok (if alone then responseForUndecodableApdu npdu data else none)))

/-- What cannot be read suppresses nothing. -/
theorem routeEach_undecodable (data : Bytes) (alone : Bool) (source replyTo : SocketAddr)
    (devices : Devices δ) (reached : List (NetworkAddress × δ)) :
    (routeEach hosted npdu (.error data) alone source replyTo devices reached).2
      = .ok (repliesTo npdu replyTo (reached.map (fun device =>
          (device.1, .ok (if alone then responseForUndecodableApdu npdu data else none))))) := by
  induction reached with
  | nil => rfl
  | cons device rest ih =>
      obtain ⟨address, device⟩ := device
      cases alone with
      | false => exact ih
      | true =>
          have hloop : (routeEach hosted npdu (.error data) true source replyTo devices
                ((address, device) :: rest)).2
              = ((routeEach hosted npdu (.error data) true source replyTo devices rest).2).map
                  (fun replies => ((responseForUndecodableApdu npdu data).map (fun response =>
                    (encodeResponse { response with npdu := response.npdu.setSource address },
                      replyTo))).toList ++ replies) := rfl
          rw [hloop, ih]
          cases hresponse : responseForUndecodableApdu npdu data with
          | none => simp [repliesTo, Except.map]
          | some response =>
              have hheader := npdu_of_undecodable hresponse
              simp [repliesTo, Except.map, hheader, setSource_respond]

/-- **The replies are those of the devices, one by one and in the order of their addresses,
exactly when each device can encode what it is asked for**: its announcement, or all that the
request reads of it.  Each reply is from the device's address, and goes to where the request
came from. -/
theorem replies_exact_iff {data payload : Bytes} {origin : Option SocketAddr}
    {destination : NetworkAddress} {reached : List (NetworkAddress × δ)} {routes : Routes δ}
    (hroutes : Machine.Reachable Routes.step .new routes)
    (hframe : decodeBacnetIpFrame data = some (npdu, payload, origin))
    (hnpdu : npdu.isNetworkMessage = false) (hdestination : npdu.destination = some destination)
    (hreached : routes.reachedBy destination = some reached) (devices : Devices δ)
    (source : SocketAddr) :
    Ordered.Ascending (fun device => addressOrder device.1) reached
      ∧ ((route routes hosted devices data source).2
          = .ok (repliesTo npdu (origin.getD source)
              (answers devices npdu payload (reached.length == 1 && !destination.address.isEmpty)
                source reached))
        ↔ ∀ apdu, requestOf payload = .ok apdu →
            ∀ device ∈ reached, (devices device.2).Answerable apdu) := by
  refine ⟨reachedBy_ascending hroutes hreached, ?_⟩
  obtain ⟨header, hheader⟩ := header_of_frame hframe
  -- Routed to devices, the datagram is answered by the loop over them.
  have hloop : (route routes hosted devices data source).2
      = (routeEach hosted npdu (requestOf payload)
          (reached.length == 1 && !destination.address.isEmpty) source (origin.getD source)
          devices reached).2 := by
    unfold route
    rw [hheader, hframe]
    simp only [hnpdu, hdestination, hreached]
    rfl
  rw [hloop]
  unfold answers
  cases hrequest : requestOf payload with
  | error undecodable =>
      apply iff_of_true
      · exact routeEach_undecodable _ _ _ _ _ _
      · intro apdu h
        cases h
  | ok apdu =>
      simp only [Except.ok.injEq, forall_eq']
      rw [routeEach_eq_ok, filterMap_replyOf, askEach_ok_iff hnpdu]
      exact and_iff_left rfl

end Devices

/-- Two devices on one network. -/
def pairRoutes : Routes Bool :=
  [.addNetwork 1001, .insert ⟨1001, [1]⟩ false, .insert ⟨1001, [2]⟩ true].foldl Routes.edited .new

/-- The first has an instance number of its own, the second is device 2. -/
def pairOf (instance_ : UInt32) : Devices Bool
  | false => ⟨.new (.new (.new instance_ "First")), .empty⟩
  | true => ⟨.new (.new (.new 2 "Second")), .empty⟩

/-- A Who-Is to every network. -/
def whoIsEverywhere : Bytes :=
  [0x81, 0x0A, 0x00, 0x0C, 0x01, 0x20, 0xFF, 0xFF, 0x00, 0xFF, 0x10, 0x08]

/-- The header it carries. -/
def npduEverywhere : Npdu :=
  { Npdu.new.setDestination ⟨0xFFFF, []⟩ with hopCount := some 255 }

/-- Who asks. -/
def everywhereAsker : SocketAddr := .v4 0x0A000005 47808

/-- Devices 1 and 2 both announce themselves. -/
theorem replies_exact_iff_pair :
    (route pairRoutes hosted (pairOf 1) whoIsEverywhere everywhereAsker).2
      = .ok (repliesTo npduEverywhere everywhereAsker
          (answers (pairOf 1) npduEverywhere [0x10, 0x08] false everywhereAsker
            pairRoutes.devices)) := by
  have hroutes : Machine.Reachable Routes.step .new pairRoutes :=
    ⟨[.addNetwork 1001, .insert ⟨1001, [1]⟩ false, .insert ⟨1001, [2]⟩ true], rfl⟩
  have hannounces : ∀ device, ∃ iam octets,
      iAm (pairOf 1 device).objects.database.view = .ok iam ∧ iam.encode = .ok octets := by
    intro device
    cases device <;> exact ⟨_, _, rfl, rfl⟩
  have hframe : decodeBacnetIpFrame whoIsEverywhere = some (npduEverywhere, [0x10, 0x08], none) :=
    rfl
  apply (replies_exact_iff hroutes hframe rfl rfl rfl (pairOf 1) everywhereAsker).2.mpr
  intro apdu hrequest device _
  have hapdu : apdu = .unconfirmedRequest .whoIs [] :=
    (Except.ok.inj (show Except.ok (.unconfirmedRequest .whoIs []) = Except.ok apdu from
      hrequest)).symm
  rw [hapdu]
  intro request _ _
  exact hannounces device.2

/-- Device 2 has an announcement to make, and it is lost: the device before it has an instance
number that does not fit an identifier, and the whole request fails. -/
theorem announcement_suppressed :
    (((pairOf 4194304 true).dispatch ObjectService.services npduEverywhere
        (.unconfirmedRequest .whoIs []) (some everywhereAsker)).2.toOption.any Option.isSome) = true
      ∧ (route pairRoutes hosted (pairOf 4194304) whoIsEverywhere everywhereAsker).2.isOk
        = false := by
  constructor
  · rfl
  · decide +kernel

end BacnetRs.Server
