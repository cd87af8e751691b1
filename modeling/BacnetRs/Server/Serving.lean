/-
  BacnetRs.Server.Serving — the confirmed services of a device
  (`server/dispatcher.rs`, `server/object_service.rs`).

  A confirmed request is refused when the device does not claim its service or
  its data does not decode; otherwise the service is performed and answered, with
  an acknowledgement or with the error that it met.  Whatever is answered is
  held to the size both sides can take.

    * `writePropertyMultiple_served` — WritePropertyMultiple is the single writes
                            in order, up to the first that fails.
    * `confirmed_answered_iff` — a confirmed request is answered exactly when all that it
                            reads can be encoded.
-/
import BacnetRs.App.ApduCodec
import BacnetRs.Server.Dispatcher
import BacnetRs.Server.Writing
import BacnetRs.Service.AcknowledgeAlarm

namespace BacnetRs.Server

open BacnetRs.Encoding BacnetRs.Object BacnetRs.Property BacnetRs.Service BacnetRs.Network
  BacnetRs.App BacnetRs.Cov

/-! ## §1. The services -/

/-- `services_supported_bit`: where a service that this server executes sits in
Protocol_Services_Supported.  The two enumerations part after requestKey. -/
def servicesSupportedBit : ConfirmedServiceChoice → Option Nat
  | .acknowledgeAlarm => some 0
  | .subscribeCov => some 5
  | .readProperty => some 12
  | .readPropertyMultiple => some 14
  | .writeProperty => some 15
  | .writePropertyMultiple => some 16
  | .subscribeCovProperty => some 38
  | _ => none

/-- `complex_ack`. -/
def complexAck (invokeId : UInt8) (serviceChoice : ConfirmedServiceChoice) (serviceData : Bytes) :
    Apdu :=
  .complexAck
    { segmented := false, moreFollows := false, invokeId, sequenceNumber := none
      proposedWindowSize := none, serviceChoice, serviceData }

/-- `reject`. -/
def reject (invokeId : UInt8) (reason : RejectReason) : Apdu := .reject invokeId reason

/-- `object_error_apdu`. -/
def objectErrorApdu (invokeId : UInt8) (serviceChoice : ConfirmedServiceChoice)
    (error : ObjectError) : Apdu :=
  .error invokeId serviceChoice (objectErrorCodes error).1 (objectErrorCodes error).2 none

namespace ObjectService

/-- `supports_confirmed_service`. -/
def supportsConfirmedService (self : ObjectService) (service : ConfirmedServiceChoice) : Bool :=
  match servicesSupportedBit service with
  | none => false
  | some bit =>
      match self.database.getProperty self.database.deviceId .protocolServicesSupported with
      | .ok (.bitString bits) => bits[bit]?.getD false
      | _ => false

/-- `acknowledge_alarm`: the time stamp must be the one recorded for the transition.  A
transition awaiting acknowledgement is queued; one that is not is told to nobody. -/
def acknowledgeAlarm (self : ObjectService) (request : AcknowledgeAlarmRequest) :
    Attempt ObjectError ObjectService :=
  let transition := EventTransition.forState request.eventStateAcknowledged
  match self.database.objects.lookup request.eventObjectIdentifier with
  | none => .refused self .notFound
  | some object =>
      match BacnetObject.intrinsic object with
      | none => .refused self .invalidTimeStamp
      | some reporting =>
          -- The time stamp must be the one last recorded for the transition.
          if reporting.eventTimeStamps.get transition.bitIndex ≠ request.timeStamp then
            .refused self .invalidTimeStamp
          else
            let acknowledged :=
              { reporting with ackedTransitions := reporting.ackedTransitions.set transition true }
            .done
              { self with
                database := self.database.withObjectMut request.eventObjectIdentifier
                  (fun _ state => BacnetObject.setIntrinsic state acknowledged)
                acknowledgements :=
                  -- A transition acknowledged before is not announced again.
                  if reporting.ackedTransitions.contains transition then self.acknowledgements
                  else
                    self.acknowledgements
                      ++ [⟨request.eventObjectIdentifier, request.eventStateAcknowledged⟩] }

/-- `subscribe_cov`, as it changes the service. -/
def subscribeCov (self : ObjectService) (source : Option SocketAddr)
    (request : SubscribeCovRequest) : Attempt ObjectError ObjectService :=
  .store self (fun subscriptions => { self with subscriptions := subscriptions })
    (Server.subscribeCov self.database.view self.subscriptions request source)

/-- `subscribe_cov_property`, as it changes the service. -/
def subscribeCovProperty (self : ObjectService) (source : Option SocketAddr)
    (request : SubscribeCovPropertyRequest) : Attempt ObjectError ObjectService :=
  .store self (fun subscriptions => { self with subscriptions := subscriptions })
    (Server.subscribeCovProperty self.database.view self.subscriptions request source)

/-! ## §2. Their answers -/

/-- What a service leaves, and its answer. -/
abbrev Served := ObjectService × Checked ServerError Apdu

/-- The answer to a service that only reads: the encoded response, or the object's error. -/
def readAnswer (self : ObjectService) (invokeId : UInt8) (choice : ConfirmedServiceChoice)
    (response : Except ObjectError (Except EncodingError Bytes)) : Served :=
  match response with
  | .ok encoded =>
      (self, (Checked.ofExcept encoded).mapErr ServerError.encoding |>.map
        (complexAck invokeId choice))
  | .error error => (self, .ok (objectErrorApdu invokeId choice error))

/-- The answer to a service that changes something. -/
def changeAnswer (invokeId : UInt8) (choice : ConfirmedServiceChoice)
    (attempt : Attempt ObjectError ObjectService) : Served :=
  match attempt with
  | (after, .ok ()) => (after, .ok (.simpleAck invokeId choice.toByte))
  | (after, .error error) => (after, .ok (objectErrorApdu invokeId choice error))

/-- The answer to WritePropertyMultiple, which names the first write that failed. -/
def changeAnswerMultiple (invokeId : UInt8) (choice : ConfirmedServiceChoice)
    (attempt : Attempt (ObjectError × ObjectPropertyReference) ObjectService) : Served :=
  match attempt with
  | (after, .ok ()) => (after, .ok (.simpleAck invokeId choice.toByte))
  | (after, .error (error, firstFailed)) =>
      (after, .ok (.error invokeId choice (objectErrorCodes error).1 (objectErrorCodes error).2
        (some firstFailed)))

/-- A request is served once its data is decoded, and rejected when it does not decode. -/
def serve {α : Type} (self : ObjectService) (invokeId : UInt8) (decoded : Decoded α)
    (perform : α → Served) : Served :=
  match decoded with
  | .ok request => perform request
  | .error .panic => (self, .error .panic)
  | .error (.error _) => (self, .ok (reject invokeId .invalidTag))

/-- `dispatch_confirmed`. -/
def dispatchConfirmed (self : ObjectService) (invokeId : UInt8) (choice : ConfirmedServiceChoice)
    (data : Bytes) (source : Option SocketAddr) : Served :=
  -- Refused before anything of the request is read.
  if self.supportsConfirmedService choice = false then
    (self, .ok (reject invokeId .unrecognizedService))
  else
    match choice with
    | .readProperty =>
        self.serve invokeId (ReadPropertyRequest.decode data) (fun request =>
          self.readAnswer invokeId choice
            ((self.readProperty request).map ReadPropertyResponse.encode))
    | .readPropertyMultiple =>
        self.serve invokeId (ReadPropertyMultipleRequest.decode data) (fun request =>
          self.readAnswer invokeId choice (.ok (self.readPropertyMultiple request).encode))
    | .subscribeCov =>
        self.serve invokeId (SubscribeCovRequest.decode data) (fun request =>
          changeAnswer invokeId choice (self.subscribeCov source request))
    | .subscribeCovProperty =>
        self.serve invokeId (SubscribeCovPropertyRequest.decode data) (fun request =>
          changeAnswer invokeId choice (self.subscribeCovProperty source request))
    | .acknowledgeAlarm =>
        self.serve invokeId (AcknowledgeAlarmRequest.decode data) (fun request =>
          changeAnswer invokeId choice (self.acknowledgeAlarm request))
    | .writeProperty =>
        self.serve invokeId (WritePropertyRequest.decode data) (fun request =>
          changeAnswer invokeId choice (self.writeProperty source request))
    | .writePropertyMultiple =>
        self.serve invokeId (WritePropertyMultipleRequest.decode data) (fun request =>
          changeAnswerMultiple invokeId choice (self.writePropertyMultiple source request))
    | _ => (self, .ok (reject invokeId .unrecognizedService))

/-- The services of a device, behind its dispatcher. -/
def services : Services ObjectService where
  database := fun service => service.database.view
  dispatchConfirmed := dispatchConfirmed

variable {self : ObjectService} {invokeId : UInt8} {data : Bytes} {source : Option SocketAddr}

/-! ## §3. WritePropertyMultiple -/

/-- A request that does not decode is rejected. -/
theorem serve_of_error {α : Type} {decoded : Decoded α} {e : EncodingError}
    (h : decoded = .error (.error e)) (perform : α → Served) :
    self.serve invokeId decoded perform = (self, .ok (reject invokeId .invalidTag)) := by
  rw [h]
  rfl

/-- **WritePropertyMultiple is the single writes in order.**  Data that does not decode
changes nothing and is rejected.  Otherwise either every write succeeds and the service
is in the state they lead to, or one fails after those before it: it is named with its
error, and the database is the one that those before it led to. -/
theorem writePropertyMultiple_served (self : ObjectService) (invokeId : UInt8) (data : Bytes)
    (source : Option SocketAddr) :
    (∀ fault, WritePropertyMultipleRequest.decode data = .error fault →
      ∃ reason, self.dispatchConfirmed invokeId .writePropertyMultiple data source
        = (self, .ok (.reject invokeId reason)))
    ∧ ∀ request, WritePropertyMultipleRequest.decode data = .ok request →
      (∃ written, self.writePropertyMultiple source request = (written, .ok ())
        ∧ Attempt.Leads (fun service write => service.writeProperty source write) self
            request.writes written)
      ∨ ∃ before write after reached written e,
          request.writes = before ++ write :: after
          ∧ Attempt.Leads (fun service write => service.writeProperty source write) self before
              reached
          ∧ reached.writeProperty source write = (written, .error e)
          ∧ self.writePropertyMultiple source request = (written, .error (e,
              ⟨write.objectIdentifier, ⟨write.propertyIdentifier⟩, write.propertyArrayIndex⟩))
          ∧ written.database = reached.database := by
  constructor
  · intro fault hfault
    rcases (WritePropertyMultipleRequest.decode_meets data).cases with ⟨_, hok, _⟩ | ⟨e, he⟩
    · rw [hok] at hfault
      cases hfault
    · unfold dispatchConfirmed
      split
      · exact ⟨_, rfl⟩
      · exact ⟨_, serve_of_error he _⟩
  · intro request _
    cases hrun : self.writePropertyMultiple source request with
    | mk written result =>
        cases result with
        | ok u => exact .inl ⟨written, rfl, writePropertyMultiple_eq_ok.mp hrun⟩
        | error failed =>
            obtain ⟨e, reference⟩ := failed
            obtain ⟨before, write, after, reached, hsplit, hleads, hfails, href⟩ :=
              writePropertyMultiple_eq_error hrun
            refine .inr ⟨before, write, after, reached, written, e, hsplit, hleads, hfails, ?_, ?_⟩
            · rw [href]
              rfl
            · exact writeProperty_database_of_error hfails

/-! ## §4. Every request is answered -/

/-- Whether an APDU answers the request of an id for a service. -/
def Answers (invokeId : UInt8) (choice : ConfirmedServiceChoice) : Apdu → Prop
  | .simpleAck answeredId answered => answeredId = invokeId ∧ answered = choice.toByte
  | .complexAck ack => ack.invokeId = invokeId ∧ ack.serviceChoice = choice
  | .error answeredId answered _ _ _ => answeredId = invokeId ∧ answered = choice
  | .reject answeredId _ => answeredId = invokeId
  | .abort _ answeredId _ => answeredId = invokeId
  | _ => False

/-- All that a request reads has an encoding. -/
def ReadsEncodable (self : ObjectService) (choice : ConfirmedServiceChoice) (data : Bytes) : Prop :=
  match choice with
  | .readProperty =>
      ∀ request, ReadPropertyRequest.decode data = .ok request →
        ∀ response, self.readProperty request = .ok response →
          allEncodable response.propertyValues = true
  | .readPropertyMultiple =>
      ∀ request, ReadPropertyMultipleRequest.decode data = .ok request →
        ∀ specification ∈ request.readAccessSpecifications,
          ∀ reference ∈ specification.propertyReferences,
            ∀ result ∈ self.answersTo specification.objectIdentifier reference,
              allEncodable result.values = true
  | _ => True

/-- A service always answers what does not decode, and else what it performs. -/
theorem serve_answers {α : Type} {decoded : Decoded α} {P : α → Prop} (hdecoded : decoded.Meets P)
    {choice : ConfirmedServiceChoice} {perform : α → Served}
    (hperform : ∀ request, decoded = .ok request → P request →
      ∃ apdu, (perform request).2 = .ok apdu ∧ Answers invokeId choice apdu) :
    ∃ apdu, (self.serve invokeId decoded perform).2 = .ok apdu ∧ Answers invokeId choice apdu := by
  rcases hdecoded.cases with ⟨request, hok, hP⟩ | ⟨e, herror⟩
  · rw [hok]
    exact hperform request hok hP
  · rw [herror]
    exact ⟨_, rfl, rfl⟩

/-- Whatever changed, and whether or not it did. -/
theorem changeAnswer_answers (choice : ConfirmedServiceChoice)
    (attempt : Attempt ObjectError ObjectService) :
    ∃ apdu, (changeAnswer invokeId choice attempt).2 = .ok apdu ∧ Answers invokeId choice apdu := by
  obtain ⟨after, result⟩ := attempt
  cases result with
  | ok u => exact ⟨_, rfl, rfl, rfl⟩
  | error e => exact ⟨_, rfl, rfl, rfl⟩

theorem changeAnswerMultiple_answers (choice : ConfirmedServiceChoice)
    (attempt : Attempt (ObjectError × ObjectPropertyReference) ObjectService) :
    ∃ apdu, (changeAnswerMultiple invokeId choice attempt).2 = .ok apdu
      ∧ Answers invokeId choice apdu := by
  obtain ⟨after, result⟩ := attempt
  cases result with
  | ok u => exact ⟨_, rfl, rfl, rfl⟩
  | error e => exact ⟨_, rfl, rfl, rfl⟩

/-- A response that is read is answered when it can be encoded. -/
theorem readAnswer_answers_iff (choice : ConfirmedServiceChoice)
    (response : Except ObjectError (Except EncodingError Bytes)) :
    (∃ apdu, (self.readAnswer invokeId choice response).2 = .ok apdu
        ∧ Answers invokeId choice apdu)
      ↔ ∀ encoded, response = .ok encoded → encoded.isOk = true := by
  cases response with
  | error e => exact iff_of_true ⟨_, rfl, rfl, rfl⟩ (fun _ h => by cases h)
  | ok encoded =>
      cases encoded with
      | ok octets =>
          refine iff_of_true ⟨_, rfl, rfl, rfl⟩ (fun _ h => ?_)
          cases h
          rfl
      | error e =>
          refine iff_of_false ?_ (fun h => by cases h _ rfl)
          rintro ⟨apdu, hapdu, _⟩
          cases hapdu

/-- ReadProperty is answered unless what it reads has no encoding. -/
theorem readProperty_answers_iff (self : ObjectService) (invokeId : UInt8) (data : Bytes) :
    (∃ apdu, (self.serve invokeId (ReadPropertyRequest.decode data) (fun request =>
        self.readAnswer invokeId .readProperty
          ((self.readProperty request).map ReadPropertyResponse.encode))).2 = .ok apdu
        ∧ Answers invokeId .readProperty apdu)
      ↔ self.ReadsEncodable .readProperty data := by
  rcases (ReadPropertyRequest.decode_meets data).cases with ⟨request, hok, hfits⟩ | ⟨e, herror⟩
  · rw [hok]
    refine (readAnswer_answers_iff _ _).trans ?_
    unfold ReadsEncodable
    simp only [hok, Except.ok.injEq, forall_eq']
    cases hread : self.readProperty request with
    | error e => exact iff_of_true (fun _ h => by cases h) (fun _ h => by cases h)
    | ok response =>
        have hobject : response.objectIdentifier = request.objectIdentifier := by
          unfold readProperty at hread
          simp only [bind, Except.bind, pure, Except.pure] at hread
          split at hread
          · cases hread
          · cases hread
            rfl
        simp only [Except.map, Except.ok.injEq, forall_eq']
        rw [ReadPropertyResponse.encode_isOk, hobject, hfits, Bool.true_and]
  · rw [herror]
    refine iff_of_true ⟨_, rfl, rfl⟩ ?_
    intro request hok
    rw [herror] at hok
    cases hok

/-- ReadPropertyMultiple likewise, of all that it reads. -/
theorem readPropertyMultiple_answers_iff (self : ObjectService) (invokeId : UInt8)
    (data : Bytes) :
    (∃ apdu, (self.serve invokeId (ReadPropertyMultipleRequest.decode data) (fun request =>
        self.readAnswer invokeId .readPropertyMultiple
          (.ok (self.readPropertyMultiple request).encode))).2 = .ok apdu
        ∧ Answers invokeId .readPropertyMultiple apdu)
      ↔ self.ReadsEncodable .readPropertyMultiple data := by
  rcases (ReadPropertyMultipleRequest.decode_meets data).cases with
    ⟨request, hok, hfits⟩ | ⟨e, herror⟩
  · rw [hok]
    refine (readAnswer_answers_iff .readPropertyMultiple
      (.ok (self.readPropertyMultiple request).encode)).trans ?_
    unfold ReadsEncodable
    simp only [hok, Except.ok.injEq, forall_eq']
    rw [ReadPropertyMultipleResponse.encode_isOk]
    unfold readPropertyMultiple
    simp only [List.all_map, List.all_eq_true, Function.comp, readSpecification_eq,
      Bool.and_eq_true, List.all_flatMap]
    constructor
    · intro hall specification hspecification reference hreference result hresult
      exact (hall specification hspecification).2 reference hreference result hresult
    · intro hall specification hspecification
      exact ⟨hfits specification hspecification, hall specification hspecification⟩
  · rw [herror]
    refine iff_of_true ⟨_, rfl, rfl⟩ ?_
    intro request hok
    rw [herror] at hok
    cases hok

/-- A service is answered when the device does not claim it, and else when all that it reads
has an encoding. -/
theorem dispatchConfirmed_answers_iff (self : ObjectService) (invokeId : UInt8)
    (choice : ConfirmedServiceChoice) (data : Bytes) (source : Option SocketAddr) :
    (∃ apdu, (self.dispatchConfirmed invokeId choice data source).2 = .ok apdu
        ∧ Answers invokeId choice apdu)
      ↔ self.supportsConfirmedService choice = false ∨ self.ReadsEncodable choice data := by
  unfold dispatchConfirmed
  by_cases hsupports : self.supportsConfirmedService choice = false
  · rw [if_pos hsupports]
    exact iff_of_true ⟨_, rfl, rfl⟩ (.inl hsupports)
  rw [if_neg hsupports, or_iff_right hsupports]
  cases choice with
  | readProperty =>
      simp only
      exact readProperty_answers_iff self invokeId data
  | readPropertyMultiple =>
      simp only
      exact readPropertyMultiple_answers_iff self invokeId data
  | subscribeCov =>
      exact iff_of_true (serve_answers (SubscribeCovRequest.decode_meets data)
        (fun _ _ _ => changeAnswer_answers _ _)) trivial
  | subscribeCovProperty =>
      exact iff_of_true (serve_answers (SubscribeCovPropertyRequest.decode_meets data)
        (fun _ _ _ => changeAnswer_answers _ _)) trivial
  | acknowledgeAlarm =>
      exact iff_of_true (serve_answers (AcknowledgeAlarmRequest.decode_meets data)
        (fun _ _ _ => changeAnswer_answers _ _)) trivial
  | writeProperty =>
      exact iff_of_true (serve_answers (WritePropertyRequest.decode_meets data)
        (fun _ _ _ => changeAnswer_answers _ _)) trivial
  | writePropertyMultiple =>
      exact iff_of_true (serve_answers (WritePropertyMultipleRequest.decode_meets data)
        (fun _ _ _ => changeAnswerMultiple_answers _ _)) trivial
  | _ => exact iff_of_true ⟨_, rfl, rfl⟩ trivial

/-- Whatever is answered at all is an answer to the request. -/
theorem dispatchConfirmed_ok {choice : ConfirmedServiceChoice} {apdu : Apdu}
    (h : (self.dispatchConfirmed invokeId choice data source).2 = .ok apdu) :
    Answers invokeId choice apdu := by
  have hunique : ∀ {served : Served}, served.2 = .ok apdu →
      (∃ answer, served.2 = .ok answer ∧ Answers invokeId choice answer) →
        Answers invokeId choice apdu := by
    rintro served hserved ⟨answer, hanswer, hanswers⟩
    rw [hserved] at hanswer
    cases hanswer
    exact hanswers
  -- A service that reads answers with an error, or with what it encoded.
  have hread : ∀ {response : Except ObjectError (Except EncodingError Bytes)},
      (self.readAnswer invokeId choice response).2 = .ok apdu → Answers invokeId choice apdu := by
    intro response hresponse
    refine hunique hresponse ((readAnswer_answers_iff choice response).mpr ?_)
    rintro encoded rfl
    cases encoded with
    | ok octets => rfl
    | error e => cases hresponse
  have hserve : ∀ {α : Type} {decoded : Decoded α} {perform : α → Served},
      (self.serve invokeId decoded perform).2 = .ok apdu →
      (∀ request, (perform request).2 = .ok apdu → Answers invokeId choice apdu) →
        Answers invokeId choice apdu := by
    intro α decoded perform hserved hperform
    cases decoded with
    | ok request => exact hperform request hserved
    | error fault =>
        cases fault with
        | error e =>
            cases hserved
            rfl
        | panic => cases hserved
  unfold dispatchConfirmed at h
  by_cases hsupports : self.supportsConfirmedService choice = false
  · rw [if_pos hsupports] at h
    cases h
    rfl
  rw [if_neg hsupports] at h
  cases choice with
  | readProperty => exact hserve h (fun _ hok => hread hok)
  | readPropertyMultiple => exact hserve h (fun _ hok => hread hok)
  | subscribeCov => exact hserve h (fun _ hok => hunique hok (changeAnswer_answers _ _))
  | subscribeCovProperty => exact hserve h (fun _ hok => hunique hok (changeAnswer_answers _ _))
  | acknowledgeAlarm => exact hserve h (fun _ hok => hunique hok (changeAnswer_answers _ _))
  | writeProperty => exact hserve h (fun _ hok => hunique hok (changeAnswer_answers _ _))
  | writePropertyMultiple =>
      exact hserve h (fun _ hok => hunique hok (changeAnswerMultiple_answers _ _))
  | _ =>
      cases h
      rfl

/-- What is too long is replaced by an Abort of three octets. -/
theorem enforceMaxApdu_answers {choice : ConfirmedServiceChoice} {apdu : Apdu}
    (h : Answers invokeId choice apdu) (limit : Nat) (accepted : Bool) :
    Answers invokeId choice (enforceMaxApdu invokeId apdu limit accepted)
      ∧ (enforceMaxApdu invokeId apdu limit accepted).encode.length ≤ max 3 limit := by
  unfold enforceMaxApdu
  by_cases hfits : apdu.encodedLen ≤ limit
  · rw [if_pos hfits]
    have hlength := apdu.encode_length_le
    exact ⟨h, by omega⟩
  · rw [if_neg hfits]
    exact ⟨rfl, Nat.le_max_left _ _⟩

theorem destination_respond (npdu : Npdu) (apdu : Apdu) :
    (respond npdu apdu).npdu.destination = npdu.source := by
  unfold respond
  cases npdu.source <;> rfl

/-- A confirmed request has exactly one answer: it carries the request's id and, where it has
one, its service, fits what both sides take, and goes back to where the request came from. -/
def ConfirmedAnswered (server : ServerDispatcher ObjectService) (npdu : Npdu)
    (request : ConfirmedRequest) (source : Option SocketAddr) : Prop :=
  ∃ response, (server.dispatch services npdu (.confirmedRequest request) source).2
      = .ok (some response)
    ∧ Answers request.invokeId request.serviceChoice response.apdu
    ∧ response.apdu.encode.length ≤ max 3 (min request.maxResponseSize.size
        (maxApduLengthAccepted (server.dispatch services npdu (.confirmedRequest request)
          source).1.objects.database.view))
    ∧ response.npdu.destination = npdu.source

/-- An unsegmented request is answered when its service answers. -/
theorem confirmedAnswered_unsegmented {server : ServerDispatcher ObjectService} {npdu : Npdu}
    {request : ConfirmedRequest} (hnpdu : npdu.isNetworkMessage = false)
    (hsegmented : request.segmented = false) :
    ConfirmedAnswered server npdu request source
      ↔ ∃ apdu, (server.objects.dispatchConfirmed request.invokeId request.serviceChoice
          request.serviceData source).2 = .ok apdu
        ∧ Answers request.invokeId request.serviceChoice apdu := by
  unfold ConfirmedAnswered ServerDispatcher.dispatch ServerDispatcher.confirmed
  rw [hnpdu, if_neg Bool.false_ne_true]
  simp only
  rw [hsegmented, if_neg Bool.false_ne_true]
  show (∃ response, Except.map _ (Except.map _ (server.objects.dispatchConfirmed request.invokeId
    request.serviceChoice request.serviceData source).2) = _ ∧ _) ↔ _
  constructor
  · rintro ⟨response, hresponse, -, -, -⟩
    cases hserved : (server.objects.dispatchConfirmed request.invokeId request.serviceChoice
        request.serviceData source).2 with
    | error fault =>
        rw [hserved] at hresponse
        cases hresponse
    | ok apdu => exact ⟨apdu, rfl, dispatchConfirmed_ok hserved⟩
  · rintro ⟨apdu, hapdu, hanswers⟩
    rw [hapdu]
    obtain ⟨hkept, hlength⟩ := enforceMaxApdu_answers hanswers
      (min request.maxResponseSize.size (maxApduLengthAccepted
        (server.objects.dispatchConfirmed request.invokeId request.serviceChoice
          request.serviceData source).1.database.view)) request.segmentedResponseAccepted
    exact ⟨_, rfl, hkept, hlength, destination_respond _ _⟩

/-- **A confirmed request is answered exactly when all that it reads can be encoded**, whatever
the database holds: a segmented one, one for a service the device does not claim, and one for
any service but the two that read are always answered. -/
theorem confirmed_answered_iff (server : ServerDispatcher ObjectService) (npdu : Npdu)
    (request : ConfirmedRequest) (source : Option SocketAddr)
    (hnpdu : npdu.isNetworkMessage = false) :
    ConfirmedAnswered server npdu request source
      ↔ request.segmented = true
        ∨ server.objects.supportsConfirmedService request.serviceChoice = false
        ∨ server.objects.ReadsEncodable request.serviceChoice request.serviceData := by
  cases hsegmented : request.segmented with
  | true =>
      refine iff_of_true ?_ (.inl rfl)
      unfold ConfirmedAnswered ServerDispatcher.dispatch
      rw [hnpdu, if_neg Bool.false_ne_true]
      simp only
      rw [if_pos hsegmented]
      exact ⟨_, rfl, rfl, Nat.le_max_left _ _, destination_respond _ _⟩
  | false =>
      rw [confirmedAnswered_unsegmented hnpdu hsegmented, dispatchConfirmed_answers_iff]
      simp only [Bool.false_eq_true, false_or]

/-- A server that hosts one object. -/
def serverHosting (object : HostedObject) : ServerDispatcher ObjectService where
  objects := hosting object
  transactions := .empty

/-- ReadProperty of Object_List, of device 1234. -/
def objectListRequest : ConfirmedRequest where
  segmented := false
  moreFollows := false
  segmentedResponseAccepted := false
  maxSegments := .unspecified
  maxResponseSize := .up1476
  invokeId := 1
  sequenceNumber := none
  proposedWindowSize := none
  serviceChoice := .readProperty
  serviceData := [0x0C, 0x02, 0x00, 0x04, 0xD2, 0x19, 0x4C]

/-- What the request asks for: the identifiers of all objects. -/
theorem objectListRequest_reads (object : HostedObject)
    (hdevice : (hosting object).database.deviceId = ⟨.device, 1234⟩) :
    ReadPropertyRequest.decode objectListRequest.serviceData
        = .ok ⟨⟨.device, 1234⟩, .objectList, none⟩
      ∧ (hosting object).readProperty ⟨⟨.device, 1234⟩, .objectList, none⟩
        = .ok ⟨⟨.device, 1234⟩, .objectList, none,
            (hosting object).database.getAllObjects.map .objectIdentifier⟩ := by
  refine ⟨rfl, ?_⟩
  unfold readProperty readPropertyValues readWhole
  simp only [hdevice, and_self, if_true]
  rfl

/-- A list of identifiers has an encoding when each of them fits. -/
theorem allEncodable_identifiers (ids : List ObjectIdentifier) :
    allEncodable (ids.map .objectIdentifier) = ids.all ObjectIdentifier.fits := by
  induction ids with
  | nil => simp [allEncodable]
  | cons id rest ih => simp [allEncodable, encodable, ih]

/-- A server that hosts one Analog Value answers. -/
theorem confirmed_answered_setpoint :
    ConfirmedAnswered (serverHosting ⟨.analogValue, .new 1 "Setpoint"⟩) .new objectListRequest
      none := by
  refine (confirmed_answered_iff _ _ _ _ rfl).mpr (.inr (.inr ?_))
  obtain ⟨hdecode, hreads⟩ := objectListRequest_reads ⟨.analogValue, .new 1 "Setpoint"⟩
    (by decide +kernel)
  intro request hrequest response hresponse
  rw [hdecode] at hrequest
  cases hrequest
  have hsame := hreads.symm.trans hresponse
  cases hsame
  have hkeys : (hosting ⟨.analogValue, .new 1 "Setpoint"⟩).database.objects.keys.all
      ObjectIdentifier.fits = true := by decide +kernel
  rw [allEncodable_identifiers, List.all_eq_true]
  intro id hid
  exact List.all_eq_true.mp hkeys id (List.mem_mergeSort.mp hid)

/-- One whose instance number does not fit an identifier is listed, and nothing is answered. -/
theorem unencodable_unanswered :
    ¬ ConfirmedAnswered (serverHosting ⟨.analogValue, .new 4194304 "Setpoint"⟩) .new
      objectListRequest none := by
  rw [confirmedAnswered_unsegmented rfl rfl, dispatchConfirmed_answers_iff]
  obtain ⟨hdecode, hreads⟩ := objectListRequest_reads ⟨.analogValue, .new 4194304 "Setpoint"⟩
    (by decide +kernel)
  rintro (hunsupported | hencodable)
  · have hsupports : (hosting ⟨.analogValue, .new 4194304 "Setpoint"⟩).supportsConfirmedService
        .readProperty = true := by decide +kernel
    exact absurd (hsupports.symm.trans hunsupported) (by decide)
  · have hall := hencodable _ hdecode _ hreads
    have hmem : (⟨.analogValue, 4194304⟩ : ObjectIdentifier)
        ∈ (hosting ⟨.analogValue, .new 4194304 "Setpoint"⟩).database.getAllObjects :=
      List.mem_mergeSort.mpr (by decide +kernel)
    rw [allEncodable_identifiers, List.all_eq_true] at hall
    exact absurd (hall _ hmem) (by decide)

end ObjectService

end BacnetRs.Server
