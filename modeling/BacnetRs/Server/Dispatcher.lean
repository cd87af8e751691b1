/-
  BacnetRs.Server.Dispatcher — answering what a server receives
  (`server/dispatcher.rs`).

  A Who-Is is answered with an I-Am, a confirmed request by the service it
  names, and a reply is matched with the device's own outstanding requests.
  What the services behind the confirmed requests do is not this file's
  subject: they are a parameter, over any state, and everything proved holds
  whatever they answer.

    * `answered_iff`        — which APDUs change the device's transactions.
-/
import BacnetRs.App.Apdu
import BacnetRs.Network.Npdu
import BacnetRs.Server.ObjectService
import BacnetRs.Server.Transactions

namespace BacnetRs.Server

open BacnetRs.Encoding BacnetRs.Object BacnetRs.Service BacnetRs.Network BacnetRs.App

/-! ## §1. The dispatcher -/

/-- Errors of serving a request. -/
inductive ServerError where
  | invalidConfiguration (message : String)
  | encoding (error : EncodingError)
  | object (error : ObjectError)
  deriving Repr, DecidableEq

/-- The services behind a dispatcher, over the state `σ` of what they serve. -/
structure Services (σ : Type) where
  /-- The database, as it reads at one moment. -/
  database : σ → DatabaseView
  /-- `dispatch_confirmed`: the state after the service, and the reply. -/
  dispatchConfirmed : σ → UInt8 → ConfirmedServiceChoice → Bytes → Option SocketAddr →
    σ × Checked ServerError Apdu

/-- A dispatcher: what it serves, and the device's outstanding requests. -/
structure ServerDispatcher (σ : Type) where
  objects : σ
  transactions : Table

/-- A response, not yet framed. -/
structure ServerResponse where
  npdu : Npdu
  apdu : Apdu
  deriving Repr, DecidableEq

/-- `abort`. -/
def abort (invokeId : UInt8) (reason : AbortReason) : Apdu := .abort true invokeId reason

/-- `enforce_max_apdu`. -/
def enforceMaxApdu (invokeId : UInt8) (response : Apdu) (limit : Nat)
    (segmentedResponseAccepted : Bool) : Apdu :=
  if response.encodedLen ≤ limit then response
  else
    abort invokeId
      (if segmentedResponseAccepted then .segmentationNotSupported else .apduTooLong)

/-- A response addressed back to where a request came from. -/
def respond (requestNpdu : Npdu) (apdu : Apdu) : ServerResponse where
  npdu :=
    match requestNpdu.source with
    | some source => { Npdu.new.setDestination source with hopCount := some 255 }
    | none => Npdu.new
  apdu := apdu

namespace ServerDispatcher

variable {σ : Type}

/-- `answered`. -/
def answered (server : ServerDispatcher σ) (source : Option SocketAddr) (invokeId : UInt8)
    (outcome : Outcome) : ServerDispatcher σ :=
  match source with
  | some source =>
      { server with transactions := server.transactions.answer source invokeId outcome }
  | none => server

/-- The Who-Is arm of `dispatch`. -/
def whoIs (database : DatabaseView) (serviceData : Bytes) : Checked ServerError (Option Apdu) :=
  match WhoIsRequest.decode serviceData with
  | .error .panic => .error .panic
  | .error (.error _) => .ok none
  | .ok request =>
      -- A Who-Is for others is passed over in silence.
      if !request.matches database.deviceId.instanceNumber then .ok none
      else do
        let iam ← (Checked.ofExcept (iAm database)).mapErr ServerError.object
        let serviceData ← (Checked.ofExcept iam.encode).mapErr ServerError.encoding
        return some (.unconfirmedRequest .iAm serviceData)

/-- An unsegmented confirmed request: what its service answers, if it fits. -/
def confirmed (services : Services σ) (server : ServerDispatcher σ) (request : ConfirmedRequest)
    (source : Option SocketAddr) : ServerDispatcher σ × Checked ServerError Apdu :=
  let (objects, response) := services.dispatchConfirmed server.objects request.invokeId
    request.serviceChoice request.serviceData source
  -- A device cannot send more than it can itself hold, whatever the requester
  -- would accept.
  let limit := min request.maxResponseSize.size (maxApduLengthAccepted (services.database objects))
  ({ server with objects := objects },
    response.map (fun apdu =>
      enforceMaxApdu request.invokeId apdu limit request.segmentedResponseAccepted))

/-- `dispatch`. -/
def dispatch (services : Services σ) (server : ServerDispatcher σ) (requestNpdu : Npdu)
    (requestApdu : Apdu) (source : Option SocketAddr) :
    ServerDispatcher σ × Checked ServerError (Option ServerResponse) :=
  if requestNpdu.isNetworkMessage then (server, .ok none)
  else
    match requestApdu with
    | .unconfirmedRequest .whoIs serviceData =>
        (server, (whoIs (services.database server.objects) serviceData).map
          (fun response => response.map (respond requestNpdu)))
    | .confirmedRequest request =>
        if request.segmented then
          (server, .ok (some (respond requestNpdu
            (abort request.invokeId .segmentationNotSupported))))
        else
          let (server, response) := server.confirmed services request source
          (server, response.map (fun apdu => some (respond requestNpdu apdu)))
    -- Replies to what this device sent, not requests of it.
    | .simpleAck invokeId _ => (server.answered source invokeId .acknowledged, .ok none)
    | .error invokeId _ _ _ _ => (server.answered source invokeId .refused, .ok none)
    | .reject invokeId _ => (server.answered source invokeId .refused, .ok none)
    | .abort _ invokeId _ => (server.answered source invokeId .refused, .ok none)
    | _ => (server, .ok none)

/-! ## §2. Which APDUs change the transactions -/

/-- The invoke id and the outcome of an APDU that `dispatch` takes for a reply. -/
def replyOutcome : Apdu → Option (UInt8 × Outcome)
  | .simpleAck invokeId _ => some (invokeId, .acknowledged)
  | .error invokeId _ _ _ _ => some (invokeId, .refused)
  | .reject invokeId _ => some (invokeId, .refused)
  | .abort _ invokeId _ => some (invokeId, .refused)
  | .confirmedRequest _ => none
  | .unconfirmedRequest _ _ => none
  | .complexAck _ => none
  | .segmentAck _ _ _ _ _ => none

/-- An APDU that is no reply leaves the transactions alone. -/
theorem dispatch_transactions_of_no_reply (services : Services σ) (server : ServerDispatcher σ)
    (requestNpdu : Npdu) {apdu : Apdu} (source : Option SocketAddr)
    (h : replyOutcome apdu = none) :
    (server.dispatch services requestNpdu apdu source).1.transactions = server.transactions := by
  unfold dispatch
  split
  · rfl
  · cases apdu with
    | unconfirmedRequest choice serviceData => cases choice <;> rfl
    | confirmedRequest request =>
        simp only
        split <;> rfl
    | complexAck ack => rfl
    | segmentAck negative server' invokeId sequenceNumber windowSize => rfl
    | simpleAck invokeId choice => cases h
    | error invokeId choice errorClass errorCode firstFailed => cases h
    | reject invokeId reason => cases h
    | abort server' invokeId reason => cases h

/-- A reply answers the request its id names, whoever sent it. -/
theorem dispatch_transactions_of_reply (services : Services σ) (server : ServerDispatcher σ)
    {requestNpdu : Npdu} {apdu : Apdu} (source : Option SocketAddr) {invokeId : UInt8}
    {outcome : Outcome} (hnpdu : requestNpdu.isNetworkMessage = false)
    (h : replyOutcome apdu = some (invokeId, outcome)) :
    (server.dispatch services requestNpdu apdu source).1.transactions
      = (server.answered source invokeId outcome).transactions := by
  unfold dispatch
  rw [hnpdu, if_neg Bool.false_ne_true]
  cases apdu with
  | simpleAck invokeId' choice => cases h; rfl
  | error invokeId' choice errorClass errorCode firstFailed => cases h; rfl
  | reject invokeId' reason => cases h; rfl
  | abort server' invokeId' reason => cases h; rfl
  | unconfirmedRequest choice serviceData => cases h
  | confirmedRequest request => cases h
  | complexAck ack => cases h
  | segmentAck negative server' invokeId' sequenceNumber windowSize => cases h

/-- **A reply changes the transactions exactly when its id is in flight to its source.** -/
theorem answered_iff (server : ServerDispatcher σ) (source : Option SocketAddr)
    (invokeId : UInt8) (outcome : Outcome) :
    (server.answered source invokeId outcome).transactions = server.transactions
      ↔ ∀ peer, source = some peer → server.transactions.inFlight peer invokeId = false := by
  cases source with
  | none => exact ⟨fun _ _ h => (by cases h), fun _ => rfl⟩
  | some peer =>
      show server.transactions.answer peer invokeId outcome = server.transactions ↔ _
      rw [Table.answer_eq_self_iff]
      refine ⟨fun h other heq => ?_, fun h => h peer rfl⟩
      rw [← Option.some.inj heq]
      exact h

end ServerDispatcher

end BacnetRs.Server
