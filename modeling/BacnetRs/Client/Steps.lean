/-
  BacnetRs.Client.Steps — what one step of the world can do.

  The handlers of `Client.Endpoint`, seen from the world: which of them an
  event runs, on which transaction, and what a transaction that survives the
  step has become.

    * `handlePacket_cases`      — a datagram is about one transaction or none.
    * `handleConfirmedCommand_admission`
                                — a command finds no id, is refused, or opens a
                                  transaction at a key nothing holds.
    * `expireEach_relates`      — what one expiry preserves, the loop preserves.
    * `step_evolves`            — a transaction that survives a step.
-/
import BacnetRs.Client.Moves

namespace BacnetRs.Client

open BacnetRs.Service BacnetRs.Network BacnetRs.App

/-! ## §1. What a step sends -/

/-- The entry is about a transaction: an id reserved, a caller answered, or a frame
sent for one. -/
def Entry.isTransactional (entry : Entry) : Bool :=
  match entry.effect with
  | .reserved _ => true
  | .answered _ _ => true
  | .sent .reply _ _ => false
  | .sent .discovery _ _ => false
  | .sent _ _ _ => true
  | .notified _ _ => false
  | .discovered _ _ => false

/-- The segment of `key`'s request the entry sends, if it sends one. -/
def Entry.segmentIndex (key : TransactionKey) (entry : Entry) : Option Nat :=
  match entry.effect with
  | .sent (.segment owner index) _ _ => if owner = key then some index else none
  | _ => none

/-- The segments of `key`'s request among `entries`, in the order they went out. -/
def segmentsSent (key : TransactionKey) (entries : List Entry) : List Nat :=
  entries.filterMap (Entry.segmentIndex key)

theorem segmentsSent_append (key : TransactionKey) (es fs : List Entry) :
    segmentsSent key (es ++ fs) = segmentsSent key es ++ segmentsSent key fs :=
  List.filterMap_append

theorem segmentsSent_eq_nil {key : TransactionKey} {entries : List Entry}
    (h : ∀ entry ∈ entries, entry.segmentIndex key = none) : segmentsSent key entries = [] :=
  List.filterMap_eq_nil_iff.mpr h

theorem segmentIndex_of_quiet {key : TransactionKey} {entry : Entry}
    (h : entry.isTransactional = false) : entry.segmentIndex key = none := by
  obtain ⟨time, effect⟩ := entry
  cases effect with
  | sent purpose destination frame =>
      cases purpose with
      | segment owner index => cases h
      | request | segmentAck | abort | reply | discovery => rfl
  | reserved | answered | notified | discovered => rfl

/-- What is sent for one transaction is no segment of another. -/
theorem segmentIndex_of_sendsFor {key other : TransactionKey} {entry : Entry}
    (h : entry.sendsFor other) (hne : other ≠ key) : entry.segmentIndex key = none := by
  obtain ⟨purpose, destination, frame, heffect, howner⟩ := h
  unfold Entry.segmentIndex
  rw [heffect]
  cases purpose with
  | segment owner index =>
      have howner : owner = other := Option.some.inj howner
      exact if_neg (by rw [howner]; exact hne)
  | request | segmentAck | abort | reply | discovery => rfl

/-- Indices that go on from `start` without leaving one out. -/
def Consecutive (start : Nat) (indices : List Nat) : Prop :=
  ∀ j ∈ indices, start ≤ j ∧ ∀ i, start ≤ i → i ≤ j → i ∈ indices

theorem Consecutive.nil (start : Nat) : Consecutive start [] :=
  fun _ h => absurd h List.not_mem_nil

theorem Consecutive.append {start : Nat} {js ks : List Nat} (hjs : Consecutive start js)
    (hks : Consecutive start ks) : Consecutive start (js ++ ks) := by
  intro j hj
  rcases List.mem_append.mp hj with hj | hj
  · refine ⟨(hjs j hj).1, fun i hi hij => ?_⟩
    exact List.mem_append_left _ ((hjs j hj).2 i hi hij)
  · refine ⟨(hks j hj).1, fun i hi hij => ?_⟩
    exact List.mem_append_right _ ((hks j hj).2 i hi hij)

/-- The window goes on from the last acknowledged segment. -/
theorem windowAfterAck_consecutive (outbound : OutboundSegments) :
    Consecutive outbound.nextUnsent.toNat outbound.windowAfterAck := by
  intro j hj
  rw [OutboundSegments.windowAfterAck, List.mem_range'_1] at hj
  refine ⟨hj.1, fun i hi hij => ?_⟩
  rw [OutboundSegments.windowAfterAck, List.mem_range'_1]
  omega

theorem segmentsSent_windowFrames (host : Host) (key : TransactionKey)
    (outbound : OutboundSegments) :
    segmentsSent key (sendEntries host key (outbound.windowFrames key))
      = outbound.windowAfterAck := by
  unfold segmentsSent sendEntries OutboundSegments.windowFrames
  rw [List.map_map, List.filterMap_map]
  have hindex : (Entry.segmentIndex key ∘ (fun parcel : Purpose × Bytes =>
      host.entry (.sent parcel.1 key.1 parcel.2)) ∘ fun index =>
        (Purpose.segment key index, outbound.frames.getD index [])) = some := by
    funext index
    exact if_pos rfl
  rw [hindex, List.filterMap_some]

/-- When no frame is empty, the whole window goes out. -/
theorem windowFrames_filter {outbound : OutboundSegments}
    (hframes : ∀ frame ∈ outbound.frames, frame ≠ []) (key : TransactionKey) :
    (outbound.windowFrames key).filter (fun parcel => !parcel.2.isEmpty)
      = outbound.windowFrames key := by
  rw [List.filter_eq_self]
  intro parcel hparcel
  obtain ⟨index, hindex, rfl⟩ := List.mem_map.mp hparcel
  rw [OutboundSegments.windowAfterAck, List.mem_range'_1] at hindex
  have hlt : index < outbound.frames.length := by omega
  have hne := hframes _ (List.getElem_mem hlt)
  simp [List.getD_eq_getElem?_getD, hlt, hne]

/-! ## §2. Datagrams -/

/-- The APDU a datagram hands to the transactions, and the network-layer source
it came from: neither a network message nor an unconfirmed request. -/
def packetApdu (data : Bytes) (source : SocketAddr) : Option (Apdu × Option NetworkAddress) :=
  match decodeBacnetIpFrame data source with
  | .error _ => none
  | .ok frame =>
      if frame.npdu.isNetworkMessage || decide (frame.payload.head? = some 0x10) then none
      else (Apdu.decode frame.payload).okPart.map (fun apdu => (apdu, frame.npdu.source))

namespace Endpoint

theorem not_transactional_of_reply {host : Host} {destination : SocketAddr} {frame : Bytes}
    {entry : Entry} (h : entry ∈ sendIgnored host .reply destination frame) :
    entry.isTransactional = false := by
  unfold sendIgnored at h
  cases hsend : host.sendTo destination frame with
  | none =>
      rw [hsend] at h
      rw [List.mem_singleton.mp h]
      rfl
  | some error =>
      rw [hsend] at h
      exact absurd h List.not_mem_nil

theorem not_transactional_of_dispatch {endpoint : Endpoint} {host : Host}
    {notification : CovNotification} {entry : Entry}
    (h : entry ∈ endpoint.dispatchCovNotification host notification) :
    entry.isTransactional = false := by
  unfold dispatchCovNotification at h
  split at h
  · rw [List.mem_singleton.mp h]
    rfl
  · exact absurd h List.not_mem_nil

theorem handleConfirmedCov_quiet {endpoint : Endpoint} {host : Host} {request : ConfirmedRequest}
    {source : SocketAddr} {route : Option NetworkAddress} {entries : List Entry}
    (h : endpoint.handleConfirmedCovNotification host request source route = some entries) :
    ∀ entry ∈ entries, entry.isTransactional = false := by
  intro entry hentry
  unfold handleConfirmedCovNotification at h
  simp only at h
  split at h
  · rw [← Option.some.inj h] at hentry
    exact not_transactional_of_reply hentry
  · split at h
    · cases h
    · rw [← Option.some.inj h] at hentry
      rcases List.mem_append.mp hentry with hentry | hentry
      · exact not_transactional_of_dispatch hentry
      · exact not_transactional_of_reply hentry
    · rw [← Option.some.inj h] at hentry
      exact not_transactional_of_reply hentry

theorem handleNetworkMessage_quiet {endpoint : Endpoint} {host : Host} {data : Bytes}
    {source : SocketAddr} {entries : List Entry}
    (h : endpoint.handleNetworkMessage host data source = some entries) :
    ∀ entry ∈ entries, entry.isTransactional = false := by
  intro entry hentry
  unfold handleNetworkMessage at h
  split at h
  · rw [← Option.some.inj h] at hentry
    exact absurd hentry List.not_mem_nil
  · split at h
    · cases h
    · rw [← Option.some.inj h] at hentry
      exact absurd hentry List.not_mem_nil
    · rw [← Option.some.inj h] at hentry
      obtain ⟨_, _, rfl⟩ := List.mem_map.mp hentry
      rfl

theorem handleIAm_quiet {endpoint : Endpoint} {host : Host} {data : Bytes} {source : SocketAddr}
    {entries : List Entry} (h : endpoint.handleIAm host data source = some entries) :
    ∀ entry ∈ entries, entry.isTransactional = false := by
  intro entry hentry
  unfold handleIAm at h
  split at h
  · rw [← Option.some.inj h] at hentry
    exact absurd hentry List.not_mem_nil
  · split at h
    · cases h
    · rw [← Option.some.inj h] at hentry
      exact absurd hentry List.not_mem_nil
    · rw [← Option.some.inj h] at hentry
      obtain ⟨_, _, rfl⟩ := List.mem_map.mp hentry
      rfl

theorem handleUnconfirmedCov_quiet {endpoint : Endpoint} {host : Host} {payload : Bytes}
    {entries : List Entry} (h : endpoint.handleUnconfirmedCov host payload = some entries) :
    ∀ entry ∈ entries, entry.isTransactional = false := by
  intro entry hentry
  unfold handleUnconfirmedCov at h
  split at h
  · rw [← Option.some.inj h] at hentry
    exact absurd hentry List.not_mem_nil
  · split at h
    · cases h
    · split at h
      · cases h
      · rw [← Option.some.inj h] at hentry
        exact not_transactional_of_dispatch hentry
      · rw [← Option.some.inj h] at hentry
        exact absurd hentry List.not_mem_nil
    · rw [← Option.some.inj h] at hentry
      exact absurd hentry List.not_mem_nil

/-- An APDU finds the transaction its source and invoke id name, or none. -/
theorem handleApdu_cases (endpoint : Endpoint) (host : Host) (apdu : Apdu) (source : SocketAddr)
    (route : Option NetworkAddress) :
    endpoint.handleApdu host apdu source route = (endpoint, [])
      ∨ ∃ invokeId transaction, responseInvokeId apdu = some invokeId
        ∧ endpoint.pending.lookup (source, invokeId) = some transaction
        ∧ endpoint.handleApdu host apdu source route
          = endpoint.handleResponse host (source, invokeId) transaction apdu route := by
  unfold handleApdu
  cases hid : responseInvokeId apdu with
  | none => exact Or.inl rfl
  | some invokeId =>
      simp only
      cases hlookup : endpoint.pending.lookup (source, invokeId) with
      | none => exact Or.inl rfl
      | some transaction => exact Or.inr ⟨invokeId, transaction, rfl, hlookup, rfl⟩

/-- **A datagram is about one transaction or none.**  Either nothing of the state
changes and no transaction is touched, or the APDU it carries finds the
transaction at (source, invoke id). -/
theorem handlePacket_cases {endpoint : Endpoint} {host : Host} {data : Bytes}
    {source : SocketAddr} {outcome : Endpoint × List Entry}
    (h : endpoint.handlePacket host data source = some outcome) :
    (outcome.1 = endpoint ∧ ∀ entry ∈ outcome.2, entry.isTransactional = false)
      ∨ ∃ apdu route invokeId transaction, packetApdu data source = some (apdu, route)
        ∧ responseInvokeId apdu = some invokeId
        ∧ endpoint.pending.lookup (source, invokeId) = some transaction
        ∧ outcome = endpoint.handleResponse host (source, invokeId) transaction apdu route := by
  -- Every path but the last leaves the endpoint as it was and says nothing of a transaction.
  have hquiet : ∀ {entries : List Entry}, (endpoint, entries) = outcome →
      (∀ entry ∈ entries, entry.isTransactional = false) →
      outcome.1 = endpoint ∧ ∀ entry ∈ outcome.2, entry.isTransactional = false := by
    intro entries heq hentries
    rw [← heq]
    exact ⟨rfl, hentries⟩
  have hnothing : some (endpoint, []) = some outcome →
      outcome.1 = endpoint ∧ ∀ entry ∈ outcome.2, entry.isTransactional = false :=
    fun heq => hquiet (Option.some.inj heq) (fun _ hm => absurd hm List.not_mem_nil)
  unfold handlePacket at h
  cases hframe : decodeBacnetIpFrame data source with
  | error fault =>
      rw [hframe] at h
      cases fault with
      | error e => exact Or.inl (hnothing h)
      | panic => cases h
  | ok frame =>
      rw [hframe] at h
      simp only at h
      split at h
      · obtain ⟨entries, hentries, heq⟩ := Option.map_eq_some_iff.mp h
        exact Or.inl (hquiet heq (handleNetworkMessage_quiet hentries))
      next hmessage =>
        split at h
        -- An unconfirmed request is read twice, as an I-Am and as a COV notification.
        · obtain ⟨found, hfound, hrest⟩ := Option.bind_eq_some_iff.mp h
          obtain ⟨entries, hentries, heq⟩ := Option.map_eq_some_iff.mp hrest
          refine Or.inl (hquiet heq ?_)
          intro entry hentry
          rcases List.mem_append.mp hentry with hentry | hentry
          · exact handleIAm_quiet hfound entry hentry
          · exact handleUnconfirmedCov_quiet hentries entry hentry
        next hunconfirmed =>
          cases hapdu : Apdu.decode frame.payload with
          | error fault =>
              rw [hapdu] at h
              cases fault with
              | error e => exact Or.inl (hnothing h)
              | panic => cases h
          | ok apdu =>
              rw [hapdu] at h
              have hpacket : packetApdu data source = some (apdu, frame.npdu.source) := by
                unfold packetApdu
                rw [hframe]
                simp only [hmessage, hunconfirmed, hapdu]
                rfl
              -- What the endpoint makes of a PDU that it does not take for a COV notification.
              have hheard : endpoint.handleApdu host apdu source frame.npdu.source = outcome →
                  (outcome.1 = endpoint ∧ ∀ entry ∈ outcome.2, entry.isTransactional = false)
                    ∨ ∃ apdu route invokeId transaction,
                      packetApdu data source = some (apdu, route)
                      ∧ responseInvokeId apdu = some invokeId
                      ∧ endpoint.pending.lookup (source, invokeId) = some transaction
                      ∧ outcome = endpoint.handleResponse host (source, invokeId) transaction apdu
                          route := by
                intro heq
                rcases endpoint.handleApdu_cases host apdu source frame.npdu.source with
                  hnone | ⟨invokeId, transaction, hid, hlookup, hresponse⟩
                · rw [hnone] at heq
                  exact Or.inl (hnothing (congrArg some heq))
                · exact Or.inr ⟨apdu, frame.npdu.source, invokeId, transaction, hpacket, hid,
                    hlookup, heq.symm.trans hresponse⟩
              have hdecoded : endpoint.handleDecoded host apdu source frame.npdu.source
                  = some outcome := h
              unfold handleDecoded at hdecoded
              split at hdecoded
              -- A confirmed request is tried as a COV notification before anything is looked up.
              next request =>
                split at hdecoded
                · obtain ⟨entries, hentries, heq⟩ := Option.map_eq_some_iff.mp hdecoded
                  exact Or.inl (hquiet heq (handleConfirmedCov_quiet hentries))
                · exact hheard (Option.some.inj hdecoded)
              · exact hheard (Option.some.inj hdecoded)

/-! ## §3. Commands -/

/-- The endpoint once cancelled work and lapsed quarantines are gone and the cursor
has moved: what `handle_confirmed_command` admits new work to. -/
def swept (endpoint : Endpoint) (host : Host) (peer : SocketAddr) : Endpoint :=
  ((endpoint.removeCancelled host.dropped).reserveInvokeId host.now peer).2

theorem swept_pending (endpoint : Endpoint) (host : Host) (peer : SocketAddr) :
    (endpoint.swept host peer).pending
      = KeyedTable.retain (fun _ transaction => !host.dropped.contains transaction.response)
          endpoint.pending := rfl

/-- The transaction `handle_confirmed_command` opens. -/
def opened (endpoint : Endpoint) (host : Host) (target : BacnetTarget)
    (serviceChoice : ConfirmedServiceChoice) (response : Channel)
    (transfer : (Purpose × Bytes) × Option OutboundSegments) : PendingTransaction where
  serviceChoice := serviceChoice
  frame := transfer.1.2
  retriesRemaining := endpoint.retries
  deadline := host.now + endpoint.rto target.address
  sentAt := host.now
  retransmitted := false
  response := response
  reassembly := none
  outbound := transfer.2

/-- Nothing holds the key: no transaction is pending at it, and its id is not held
back. -/
def Free (endpoint : Endpoint) (key : TransactionKey) : Prop :=
  endpoint.pending.lookup key = none ∧ endpoint.quarantined.lookup key = none

theorem searchInvokeId_free {taken : UInt8 → Bool} :
    ∀ {tries : Nat} {next invokeId : UInt8},
      (searchInvokeId taken tries next).1 = some invokeId → taken invokeId = false
  | 0, next, invokeId, h => by cases h
  | tries + 1, next, invokeId, h => by
      unfold searchInvokeId at h
      cases htaken : taken next with
      | true =>
          rw [htaken] at h
          exact searchInvokeId_free h
      | false =>
          rw [htaken] at h
          cases h
          exact htaken

/-- A reserved id is free. -/
theorem reserveInvokeId_free {endpoint : Endpoint} {now : Instant} {peer : SocketAddr}
    {invokeId : UInt8} (h : (endpoint.reserveInvokeId now peer).1 = some invokeId) :
    (endpoint.reserveInvokeId now peer).2.Free (peer, invokeId) := by
  have hfree : (endpoint.releaseQuarantine now).occupied (peer, invokeId) = false :=
    searchInvokeId_free h
  unfold occupied at hfree
  rw [Bool.or_eq_false_iff, Option.isSome_eq_false_iff, Option.isSome_eq_false_iff,
    Option.isNone_iff_eq_none, Option.isNone_iff_eq_none] at hfree
  exact hfree

/-- What a confirmed command can come to. -/
inductive Admission (endpoint : Endpoint) (host : Host) (target : BacnetTarget)
    (serviceChoice : ConfirmedServiceChoice) (serviceData : Bytes) (response : Channel) :
    Endpoint × List Entry → Prop where
  /-- The caller has already gone. -/
  | cancelled : Admission endpoint host target serviceChoice serviceData response (endpoint, [])
  /-- Every id of this peer is held. -/
  | exhausted :
      Admission endpoint host target serviceChoice serviceData response
        (endpoint.swept host target.address,
          [host.entry (.answered response (.error .tooManyTransactions))])
  /-- The request cannot be framed. -/
  | refused (invokeId : UInt8) (error : ClientError)
      (hfree : (endpoint.swept host target.address).Free (target.address, invokeId)) :
      Admission endpoint host target serviceChoice serviceData response
        (endpoint.swept host target.address,
          [host.entry (.reserved (target.address, invokeId)),
            host.entry (.answered response (.error error))])
  /-- The request is on its way. -/
  | admitted (invokeId : UInt8) (frames : RequestFrames)
      (hfree : (endpoint.swept host target.address).Free (target.address, invokeId))
      (hsplit : splitRequest target invokeId serviceChoice serviceData endpoint.acceptedApdu
        = .ok frames) :
      Admission endpoint host target serviceChoice serviceData response
        ((endpoint.swept host target.address).insertPending (target.address, invokeId)
            ((endpoint.swept host target.address).opened host target serviceChoice response
              (requestTransfer (target.address, invokeId) frames)),
          host.entry (.reserved (target.address, invokeId))
            :: sendEntries host (target.address, invokeId)
              [(requestTransfer (target.address, invokeId) frames).1])
  /-- The socket refuses the request. -/
  | unsent (invokeId : UInt8) (error : IoError)
      (hfree : (endpoint.swept host target.address).Free (target.address, invokeId)) :
      Admission endpoint host target serviceChoice serviceData response
        ((endpoint.swept host target.address).removePending (target.address, invokeId),
          [host.entry (.reserved (target.address, invokeId)),
            host.entry (.answered response (.error (.io error)))])

/-- **A command is admitted only at a free key.** -/
theorem handleConfirmedCommand_admission (endpoint : Endpoint) (host : Host)
    (target : BacnetTarget) (serviceChoice : ConfirmedServiceChoice) (serviceData : Bytes)
    (response : Channel) :
    Admission endpoint host target serviceChoice serviceData response
      (endpoint.handleConfirmedCommand host target serviceChoice serviceData response) := by
  unfold handleConfirmedCommand
  split
  · exact .cancelled
  · simp only
    -- The sweep comes first, then the search for a free id.
    rcases hreserve : (endpoint.removeCancelled host.dropped).reserveInvokeId host.now
        target.address with ⟨found, swept⟩
    have hswept : endpoint.swept host target.address = swept := by
      unfold Endpoint.swept
      rw [hreserve]
    cases found with
    | none =>
        rw [← hswept]
        exact .exhausted
    | some invokeId =>
        have hfree : (endpoint.swept host target.address).Free (target.address, invokeId) :=
          reserveInvokeId_free (by rw [hreserve])
        rw [← hswept]
        simp only
        cases hsplit : splitRequest target invokeId serviceChoice serviceData
            (endpoint.swept host target.address).acceptedApdu with
        | error error => exact .refused invokeId error hfree
        | ok frames =>
            have hadmitted : Admission endpoint host target serviceChoice serviceData response _ :=
              .admitted invokeId frames hfree hsplit
            -- The transaction is opened before the frames are sent, and closed again if they are
            -- not.
            rcases sendOrFail_insertPending (endpoint.swept host target.address) host
                (target.address, invokeId)
                ((endpoint.swept host target.address).opened host target serviceChoice response
                  (requestTransfer (target.address, invokeId) frames))
                (requestTransfer (target.address, invokeId) frames).1 with
              hsent | ⟨error, hfailed⟩
            · unfold opened at hsent hadmitted
              simp only [hsent]
              exact hadmitted
            · unfold opened at hfailed
              simp only [hfailed]
              exact .unsent invokeId error hfree

/-- The endpoint with the subscription a command registers. -/
def registered (endpoint : Endpoint) : EndpointCommand → Endpoint
  | .subscribeCov _ key _ sink _ =>
      { endpoint with covSubscribers := endpoint.covSubscribers.insert key sink }
  | _ => endpoint

theorem registered_pending (endpoint : Endpoint) (command : EndpointCommand) :
    (endpoint.registered command).pending = endpoint.pending := by
  cases command <;> rfl

theorem startDiscovery_quiet {endpoint : Endpoint} {host : Host} {frame : Bytes}
    {destination : SocketAddr} {sink : Channel} :
    ∀ entry ∈ (endpoint.startDiscovery host frame destination sink).2,
      entry.isTransactional = false := by
  intro entry hentry
  unfold startDiscovery at hentry
  split at hentry
  · exact absurd hentry List.not_mem_nil
  · split at hentry <;>
    · rw [List.mem_singleton.mp hentry]
      rfl

/-- A command opens a discovery window or asks for a transaction. -/
theorem handleCommand_cases (endpoint : Endpoint) (host : Host) (command : EndpointCommand) :
    (∃ devices routers, (endpoint.handleCommand host command).1
          = { endpoint with deviceDiscoveries := devices, routerDiscoveries := routers }
        ∧ ∀ entry ∈ (endpoint.handleCommand host command).2, entry.isTransactional = false)
      ∨ ∃ target serviceChoice serviceData response, response ∈ command.channels
        ∧ Admission (endpoint.registered command) host target serviceChoice serviceData response
            (endpoint.handleCommand host command) := by
  cases command with
  | confirmed target serviceChoice serviceData response =>
      exact Or.inr ⟨target, serviceChoice, serviceData, response, List.mem_cons_self,
        handleConfirmedCommand_admission _ _ _ _ _ _⟩
  | discoverDevices frame destination sink =>
      exact Or.inl ⟨_, endpoint.routerDiscoveries, rfl, startDiscovery_quiet⟩
  | discoverRouters frame destination sink =>
      exact Or.inl ⟨endpoint.deviceDiscoveries, _, rfl, startDiscovery_quiet⟩
  | subscribeCov target key serviceData sink response =>
      exact Or.inr ⟨target, .subscribeCov, serviceData, response,
        List.mem_cons_of_mem _ List.mem_cons_self, handleConfirmedCommand_admission _ _ _ _ _ _⟩

/-- How a command opens the transaction at `key`: every retry left, nothing
received, and the first segment sent if the request goes out in segments. -/
structure Opening (endpoint : Endpoint) (key : TransactionKey)
    (transaction : PendingTransaction) (indices : List Nat) : Prop where
  retries_eq : transaction.retriesRemaining = endpoint.retries
  reassembly_eq : transaction.reassembly = none
  outbound_eq : (transaction.outbound = none ∧ indices = [])
    ∨ ∃ target serviceChoice serviceData frames,
      splitRequest target key.2 serviceChoice serviceData endpoint.acceptedApdu
          = .ok (.segmented frames)
        ∧ transaction.outbound = some ⟨frames, none, 1⟩ ∧ indices = [0]

theorem Opening.unregistered {endpoint : Endpoint} {command : EndpointCommand}
    {key : TransactionKey} {transaction : PendingTransaction} {indices : List Nat}
    (h : Opening (endpoint.registered command) key transaction indices) :
    Opening endpoint key transaction indices := by
  cases command <;> exact ⟨h.retries_eq, h.reassembly_eq, h.outbound_eq⟩

theorem opened_opening (endpoint : Endpoint) (host : Host) (target : BacnetTarget)
    (serviceChoice : ConfirmedServiceChoice) (serviceData : Bytes) (response : Channel)
    (invokeId : UInt8) (frames : RequestFrames)
    (hsplit : splitRequest target invokeId serviceChoice serviceData endpoint.acceptedApdu
      = .ok frames) :
    Opening endpoint (target.address, invokeId)
      ((endpoint.swept host target.address).opened host target serviceChoice response
        (requestTransfer (target.address, invokeId) frames))
      (segmentsSent (target.address, invokeId) (sendEntries host (target.address, invokeId)
        [(requestTransfer (target.address, invokeId) frames).1])) := by
  cases frames with
  | whole frame => exact ⟨rfl, rfl, Or.inl ⟨rfl, rfl⟩⟩
  | segmented frames =>
      refine ⟨rfl, rfl, Or.inr ⟨target, serviceChoice, serviceData, frames, hsplit, rfl, ?_⟩⟩
      show segmentsSent _ [host.entry (.sent (.segment (target.address, invokeId) 0) _ _)] = [0]
      have hindex : ∀ destination frame, Entry.segmentIndex (target.address, invokeId)
          (host.entry (.sent (.segment (target.address, invokeId) 0) destination frame))
            = some 0 := fun _ _ => if_pos rfl
      exact List.filterMap_cons_some (hindex _ _)

/-- **After a command** a key holds what it held before or the new transaction. -/
theorem Admission.origin {endpoint : Endpoint} {host : Host} {target : BacnetTarget}
    {serviceChoice : ConfirmedServiceChoice} {serviceData : Bytes} {response : Channel}
    {outcome : Endpoint × List Entry}
    (h : Admission endpoint host target serviceChoice serviceData response outcome)
    {key : TransactionKey} {transaction : PendingTransaction}
    (hlookup : outcome.1.pending.lookup key = some transaction) :
    (endpoint.pending.lookup key = some transaction ∧ segmentsSent key outcome.2 = [])
      ∨ (transaction.response = response
        ∧ Opening endpoint key transaction (segmentsSent key outcome.2)) := by
  -- A sweep only takes transactions out.
  have hswept : (endpoint.swept host target.address).pending.lookup key = some transaction →
      endpoint.pending.lookup key = some transaction :=
    fun h => ((KeyedTable.lookup_retain_eq_some _ _ _ _).mp h).1
  cases h with
  | cancelled => exact Or.inl ⟨hlookup, rfl⟩
  | exhausted => exact Or.inl ⟨hswept hlookup, rfl⟩
  | refused invokeId error hfree => exact Or.inl ⟨hswept hlookup, rfl⟩
  | admitted invokeId frames hfree hsplit =>
      rw [insertPending_lookup] at hlookup
      split at hlookup
      next hkey =>
        subst hkey
        cases hlookup
        exact Or.inr ⟨rfl, opened_opening endpoint host target serviceChoice serviceData response
          invokeId frames hsplit⟩
      -- The frame sent is for the key that was opened, not for this one.
      next hkey =>
        refine Or.inl ⟨hswept hlookup, segmentsSent_eq_nil ?_⟩
        intro entry hentry
        rcases List.mem_cons.mp hentry with rfl | hentry
        · rfl
        · refine segmentIndex_of_sendsFor (sendsFor_of_mem_sendEntries ?_ hentry) (Ne.symm hkey)
          intro parcel hparcel
          rw [List.mem_singleton.mp hparcel]
          cases frames <;> rfl
  | unsent invokeId error hfree =>
      have herased : ((endpoint.swept host target.address).pending.erase
          (target.address, invokeId)).lookup key = some transaction := hlookup
      rw [KeyedTable.lookup_erase_eq_ite] at herased
      -- A request that could not be sent leaves no transaction behind.
      split at herased
      · cases herased
      · exact Or.inl ⟨hswept herased, rfl⟩

/-- What the endpoint was created with. -/
def settings (endpoint : Endpoint) : Duration × UInt8 × MaxApduSize :=
  (endpoint.timeout, endpoint.retries, endpoint.acceptedApdu)

theorem Admission.settings_eq {endpoint : Endpoint} {host : Host} {target : BacnetTarget}
    {serviceChoice : ConfirmedServiceChoice} {serviceData : Bytes} {response : Channel}
    {outcome : Endpoint × List Entry}
    (h : Admission endpoint host target serviceChoice serviceData response outcome) :
    outcome.1.settings = endpoint.settings := by
  cases h <;> rfl

theorem registered_settings (endpoint : Endpoint) (command : EndpointCommand) :
    (endpoint.registered command).settings = endpoint.settings := by
  cases command <;> rfl

/-! ## §4. Timeouts -/

/-- What one expiry respects, the loop over the expired keys respects. -/
theorem expireEach_relates {P : Endpoint → Endpoint → List Entry → Prop} {host : Host}
    (hnil : ∀ a, P a a [])
    (happend : ∀ a b c es fs, P a b es → P b c fs → P a c (es ++ fs))
    (hexpiry : ∀ a now key transaction outcome, a.pending.lookup key = some transaction →
      Expiry a (host.later now) key transaction outcome → P a outcome.1 outcome.2) :
    ∀ (visits : List (TransactionKey × Instant)) (a : Endpoint),
      P a (a.expireEach host visits).1 (a.expireEach host visits).2
  | [], a => hnil a
  | (key, now) :: visits, a => by
      have hone : P a (a.expireOne (host.later now) key).1
          (a.expireOne (host.later now) key).2 := by
        cases hlookup : a.pending.lookup key with
        | none =>
            unfold expireOne
            rw [hlookup]
            exact hnil a
        | some transaction =>
            exact hexpiry a now key transaction _ hlookup (expireOne_expiry hlookup _)
      exact happend _ _ _ _ _ hone (expireEach_relates hnil happend hexpiry visits _)

end Endpoint

/-! ## §5. A transaction that survives a step -/

/-- What the timer does to a transaction it leaves pending: nothing, or attempts
that cost it retries and send the window again. -/
structure Attempted (key : TransactionKey) (transaction kept : PendingTransaction)
    (indices : List Nat) : Prop where
  response_eq : kept.response = transaction.response
  serviceChoice_eq : kept.serviceChoice = transaction.serviceChoice
  reassembly_eq : kept.reassembly = transaction.reassembly
  outbound_eq : kept.outbound = transaction.outbound
  retries : kept = transaction ∨ kept.retriesRemaining < transaction.retriesRemaining
  none_sent : transaction.outbound = none → indices = []
  consecutive : ∀ outbound, transaction.outbound = some outbound →
    (∀ frame ∈ outbound.frames, frame ≠ []) → Consecutive outbound.nextUnsent.toNat indices

theorem Attempted.refl (key : TransactionKey) (transaction : PendingTransaction) :
    Attempted key transaction transaction [] :=
  ⟨rfl, rfl, rfl, rfl, Or.inl rfl, fun _ => rfl, fun _ _ _ => Consecutive.nil _⟩

theorem Attempted.trans {key : TransactionKey} {a b c : PendingTransaction} {js ks : List Nat}
    (hab : Attempted key a b js) (hbc : Attempted key b c ks) : Attempted key a c (js ++ ks) where
  response_eq := hbc.response_eq.trans hab.response_eq
  serviceChoice_eq := hbc.serviceChoice_eq.trans hab.serviceChoice_eq
  reassembly_eq := hbc.reassembly_eq.trans hab.reassembly_eq
  outbound_eq := hbc.outbound_eq.trans hab.outbound_eq
  retries := by
    rcases hab.retries with rfl | hab
    · exact hbc.retries
    · rcases hbc.retries with rfl | hbc
      · exact Or.inr hab
      · exact Or.inr (UInt8.lt_trans hbc hab)
  none_sent := by
    intro hnone
    rw [hab.none_sent hnone, hbc.none_sent (hab.outbound_eq.trans hnone)]
    rfl
  consecutive := by
    intro outbound hsome hframes
    exact (hab.consecutive outbound hsome hframes).append
      (hbc.consecutive outbound (hab.outbound_eq.trans hsome) hframes)

theorem segmentsSent_sendEntries_eq_nil {host : Host} {key other : TransactionKey}
    {parcels : List (Purpose × Bytes)}
    (h : ∀ parcel ∈ parcels, ∀ owner index, parcel.1 ≠ .segment owner index) :
    segmentsSent key (sendEntries host other parcels) = [] := by
  refine segmentsSent_eq_nil ?_
  intro entry hentry
  obtain ⟨parcel, hparcel, rfl⟩ := List.mem_map.mp hentry
  have hne := h parcel hparcel
  obtain ⟨purpose, frame⟩ := parcel
  cases purpose with
  | segment owner index => exact absurd rfl (hne owner index)
  | request | segmentAck | abort | reply | discovery => rfl

/-- A segment of the answer is acknowledged, and none of the request is sent. -/
theorem Endpoint.SegmentKeeps.segmentsSent_eq_nil {endpoint : Endpoint} {host : Host}
    {key : TransactionKey} {transaction kept : PendingTransaction} {ack : ComplexAck}
    {entries : List Entry}
    (h : Endpoint.SegmentKeeps endpoint host key transaction ack kept entries) :
    segmentsSent key entries = [] := by
  obtain ⟨parcels, rfl, hparcels⟩ := h.entries_eq
  apply segmentsSent_sendEntries_eq_nil
  intro parcel hparcel owner index
  rw [hparcels parcel hparcel]
  exact Purpose.noConfusion

/-- The segments one more attempt sends. -/
theorem retransmit_attempted (host : Host) (key : TransactionKey)
    (transaction : PendingTransaction) (deadline : Instant)
    (hretries : transaction.retriesRemaining ≠ 0) :
    Attempted key transaction (transaction.retransmit deadline)
      (segmentsSent key (sendEntries host key
        ((transaction.retransmission key).filter (fun parcel => !parcel.2.isEmpty)))) := by
  have hless : transaction.retriesRemaining - 1 < transaction.retriesRemaining := by
    have hpos : transaction.retriesRemaining.toNat ≠ 0 :=
      fun hzero => hretries (UInt8.toNat_inj.mp hzero)
    rw [UInt8.lt_iff_toNat_lt, UInt8.toNat_sub_of_le _ _ (by
      rw [UInt8.le_iff_toNat_le]
      exact Nat.pos_of_ne_zero hpos)]
    show transaction.retriesRemaining.toNat - 1 < _
    omega
  -- Only a transaction mid-send retransmits segments.
  have hnil : (∀ outbound, transaction.reassembly = none → transaction.outbound ≠ some outbound) →
      segmentsSent key (sendEntries host key
        ((transaction.retransmission key).filter (fun parcel => !parcel.2.isEmpty))) = [] := by
    intro hidle
    refine segmentsSent_sendEntries_eq_nil ?_
    intro parcel hparcel owner index
    have hparcel := List.mem_of_mem_filter hparcel
    unfold PendingTransaction.retransmission at hparcel
    split at hparcel
    · rw [List.mem_singleton.mp hparcel]
      exact Purpose.noConfusion
    next outbound hreassembly houtbound => exact absurd houtbound (hidle outbound hreassembly)
    · rw [List.mem_singleton.mp hparcel]
      exact Purpose.noConfusion
  refine ⟨rfl, rfl, rfl, rfl, Or.inr hless, ?_, ?_⟩
  · intro hnone
    refine hnil (fun outbound _ houtbound => ?_)
    rw [hnone] at houtbound
    cases houtbound
  · intro outbound houtbound hframes
    cases hreassembly : transaction.reassembly with
    | some transfer =>
        rw [hnil (fun _ hnone _ => by rw [hreassembly] at hnone; cases hnone)]
        exact Consecutive.nil _
    | none =>
        have hwindow : transaction.retransmission key = outbound.windowFrames key := by
          unfold PendingTransaction.retransmission
          rw [hreassembly, houtbound]
        rw [hwindow, windowFrames_filter hframes, segmentsSent_windowFrames]
        exact windowAfterAck_consecutive outbound

theorem Endpoint.Expiry.attempted_of_lookup {endpoint : Endpoint} {host : Host}
    {key other : TransactionKey} {transaction kept : PendingTransaction}
    {outcome : Endpoint × List Entry} (hlookup : endpoint.pending.lookup other = some transaction)
    (h : Endpoint.Expiry endpoint host other transaction outcome)
    (hkept : outcome.1.pending.lookup key = some kept) :
    ∃ before, endpoint.pending.lookup key = some before
      ∧ Attempted key before kept (segmentsSent key outcome.2) := by
  -- A visit to another key leaves this one and sends nothing for it.
  have hothers : key ≠ other → outcome.1.pending.lookup key = endpoint.pending.lookup key
      ∧ segmentsSent key outcome.2 = [] := by
    intro hne
    have herased : (endpoint.pending.erase other).lookup key = endpoint.pending.lookup key :=
      AList.lookup_erase_ne hne
    have hforeign : ∀ {entries : List Entry}, (∀ entry ∈ entries, entry.sendsFor other) →
        ∀ entry ∈ entries, entry.segmentIndex key = none :=
      fun hsends entry hentry => segmentIndex_of_sendsFor (hsends entry hentry) (Ne.symm hne)
    cases h with
    | cancelled hdropped => exact ⟨herased, rfl⟩
    | timedOut hretries => exact ⟨herased, rfl⟩
    | attempted hretries deadline =>
        refine ⟨?_, segmentsSent_eq_nil (hforeign (fun entry hentry => ?_))⟩
        · rw [Endpoint.insertPending_lookup, if_neg hne]
        · exact sendsFor_of_mem_sendEntries
            (fun _ hm => key?_of_mem_retransmission (List.mem_of_mem_filter hm)) hentry
    | failed count error =>
        refine ⟨herased, ?_⟩
        rw [segmentsSent_append, segmentsSent_eq_nil (hforeign (fun entry hentry => ?_))]
        · rfl
        · exact sendsFor_of_mem_sendEntries (fun _ hm => key?_of_mem_retransmission
            (List.mem_of_mem_filter (List.mem_of_mem_take hm))) hentry
  by_cases hkey : key = other
  · subst hkey
    -- A key that was removed keeps no transaction, so it was sent again.
    have herased : (endpoint.pending.erase key).lookup key ≠ some kept := by
      rw [AList.lookup_erase]
      exact nofun
    cases h with
    | cancelled hdropped => exact absurd hkept herased
    | timedOut hretries => exact absurd hkept herased
    | attempted hretries deadline =>
        rw [Endpoint.insertPending_lookup, if_pos rfl] at hkept
        rw [← Option.some.inj hkept]
        exact ⟨transaction, hlookup, retransmit_attempted host key transaction deadline hretries⟩
    | failed count error => exact absurd hkept herased
  · obtain ⟨hsame, hnone⟩ := hothers hkey
    rw [hsame] at hkept
    rw [hnone]
    exact ⟨kept, hkept, Attempted.refl key kept⟩

/-- What the loop over the expired keys leaves of a transaction. -/
theorem expireEach_attempted (host : Host) (visits : List (TransactionKey × Instant))
    (endpoint : Endpoint) {key : TransactionKey} {kept : PendingTransaction}
    (hkept : (endpoint.expireEach host visits).1.pending.lookup key = some kept) :
    ∃ before, endpoint.pending.lookup key = some before
      ∧ Attempted key before kept (segmentsSent key (endpoint.expireEach host visits).2) := by
  revert kept
  refine Endpoint.expireEach_relates
    (P := fun a b entries => ∀ {kept}, b.pending.lookup key = some kept →
      ∃ before, a.pending.lookup key = some before
        ∧ Attempted key before kept (segmentsSent key entries)) ?_ ?_ ?_ visits endpoint
  · intro a kept hkept
    exact ⟨kept, hkept, Attempted.refl key kept⟩
  · intro a b c es fs hab hbc kept hkept
    obtain ⟨middle, hmiddle, hlater⟩ := hbc hkept
    obtain ⟨before, hbefore, hearlier⟩ := hab hmiddle
    refine ⟨before, hbefore, ?_⟩
    rw [segmentsSent_append]
    exact hearlier.trans hlater
  · intro a now other transaction outcome hlookup hexpiry kept hkept
    exact hexpiry.attempted_of_lookup hlookup hkept

namespace World

/-! ## §6. One step of the world -/

/-- The trace only grows. -/
theorem step_trace {world world' : World} {event : Event} (h : step world event = some world') :
    world.trace <+: world'.trace := by
  obtain ⟨_, rfl⟩ := step_eq_some.mp h
  cases event with
  | command | timeouts | stop => exact List.prefix_append _ _
  | drop => exact List.prefix_rfl
  | packet now sendTo data source =>
      rcases world.react_packet now sendTo data source with ⟨outcome, _, hreact⟩ | hreact
      · rw [hreact]
        exact List.prefix_append _ _
      · rw [hreact]
        exact List.prefix_append _ _

theorem run_trace {world world' : World} {events : List Event}
    (h : Machine.run step world events = some world') : world.trace <+: world'.trace :=
  Machine.run_relates (R := fun a b : World => a.trace <+: b.trace) (fun _ => List.prefix_rfl)
    (fun _ _ _ => List.IsPrefix.trans) (fun _ _ _ => step_trace) h

/-- What happened between two worlds splits at any world between them. -/
theorem entriesSince_append {a b c : World} (hab : a.trace <+: b.trace)
    (hbc : b.trace <+: c.trace) :
    entriesSince a c = entriesSince a b ++ entriesSince b c := by
  obtain ⟨es, hes⟩ := hab
  obtain ⟨fs, hfs⟩ := hbc
  unfold entriesSince
  rw [← hfs, ← hes, List.append_assoc, List.drop_left, List.drop_left,
    ← List.append_assoc, List.drop_left]

theorem entriesSince_resume (world : World) (now : Instant)
    (outcome : Endpoint × List Entry) :
    entriesSince world (world.resume now outcome) = outcome.2 :=
  List.drop_left

theorem resume_lookup {world : World} {now : Instant} {outcome : Endpoint × List Entry}
    {key : TransactionKey} {transaction : PendingTransaction}
    (h : (world.resume now outcome).endpoint.pending.lookup key = some transaction) :
    outcome.1.pending.lookup key = some transaction
      ∧ world.dropped.contains transaction.response = false := by
  obtain ⟨hlookup, hkept⟩ := (KeyedTable.lookup_retain_eq_some _ _ _ _).mp h
  exact ⟨hlookup, Bool.eq_false_of_not_eq_true' hkept⟩

/-- Channels stay issued. -/
theorem step_issued {world world' : World} {event : Event}
    (h : step world event = some world') {channel : Channel} (hissued : channel ∈ world.issued) :
    channel ∈ world'.issued := by
  obtain ⟨_, rfl⟩ := step_eq_some.mp h
  cases event with
  | command now sendTo command => exact List.mem_append_right _ hissued
  | timeouts | stop | drop => exact hissued
  | packet now sendTo data source =>
      rcases world.react_packet now sendTo data source with ⟨outcome, _, hreact⟩ | hreact
      · rw [hreact]
        exact hissued
      · rw [hreact]
        exact hissued

/-- A command's channels are new. -/
theorem not_issued_of_command {world world' : World} {now : Instant}
    {sendTo : SocketAddr → Bytes → Option IoError} {command : Endpoint.EndpointCommand}
    (h : step world (.command now sendTo command) = some world') {channel : Channel}
    (hchannel : channel ∈ command.channels) :
    channel ∉ world.issued ∧ channel ∈ world'.issued := by
  obtain ⟨hpermits, rfl⟩ := step_eq_some.mp h
  simp only [permits, Bool.and_eq_true, List.all_eq_true, Bool.not_eq_true',
    List.contains_eq_mem, decide_eq_false_iff_not] at hpermits
  exact ⟨hpermits.2 channel hchannel, List.mem_append_left _ hchannel⟩

/-- Nothing changes what the endpoint was created with. -/
theorem step_settings {world world' : World} {event : Event}
    (h : step world event = some world') :
    world'.endpoint.settings = world.endpoint.settings := by
  obtain ⟨_, rfl⟩ := step_eq_some.mp h
  cases event with
  | command now sendTo command =>
      show (world.endpoint.handleCommand (world.host now sendTo) command).1.settings = _
      rcases world.endpoint.handleCommand_cases (world.host now sendTo) command with
        ⟨devices, routers, hendpoint, _⟩ | ⟨target, service, serviceData, response, _, hadmission⟩
      · rw [hendpoint]
        rfl
      · rw [hadmission.settings_eq, Endpoint.registered_settings]
  | packet now sendTo data source =>
      simp only [react]
      cases hhandled : world.endpoint.handlePacket (world.host now sendTo) data source with
      | none => rfl
      | some outcome =>
          show outcome.1.settings = _
          rcases Endpoint.handlePacket_cases hhandled with
            ⟨hsame, _⟩ | ⟨apdu, route, invokeId, transaction, _, _, hbefore, houtcome⟩
          · rw [hsame]
          · have hresponse := Endpoint.handleResponse_handled hbefore (world.host now sendTo) apdu
              route
            rw [← houtcome] at hresponse
            cases hresponse <;> rfl
  | timeouts now sendTo visits =>
      show (Endpoint.expireEach _ _ visits).1.settings = _
      refine Endpoint.expireEach_relates (P := fun a b _ => b.settings = a.settings)
        (fun _ => rfl) (fun _ _ _ _ _ hab hbc => hbc.trans hab) ?_ visits _
      intro a now key transaction outcome _ hexpiry
      cases hexpiry <;> rfl
  | drop | stop => rfl

/-- What one step makes of a transaction that survives it, and the segments of its
request the step sends. -/
inductive Evolves (world : World) (key : TransactionKey) (transaction : PendingTransaction) :
    Event → PendingTransaction → List Nat → Prop where
  | idle (event : Event) : Evolves world key transaction event transaction []
  /-- A datagram from its peer carried an APDU about it. -/
  | heard (now : Instant) (sendTo : SocketAddr → Bytes → Option IoError) (data : Bytes)
      (apdu : Apdu) (route : Option NetworkAddress) (kept : PendingTransaction)
      (entries : List Entry) (hpacket : packetApdu data key.1 = some (apdu, route))
      (hid : Endpoint.responseInvokeId apdu = some key.2)
      (hkeeps : Endpoint.ResponseKeeps world.endpoint (world.host now sendTo) key transaction apdu
        kept entries) :
      Evolves world key transaction (.packet now sendTo data key.1) kept (segmentsSent key entries)
  /-- Its deadline passed. -/
  | attempted (now : Instant) (sendTo : SocketAddr → Bytes → Option IoError)
      (visits : List (TransactionKey × Instant)) (kept : PendingTransaction) (indices : List Nat)
      (h : Attempted key transaction kept indices) :
      Evolves world key transaction (.timeouts now sendTo visits) kept indices

theorem Evolves.response_eq {world : World} {key : TransactionKey}
    {transaction kept : PendingTransaction} {event : Event} {indices : List Nat}
    (h : Evolves world key transaction event kept indices) :
    kept.response = transaction.response := by
  cases h with
  | idle => rfl
  | heard now sendTo data apdu route kept entries hpacket hid hkeeps => exact hkeeps.response_eq
  | attempted now sendTo visits kept indices h => exact h.response_eq

/-- What a handled APDU leaves of any transaction: it is the one the APDU is about, or
nothing happened to it. -/
theorem handled_survivor {endpoint : Endpoint} {host : Host} {key other : TransactionKey}
    {transaction kept : PendingTransaction} {apdu : Apdu} {outcome : Endpoint × List Entry}
    (h : Endpoint.Handled endpoint other transaction
      (Endpoint.ResponseKeeps endpoint host other transaction apdu)
      (Endpoint.ResponseCloses host other transaction apdu) outcome)
    (hkept : outcome.1.pending.lookup key = some kept) :
    (endpoint.pending.lookup key = some kept ∧ segmentsSent key outcome.2 = [])
      ∨ (key = other ∧ Endpoint.ResponseKeeps endpoint host other transaction apdu kept
          outcome.2) := by
  cases h with
  | ignored => exact Or.inl ⟨hkept, rfl⟩
  | kept stored entries hkeeps =>
      rw [Endpoint.insertPending_lookup] at hkept
      split at hkept
      next hkey =>
        rw [← Option.some.inj hkept]
        exact Or.inr ⟨hkey, hkeeps⟩
      next hkey =>
        exact Or.inl ⟨hkept, segmentsSent_eq_nil (fun entry hentry =>
          segmentIndex_of_sendsFor (hkeeps.sendsFor entry hentry) (Ne.symm hkey))⟩
  | closed rtt sends time result hcloses =>
      have herased : (endpoint.pending.erase other).lookup key = some kept := hkept
      rw [KeyedTable.lookup_erase_eq_ite] at herased
      split at herased
      · cases herased
      next hkey =>
        refine Or.inl ⟨herased, ?_⟩
        rw [segmentsSent_append, segmentsSent_eq_nil (fun entry hentry =>
          segmentIndex_of_sendsFor (hcloses.sendsFor entry hentry) (Ne.symm hkey))]
        rfl

/-- **What a step makes of a transaction.**  One that is pending after a step was
pending before it and has evolved, or was opened by the step's command. -/
theorem step_evolves {world world' : World} {event : Event} {key : TransactionKey}
    {kept : PendingTransaction} (hstep : step world event = some world')
    (hkept : world'.endpoint.pending.lookup key = some kept) :
    (∃ transaction, world.endpoint.pending.lookup key = some transaction
        ∧ Evolves world key transaction event kept
          (segmentsSent key (entriesSince world world')))
      ∨ ∃ now sendTo command, event = .command now sendTo command
        ∧ kept.response ∈ command.channels
        ∧ Endpoint.Opening world.endpoint key kept
          (segmentsSent key (entriesSince world world')) := by
  obtain ⟨_, rfl⟩ := step_eq_some.mp hstep
  -- A halted world has no transaction left, so nothing was kept through it.
  have hhalt : ∀ now entries,
      (world.halt now entries).endpoint.pending.lookup key = some kept → False :=
    fun _ _ h => by cases h
  cases event with
  | command now sendTo command =>
      obtain ⟨hlookup, _⟩ := resume_lookup hkept
      have hentries : entriesSince world (world.react (.command now sendTo command))
          = (world.endpoint.handleCommand (world.host now sendTo) command).2 := List.drop_left
      rw [hentries]
      rcases world.endpoint.handleCommand_cases (world.host now sendTo) command with
        ⟨devices, routers, hendpoint, hquiet⟩ | ⟨target, service, serviceData, response, hchannel,
          hadmission⟩
      -- The command only changed what is known of devices and routers.
      · rw [hendpoint] at hlookup
        rw [segmentsSent_eq_nil (fun entry hentry => segmentIndex_of_quiet (hquiet entry hentry))]
        exact Or.inl ⟨kept, hlookup, .idle _⟩
      -- A request was admitted: the key is one that was there before, or the one it opened.
      · rcases hadmission.origin hlookup with ⟨hbefore, hnone⟩ | ⟨hresponse, hopening⟩
        · rw [Endpoint.registered_pending] at hbefore
          rw [hnone]
          exact Or.inl ⟨kept, hbefore, .idle _⟩
        · refine Or.inr ⟨now, sendTo, command, rfl, ?_, hopening.unregistered⟩
          rw [hresponse]
          exact hchannel
  | packet now sendTo data source =>
      simp only [react] at hkept ⊢
      cases hhandled : world.endpoint.handlePacket (world.host now sendTo) data source with
      | none =>
          rw [hhandled] at hkept
          exact absurd hkept (hhalt now [])
      | some outcome =>
          rw [hhandled] at hkept
          obtain ⟨hlookup, _⟩ := resume_lookup hkept
          simp only [entriesSince_resume]
          refine Or.inl ?_
          rcases Endpoint.handlePacket_cases hhandled with
            ⟨hsame, hquiet⟩ | ⟨apdu, route, invokeId, transaction, hpacket, hid, hbefore, houtcome⟩
          · rw [hsame] at hlookup
            rw [segmentsSent_eq_nil
              (fun entry hentry => segmentIndex_of_quiet (hquiet entry hentry))]
            exact ⟨kept, hlookup, .idle _⟩
          · have hresponse := Endpoint.handleResponse_handled hbefore (world.host now sendTo) apdu
              route
            rw [← houtcome] at hresponse
            -- The answer was for the transaction of another key, or for this one.
            rcases handled_survivor hresponse hlookup with
              ⟨hlookup, hnone⟩ | ⟨rfl, hkeeps⟩
            · rw [hnone]
              exact ⟨kept, hlookup, .idle _⟩
            · exact ⟨transaction, hbefore,
                .heard now sendTo data apdu route kept outcome.2 hpacket hid hkeeps⟩
  | timeouts now sendTo visits =>
      obtain ⟨hlookup, _⟩ := resume_lookup hkept
      have hentries : entriesSince world (world.react (.timeouts now sendTo visits))
          = (world.endpoint.handleTimeouts (world.host now sendTo) visits).2 := List.drop_left
      rw [hentries]
      obtain ⟨transaction, hbefore, hattempted⟩ := expireEach_attempted _ visits _ hlookup
      exact Or.inl ⟨transaction, hbefore, .attempted now sendTo visits kept _ hattempted⟩
  | drop channel =>
      refine Or.inl ⟨kept, hkept, ?_⟩
      have hentries : entriesSince world (world.react (.drop channel)) = [] := List.drop_length
      rw [hentries]
      exact .idle _
  | stop now error => exact absurd hkept (hhalt now _)

end World

end BacnetRs.Client
