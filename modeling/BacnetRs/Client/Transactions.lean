/-
  BacnetRs.Client.Transactions — transactions do not get in each other's way
  (`handle_confirmed_command`, `handle_packet` and `handle_timeouts` in
  `client/async_client.rs`).

  Commands, datagrams, timeouts and cancellations come in any order.  A
  caller's channel is a resource: it is held by the transaction that will
  answer it or spent in the trace, and no step makes one of the two out of
  nothing.

    * `command_keeps_live`     — a command leaves every live transaction alone;
    * `pending_at_most_256`    — a peer has at most 256;
    * `step_claims`            — what one step does to the resource;
    * `packet_answers`         — whom a datagram answers;
    * `transactions_exclusive` — the four together, in every reachable world.
-/
import BacnetRs.Client.Steps

namespace BacnetRs.Client

open BacnetRs.Service BacnetRs.Network BacnetRs.App

/-! ## §1. Holding and answering a channel -/

/-- The entry puts a result into `channel`. -/
def Entry.answers (channel : Channel) (entry : Entry) : Bool :=
  match entry.effect with
  | .answered response _ => response == channel
  | _ => false

/-- How many results were put into `channel`. -/
def answersTo (channel : Channel) (entries : List Entry) : Nat :=
  entries.countP (Entry.answers channel)

/-- How many transactions will answer `channel`. -/
def holders (channel : Channel) (pending : KeyedTable TransactionKey PendingTransaction) : Nat :=
  KeyedTable.count (fun _ transaction => transaction.response == channel) pending

theorem answersTo_append (channel : Channel) (es fs : List Entry) :
    answersTo channel (es ++ fs) = answersTo channel es + answersTo channel fs :=
  List.countP_append

theorem answersTo_eq_zero {channel : Channel} {entries : List Entry}
    (h : ∀ entry ∈ entries, entry.answers channel = false) : answersTo channel entries = 0 := by
  refine List.countP_eq_zero.mpr (fun entry hentry => ?_)
  rw [h entry hentry]
  exact Bool.false_ne_true

theorem answers_of_quiet {channel : Channel} {entry : Entry}
    (h : entry.isTransactional = false) : entry.answers channel = false := by
  obtain ⟨time, effect⟩ := entry
  cases effect with
  | answered => cases h
  | reserved | sent | notified | discovered => rfl

theorem answers_of_sendsFor {channel : Channel} {key : TransactionKey} {entry : Entry}
    (h : entry.sendsFor key) : entry.answers channel = false := by
  obtain ⟨purpose, destination, frame, heffect, _⟩ := h
  unfold Entry.answers
  rw [heffect]

/-- Sending for one transaction, then answering its caller. -/
theorem answersTo_closing {channel response : Channel} {key : TransactionKey}
    {sends : List Entry} (hsends : ∀ entry ∈ sends, entry.sendsFor key) (time : Instant)
    (result : Except ClientError Bytes) :
    answersTo channel (sends ++ [⟨time, .answered response result⟩])
      = if response == channel then 1 else 0 := by
  rw [answersTo_append, answersTo_eq_zero (fun entry hentry =>
    answers_of_sendsFor (hsends entry hentry)), Nat.zero_add]
  show List.countP _ [_] = _
  rw [List.countP_singleton]
  rfl

namespace Endpoint

/-- An outcome claims no channel more often than the state it came from, plus `extra`. -/
def Claims (channel : Channel) (extra : Nat) (endpoint : Endpoint)
    (outcome : Endpoint × List Entry) : Prop :=
  holders channel outcome.1.pending + answersTo channel outcome.2
    ≤ holders channel endpoint.pending + extra

/-- Closing a transaction turns the claim it held into the answer it gave. -/
theorem closing_claims {endpoint after : Endpoint} {key : TransactionKey}
    {transaction : PendingTransaction} (hlookup : endpoint.pending.lookup key = some transaction)
    (hafter : after.pending = endpoint.pending.erase key) {sends : List Entry}
    (hsends : ∀ entry ∈ sends, entry.sendsFor key) (time : Instant)
    (result : Except ClientError Bytes) (channel : Channel) :
    Claims channel 0 endpoint
      (after, sends ++ [⟨time, .answered transaction.response result⟩]) := by
  unfold Claims holders
  rw [answersTo_closing hsends, hafter, KeyedTable.count_erase _ _ _ _ hlookup]
  exact Nat.le_refl _

/-- Keeping a transaction keeps its claim. -/
theorem keeping_claims {endpoint : Endpoint} {key : TransactionKey}
    {transaction kept : PendingTransaction}
    (hlookup : endpoint.pending.lookup key = some transaction)
    (hresponse : kept.response = transaction.response) {entries : List Entry}
    (hentries : ∀ entry ∈ entries, entry.sendsFor key) (channel : Channel) :
    Claims channel 0 endpoint (endpoint.insertPending key kept, entries) := by
  unfold Claims holders
  rw [answersTo_eq_zero (fun entry hentry => answers_of_sendsFor (hentries entry hentry))]
  have hsame := KeyedTable.count_replaced
    (fun _ (transaction : PendingTransaction) => transaction.response == channel)
    endpoint.pending key transaction kept hlookup (by rw [hresponse])
  exact Nat.le_of_eq hsame

theorem removing_claims (endpoint : Endpoint) (key : TransactionKey) (channel : Channel) :
    holders channel (endpoint.removePending key).pending ≤ holders channel endpoint.pending := by
  show KeyedTable.count _ (endpoint.pending.erase key) ≤ _
  cases hlookup : endpoint.pending.lookup key with
  | none => exact Nat.le_of_eq (KeyedTable.count_erase_of_lookup_none _ _ _ hlookup)
  | some transaction =>
      unfold holders
      rw [KeyedTable.count_erase _ _ _ _ hlookup]
      exact Nat.le_add_right _ _

theorem Claims.trans {channel : Channel} {a b c : Endpoint} {es fs : List Entry}
    (hab : Claims channel 0 a (b, es)) (hbc : Claims channel 0 b (c, fs)) :
    Claims channel 0 a (c, es ++ fs) := by
  unfold Claims at *
  rw [answersTo_append]
  simp only at *
  omega

/-- An APDU about a transaction. -/
theorem handleResponse_claims {endpoint : Endpoint} {host : Host} {key : TransactionKey}
    {transaction : PendingTransaction} {apdu : Apdu} {outcome : Endpoint × List Entry}
    (hlookup : endpoint.pending.lookup key = some transaction)
    (h : Handled endpoint key transaction (ResponseKeeps endpoint host key transaction apdu)
      (ResponseCloses host key transaction apdu) outcome) (channel : Channel) :
    Claims channel 0 endpoint outcome := by
  cases h with
  | ignored => exact Nat.le_refl _
  | kept kept entries hkeeps =>
      exact keeping_claims hlookup hkeeps.response_eq hkeeps.sendsFor channel
  | closed rtt sends time result hcloses =>
      exact closing_claims hlookup rfl hcloses.sendsFor time result channel

/-- An expired deadline. -/
theorem Expiry.claims {endpoint : Endpoint} {host : Host} {key : TransactionKey}
    {transaction : PendingTransaction} {outcome : Endpoint × List Entry}
    (hlookup : endpoint.pending.lookup key = some transaction)
    (h : Expiry endpoint host key transaction outcome) (channel : Channel) :
    Claims channel 0 endpoint outcome := by
  cases h with
  | cancelled hdropped => exact removing_claims endpoint key channel
  | timedOut hretries =>
      have hsends : ∀ entry ∈ ([] : List Entry), entry.sendsFor key :=
        fun _ hm => absurd hm List.not_mem_nil
      exact closing_claims hlookup rfl hsends host.now (.error .timeout) channel
  | attempted hretries deadline =>
      refine keeping_claims hlookup rfl (fun entry hentry => ?_) channel
      exact sendsFor_of_mem_sendEntries
        (fun _ hm => key?_of_mem_retransmission (List.mem_of_mem_filter hm)) hentry
  | failed count error =>
      refine closing_claims hlookup rfl (fun entry hentry => ?_) host.now _ channel
      exact sendsFor_of_mem_sendEntries (fun _ hm =>
        key?_of_mem_retransmission (List.mem_of_mem_filter (List.mem_of_mem_take hm))) hentry

/-- Reclaiming cancelled work gives claims back. -/
theorem removeCancelled_claims (endpoint : Endpoint) (dropped : List Channel)
    (channel : Channel) :
    holders channel (endpoint.removeCancelled dropped).pending
      ≤ holders channel endpoint.pending :=
  KeyedTable.count_retain_le
    (fun _ (transaction : PendingTransaction) => transaction.response == channel)
    (fun _ transaction => !dropped.contains transaction.response) endpoint.pending

/-- A command claims its own channel once. -/
theorem Admission.claims {endpoint : Endpoint} {host : Host} {target : BacnetTarget}
    {serviceChoice : ConfirmedServiceChoice} {serviceData : Bytes} {response : Channel}
    {outcome : Endpoint × List Entry}
    (h : Admission endpoint host target serviceChoice serviceData response outcome)
    (channel : Channel) :
    Claims channel (if response == channel then 1 else 0) endpoint outcome := by
  have hswept : holders channel (endpoint.swept host target.address).pending
      ≤ holders channel endpoint.pending := endpoint.removeCancelled_claims host.dropped channel
  have hanswer : ∀ (key : TransactionKey) (result : Except ClientError Bytes),
      answersTo channel [host.entry (.reserved key), host.entry (.answered response result)]
        = if response == channel then 1 else 0 := by
    intro key result
    show List.countP _ [_, _] = _
    rw [List.countP_cons, List.countP_singleton]
    rfl
  unfold Claims
  cases h with
  | cancelled => exact Nat.le_add_right _ _
  | exhausted =>
      have hone : answersTo channel [host.entry (.answered response (.error .tooManyTransactions))]
          = if response == channel then 1 else 0 := List.countP_singleton
      rw [hone]
      exact Nat.add_le_add_right hswept _
  | refused invokeId error hfree =>
      rw [hanswer]
      exact Nat.add_le_add_right hswept _
  | admitted invokeId frames hfree hsplit =>
      have hsilent : answersTo channel (host.entry (.reserved (target.address, invokeId))
          :: sendEntries host (target.address, invokeId)
            [(requestTransfer (target.address, invokeId) frames).1]) = 0 := rfl
      rw [hsilent]
      show KeyedTable.count _ ((endpoint.swept host target.address).pending.insert
        (target.address, invokeId) _) + 0 ≤ _
      rw [KeyedTable.count_insert, KeyedTable.count_erase_of_lookup_none _ _ _ hfree.1]
      exact Nat.add_le_add_right hswept _
  | unsent invokeId error hfree =>
      rw [hanswer]
      exact Nat.add_le_add_right
        (Nat.le_trans (removing_claims _ (target.address, invokeId) channel) hswept) _

/-- Ending the task answers every transaction it holds. -/
theorem failAll_answers (endpoint : Endpoint) (now : Instant) (error : ClientError)
    (channel : Channel) :
    answersTo channel (endpoint.failAll now error).2 = holders channel endpoint.pending := by
  show answersTo channel (List.map _ (KeyedTable.values endpoint.pending) ++ List.map _ _) = _
  rw [answersTo_append]
  have hdiscoveries : answersTo channel
      ((endpoint.deviceDiscoveries ++ endpoint.routerDiscoveries).map
        (fun discovery => (⟨now, .discovered discovery.sink (.error error)⟩ : Entry))) = 0 := by
    refine answersTo_eq_zero (fun entry hentry => ?_)
    obtain ⟨discovery, _, rfl⟩ := List.mem_map.mp hentry
    rfl
  rw [hdiscoveries, Nat.add_zero]
  unfold answersTo KeyedTable.values holders KeyedTable.count
  rw [List.map_map, List.countP_map]
  rfl

end Endpoint

namespace World

/-! ## §2. Claims over a run -/

/-- A channel is held or answered at most once, and not at all before it is issued. -/
def Exclusive (world : World) : Prop :=
  ∀ channel, holders channel world.endpoint.pending + answersTo channel world.trace
    ≤ if channel ∈ world.issued then 1 else 0

theorem resume_claims {world : World} {now : Instant} {outcome : Endpoint × List Entry}
    {channel : Channel} {extra : Nat}
    (h : Endpoint.Claims channel extra world.endpoint outcome) :
    holders channel (world.resume now outcome).endpoint.pending
        + answersTo channel (world.resume now outcome).trace
      ≤ holders channel world.endpoint.pending + answersTo channel world.trace + extra := by
  have hreclaimed : holders channel (world.resume now outcome).endpoint.pending
      ≤ holders channel outcome.1.pending := outcome.1.removeCancelled_claims _ channel
  have htrace : answersTo channel (world.resume now outcome).trace
      = answersTo channel world.trace + answersTo channel outcome.2 := answersTo_append _ _ _
  unfold Endpoint.Claims at h
  omega

/-- What one step does to a channel's claims. -/
theorem step_claims {world world' : World} {event : Event}
    (hstep : step world event = some world') (channel : Channel) :
    ∃ extra, (extra = 0 ∨ extra = 1 ∧ ∃ now sendTo command,
        event = .command now sendTo command ∧ channel ∈ command.channels)
      ∧ holders channel world'.endpoint.pending + answersTo channel world'.trace
        ≤ holders channel world.endpoint.pending + answersTo channel world.trace + extra := by
  obtain ⟨_, rfl⟩ := step_eq_some.mp hstep
  -- A halt drops every transaction, each answered at most once.
  have hended : ∀ (now : Instant) (entries : List Entry),
      answersTo channel entries ≤ holders channel world.endpoint.pending →
      holders channel (world.halt now entries).endpoint.pending
          + answersTo channel (world.halt now entries).trace
        ≤ holders channel world.endpoint.pending + answersTo channel world.trace + 0 := by
    intro now entries hentries
    have htrace : answersTo channel (world.halt now entries).trace
        = answersTo channel world.trace + answersTo channel entries := answersTo_append _ _ _
    have hempty : holders channel (world.halt now entries).endpoint.pending = 0 := rfl
    omega
  cases event with
  | command now sendTo command =>
      rcases world.endpoint.handleCommand_cases (world.host now sendTo) command with
        ⟨devices, routers, hendpoint, hquiet⟩ | ⟨target, service, serviceData, response, hchannel,
          hadmission⟩
      · refine ⟨0, Or.inl rfl, ?_⟩
        have hclaims : Endpoint.Claims channel 0 world.endpoint
            (world.endpoint.handleCommand (world.host now sendTo) command) := by
          unfold Endpoint.Claims
          rw [answersTo_eq_zero (fun entry hentry => answers_of_quiet (hquiet entry hentry)),
            hendpoint]
        exact resume_claims hclaims
      · have hclaims := hadmission.claims channel
        unfold Endpoint.Claims at hclaims
        rw [Endpoint.registered_pending] at hclaims
        -- Only a command that names the channel may claim it anew.
        by_cases hsame : response = channel
        · subst hsame
          rw [beq_self_eq_true, if_pos rfl] at hclaims
          exact ⟨1, Or.inr ⟨rfl, now, sendTo, command, rfl, hchannel⟩, resume_claims hclaims⟩
        · rw [beq_false_of_ne hsame, if_neg Bool.false_ne_true] at hclaims
          exact ⟨0, Or.inl rfl, resume_claims hclaims⟩
  | packet now sendTo data source =>
      refine ⟨0, Or.inl rfl, ?_⟩
      simp only [react]
      cases hhandled : world.endpoint.handlePacket (world.host now sendTo) data source with
      | none => exact hended now [] (Nat.zero_le _)
      | some outcome =>
          refine resume_claims ?_
          rcases Endpoint.handlePacket_cases hhandled with
            ⟨hsame, hquiet⟩ | ⟨apdu, route, invokeId, transaction, _, _, hbefore, houtcome⟩
          · unfold Endpoint.Claims
            rw [answersTo_eq_zero (fun entry hentry => answers_of_quiet (hquiet entry hentry)),
              hsame]
          · have hresponse := Endpoint.handleResponse_handled hbefore (world.host now sendTo) apdu
              route
            rw [← houtcome] at hresponse
            exact Endpoint.handleResponse_claims hbefore hresponse channel
  | timeouts now sendTo visits =>
      refine ⟨0, Or.inl rfl, resume_claims ?_⟩
      show Endpoint.Claims channel 0 _ (Endpoint.expireEach _ (world.host now sendTo) visits)
      refine Endpoint.expireEach_relates
        (P := fun a b entries => Endpoint.Claims channel 0 a (b, entries))
        (fun _ => Nat.le_refl _) (fun _ _ _ _ _ => Endpoint.Claims.trans) ?_ visits _
      intro a now key transaction outcome hlookup hexpiry
      exact hexpiry.claims hlookup channel
  | drop channel => exact ⟨0, Or.inl rfl, Nat.le_refl _⟩
  | stop now error =>
      exact ⟨0, Or.inl rfl, hended now _ (Nat.le_of_eq (world.endpoint.failAll_answers now _ _))⟩

theorem step_exclusive {world world' : World} {event : Event} (h : world.Exclusive)
    (hstep : step world event = some world') : world'.Exclusive := by
  intro channel
  have hbefore := h channel
  obtain ⟨extra, hextra, hclaims⟩ := step_claims hstep channel
  rcases hextra with rfl | ⟨rfl, now, sendTo, command, rfl, hchannel⟩
  · by_cases hissued : channel ∈ world.issued
    · rw [if_pos hissued] at hbefore
      rw [if_pos (step_issued hstep hissued)]
      omega
    · rw [if_neg hissued] at hbefore
      omega
  · obtain ⟨hfresh, hissued⟩ := not_issued_of_command hstep hchannel
    rw [if_neg hfresh] at hbefore
    rw [if_pos hissued]
    omega

theorem Reachable.exclusive {timeout : Duration} {retries : UInt8} {acceptedApdu : MaxApduSize}
    {world : World} (h : Reachable timeout retries acceptedApdu world) : world.Exclusive :=
  Machine.Reachable.invariant (fun _ _ _ => step_exclusive) (fun _ => Nat.zero_le _) h

/-! ## §3. Commands, peers and datagrams -/

/-- A command leaves every transaction whose caller still waits as it was. -/
theorem command_keeps_live {world world' : World} {now : Instant}
    {sendTo : SocketAddr → Bytes → Option IoError} {command : Endpoint.EndpointCommand}
    (hstep : step world (.command now sendTo command) = some world') {key : TransactionKey}
    {transaction : PendingTransaction}
    (hlookup : world.endpoint.pending.lookup key = some transaction)
    (hlive : transaction.response ∉ world.dropped) :
    world'.endpoint.pending.lookup key = some transaction := by
  obtain ⟨_, rfl⟩ := step_eq_some.mp hstep
  -- A sweep takes out only transactions whose caller has gone.
  have hkept : ∀ table : KeyedTable TransactionKey PendingTransaction,
      table.lookup key = some transaction →
      (KeyedTable.retain (fun _ other => !world.dropped.contains other.response) table).lookup key
        = some transaction := by
    intro table htable
    refine (KeyedTable.lookup_retain_eq_some _ _ _ _).mpr ⟨htable, ?_⟩
    simpa using hlive
  refine hkept _ ?_
  rcases world.endpoint.handleCommand_cases (world.host now sendTo) command with
    ⟨devices, routers, hendpoint, _⟩ | ⟨target, service, serviceData, response, _, hadmission⟩
  · rw [hendpoint]
    exact hlookup
  · generalize world.endpoint.handleCommand (world.host now sendTo) command = outcome
      at hadmission ⊢
    have hswept : ((world.endpoint.registered command).swept (world.host now sendTo)
        target.address).pending.lookup key = some transaction := by
      rw [Endpoint.swept_pending, Endpoint.registered_pending]
      exact hkept _ hlookup
    -- A free id is not the one this transaction holds.
    have hother : ∀ invokeId, ((world.endpoint.registered command).swept (world.host now sendTo)
        target.address).Free (target.address, invokeId) → key ≠ (target.address, invokeId) := by
      intro invokeId hfree heq
      rw [heq, hfree.1] at hswept
      cases hswept
    cases hadmission with
    | cancelled =>
        rw [Endpoint.registered_pending]
        exact hlookup
    | exhausted | refused => exact hswept
    | admitted invokeId frames hfree hsplit =>
        rw [Endpoint.insertPending_lookup, if_neg (hother invokeId hfree)]
        exact hswept
    | unsent invokeId error hfree =>
        exact (AList.lookup_erase_ne (hother invokeId hfree)).trans hswept

/-- No table holds more than 256 transactions of one peer. -/
theorem pending_at_most_256 (pending : KeyedTable TransactionKey PendingTransaction)
    (peer : SocketAddr) : KeyedTable.count (fun key _ => key.1 == peer) pending ≤ 256 := by
  have hcard := KeyedTable.count_keys_le_card (fun key : TransactionKey => key.1 == peer)
    (fun key => key.2.toFin) ?_ pending
  · rwa [Fintype.card_fin] at hcard
  · intro a b ha hb hab
    have hpeer : a.1 = b.1 := (beq_iff_eq.mp ha).trans (beq_iff_eq.mp hb).symm
    exact Prod.ext hpeer (UInt8.toFin_inj.mp hab)

/-- The APDU is about the service asked for, as far as it names one. -/
def AboutService (apdu : Apdu) (expected : ConfirmedServiceChoice) : Prop :=
  match apdu with
  | .complexAck ack => ack.serviceChoice = expected
  | .simpleAck _ serviceChoice => serviceChoice = expected.toByte
  | .error _ serviceChoice _ _ _ => serviceChoice = expected
  | _ => True

theorem aboutService_of_matches {apdu : Apdu} {expected : ConfirmedServiceChoice}
    (h : Endpoint.responseMatchesService apdu expected = true) : AboutService apdu expected := by
  cases apdu with
  | complexAck | simpleAck | error => exact beq_iff_eq.mp h
  | confirmedRequest | unconfirmedRequest | reject | abort | segmentAck => trivial

/-- A datagram answers only the transaction its source and its APDU's invoke id name,
and only about the service asked for. -/
theorem packet_answers {world world' : World} {now : Instant}
    {sendTo : SocketAddr → Bytes → Option IoError} {data : Bytes} {source : SocketAddr}
    (hstep : step world (.packet now sendTo data source) = some world') {entry : Entry}
    (hentry : entry ∈ entriesSince world world') {channel : Channel}
    {result : Except ClientError Bytes} (heffect : entry.effect = .answered channel result) :
    ∃ apdu route invokeId transaction, packetApdu data source = some (apdu, route)
      ∧ Endpoint.responseInvokeId apdu = some invokeId
      ∧ world.endpoint.pending.lookup (source, invokeId) = some transaction
      ∧ transaction.response = channel ∧ AboutService apdu transaction.serviceChoice := by
  obtain ⟨_, rfl⟩ := step_eq_some.mp hstep
  have hanswers : entry.answers channel = true := by
    unfold Entry.answers
    rw [heffect]
    exact beq_self_eq_true channel
  simp only [react] at hentry
  cases hhandled : world.endpoint.handlePacket (world.host now sendTo) data source with
  | none =>
      rw [hhandled] at hentry
      have hnone : entriesSince world (world.halt now []) = [] := List.drop_left
      rw [hnone] at hentry
      exact absurd hentry List.not_mem_nil
  | some outcome =>
      rw [hhandled] at hentry
      simp only [entriesSince_resume] at hentry
      rcases Endpoint.handlePacket_cases hhandled with
        ⟨_, hquiet⟩ | ⟨apdu, route, invokeId, transaction, hpacket, hid, hbefore, houtcome⟩
      · rw [answers_of_quiet (hquiet entry hentry)] at hanswers
        cases hanswers
      · refine ⟨apdu, route, invokeId, transaction, hpacket, hid, hbefore, ?_⟩
        have hresponse := Endpoint.handleResponse_handled hbefore (world.host now sendTo) apdu route
        rw [← houtcome] at hresponse
        cases hresponse with
        -- Of what a packet brings about only the closing of the transaction answers a caller.
        | ignored => exact absurd hentry List.not_mem_nil
        | kept kept entries hkeeps =>
            rw [answers_of_sendsFor (hkeeps.sendsFor entry hentry)] at hanswers
            cases hanswers
        | closed rtt sends time closing hcloses =>
            rcases List.mem_append.mp hentry with hentry | hentry
            · rw [answers_of_sendsFor (hcloses.sendsFor entry hentry)] at hanswers
              cases hanswers
            · rw [List.mem_singleton.mp hentry] at heffect
              cases heffect
              refine ⟨rfl, ?_⟩
              cases hcloses with
              | answered _ hservice => exact aboutService_of_matches hservice
              | segment _ _ _ hservice => exact aboutService_of_matches hservice
              | unpaced => trivial

/-- **Transactions are exclusive.**  In every reachable world a command overwrites no
live transaction, no peer has more than 256, no channel has been answered twice, and a
datagram answers only the transaction at (its source, its invoke id), about its
service. -/
theorem transactions_exclusive {timeout : Duration} {retries : UInt8}
    {acceptedApdu : MaxApduSize} {world : World}
    (h : Reachable timeout retries acceptedApdu world) :
    (∀ now sendTo command world', step world (.command now sendTo command) = some world' →
        ∀ key transaction, world.endpoint.pending.lookup key = some transaction →
          transaction.response ∉ world.dropped →
          world'.endpoint.pending.lookup key = some transaction)
      ∧ (∀ peer, KeyedTable.count (fun key _ => key.1 == peer) world.endpoint.pending ≤ 256)
      ∧ (∀ channel, answersTo channel world.trace ≤ 1)
      ∧ ∀ now sendTo data source world', step world (.packet now sendTo data source) = some world' →
          ∀ entry ∈ entriesSince world world', ∀ channel result,
            entry.effect = .answered channel result →
            ∃ apdu route invokeId transaction, packetApdu data source = some (apdu, route)
              ∧ Endpoint.responseInvokeId apdu = some invokeId
              ∧ world.endpoint.pending.lookup (source, invokeId) = some transaction
              ∧ transaction.response = channel
              ∧ AboutService apdu transaction.serviceChoice := by
  refine ⟨fun _ _ _ _ hstep _ _ hlookup hlive => command_keeps_live hstep hlookup hlive,
    pending_at_most_256 _, fun channel => ?_,
    fun _ _ _ _ _ hstep _ hentry _ _ heffect => packet_answers hstep hentry heffect⟩
  have hone := h.exclusive channel
  have hissued : (if channel ∈ world.issued then 1 else 0) ≤ 1 := by
    split <;> omega
  omega

/-- One transaction, unanswered. -/
theorem transactions_exclusive_afterRequest :
    KeyedTable.count (fun key _ => key.1 == segmentingPeer.address) afterRequest.endpoint.pending
        ≤ 256
      ∧ answersTo 0 afterRequest.trace ≤ 1 := by
  have hreachable : Reachable 3000000000 3 .up1476 afterRequest :=
    ⟨[hundredOctets], Machine.run_cons_eq_some.mpr ⟨_, step_hundredOctets, rfl⟩⟩
  have hexclusive := transactions_exclusive hreachable
  exact ⟨hexclusive.2.1 segmentingPeer.address, hexclusive.2.2.1 0⟩

end World

end BacnetRs.Client
