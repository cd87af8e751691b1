/-
  BacnetRs.Client.Quarantine — when an invoke id comes back
  (`reserve_invoke_id` and `handle_timeouts` in `client/async_client.rs`).

  An answer that comes after its transaction timed out must not find another
  transaction under the same id.  The id is therefore held back for as long as
  the transaction could have taken; ids of transactions that ended in any other
  way are free at once.

    * `expireEach_expires`   — a timeout puts its key into quarantine;
    * `step_held`            — no step takes it out before its time;
    * `timed_out_id_held`    — so no reservation returns it before then;
    * `other_ids_not_held`   — an id whose transaction was cancelled, abandoned
                               or failed by the socket comes back at once.
-/
import BacnetRs.Client.Transactions

namespace BacnetRs.Client

open BacnetRs.Service BacnetRs.Network BacnetRs.App

/-! ## §1. Timing out -/

namespace Endpoint

/-- No key is both in use and held back. -/
def Separate (endpoint : Endpoint) : Prop :=
  ∀ key, endpoint.quarantined.lookup key ≠ none → endpoint.pending.lookup key = none

/-- What expiring deadlines does to `pending` and `quarantined`: a transaction told it
timed out leaves the one for the other, for its budget; a key that was not pending is
left alone. -/
structure Expires (before after : Endpoint) (entries : List Entry) : Prop where
  budget_eq : after.transactionBudget = before.transactionBudget
  survives : ∀ key kept, after.pending.lookup key = some kept →
    ∃ transaction, before.pending.lookup key = some transaction
      ∧ kept.response = transaction.response
  untouched : ∀ key, before.pending.lookup key = none →
    after.pending.lookup key = none
      ∧ after.quarantined.lookup key = before.quarantined.lookup key
  quarantines : ∀ key, before.quarantined.lookup key = none →
    after.quarantined.lookup key ≠ none → after.pending.lookup key = none
  held : ∀ time response, ⟨time, .answered response (.error .timeout)⟩ ∈ entries →
    ∃ key transaction, before.pending.lookup key = some transaction
      ∧ transaction.response = response ∧ after.pending.lookup key = none
      ∧ after.quarantined.lookup key = some (time + before.transactionBudget key.1)

theorem Expires.refl (endpoint : Endpoint) : Expires endpoint endpoint [] :=
  ⟨rfl, fun _ kept hkept => ⟨kept, hkept, rfl⟩, fun _ hnone => ⟨hnone, rfl⟩,
    fun _ hnone hsome => absurd hnone hsome, fun _ _ hentry => absurd hentry List.not_mem_nil⟩

theorem Expires.trans {a b c : Endpoint} {es fs : List Entry} (hab : Expires a b es)
    (hbc : Expires b c fs) : Expires a c (es ++ fs) := by
  refine ⟨hbc.budget_eq.trans hab.budget_eq, ?_, ?_, ?_, ?_⟩
  · intro key kept hkept
    obtain ⟨middle, hmiddle, hlater⟩ := hbc.survives key kept hkept
    obtain ⟨transaction, hbefore, hearlier⟩ := hab.survives key middle hmiddle
    exact ⟨transaction, hbefore, hlater.trans hearlier⟩
  · intro key hnone
    obtain ⟨hmiddle, hsame⟩ := hab.untouched key hnone
    obtain ⟨hafter, hlater⟩ := hbc.untouched key hmiddle
    exact ⟨hafter, hlater.trans hsame⟩
  · intro key hnone hsome
    by_cases hmiddle : b.quarantined.lookup key = none
    · exact hbc.quarantines key hmiddle hsome
    · exact (hbc.untouched key (hab.quarantines key hnone hmiddle)).1
  · intro time response hentry
    rcases List.mem_append.mp hentry with hentry | hentry
    · obtain ⟨key, transaction, hbefore, hresponse, hgone, hheld⟩ := hab.held time response hentry
      obtain ⟨hafter, hlater⟩ := hbc.untouched key hgone
      exact ⟨key, transaction, hbefore, hresponse, hafter, hlater.trans hheld⟩
    · obtain ⟨key, middle, hmiddle, hresponse, hgone, hheld⟩ := hbc.held time response hentry
      obtain ⟨transaction, hbefore, hsame⟩ := hab.survives key middle hmiddle
      rw [hab.budget_eq] at hheld
      exact ⟨key, transaction, hbefore, hsame.symm.trans hresponse, hgone, hheld⟩

/-- A frame sent is no answer. -/
theorem not_answered_of_sendsFor {entries : List Entry} (key : TransactionKey)
    (h : ∀ entry ∈ entries, entry.sendsFor key) {time : Instant} {response : Channel}
    {result : Except ClientError Bytes} :
    (⟨time, .answered response result⟩ : Entry) ∉ entries := by
  intro hentry
  obtain ⟨_, _, _, hsent, _⟩ := h _ hentry
  cases hsent

/-- A frame sent reserves nothing. -/
theorem not_reserved_of_sendsFor {entries : List Entry} (key : TransactionKey)
    (h : ∀ entry ∈ entries, entry.sendsFor key) {time : Instant} {other : TransactionKey} :
    (⟨time, .reserved other⟩ : Entry) ∉ entries := by
  intro hentry
  obtain ⟨_, _, _, hsent, _⟩ := h _ hentry
  cases hsent

theorem removePending_expires (endpoint : Endpoint) (key : TransactionKey) (entries : List Entry)
    (hsilent : ∀ time response, ⟨time, .answered response (.error .timeout)⟩ ∉ entries) :
    Expires endpoint (endpoint.removePending key) entries := by
  have hlookup : ∀ other, (endpoint.removePending key).pending.lookup other
      = if other = key then none else endpoint.pending.lookup other :=
    fun other => KeyedTable.lookup_erase_eq_ite _ _ _
  refine ⟨rfl, ?_, ?_, fun _ hnone hsome => absurd hnone hsome,
    fun time response hentry => absurd hentry (hsilent time response)⟩
  · intro other kept hkept
    rw [hlookup] at hkept
    split at hkept
    · cases hkept
    · exact ⟨kept, hkept, rfl⟩
  · intro other hnone
    refine ⟨?_, rfl⟩
    rw [hlookup, hnone, ite_self]

theorem Expiry.expires {endpoint : Endpoint} {host : Host} {key : TransactionKey}
    {transaction : PendingTransaction} {outcome : Endpoint × List Entry}
    (hlookup : endpoint.pending.lookup key = some transaction)
    (h : Expiry endpoint host key transaction outcome) :
    Expires endpoint outcome.1 outcome.2 := by
  cases h with
  | cancelled hdropped => exact removePending_expires endpoint key [] (fun _ _ => List.not_mem_nil)
  | timedOut hretries =>
      have hremoved := removePending_expires endpoint key [] (fun _ _ => List.not_mem_nil)
      refine ⟨rfl, hremoved.survives, ?_, ?_, ?_⟩
      -- A key that was free before is not the one that timed out.
      · intro other hnone
        have hne : other ≠ key := by
          intro heq
          rw [heq, hlookup] at hnone
          cases hnone
        exact ⟨(hremoved.untouched other hnone).1, AList.lookup_insert_ne hne⟩
      · intro other hnone hsome
        by_cases heq : other = key
        · rw [heq]
          exact AList.lookup_erase _ _
        · exact absurd ((AList.lookup_insert_ne heq).trans hnone) hsome
      -- The one caller told is the transaction's, whose key is quarantined now.
      · intro time response hentry
        cases List.mem_singleton.mp hentry
        exact ⟨key, transaction, hlookup, rfl, AList.lookup_erase _ _, AList.lookup_insert _⟩
  | attempted hretries deadline =>
      refine ⟨rfl, ?_, ?_, fun _ hnone hsome => absurd hnone hsome,
        fun time response hentry => ?_⟩
      -- A retransmission puts the transaction back under its own key.
      · intro other kept hkept
        rw [insertPending_lookup] at hkept
        split at hkept
        next heq =>
          cases hkept
          exact ⟨transaction, heq ▸ hlookup, rfl⟩
        · exact ⟨kept, hkept, rfl⟩
      · intro other hnone
        refine ⟨?_, rfl⟩
        rw [insertPending_lookup, if_neg ?_]
        · exact hnone
        · intro heq
          rw [heq, hlookup] at hnone
          cases hnone
      · refine absurd hentry (not_answered_of_sendsFor key (fun entry hentry => ?_))
        exact sendsFor_of_mem_sendEntries
          (fun _ hm => key?_of_mem_retransmission (List.mem_of_mem_filter hm)) hentry
  | failed count error =>
      refine removePending_expires endpoint key _ (fun time response hentry => ?_)
      rcases List.mem_append.mp hentry with hentry | hentry
      · refine not_answered_of_sendsFor key (fun entry hentry => ?_) hentry
        exact sendsFor_of_mem_sendEntries (fun _ hm =>
          key?_of_mem_retransmission (List.mem_of_mem_filter (List.mem_of_mem_take hm))) hentry
      · cases List.mem_singleton.mp hentry

theorem Expiry.unreserved {endpoint : Endpoint} {host : Host} {key other : TransactionKey}
    {transaction : PendingTransaction} {outcome : Endpoint × List Entry}
    (h : Expiry endpoint host key transaction outcome) {time : Instant} :
    (⟨time, .reserved other⟩ : Entry) ∉ outcome.2 := by
  cases h with
  | cancelled hdropped => exact List.not_mem_nil
  | timedOut hretries =>
      intro hentry
      cases List.mem_singleton.mp hentry
  | attempted hretries deadline =>
      refine not_reserved_of_sendsFor key (fun entry hentry => ?_)
      exact sendsFor_of_mem_sendEntries
        (fun _ hm => key?_of_mem_retransmission (List.mem_of_mem_filter hm)) hentry
  | failed count error =>
      intro hentry
      rcases List.mem_append.mp hentry with hentry | hentry
      · refine not_reserved_of_sendsFor key (fun entry hentry => ?_) hentry
        exact sendsFor_of_mem_sendEntries (fun _ hm =>
          key?_of_mem_retransmission (List.mem_of_mem_filter (List.mem_of_mem_take hm))) hentry
      · cases List.mem_singleton.mp hentry

theorem expireEach_expires (host : Host) (visits : List (TransactionKey × Instant))
    (endpoint : Endpoint) :
    Expires endpoint (endpoint.expireEach host visits).1 (endpoint.expireEach host visits).2 :=
  expireEach_relates (P := Expires) Expires.refl (fun _ _ _ _ _ => Expires.trans)
    (fun _ _ _ _ _ hlookup hexpiry => hexpiry.expires hlookup) visits endpoint

theorem handleTimeouts_expires (endpoint : Endpoint) (host : Host)
    (visits : List (TransactionKey × Instant)) :
    Expires endpoint (endpoint.handleTimeouts host visits).1
      (endpoint.handleTimeouts host visits).2 := by
  have h : Expires _ (endpoint.handleTimeouts host visits).1
      (endpoint.handleTimeouts host visits).2 := expireEach_expires host visits _
  exact ⟨h.budget_eq, h.survives, h.untouched, h.quarantines, h.held⟩

end Endpoint

/-! ## §2. The two tables, step by step -/

namespace Endpoint

theorem Separate.removeCancelled {endpoint : Endpoint} (h : endpoint.Separate)
    (dropped : List Channel) : (endpoint.removeCancelled dropped).Separate := by
  intro key hquarantined
  show (KeyedTable.retain _ endpoint.pending).lookup key = none
  rw [KeyedTable.lookup_retain, h key hquarantined]
  rfl

theorem Separate.removePending {endpoint : Endpoint} (h : endpoint.Separate)
    (key : TransactionKey) : (endpoint.removePending key).Separate := by
  intro other hquarantined
  show (endpoint.pending.erase key).lookup other = none
  rw [KeyedTable.lookup_erase_eq_ite, h other hquarantined, ite_self]

/-- A key that is not held back may be used. -/
theorem Separate.insertPending {endpoint : Endpoint} (h : endpoint.Separate)
    {key : TransactionKey} (hfree : endpoint.quarantined.lookup key = none)
    (transaction : PendingTransaction) : (endpoint.insertPending key transaction).Separate := by
  intro other hquarantined
  rw [insertPending_lookup, if_neg ?_]
  · exact h other hquarantined
  · intro heq
    rw [heq] at hquarantined
    exact hquarantined hfree

theorem swept_quarantined (endpoint : Endpoint) (host : Host) (peer : SocketAddr) :
    (endpoint.swept host peer).quarantined
      = KeyedTable.retain (fun _ releasedAt => decide (host.now < releasedAt))
          endpoint.quarantined := rfl

theorem Separate.swept {endpoint : Endpoint} (h : endpoint.Separate) (host : Host)
    (peer : SocketAddr) : (endpoint.swept host peer).Separate := by
  intro key hquarantined
  refine (h.removeCancelled host.dropped) key (fun hnone => hquarantined ?_)
  have hnone : endpoint.quarantined.lookup key = none := hnone
  rw [swept_quarantined, KeyedTable.lookup_retain, hnone]
  rfl

/-- What is held back past `now` stays held back when lapsed quarantines are released. -/
theorem swept_held {endpoint : Endpoint} {key : TransactionKey} {releasedAt : Instant}
    (h : endpoint.quarantined.lookup key = some releasedAt) (host : Host) (peer : SocketAddr) :
    releasedAt ≤ host.now ∨ (endpoint.swept host peer).quarantined.lookup key = some releasedAt := by
  by_cases hpast : releasedAt ≤ host.now
  · exact Or.inl hpast
  · right
    rw [swept_quarantined, KeyedTable.lookup_retain_eq_some]
    exact ⟨h, decide_eq_true (Nat.lt_of_not_le hpast)⟩

theorem Admission.separate {endpoint : Endpoint} {host : Host} {target : BacnetTarget}
    {serviceChoice : ConfirmedServiceChoice} {serviceData : Bytes} {response : Channel}
    {outcome : Endpoint × List Entry}
    (h : Admission endpoint host target serviceChoice serviceData response outcome)
    (hseparate : endpoint.Separate) : outcome.1.Separate := by
  cases h with
  | cancelled => exact hseparate
  | exhausted | refused => exact hseparate.swept host target.address
  | admitted invokeId frames hfree hsplit =>
      exact (hseparate.swept host target.address).insertPending hfree.2 _
  | unsent invokeId error hfree => exact (hseparate.swept host target.address).removePending _

/-- A command releases only what is due, and reserves only what is not held back. -/
theorem Admission.held {endpoint : Endpoint} {host : Host} {target : BacnetTarget}
    {serviceChoice : ConfirmedServiceChoice} {serviceData : Bytes} {response : Channel}
    {outcome : Endpoint × List Entry}
    (h : Admission endpoint host target serviceChoice serviceData response outcome)
    {key : TransactionKey} {releasedAt : Instant}
    (hheld : releasedAt ≤ host.now ∨ endpoint.quarantined.lookup key = some releasedAt) :
    (releasedAt ≤ host.now ∨ outcome.1.quarantined.lookup key = some releasedAt)
      ∧ ∀ time, ⟨time, .reserved key⟩ ∈ outcome.2 → releasedAt ≤ time := by
  have hswept : releasedAt ≤ host.now
      ∨ (endpoint.swept host target.address).quarantined.lookup key = some releasedAt :=
    hheld.elim Or.inl (fun hquarantined => swept_held hquarantined host target.address)
  have hreserved : ∀ invokeId : UInt8,
      (endpoint.swept host target.address).Free (target.address, invokeId) →
      ∀ time, (⟨time, .reserved key⟩ : Entry) = host.entry (.reserved (target.address, invokeId)) →
      releasedAt ≤ time := by
    intro invokeId hfree time heq
    cases heq
    rcases hswept with hpast | hstill
    · exact hpast
    · rw [hfree.2] at hstill
      cases hstill
  have hanswer : ∀ (time : Instant) (result : Except ClientError Bytes),
      (⟨time, .reserved key⟩ : Entry) ≠ host.entry (.answered response result) :=
    fun _ _ heq => by cases heq
  cases h with
  | cancelled => exact ⟨hheld, fun _ hentry => absurd hentry List.not_mem_nil⟩
  | exhausted =>
      exact ⟨hswept, fun time hentry =>
        absurd (List.mem_singleton.mp hentry) (hanswer time _)⟩
  | refused invokeId error hfree | unsent invokeId error hfree =>
      refine ⟨hswept, fun time hentry => ?_⟩
      rcases List.mem_cons.mp hentry with heq | hentry
      · exact hreserved invokeId hfree time heq
      · exact absurd (List.mem_singleton.mp hentry) (hanswer time _)
  | admitted invokeId frames hfree hsplit =>
      refine ⟨hswept, fun time hentry => ?_⟩
      rcases List.mem_cons.mp hentry with heq | hentry
      · exact hreserved invokeId hfree time heq
      · obtain ⟨parcel, _, heq⟩ := List.mem_map.mp hentry
        cases heq

end Endpoint

/-! ## §3. Over a run -/

namespace World

theorem resume_separate {world : World} {now : Instant} {outcome : Endpoint × List Entry}
    (h : outcome.1.Separate) : (world.resume now outcome).endpoint.Separate :=
  h.removeCancelled world.dropped

theorem halt_separate (world : World) (now : Instant) (entries : List Entry) :
    (world.halt now entries).endpoint.Separate :=
  fun _ _ => rfl

theorem step_separate {world world' : World} {event : Event} (h : world.endpoint.Separate)
    (hstep : step world event = some world') : world'.endpoint.Separate := by
  obtain ⟨_, rfl⟩ := step_eq_some.mp hstep
  cases event with
  | command now sendTo command =>
      refine resume_separate ?_
      rcases world.endpoint.handleCommand_cases (world.host now sendTo) command with
        ⟨devices, routers, hendpoint, _⟩ | ⟨target, service, serviceData, response, _, hadmission⟩
      · rw [hendpoint]
        exact h
      · refine hadmission.separate ?_
        cases command <;> exact h
  | packet now sendTo data source =>
      simp only [react]
      cases hhandled : world.endpoint.handlePacket (world.host now sendTo) data source with
      | none => exact halt_separate world now []
      | some outcome =>
          refine resume_separate ?_
          rcases Endpoint.handlePacket_cases hhandled with
            ⟨hsame, _⟩ | ⟨apdu, route, invokeId, transaction, _, _, hbefore, houtcome⟩
          · rw [hsame]
            exact h
          · have hresponse := Endpoint.handleResponse_handled hbefore (world.host now sendTo) apdu
              route
            rw [← houtcome] at hresponse
            cases hresponse with
            | ignored => exact h
            -- A transaction that is kept was pending, so its key was not quarantined.
            | kept kept entries hkeeps =>
                refine h.insertPending ?_ kept
                by_contra hheld
                rw [h _ hheld] at hbefore
                cases hbefore
            | closed rtt sends time result hcloses => exact h.removePending _
  | timeouts now sendTo visits =>
      refine resume_separate (fun key hquarantined => ?_)
      -- A key that comes to be quarantined is one whose transaction has just gone.
      have hexpires := world.endpoint.handleTimeouts_expires (world.host now sendTo) visits
      by_cases hbefore : world.endpoint.quarantined.lookup key = none
      · exact hexpires.quarantines key hbefore hquarantined
      · exact (hexpires.untouched key (h key hbefore)).1
  | drop channel => exact h
  | stop now error => exact halt_separate world now _

theorem Reachable.separate {timeout : Duration} {retries : UInt8} {acceptedApdu : MaxApduSize}
    {world : World} (h : Reachable timeout retries acceptedApdu world) :
    world.endpoint.Separate :=
  Machine.Reachable.invariant (P := fun world : World => world.endpoint.Separate)
    (fun _ _ _ => step_separate) (fun _ _ => rfl) h

/-- The clock does not run backwards. -/
theorem step_clock {world world' : World} {event : Event}
    (hstep : step world event = some world') : world.clock ≤ world'.clock := by
  obtain ⟨hpermits, rfl⟩ := step_eq_some.mp hstep
  have hordered : ∀ (times : List Instant) (now : Instant), ordered now times = true →
      now ≤ times.getLastD now := by
    intro times
    induction times with
    | nil => exact fun now _ => Nat.le_refl now
    | cons time times ih =>
        intro now h
        simp only [ordered, Bool.and_eq_true, decide_eq_true_eq] at h
        rw [List.getLastD_cons]
        exact Nat.le_trans h.1 (ih time h.2)
  cases event with
  | command now sendTo command =>
      simp only [permits, Bool.and_eq_true, decide_eq_true_eq] at hpermits
      exact hpermits.1.1.2
  | packet now sendTo data source =>
      simp only [permits, Bool.and_eq_true, decide_eq_true_eq] at hpermits
      rcases world.react_packet now sendTo data source with ⟨outcome, _, hreact⟩ | hreact
      · rw [hreact]
        exact hpermits.2
      · rw [hreact]
        exact hpermits.2
  | timeouts now sendTo visits =>
      simp only [permits, Bool.and_eq_true, decide_eq_true_eq] at hpermits
      exact Nat.le_trans hpermits.1.1.1.2 (hordered _ now hpermits.2)
  | drop channel => exact Nat.le_refl _
  | stop now error =>
      simp only [permits, Bool.and_eq_true, decide_eq_true_eq] at hpermits
      exact hpermits.2

/-- The key is held back until `releasedAt`, or that time has come. -/
def Held (key : TransactionKey) (releasedAt : Instant) (world : World) : Prop :=
  releasedAt ≤ world.clock ∨ world.endpoint.quarantined.lookup key = some releasedAt

/-- Only a command reserves an id. -/
theorem command_of_reserved {world world' : World} {event : Event} {key : TransactionKey}
    {time : Instant} (hstep : step world event = some world')
    (hentry : ⟨time, .reserved key⟩ ∈ entriesSince world world') :
    ∃ now sendTo command, event = .command now sendTo command := by
  obtain ⟨_, rfl⟩ := step_eq_some.mp hstep
  cases event with
  | command now sendTo command => exact ⟨now, sendTo, command, rfl⟩
  | packet now sendTo data source =>
      -- What a packet sends or answers reserves no key.
      exfalso
      simp only [react] at hentry
      cases hhandled : world.endpoint.handlePacket (world.host now sendTo) data source with
      | none =>
          have hnone : entriesSince world (world.halt now []) = [] := List.drop_left
          rw [hhandled] at hentry
          simp only [hnone] at hentry
          exact absurd hentry List.not_mem_nil
      | some outcome =>
          rw [hhandled] at hentry
          simp only [entriesSince_resume] at hentry
          rcases Endpoint.handlePacket_cases hhandled with
            ⟨_, hquiet⟩ | ⟨apdu, route, invokeId, transaction, _, _, hbefore, houtcome⟩
          · cases hquiet _ hentry
          · have hresponse := Endpoint.handleResponse_handled hbefore (world.host now sendTo) apdu
              route
            rw [← houtcome] at hresponse
            cases hresponse with
            | ignored => exact absurd hentry List.not_mem_nil
            | kept kept entries hkeeps =>
                exact Endpoint.not_reserved_of_sendsFor _ hkeeps.sendsFor hentry
            | closed rtt sends closedAt result hcloses =>
                rcases List.mem_append.mp hentry with hentry | hentry
                · exact Endpoint.not_reserved_of_sendsFor _ hcloses.sendsFor hentry
                · cases List.mem_singleton.mp hentry
  | timeouts now sendTo visits =>
      -- A visit sends again, gives up or forgets; none of the three reserves.
      exfalso
      have hentries : entriesSince world (world.react (.timeouts now sendTo visits))
          = (world.endpoint.handleTimeouts (world.host now sendTo) visits).2 := List.drop_left
      rw [hentries] at hentry
      revert hentry
      refine Endpoint.expireEach_relates
        (P := fun _ _ entries => (⟨time, .reserved key⟩ : Entry) ∉ entries)
        (fun _ => List.not_mem_nil) ?_ ?_ visits _
      · intro a b c es fs hes hfs hentry
        exact (List.mem_append.mp hentry).elim hes hfs
      · intro a visited other transaction outcome hlookup hexpiry hentry
        exact hexpiry.unreserved hentry
  | drop channel =>
      have hnone : entriesSince world (world.react (.drop channel)) = [] := List.drop_length
      rw [hnone] at hentry
      exact absurd hentry List.not_mem_nil
  | stop now error =>
      exfalso
      have hentries : entriesSince world (world.react (.stop now error))
          = (world.endpoint.failAll now (error.elim .endpointClosed ClientError.io)).2 :=
        List.drop_left
      rw [hentries] at hentry
      rcases List.mem_append.mp hentry with hentry | hentry
      · obtain ⟨transaction, _, heq⟩ := List.mem_map.mp hentry
        cases heq
      · obtain ⟨discovery, _, heq⟩ := List.mem_map.mp hentry
        cases heq

/-- **No step releases a key before its time**, and none reserves it before then. -/
theorem step_held {world world' : World} {event : Event} {key : TransactionKey}
    {releasedAt : Instant} (hseparate : world.endpoint.Separate)
    (h : world.Held key releasedAt) (hstep : step world event = some world') :
    world'.Held key releasedAt
      ∧ ∀ time, ⟨time, .reserved key⟩ ∈ entriesSince world world' → releasedAt ≤ time := by
  have hclock := step_clock hstep
  -- Off a command nothing is reserved, so the table decides.
  have hsame : world'.endpoint.quarantined.lookup key = world.endpoint.quarantined.lookup key →
      world'.Held key releasedAt := by
    intro heq
    rcases h with hpast | hheld
    · exact Or.inl (Nat.le_trans hpast hclock)
    · exact Or.inr (heq.trans hheld)
  have hnever : (∀ now sendTo command, event ≠ .command now sendTo command) →
      ∀ time, ⟨time, .reserved key⟩ ∈ entriesSince world world' → releasedAt ≤ time := by
    intro hother time hentry
    obtain ⟨now, sendTo, command, heq⟩ := command_of_reserved hstep hentry
    exact absurd heq (hother now sendTo command)
  obtain ⟨_, rfl⟩ := step_eq_some.mp hstep
  cases event with
  | command now sendTo command =>
      have hentries : entriesSince world (world.react (.command now sendTo command))
          = (world.endpoint.handleCommand (world.host now sendTo) command).2 := List.drop_left
      rw [hentries]
      rcases world.endpoint.handleCommand_cases (world.host now sendTo) command with
        ⟨devices, routers, hendpoint, hquiet⟩ | ⟨target, service, serviceData, response, _,
          hadmission⟩
      · refine ⟨hsame ?_, fun time hentry => by cases hquiet _ hentry⟩
        show (world.endpoint.handleCommand (world.host now sendTo)
          command).1.quarantined.lookup key = _
        rw [hendpoint]
      · have hdue : releasedAt ≤ now
            ∨ (world.endpoint.registered command).quarantined.lookup key = some releasedAt := by
          rcases h with hpast | hheld
          · exact Or.inl (Nat.le_trans hpast hclock)
          · cases command <;> exact Or.inr hheld
        exact hadmission.held hdue
  | packet now sendTo data source =>
      refine ⟨hsame ?_, hnever (fun _ _ _ heq => by cases heq)⟩
      simp only [react]
      cases hhandled : world.endpoint.handlePacket (world.host now sendTo) data source with
      | none => rfl
      | some outcome =>
          show outcome.1.quarantined.lookup key = _
          rcases Endpoint.handlePacket_cases hhandled with
            ⟨hunchanged, _⟩ | ⟨apdu, route, invokeId, transaction, _, _, hbefore, houtcome⟩
          · rw [hunchanged]
          · have hresponse := Endpoint.handleResponse_handled hbefore (world.host now sendTo) apdu
              route
            rw [← houtcome] at hresponse
            cases hresponse <;> rfl
  | timeouts now sendTo visits =>
      refine ⟨?_, hnever (fun _ _ _ heq => by cases heq)⟩
      rcases h with hpast | hheld
      · exact Or.inl (Nat.le_trans hpast hclock)
      · -- A key held back is not pending, so its deadline cannot pass again.
        have hidle := hseparate key (by
          rw [hheld]
          exact Option.some_ne_none releasedAt)
        have hexpires := world.endpoint.handleTimeouts_expires (world.host now sendTo) visits
        exact Or.inr ((hexpires.untouched key hidle).2.trans hheld)
  | drop channel => exact ⟨hsame rfl, hnever (fun _ _ _ heq => by cases heq)⟩
  | stop now error => exact ⟨hsame rfl, hnever (fun _ _ _ heq => by cases heq)⟩

/-- The key of a transaction told it timed out is held back from then on. -/
theorem timeout_held {timeout : Duration} {retries : UInt8} {acceptedApdu : MaxApduSize}
    {world world' : World} (h : Reachable timeout retries acceptedApdu world) {now : Instant}
    {sendTo : SocketAddr → Bytes → Option IoError} {visits : List (TransactionKey × Instant)}
    (hstep : step world (.timeouts now sendTo visits) = some world') {key : TransactionKey}
    {transaction : PendingTransaction}
    (hlookup : world.endpoint.pending.lookup key = some transaction) {time : Instant}
    (hentry : ⟨time, .answered transaction.response (.error .timeout)⟩
      ∈ entriesSince world world') :
    world'.Held key (time + world.endpoint.transactionBudget key.1) := by
  obtain ⟨_, rfl⟩ := step_eq_some.mp hstep
  have hentries : entriesSince world (world.react (.timeouts now sendTo visits))
      = (world.endpoint.handleTimeouts (world.host now sendTo) visits).2 := List.drop_left
  rw [hentries] at hentry
  obtain ⟨other, expired, hexpired, hresponse, _, hheld⟩ :=
    (world.endpoint.handleTimeouts_expires (world.host now sendTo) visits).held time
      transaction.response hentry
  -- Only one transaction holds the channel that was answered.
  have hone : holders transaction.response world.endpoint.pending ≤ 1 := by
    have hexclusive := h.exclusive transaction.response
    have hissued : (if transaction.response ∈ world.issued then 1 else 0) ≤ 1 := by
      split <;> omega
    omega
  have hkey : key = other := KeyedTable.eq_key_of_count_le_one _ _ hone hlookup hexpired
    (beq_self_eq_true _) (beq_iff_eq.mpr hresponse)
  rw [hkey]
  exact Or.inr hheld

/-- **A timed-out id is held back.**  Once a transaction with a peer has timed out, no
reservation returns its id for that peer until the peer's transaction budget has
passed. -/
theorem timed_out_id_held {timeout : Duration} {retries : UInt8} {acceptedApdu : MaxApduSize}
    {world expired later reserving : World} (h : Reachable timeout retries acceptedApdu world)
    {now : Instant} {sendTo : SocketAddr → Bytes → Option IoError}
    {visits : List (TransactionKey × Instant)}
    (hexpire : step world (.timeouts now sendTo visits) = some expired) {key : TransactionKey}
    {transaction : PendingTransaction}
    (hpending : world.endpoint.pending.lookup key = some transaction) {timedOutAt : Instant}
    (htimeout : ⟨timedOutAt, .answered transaction.response (.error .timeout)⟩
      ∈ entriesSince world expired)
    {events : List Event} (hrun : Machine.run step expired events = some later) {event : Event}
    (hreserve : step later event = some reserving) {reservedAt : Instant}
    (hreserved : ⟨reservedAt, .reserved key⟩ ∈ entriesSince later reserving) :
    timedOutAt + world.endpoint.transactionBudget key.1 ≤ reservedAt := by
  have hexpired : expired.endpoint.Separate
      ∧ expired.Held key (timedOutAt + world.endpoint.transactionBudget key.1) :=
    ⟨step_separate h.separate hexpire, timeout_held h hexpire hpending htimeout⟩
  have hlater : later.endpoint.Separate
      ∧ later.Held key (timedOutAt + world.endpoint.transactionBudget key.1) :=
    Machine.run_invariant
      (P := fun w : World => w.endpoint.Separate
        ∧ w.Held key (timedOutAt + world.endpoint.transactionBudget key.1))
      (fun _ _ _ hboth hstep =>
        ⟨step_separate hboth.1 hstep, (step_held hboth.1 hboth.2 hstep).1⟩) hexpired hrun
  exact (step_held hlater.1 hlater.2 hreserve).2 reservedAt hreserved

/-! ## §4. Around the cursor -/

/-- The reservation an entry records. -/
def reservation (entry : Entry) : Option (Instant × TransactionKey) :=
  match entry.effect with
  | .reserved key => some (entry.time, key)
  | _ => none

/-- The timeout an entry tells a caller of. -/
def timeoutTold (entry : Entry) : Option (Instant × Channel) :=
  match entry.effect with
  | .answered response (.error .timeout) => some (entry.time, response)
  | _ => none

theorem mem_of_reservation {entries : List Entry} {time : Instant} {key : TransactionKey}
    (h : (time, key) ∈ entries.filterMap reservation) :
    ⟨time, .reserved key⟩ ∈ entries := by
  obtain ⟨⟨entryTime, effect⟩, hentry, heq⟩ := List.mem_filterMap.mp h
  cases effect with
  | reserved => cases heq; exact hentry
  | sent | answered | notified | discovered => cases heq

theorem mem_of_timeoutTold {entries : List Entry} {time : Instant} {response : Channel}
    (h : (time, response) ∈ entries.filterMap timeoutTold) :
    ⟨time, .answered response (.error .timeout)⟩ ∈ entries := by
  obtain ⟨⟨entryTime, effect⟩, hentry, heq⟩ := List.mem_filterMap.mp h
  cases effect with
  | answered channel result =>
      cases result with
      | error error => cases error <;> cases heq; exact hentry
      | ok data => cases heq
  | sent | reserved | notified | discovered => cases heq

/-- Requests too long for a peer that takes no segments: each takes the next id and
gives it back. -/
def refusedRequests (now : Instant) (count : Nat) : List Event :=
  (List.range count).map (fun i =>
    .command now takesAll (.confirmed smallPeer .readProperty (List.replicate 45 0) (i + 10)))

/-- An endpoint that waits 1000 ns once: an id timed out at 1000 is next reserved at
2000, once around the cursor. -/
theorem timed_out_id_held_onceAround :
    ∃ later reserving : World, ∃ event : Event, step later event = some reserving
      ∧ ⟨2000, .reserved requestKey⟩ ∈ entriesSince later reserving
      ∧ 1000 + ((start 1000 0 .up1476).react
          (oneOctet 0 takesAll 0)).endpoint.transactionBudget requestKey.1 ≤ 2000 := by
  -- No retries: the one request times out at its first deadline.
  let opened := (start 1000 0 .up1476).react (oneOctet 0 takesAll 0)
  have hopen : step (start 1000 0 .up1476) (oneOctet 0 takesAll 0) = some opened :=
    step_eq_some.mpr ⟨by decide +kernel, rfl⟩
  have hreachable : Reachable 1000 0 .up1476 opened :=
    ⟨[oneOctet 0 takesAll 0], Machine.run_cons_eq_some.mpr ⟨opened, hopen, rfl⟩⟩
  let passed : Event := .timeouts 1000 takesAll [(requestKey, 1000)]
  have hexpire : step opened passed = some (opened.react passed) :=
    step_eq_some.mpr ⟨by decide +kernel, rfl⟩
  have hisPending : (opened.endpoint.pending.lookup requestKey).isSome = true := by decide +kernel
  obtain ⟨transaction, hpending⟩ := Option.isSome_iff_exists.mp hisPending
  have hresponse : (opened.endpoint.pending.lookup requestKey).map (·.response) = some 0 := by
    decide +kernel
  rw [hpending, Option.map_some, Option.some.injEq] at hresponse
  have htold : (1000, 0) ∈ (entriesSince opened (opened.react passed)).filterMap timeoutTold := by
    decide +kernel
  -- 255 refused requests take the counter once around, to the same id.
  have haround : (Machine.run step (opened.react passed) (refusedRequests 1000 255)).map
      (fun later => (later.permits (oneOctet 2000 takesAll 400),
        (later.endpoint.handleCommand (later.host 2000 takesAll)
          (.confirmed segmentingPeer .readProperty [0] 400)).2.filterMap reservation))
      = some (true, [(2000, requestKey)]) := by
    decide +kernel
  obtain ⟨later, hrun, hlater⟩ := Option.map_eq_some_iff.mp haround
  obtain ⟨hpermits, hreservation⟩ := Prod.mk.inj hlater
  have hreserve : step later (oneOctet 2000 takesAll 400)
      = some (later.react (oneOctet 2000 takesAll 400)) := step_eq_some.mpr ⟨hpermits, rfl⟩
  have hreserved : ⟨2000, .reserved requestKey⟩
      ∈ entriesSince later (later.react (oneOctet 2000 takesAll 400)) := by
    have hentries : entriesSince later (later.react (oneOctet 2000 takesAll 400))
        = (later.endpoint.handleCommand (later.host 2000 takesAll)
          (.confirmed segmentingPeer .readProperty [0] 400)).2 := List.drop_left
    rw [hentries]
    refine mem_of_reservation ?_
    rw [hreservation]
    exact List.mem_singleton.mpr rfl
  refine ⟨later, _, _, hreserve, hreserved, ?_⟩
  refine timed_out_id_held hreachable hexpire hpending ?_ hrun hreserve hreserved
  rw [hresponse]
  exact mem_of_timeoutTold htold

/-- **Ids that did not time out are not held back.**  Three requests go out, with ids 0,
1 and 2.  The first caller leaves; the first segment of the second answer cannot be
followed; the socket refuses to acknowledge the first segment of the third.  Once
around the cursor, one nanosecond later, the three ids carry new requests, long before
the peer's budget has passed. -/
theorem other_ids_not_held :
    (Machine.run step beforeRequest
        ([oneOctet 0 takesAll 0, oneOctet 0 takesAll 1, oneOctet 0 takesAll 2, .drop 0,
            segmentArrived 1 takesAll 1 5, segmentArrived 1 refusesAll 2 0]
          ++ refusedRequests 1 253
          ++ [oneOctet 1 takesAll 3, oneOctet 1 takesAll 4, oneOctet 1 takesAll 5])).map
        (fun world => ([0, 1, 2] : List UInt8).map (fun invokeId =>
          (world.endpoint.pending.lookup (segmentingPeer.address, invokeId)).map
            (fun transaction => (transaction.response, transaction.sentAt))))
        = some [some (3, 1), some (4, 1), some (5, 1)]
      ∧ beforeRequest.endpoint.transactionBudget segmentingPeer.address = 33000000000 := by
  decide +kernel

end World

end BacnetRs.Client
