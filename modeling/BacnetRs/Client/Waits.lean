/-
  BacnetRs.Client.Waits — how long an unanswered request is waited for
  (`rto`, `attempt_wait`, `backoff` and `transaction_budget` in
  `client/async_client.rs`).

  The wait after each transmission is worked out when it goes out, from the
  retries that remain; the budget its id is held back for, all at once, from
  the attempts that will have been made.  The two count from opposite ends:

    * `attemptWait_mono`, `attemptWait_le` — each wait is twice the last, up to
                         the ceiling;
    * `clamp_rto`      — the bounds a derived timeout is kept in are in order;
    * `step_retried`   — a step leaves the request as it was, or sends it once
                         more;
    * `run_waits`      — a run waits once for each retry it uses, in order;
    * `waits_add_up`   — so the waits of a request that times out are its
                         budget.
-/
import BacnetRs.Client.Progress
import BacnetRs.Client.Quarantine

namespace BacnetRs.Client

open BacnetRs.Service BacnetRs.Network BacnetRs.App

/-! ## §1. Sums of durations -/

/-- Durations added up one by one are their sum, up to the longest there is. -/
theorem foldl_saturatingAdd (waits : List Duration) : ∀ {total : Duration},
    total ≤ Duration.max →
      waits.foldl Duration.saturatingAdd total = min (total + waits.sum) Duration.max := by
  induction waits with
  | nil =>
      intro total htotal
      rw [List.foldl_nil, List.sum_nil, Nat.add_zero, Nat.min_eq_left htotal]
  | cons wait waits ih =>
      intro total htotal
      have hsum : ∀ x y z bound : Nat, min (min (x + y) bound + z) bound
          = min (x + (y + z)) bound := by
        intro x y z bound
        omega
      have hnext : total.saturatingAdd wait ≤ Duration.max := Nat.min_le_right _ _
      rw [List.foldl_cons, ih hnext, List.sum_cons]
      exact hsum total wait waits.sum Duration.max

/-- `Ord::clamp`, which panics when its bounds are reversed. -/
def clamp (span low high : Duration) : Option Duration :=
  if low ≤ high then some (min (max span low) high) else none

/-! ## §2. One wait -/

namespace Endpoint

section Wait

variable (endpoint : Endpoint) (peer : SocketAddr)

/-- The ceiling is at most four times the configured timeout. -/
theorem ceiling_le : endpoint.ceiling ≤ 4 * endpoint.timeout := by
  rw [Nat.mul_comm 4]
  exact Nat.min_le_left _ _

/-- **The bounds of a derived timeout are in order**, so that it is kept in them without a panic. -/
theorem clamp_rto {rtt : Rtt} (h : endpoint.rtt.lookup peer = some rtt) :
    clamp rtt.timeout (min minTimeout endpoint.ceiling) endpoint.ceiling
      = some (endpoint.rto peer) := by
  unfold clamp rto
  rw [if_pos (Nat.min_le_right _ _), h]

/-- A timeout is at most the ceiling. -/
theorem rto_le_ceiling (htimeout : endpoint.timeout ≤ Duration.max) :
    endpoint.rto peer ≤ endpoint.ceiling := by
  unfold rto
  cases endpoint.rtt.lookup peer with
  | none => exact Nat.le_min.mpr ⟨Nat.le_mul_of_pos_right _ (by decide), htimeout⟩
  | some rtt => exact Nat.min_le_right _ _

/-- The wait before any retransmission is the timeout. -/
theorem attemptWait_zero (htimeout : endpoint.timeout ≤ Duration.max) :
    endpoint.attemptWait peer 0 = endpoint.rto peer := by
  have hceiling := endpoint.rto_le_ceiling peer htimeout
  have hmax : endpoint.ceiling ≤ Duration.max := Nat.min_le_right _ _
  show min (min (endpoint.rto peer * 1) Duration.max) endpoint.ceiling = _
  rw [Nat.mul_one, Nat.min_eq_left (Nat.le_trans hceiling hmax), Nat.min_eq_left hceiling]

/-- **Waits do not get shorter.** -/
theorem attemptWait_mono {sent later : Nat} (h : sent ≤ later) :
    endpoint.attemptWait peer sent ≤ endpoint.attemptWait peer later := by
  have hshift : 2 ^ min sent 4 ≤ 2 ^ min later 4 := Nat.pow_le_pow_right (by omega) (by omega)
  have hscaled := Nat.mul_le_mul_left (endpoint.rto peer) hshift
  exact min_le_min_right _ (min_le_min_right _ hscaled)

/-- **No wait is above four times the configured timeout.** -/
theorem attemptWait_le (sent : Nat) : endpoint.attemptWait peer sent ≤ 4 * endpoint.timeout :=
  Nat.le_trans (Nat.min_le_right _ _) endpoint.ceiling_le

/-- The budget is the sum of the waits, up to the longest duration there is. -/
theorem transactionBudget_eq : endpoint.transactionBudget peer
    = min ((List.range (endpoint.retries.toNat + 1)).map (endpoint.attemptWait peer)).sum
        Duration.max := by
  unfold transactionBudget
  rw [foldl_saturatingAdd _ (Nat.zero_le _), Nat.zero_add]

end Wait

/-- Waits depend on what is known of the peer's round trips, and on the configured timeout. -/
theorem attemptWait_congr {a b : Endpoint} {peer : SocketAddr}
    (hrtt : a.rtt.lookup peer = b.rtt.lookup peer) (hsettings : a.settings = b.settings) :
    a.attemptWait peer = b.attemptWait peer := by
  have htimeout : a.timeout = b.timeout := congrArg Prod.fst hsettings
  funext sent
  unfold attemptWait rto ceiling
  rw [hrtt, htimeout]

theorem backoff_congr {a b : Endpoint} {peer : SocketAddr}
    (hrtt : a.rtt.lookup peer = b.rtt.lookup peer) (hsettings : a.settings = b.settings) :
    a.backoff peer = b.backoff peer := by
  have hretries : a.retries = b.retries := congrArg (fun settings => settings.2.1) hsettings
  funext retriesRemaining
  unfold backoff
  rw [attemptWait_congr hrtt hsettings, hretries]

end Endpoint

/-! ## §3. One key among the expired -/

/-- When the entry sends the request of the transaction at `key` whole, if it does. -/
def Entry.requestTime (key : TransactionKey) (entry : Entry) : Option Instant :=
  match entry.effect with
  | .sent (.request owner) _ _ => if owner = key then some entry.time else none
  | _ => none

/-- When the request of the transaction at `key` went out, in order. -/
def transmissions (key : TransactionKey) (entries : List Entry) : List Instant :=
  entries.filterMap (Entry.requestTime key)

theorem transmissions_append (key : TransactionKey) (es fs : List Entry) :
    transmissions key (es ++ fs) = transmissions key es ++ transmissions key fs :=
  List.filterMap_append

theorem transmissions_eq_nil {key : TransactionKey} {entries : List Entry}
    (h : ∀ entry ∈ entries, entry.requestTime key = none) : transmissions key entries = [] :=
  List.filterMap_eq_nil_iff.mpr h

theorem requestTime_of_quiet {key : TransactionKey} {entry : Entry}
    (h : entry.isTransactional = false) : entry.requestTime key = none := by
  obtain ⟨time, effect⟩ := entry
  cases effect with
  | sent purpose destination frame =>
      cases purpose with
      | request owner => cases h
      | segment | segmentAck | abort | reply | discovery => rfl
  | reserved | answered | notified | discovered => rfl

/-- What is sent for one transaction is not the request of another. -/
theorem requestTime_of_sendsFor {key other : TransactionKey} {entry : Entry}
    (h : entry.sendsFor other) (hne : key ≠ other) : entry.requestTime key = none := by
  obtain ⟨purpose, destination, frame, heffect, howner⟩ := h
  unfold Entry.requestTime
  rw [heffect]
  cases purpose with
  | request owner =>
      have howner : owner = other := Option.some.inj howner
      exact if_neg (by rw [howner]; exact hne.symm)
  | segment | segmentAck | abort | reply | discovery => rfl

namespace Endpoint

/-- Between two endpoints nothing happened to the transaction at `key`, or to what its waits
depend on. -/
structure Elsewhere (key : TransactionKey) (before after : Endpoint) (entries : List Entry) :
    Prop where
  lookup_eq : after.pending.lookup key = before.pending.lookup key
  rtt_eq : after.rtt = before.rtt
  settings_eq : after.settings = before.settings
  unsent : transmissions key entries = []

theorem Elsewhere.refl (key : TransactionKey) (endpoint : Endpoint) :
    Elsewhere key endpoint endpoint [] := ⟨rfl, rfl, rfl, rfl⟩

theorem Elsewhere.trans {key : TransactionKey} {a b c : Endpoint} {es fs : List Entry}
    (hab : Elsewhere key a b es) (hbc : Elsewhere key b c fs) : Elsewhere key a c (es ++ fs) where
  lookup_eq := hbc.lookup_eq.trans hab.lookup_eq
  rtt_eq := hbc.rtt_eq.trans hab.rtt_eq
  settings_eq := hbc.settings_eq.trans hab.settings_eq
  unsent := by
    rw [transmissions_append, hab.unsent, hbc.unsent]
    rfl

/-- The deadline of another transaction. -/
theorem Expiry.elsewhere {endpoint : Endpoint} {host : Host} {key other : TransactionKey}
    {transaction : PendingTransaction} {outcome : Endpoint × List Entry}
    (h : Expiry endpoint host other transaction outcome) (hne : key ≠ other) :
    Elsewhere key endpoint outcome.1 outcome.2 := by
  have herased : (endpoint.pending.erase other).lookup key = endpoint.pending.lookup key :=
    AList.lookup_erase_ne hne
  have hforeign : ∀ {entries : List Entry}, (∀ entry ∈ entries, entry.sendsFor other) →
      transmissions key entries = [] := fun hsends =>
    transmissions_eq_nil (fun entry hentry => requestTime_of_sendsFor (hsends entry hentry) hne)
  cases h with
  | cancelled hdropped => exact ⟨herased, rfl, rfl, rfl⟩
  | timedOut hretries => exact ⟨herased, rfl, rfl, rfl⟩
  | attempted hretries deadline =>
      refine ⟨?_, rfl, rfl, hforeign (fun entry hentry => ?_)⟩
      · exact (insertPending_lookup _ _ _ _).trans (if_neg hne)
      · exact sendsFor_of_mem_sendEntries
          (fun _ hm => key?_of_mem_retransmission (List.mem_of_mem_filter hm)) hentry
  | failed count error =>
      refine ⟨herased, rfl, rfl, ?_⟩
      rw [transmissions_append, hforeign (fun entry hentry => ?_)]
      · rfl
      · exact sendsFor_of_mem_sendEntries (fun _ hm => key?_of_mem_retransmission
          (List.mem_of_mem_filter (List.mem_of_mem_take hm))) hentry

theorem expireOne_elsewhere (endpoint : Endpoint) (host : Host) {key other : TransactionKey}
    (hne : key ≠ other) : Elsewhere key endpoint (endpoint.expireOne host other).1
      (endpoint.expireOne host other).2 := by
  cases hlookup : endpoint.pending.lookup other with
  | none =>
      unfold expireOne
      rw [hlookup]
      exact .refl key endpoint
  | some transaction => exact (expireOne_expiry hlookup host).elsewhere hne

/-- The deadlines of others. -/
theorem expireEach_elsewhere (host : Host) {key : TransactionKey} :
    ∀ (visits : List (TransactionKey × Instant)) (endpoint : Endpoint),
      key ∉ visits.map Prod.fst →
        Elsewhere key endpoint (endpoint.expireEach host visits).1
          (endpoint.expireEach host visits).2
  | [], endpoint, _ => .refl key endpoint
  | (other, now) :: visits, endpoint, h => by
      rw [List.map_cons, List.mem_cons, not_or] at h
      exact (endpoint.expireOne_elsewhere (host.later now) h.1).trans
        (expireEach_elsewhere host visits _ h.2)

/-- **A key visited once** is handled as if it were the only one, at its own reading of the
clock. -/
theorem expireEach_visit (host : Host) {key : TransactionKey} {now : Instant} :
    ∀ (visits : List (TransactionKey × Instant)) (endpoint : Endpoint),
      (visits.map Prod.fst).Nodup → (key, now) ∈ visits →
        ∃ middle entries, Elsewhere key endpoint middle entries
          ∧ Elsewhere key (middle.expireOne (host.later now) key).1
            (endpoint.expireEach host visits).1 []
          ∧ transmissions key (endpoint.expireEach host visits).2
            = transmissions key (middle.expireOne (host.later now) key).2
  | [], _, _, h => absurd h List.not_mem_nil
  | (other, visited) :: visits, endpoint, hnodup, h => by
      rw [List.map_cons, List.nodup_cons] at hnodup
      have hlast : transmissions key (endpoint.expireEach host ((other, visited) :: visits)).2
          = transmissions key (endpoint.expireOne (host.later visited) other).2
            ++ transmissions key ((endpoint.expireOne (host.later visited) other).1.expireEach host
              visits).2 := transmissions_append _ _ _
      by_cases hkey : key = other
      · -- Its own visit: the others come after it.
        subst hkey
        have hvisited : now = visited := by
          rcases List.mem_cons.mp h with hsame | hmem
          · exact congrArg Prod.snd hsame
          · exact absurd (List.mem_map_of_mem hmem) hnodup.1
        subst hvisited
        have hothers := expireEach_elsewhere host visits
          (endpoint.expireOne (host.later now) key).1 hnodup.1
        refine ⟨endpoint, [], .refl key endpoint,
          ⟨hothers.lookup_eq, hothers.rtt_eq, hothers.settings_eq, rfl⟩, ?_⟩
        rw [hlast, hothers.unsent, List.append_nil]
      · have hfirst := endpoint.expireOne_elsewhere (host.later visited) hkey
        have hmem : (key, now) ∈ visits := by
          rcases List.mem_cons.mp h with hsame | hmem
          · exact absurd (congrArg Prod.fst hsame) hkey
          · exact hmem
        obtain ⟨middle, entries, hbefore, hafter, hsent⟩ :=
          expireEach_visit host visits _ hnodup.2 hmem
        refine ⟨middle, _, hfirst.trans hbefore, hafter, ?_⟩
        rw [hlast, hfirst.unsent, List.nil_append, hsent]

/-- Who is told of a timeout had no retry left. -/
theorem Expiry.told {endpoint : Endpoint} {host : Host} {key : TransactionKey}
    {transaction : PendingTransaction} {outcome : Endpoint × List Entry}
    (h : Expiry endpoint host key transaction outcome) {time : Instant} {response : Channel}
    (htold : ⟨time, .answered response (.error .timeout)⟩ ∈ outcome.2) :
    time = host.now ∧ transaction.response = response ∧ transaction.retriesRemaining = 0 := by
  cases h with
  | cancelled hdropped => exact absurd htold List.not_mem_nil
  | timedOut hretries =>
      cases List.mem_singleton.mp htold
      exact ⟨rfl, rfl, hretries⟩
  | attempted hretries deadline =>
      refine absurd htold (not_answered_of_sendsFor key (fun entry hentry => ?_))
      exact sendsFor_of_mem_sendEntries
        (fun _ hm => key?_of_mem_retransmission (List.mem_of_mem_filter hm)) hentry
  | failed count error =>
      rcases List.mem_append.mp htold with htold | htold
      · refine absurd htold (not_answered_of_sendsFor key (fun entry hentry => ?_))
        exact sendsFor_of_mem_sendEntries (fun _ hm => key?_of_mem_retransmission
          (List.mem_of_mem_filter (List.mem_of_mem_take hm))) hentry
      · cases List.mem_singleton.mp htold

/-- And its key was visited then. -/
theorem expireEach_told (host : Host) {time : Instant} {response : Channel} :
    ∀ (visits : List (TransactionKey × Instant)) (endpoint : Endpoint),
      (visits.map Prod.fst).Nodup →
      ⟨time, .answered response (.error .timeout)⟩ ∈ (endpoint.expireEach host visits).2 →
        ∃ key transaction, (key, time) ∈ visits
          ∧ endpoint.pending.lookup key = some transaction
          ∧ transaction.response = response ∧ transaction.retriesRemaining = 0
  | [], _, _, h => absurd h List.not_mem_nil
  | (other, visited) :: visits, endpoint, hnodup, h => by
      rw [List.map_cons, List.nodup_cons] at hnodup
      rcases List.mem_append.mp (show _ ∈ (endpoint.expireOne (host.later visited) other).2
          ++ ((endpoint.expireOne (host.later visited) other).1.expireEach host visits).2 from h)
        with htold | htold
      · cases hlookup : endpoint.pending.lookup other with
        | none =>
            unfold expireOne at htold
            rw [hlookup] at htold
            exact absurd htold List.not_mem_nil
        | some transaction =>
            obtain ⟨rfl, hresponse, hretries⟩ :=
              (expireOne_expiry hlookup (host.later visited)).told htold
            exact ⟨other, transaction, List.mem_cons_self, hlookup, hresponse, hretries⟩
      · obtain ⟨key, transaction, hmem, hlookup, hresponse, hretries⟩ :=
          expireEach_told host visits _ hnodup.2 htold
        have hvisited : key ∈ visits.map Prod.fst := List.mem_map_of_mem hmem
        have hne : key ≠ other := by
          rintro rfl
          exact hnodup.1 hvisited
        refine ⟨key, transaction, List.mem_cons_of_mem _ hmem, ?_, hresponse, hretries⟩
        rw [← (endpoint.expireOne_elsewhere (host.later visited) hne).lookup_eq]
        exact hlookup

/-- The keys whose deadline has passed. -/
theorem mem_expired {endpoint : Endpoint} {now : Instant} {key : TransactionKey} :
    key ∈ endpoint.expired now
      ↔ ∃ transaction, endpoint.pending.lookup key = some transaction
        ∧ transaction.deadline ≤ now := by
  unfold expired
  constructor
  · intro h
    obtain ⟨⟨other, transaction⟩, hmem, rfl⟩ := List.mem_map.mp h
    obtain ⟨hentry, hdue⟩ := List.mem_filter.mp hmem
    exact ⟨transaction, (KeyedTable.lookup_eq_some_iff _ _ _).mpr hentry,
      of_decide_eq_true hdue⟩
  · rintro ⟨transaction, hlookup, hdue⟩
    refine List.mem_map.mpr ⟨⟨key, transaction⟩, List.mem_filter.mpr ⟨?_, decide_eq_true hdue⟩, rfl⟩
    exact (KeyedTable.lookup_eq_some_iff _ _ _).mp hlookup

/-- Each is one of them once. -/
theorem nodup_expired (endpoint : Endpoint) (now : Instant) : (endpoint.expired now).Nodup :=
  (List.Sublist.map Sigma.fst (List.filter_sublist)).nodup endpoint.pending.keys_nodup

/-- What a visit leaves of a transaction that stays: it has been sent once more. -/
theorem expireOne_keeps {endpoint : Endpoint} {host : Host} {key : TransactionKey}
    {transaction kept : PendingTransaction}
    (hlookup : endpoint.pending.lookup key = some transaction)
    (hkept : (endpoint.expireOne host key).1.pending.lookup key = some kept) :
    transaction.retriesRemaining ≠ 0
      ∧ kept = transaction.retransmit
        (host.now + endpoint.backoff key.1 transaction.retriesRemaining)
      ∧ (endpoint.expireOne host key).2 = sendEntries host key
        ((transaction.retransmission key).filter (fun parcel => !parcel.2.isEmpty)) := by
  -- Every branch but the last takes the transaction out.
  have herased : (endpoint.pending.erase key).lookup key ≠ some kept := by
    rw [AList.lookup_erase]
    exact fun h => by cases h
  unfold expireOne at hkept ⊢
  rw [hlookup] at hkept ⊢
  simp only at hkept ⊢
  by_cases hclosed : host.isClosed transaction.response = true
  · rw [if_pos hclosed] at hkept
    exact absurd hkept herased
  · rw [if_neg hclosed] at hkept ⊢
    by_cases hretries : transaction.retriesRemaining = 0
    · rw [if_pos hretries] at hkept
      exact absurd hkept herased
    · rw [if_neg hretries] at hkept ⊢
      rcases sendAll_insertPending endpoint host key
          (transaction.retransmit
            (host.now + endpoint.backoff key.1 transaction.retriesRemaining))
          ((transaction.retransmission key).filter (fun parcel => !parcel.2.isEmpty)) with
        hall | ⟨count, error, hfailed⟩
      · rw [hall] at hkept ⊢
        rw [insertPending_lookup, if_pos rfl] at hkept
        exact ⟨hretries, (Option.some.inj hkept).symm, rfl⟩
      · rw [hfailed] at hkept
        exact absurd hkept herased

end Endpoint

/-- Without a retry left nothing is sent. -/
theorem Endpoint.expireOne_exhausted {endpoint : Endpoint} {host : Host} {key : TransactionKey}
    {transaction : PendingTransaction} (hlookup : endpoint.pending.lookup key = some transaction)
    (hretries : transaction.retriesRemaining = 0) :
    transmissions key (endpoint.expireOne host key).2 = [] := by
  unfold Endpoint.expireOne
  rw [hlookup]
  simp only [if_pos hretries]
  split <;> rfl

/-- A request that goes out whole goes out once in an attempt. -/
theorem transmissions_retransmission {host : Host} {key : TransactionKey}
    {transaction : PendingTransaction} (hwhole : transaction.outbound = none)
    (hsilent : transaction.reassembly = none) (hframe : transaction.frame ≠ []) :
    transmissions key (sendEntries host key
      ((transaction.retransmission key).filter (fun parcel => !parcel.2.isEmpty)))
        = [host.now] := by
  have hparcels : (transaction.retransmission key).filter (fun parcel => !parcel.2.isEmpty)
      = [(.request key, transaction.frame)] := by
    unfold PendingTransaction.retransmission
    rw [hsilent, hwhole, List.filter_eq_self]
    intro parcel hparcel
    rw [List.mem_singleton.mp hparcel, Bool.not_eq_true', List.isEmpty_eq_false_iff]
    exact hframe
  have htime : (host.entry (.sent (.request key) key.1 transaction.frame)).requestTime key
      = some host.now := if_pos rfl
  rw [hparcels]
  exact List.filterMap_cons_some htime

/-! ## §4. One step -/

/-- The request goes out whole. -/
structure PendingTransaction.Unsegmented (transaction : PendingTransaction) : Prop where
  outbound_eq : transaction.outbound = none
  frame_ne : transaction.frame ≠ []

namespace Endpoint

/-- How a command starts the transaction at `key`. -/
structure Opens (endpoint : Endpoint) (host : Host) (key : TransactionKey)
    (transaction : PendingTransaction) (entries : List Entry) : Prop where
  deadline_eq : transaction.deadline = host.now + endpoint.rto key.1
  retries_eq : transaction.retriesRemaining = endpoint.retries
  whole : transaction.outbound = none →
    transaction.frame ≠ [] ∧ transmissions key entries = [host.now]

theorem opened_opens (endpoint : Endpoint) (host : Host) (target : BacnetTarget)
    (serviceChoice : ConfirmedServiceChoice) {serviceData : Bytes} (response : Channel)
    {invokeId : UInt8} {frames : RequestFrames}
    (hsplit : splitRequest target invokeId serviceChoice serviceData endpoint.acceptedApdu
      = .ok frames) :
    Opens endpoint host (target.address, invokeId)
      ((endpoint.swept host target.address).opened host target serviceChoice response
        (requestTransfer (target.address, invokeId) frames))
      (host.entry (.reserved (target.address, invokeId))
        :: sendEntries host (target.address, invokeId)
          [(requestTransfer (target.address, invokeId) frames).1]) := by
  refine ⟨rfl, rfl, fun hnone => ?_⟩
  cases frames with
  | whole frame =>
      have htime : (host.entry (.sent (.request (target.address, invokeId)) target.address
          frame)).requestTime (target.address, invokeId) = some host.now := if_pos rfl
      exact ⟨splitRequest_whole hsplit, List.filterMap_cons_some htime⟩
  | segmented frames => cases hnone

/-- **After a command** a key holds what it held before, or the transaction the command
opened. -/
theorem Admission.opens {endpoint : Endpoint} {host : Host} {target : BacnetTarget}
    {serviceChoice : ConfirmedServiceChoice} {serviceData : Bytes} {response : Channel}
    {outcome : Endpoint × List Entry}
    (h : Admission endpoint host target serviceChoice serviceData response outcome)
    {key : TransactionKey} {transaction : PendingTransaction}
    (hlookup : outcome.1.pending.lookup key = some transaction) :
    (endpoint.pending.lookup key = some transaction ∧ transmissions key outcome.2 = [])
      ∨ (transaction.response = response ∧ Opens endpoint host key transaction outcome.2) := by
  have hswept : (endpoint.swept host target.address).pending.lookup key = some transaction →
      endpoint.pending.lookup key = some transaction :=
    fun h => ((KeyedTable.lookup_retain_eq_some _ _ _ _).mp h).1
  cases h with
  | cancelled => exact Or.inl ⟨hlookup, rfl⟩
  | exhausted => exact Or.inl ⟨hswept hlookup, rfl⟩
  | refused invokeId error hfree => exact Or.inl ⟨hswept hlookup, rfl⟩
  | admitted invokeId frames hfree hsplit =>
      rw [insertPending_lookup] at hlookup
      split at hlookup
      next hkey =>
        -- The key given out: it was free, so what it holds now is new.
        subst hkey
        cases hlookup
        exact Or.inr ⟨rfl, endpoint.opened_opens host target serviceChoice response hsplit⟩
      next hkey =>
        refine Or.inl ⟨hswept hlookup, transmissions_eq_nil (fun entry hentry => ?_)⟩
        rcases List.mem_cons.mp hentry with rfl | hentry
        · rfl
        · refine requestTime_of_sendsFor (sendsFor_of_mem_sendEntries ?_ hentry) hkey
          intro parcel hparcel
          rw [List.mem_singleton.mp hparcel]
          cases frames <;> rfl
  | unsent invokeId error hfree =>
      have herased : ((endpoint.swept host target.address).pending.erase
          (target.address, invokeId)).lookup key = some transaction := hlookup
      rw [KeyedTable.lookup_erase_eq_ite] at herased
      split at herased
      · cases herased
      · exact Or.inl ⟨hswept herased, rfl⟩

theorem Opens.unregistered {endpoint : Endpoint} {command : EndpointCommand} {host : Host}
    {key : TransactionKey} {transaction : PendingTransaction} {entries : List Entry}
    (h : Opens (endpoint.registered command) host key transaction entries) :
    Opens endpoint host key transaction entries := by
  cases command <;> exact ⟨h.deadline_eq, h.retries_eq, h.whole⟩

/-- **After any command** a key holds what it held before, or a transaction that answers on one of
the command's channels and was opened by it. -/
theorem handleCommand_opens {endpoint : Endpoint} {host : Host} {command : EndpointCommand}
    {key : TransactionKey} {transaction : PendingTransaction}
    (hlookup : (endpoint.handleCommand host command).1.pending.lookup key = some transaction) :
    (endpoint.pending.lookup key = some transaction
        ∧ transmissions key (endpoint.handleCommand host command).2 = [])
      ∨ (transaction.response ∈ command.channels
        ∧ Opens endpoint host key transaction (endpoint.handleCommand host command).2) := by
  rcases endpoint.handleCommand_cases host command with
    ⟨devices, routers, hendpoint, hquiet⟩ | ⟨target, service, serviceData, response, hchannel,
      hadmission⟩
  · rw [hendpoint] at hlookup
    exact .inl ⟨hlookup, transmissions_eq_nil
      (fun entry hentry => requestTime_of_quiet (hquiet entry hentry))⟩
  · rcases hadmission.opens hlookup with ⟨hunchanged, hnone⟩ | ⟨hresponse, hopens⟩
    · rw [registered_pending] at hunchanged
      exact .inl ⟨hunchanged, hnone⟩
    · rw [← hresponse] at hchannel
      exact .inr ⟨hchannel, hopens.unregistered⟩

/-- A command learns nothing of round trips. -/
theorem handleCommand_rtt (endpoint : Endpoint) (host : Host) (command : EndpointCommand) :
    (endpoint.handleCommand host command).1.rtt = endpoint.rtt := by
  rcases endpoint.handleCommand_cases host command with
    ⟨devices, routers, hendpoint, _⟩ | ⟨target, service, serviceData, response, _, hadmission⟩
  · rw [hendpoint]
  · have hregistered : (endpoint.registered command).rtt = endpoint.rtt := by
      cases command <;> rfl
    rw [← hregistered]
    generalize endpoint.handleCommand host command = outcome at hadmission ⊢
    cases hadmission <;> rfl

end Endpoint

namespace World

/-- What a step leaves of a transaction that waits for its answer, and when the step
sends its request. -/
inductive Retried (endpoint : Endpoint) (key : TransactionKey) (transaction : PendingTransaction) :
    PendingTransaction → List Instant → Prop where
  | still : Retried endpoint key transaction transaction []
  | again (now : Instant) (hdue : transaction.deadline ≤ now)
      (hretries : transaction.retriesRemaining ≠ 0) :
      Retried endpoint key transaction
        (transaction.retransmit (now + endpoint.backoff key.1 transaction.retriesRemaining)) [now]

/-- Only the backoff of the peer matters. -/
theorem Retried.of_backoff {a b : Endpoint} {key : TransactionKey}
    {transaction kept : PendingTransaction} {times : List Instant}
    (h : Retried a key transaction kept times) (hbackoff : a.backoff key.1 = b.backoff key.1) :
    Retried b key transaction kept times := by
  cases h with
  | still => exact .still
  | again now hdue hretries =>
      rw [hbackoff]
      exact .again now hdue hretries

/-- An APDU that is no part of an answer leaves a whole request as it was. -/
theorem handled_still {endpoint : Endpoint} {host : Host} {key other : TransactionKey}
    {transaction kept : PendingTransaction} {apdu : Apdu} {outcome : Endpoint × List Entry}
    (hbefore : endpoint.pending.lookup other = some transaction)
    (h : Endpoint.Handled endpoint other transaction
      (Endpoint.ResponseKeeps endpoint host other transaction apdu)
      (Endpoint.ResponseCloses host other transaction apdu) outcome)
    (hkept : outcome.1.pending.lookup key = some kept) (hsilent : kept.reassembly = none)
    (hwhole : ∀ before, endpoint.pending.lookup key = some before → before.outbound = none) :
    endpoint.pending.lookup key = some kept ∧ transmissions key outcome.2 = [] := by
  cases h with
  | ignored => exact ⟨hkept, rfl⟩
  | kept stored entries hkeeps =>
      rw [Endpoint.insertPending_lookup] at hkept
      split at hkept
      next hkey =>
        -- A segment of the answer would be kept; a request that went out whole has no
        -- segments to be acknowledged.
        subst hkey
        cases hkept
        have hnone := hwhole transaction hbefore
        cases hkeeps with
        | segment ack kept entries hsegmented hservice hsegment => cases hsegment <;> cases hsilent
        | advanced negative server invokeId sequence window outbound frame houtbound =>
            rw [hnone] at houtbound
            cases houtbound
        | cleared negative server invokeId sequence window outbound houtbound =>
            rw [hnone] at houtbound
            cases houtbound
      next hkey =>
        exact ⟨hkept, transmissions_eq_nil (fun entry hentry =>
          requestTime_of_sendsFor (hkeeps.sendsFor entry hentry) hkey)⟩
  | closed rtt sends time result hcloses =>
      have herased : (endpoint.pending.erase other).lookup key = some kept := hkept
      rw [KeyedTable.lookup_erase_eq_ite] at herased
      split at herased
      · cases herased
      next hkey =>
        refine ⟨herased, ?_⟩
        rw [transmissions_append, transmissions_eq_nil (fun entry hentry =>
          requestTime_of_sendsFor (hcloses.sendsFor entry hentry) hkey)]
        rfl

/-- Nor does any other packet. -/
theorem packet_still {endpoint : Endpoint} {host : Host} {data : Bytes} {source : SocketAddr}
    {key : TransactionKey} {kept : PendingTransaction} {outcome : Endpoint × List Entry}
    (h : endpoint.handlePacket host data source = some outcome)
    (hkept : outcome.1.pending.lookup key = some kept) (hsilent : kept.reassembly = none)
    (hwhole : ∀ before, endpoint.pending.lookup key = some before → before.outbound = none) :
    endpoint.pending.lookup key = some kept ∧ transmissions key outcome.2 = [] := by
  rcases Endpoint.handlePacket_cases h with
    ⟨hunchanged, hquiet⟩ | ⟨apdu, route, invokeId, found, _, _, hfound, houtcome⟩
  · rw [hunchanged] at hkept
    exact ⟨hkept, transmissions_eq_nil
      (fun entry hentry => requestTime_of_quiet (hquiet entry hentry))⟩
  · have hresponse := Endpoint.handleResponse_handled hfound host apdu route
    rw [← houtcome] at hresponse
    exact handled_still hfound hresponse hkept hsilent hwhole

/-- The passed deadlines, each visited once. -/
theorem expireEach_retried {endpoint : Endpoint} {host : Host}
    {visits : List (TransactionKey × Instant)} {key : TransactionKey}
    {transaction kept : PendingTransaction} (hnodup : (visits.map Prod.fst).Nodup)
    (hdue : ∀ now, (key, now) ∈ visits → transaction.deadline ≤ now)
    (hkept : (endpoint.expireEach host visits).1.pending.lookup key = some kept)
    (hbefore : endpoint.pending.lookup key = some transaction)
    (hwhole : transaction.Unsegmented) (hsilent : transaction.reassembly = none) :
    Retried endpoint key transaction kept
      (transmissions key (endpoint.expireEach host visits).2) := by
  by_cases hvisited : key ∈ visits.map Prod.fst
  · obtain ⟨⟨visited, now⟩, hvisit, hkey⟩ := List.mem_map.mp hvisited
    have hkey : visited = key := hkey
    subst hkey
    obtain ⟨middle, entries, hearlier, hlater, hsent⟩ :=
      Endpoint.expireEach_visit host visits endpoint hnodup hvisit
    have hmiddle : middle.pending.lookup visited = some transaction :=
      hearlier.lookup_eq.trans hbefore
    rw [← hlater.lookup_eq.symm] at hkept
    obtain ⟨hretries, rfl, hentries⟩ := Endpoint.expireOne_keeps hmiddle hkept
    rw [hsent, hentries, transmissions_retransmission hwhole.outbound_eq hsilent hwhole.frame_ne]
    have hagain : Retried middle visited transaction _ [now] :=
      .again now (hdue now hvisit) hretries
    exact hagain.of_backoff
      (Endpoint.backoff_congr (by rw [hearlier.rtt_eq]) hearlier.settings_eq)
  · have hothers := endpoint.expireEach_elsewhere host visits hvisited
    rw [hothers.unsent]
    rw [hothers.lookup_eq, hbefore] at hkept
    cases hkept
    exact .still

theorem le_of_mem_ordered {time : Instant} {times : List Instant} :
    ∀ {now : Instant}, ordered now times = true → time ∈ times → now ≤ time := by
  induction times with
  | nil => exact fun _ hmem => absurd hmem List.not_mem_nil
  | cons first times ih =>
      intro now h hmem
      simp only [ordered, Bool.and_eq_true, decide_eq_true_eq] at h
      rcases List.mem_cons.mp hmem with rfl | hmem
      · exact h.1
      · exact Nat.le_trans h.1 (ih h.2 hmem)

/-- Timeouts that may happen visit each transaction once, no earlier than its deadline. -/
theorem visits_due {world : World} {now : Instant} {sendTo : SocketAddr → Bytes → Option IoError}
    {visits : List (TransactionKey × Instant)}
    (h : permits world (.timeouts now sendTo visits) = true) :
    (visits.map Prod.fst).Nodup
      ∧ ∀ {key visited transaction}, (key, visited) ∈ visits →
        world.endpoint.pending.lookup key = some transaction → transaction.deadline ≤ visited := by
  simp only [permits, Bool.and_eq_true, List.isPerm_iff] at h
  refine ⟨h.1.2.nodup_iff.mpr (world.endpoint.nodup_expired now), ?_⟩
  intro key visited transaction hvisit hlookup
  obtain ⟨due, hdue, hpassed⟩ :=
    Endpoint.mem_expired.mp (h.1.2.mem_iff.mp (List.mem_map_of_mem hvisit))
  cases hlookup.symm.trans hdue
  exact Nat.le_trans hpassed (le_of_mem_ordered h.2 (List.mem_map_of_mem hvisit))

/-- **One step** leaves a request that waits for its answer as it was, or sends it once
more and waits for the backoff of its attempt. -/
theorem step_retried {world world' : World} {event : Event} {key : TransactionKey}
    {response : Channel} {transaction kept : PendingTransaction}
    (hissued : response ∈ world.issued) (hstep : step world event = some world')
    (hbefore : world.waiting key response = some transaction)
    (hwhole : transaction.Unsegmented) (hsilent : transaction.reassembly = none)
    (hafter : world'.waiting key response = some kept) (hstill : kept.reassembly = none) :
    Retried world.endpoint key transaction kept
      (transmissions key (entriesSince world world')) := by
  obtain ⟨hlookup, hresponse⟩ := waiting_eq_some.mp hbefore
  obtain ⟨hkept, hanswers⟩ := waiting_eq_some.mp hafter
  have hsame : world.endpoint.pending.lookup key = some kept →
      ∀ {entries : List Entry}, transmissions key entries = [] →
        Retried world.endpoint key transaction kept (transmissions key entries) := by
    intro hunchanged entries hnone
    rw [hlookup] at hunchanged
    cases hunchanged
    rw [hnone]
    exact .still
  have hstep' := hstep
  obtain ⟨hpermits, rfl⟩ := step_eq_some.mp hstep
  cases event with
  | command now sendTo command =>
      obtain ⟨hkept, _⟩ := resume_lookup hkept
      have hentries : entriesSince world (world.react (.command now sendTo command))
          = (world.endpoint.handleCommand (world.host now sendTo) command).2 := List.drop_left
      rw [hentries]
      rcases Endpoint.handleCommand_opens hkept with ⟨hunchanged, hnone⟩ | ⟨hchannel, _⟩
      · exact hsame hunchanged hnone
      · -- A new transaction answers on a channel that was never given out before.
        rw [hanswers] at hchannel
        exact absurd hissued (not_issued_of_command hstep' hchannel).1
  | packet now sendTo data source =>
      rcases world.react_packet now sendTo data source with ⟨outcome, hhandled, hreact⟩ | hreact
      · rw [hreact] at hkept ⊢
        obtain ⟨hkept, _⟩ := resume_lookup hkept
        rw [entriesSince_resume]
        obtain ⟨hunchanged, hnone⟩ := packet_still hhandled hkept hstill (fun before hlook => by
          cases hlookup.symm.trans hlook
          exact hwhole.outbound_eq)
        exact hsame hunchanged hnone
      · rw [hreact] at hkept
        cases hkept
  | timeouts now sendTo visits =>
      obtain ⟨hkept, _⟩ := resume_lookup hkept
      have hentries : entriesSince world (world.react (.timeouts now sendTo visits))
          = (world.endpoint.handleTimeouts (world.host now sendTo) visits).2 := List.drop_left
      obtain ⟨hnodup, hdue⟩ := visits_due hpermits
      rw [hentries]
      unfold Endpoint.handleTimeouts at hkept ⊢
      have hretried := expireEach_retried hnodup (fun visited hvisit => hdue hvisit hlookup) hkept
        hlookup hwhole hsilent
      exact hretried.of_backoff rfl
  | drop channel =>
      have hentries : entriesSince world (world.react (.drop channel)) = [] := List.drop_length
      rw [hentries]
      exact hsame hkept rfl
  | stop now error => cases hkept

/-! ## §5. Over a run -/

/-- The waits a step begins: from each time it sends the request to the deadline. -/
def waitsBegun (key : TransactionKey) (response : Channel) (world world' : World) :
    List Duration :=
  match world'.waiting key response with
  | some kept =>
      (transmissions key (entriesSince world world')).map (fun sentAt => kept.deadline - sentAt)
  | none => []

/-- The waits a run puts the transaction at `key` through, in order. -/
def waits (key : TransactionKey) (response : Channel) : World → List Event → List Duration
  | _, [] => []
  | world, event :: events =>
      match step world event with
      | none => []
      | some world' =>
          waitsBegun key response world world' ++ waits key response world' events

theorem waits_cons {key : TransactionKey} {response : Channel} {world world' : World}
    {event : Event} (hstep : step world event = some world') (events : List Event) :
    waits key response world (event :: events)
      = waitsBegun key response world world' ++ waits key response world' events := by
  rw [waits, hstep]

/-- What is known of the peer's round trips is `rtt`, and no part of an answer has been
taken. -/
def Unanswered (key : TransactionKey) (response : Channel) (rtt : Option Rtt) (world : World) :
    Prop :=
  world.endpoint.rtt.lookup key.1 = rtt
    ∧ ∀ transaction ∈ world.waiting key response, transaction.reassembly = none

instance Unanswered.decidable (key : TransactionKey) (response : Channel) (rtt : Option Rtt)
    (world : World) : Decidable (Unanswered key response rtt world) := by
  unfold Unanswered
  infer_instance

/-- What a run from `transaction` to `kept` has waited, sending the request at `times`:
one wait for each retry used, in order. -/
structure Waited (endpoint : Endpoint) (key : TransactionKey)
    (transaction kept : PendingTransaction) (waited : List Duration) (times : List Instant) :
    Prop where
  retries_eq : transaction.retriesRemaining.toNat = kept.retriesRemaining.toNat + waited.length
  waits_eq : waited = (List.range' (endpoint.retries.toNat - transaction.retriesRemaining.toNat + 1)
    waited.length).map (endpoint.attemptWait key.1)
  times_eq : times.length = waited.length
  deadline_le : transaction.deadline + waited.sum ≤ kept.deadline

theorem Waited.refl (endpoint : Endpoint) (key : TransactionKey)
    (transaction : PendingTransaction) : Waited endpoint key transaction transaction [] [] :=
  ⟨rfl, rfl, rfl, Nat.le_refl _⟩

theorem Waited.trans {endpoint : Endpoint} {key : TransactionKey} {a b c : PendingTransaction}
    {ws vs : List Duration} {ts us : List Instant} (hab : Waited endpoint key a b ws ts)
    (hbc : Waited endpoint key b c vs us) (hretries : a.retriesRemaining ≤ endpoint.retries) :
    Waited endpoint key a c (ws ++ vs) (ts ++ us) := by
  have hle := UInt8.le_iff_toNat_le.mp hretries
  have hfirst := hab.retries_eq
  have hsecond := hbc.retries_eq
  refine ⟨?_, ?_, ?_, ?_⟩
  · rw [List.length_append]
    omega
  · have hnext : endpoint.retries.toNat - b.retriesRemaining.toNat + 1
        = endpoint.retries.toNat - a.retriesRemaining.toNat + 1 + ws.length := by
      omega
    have hlater := hbc.waits_eq
    rw [hnext] at hlater
    rw [List.length_append, ← List.range'_append_1, List.map_append, ← hab.waits_eq, ← hlater]
  · rw [List.length_append, List.length_append, hab.times_eq, hbc.times_eq]
  · have hsum : (ws ++ vs).sum = ws.sum + vs.sum := List.sum_append
    rw [hsum, ← Nat.add_assoc]
    exact Nat.le_trans (Nat.add_le_add_right hab.deadline_le vs.sum) hbc.deadline_le

/-- One wait is begun for each time a step sends the request. -/
theorem Retried.waited {endpoint : Endpoint} {key : TransactionKey}
    {transaction kept : PendingTransaction} {times : List Instant}
    (h : Retried endpoint key transaction kept times) :
    Waited endpoint key transaction kept
      (times.map (fun sentAt => kept.deadline - sentAt)) times := by
  cases h with
  | still => exact .refl endpoint key transaction
  | again now hdue hretries =>
      have hpos : 1 ≤ transaction.retriesRemaining.toNat :=
        Nat.pos_of_ne_zero (fun hzero => hretries (UInt8.toNat_inj.mp hzero))
      have hless : (transaction.retriesRemaining - 1).toNat
          = transaction.retriesRemaining.toNat - 1 :=
        UInt8.toNat_sub_of_le _ _ (UInt8.le_iff_toNat_le.mpr hpos)
      have hwait : now + endpoint.backoff key.1 transaction.retriesRemaining - now
          = endpoint.backoff key.1 transaction.retriesRemaining :=
        Nat.add_sub_cancel_left _ _
      refine ⟨?_, ?_, rfl, ?_⟩
      · show transaction.retriesRemaining.toNat = (transaction.retriesRemaining - 1).toNat + 1
        omega
      · exact congrArg (fun wait => [wait]) hwait
      · show transaction.deadline + (now + _ - now + 0) ≤ now + _
        rw [hwait]
        exact Nat.add_le_add_right hdue _

theorem Retried.unsegmented {endpoint : Endpoint} {key : TransactionKey}
    {transaction kept : PendingTransaction} {times : List Instant}
    (h : Retried endpoint key transaction kept times) (hwhole : transaction.Unsegmented) :
    kept.Unsegmented := by
  cases h with
  | still => exact hwhole
  | again => exact ⟨hwhole.outbound_eq, hwhole.frame_ne⟩

theorem Waited.retries_le {endpoint : Endpoint} {key : TransactionKey}
    {transaction kept : PendingTransaction} {waited : List Duration} {times : List Instant}
    (h : Waited endpoint key transaction kept waited times)
    (hretries : transaction.retriesRemaining ≤ endpoint.retries) :
    kept.retriesRemaining ≤ endpoint.retries := by
  refine UInt8.le_trans (UInt8.le_iff_toNat_le.mpr ?_) hretries
  rw [h.retries_eq]
  exact Nat.le_add_right _ _

/-- A transaction that waits at the end of a run waited all along. -/
theorem waiting_before {key : TransactionKey} {response : Channel} {last : World}
    {kept : PendingTransaction} (hkept : last.waiting key response = some kept) :
    ∀ {events : List Event} {world : World}, response ∈ world.issued →
      Machine.run step world events = some last →
        ∃ transaction, world.waiting key response = some transaction
  | [], world, _, hrun => by
      cases hrun
      exact ⟨kept, hkept⟩
  | event :: events, world, hissued, hrun => by
      obtain ⟨world', hstep, hrest⟩ := Machine.run_cons_eq_some.mp hrun
      obtain ⟨later, hlater⟩ := waiting_before hkept (step_issued hstep hissued) hrest
      obtain ⟨hlookup, hresponse⟩ := waiting_eq_some.mp hlater
      rcases step_evolves hstep hlookup with
        ⟨transaction, hbefore, hevolves⟩ | ⟨now, sendTo, command, rfl, hchannel, _⟩
      · exact ⟨transaction, waiting_eq_some.mpr
          ⟨hbefore, hevolves.response_eq.symm.trans hresponse⟩⟩
      · rw [hresponse] at hchannel
        exact absurd hissued (not_issued_of_command hstep hchannel).1

/-- **A run** without an answer waits once for each retry it uses, each time as long as
the attempt's turn says. -/
theorem run_waits {key : TransactionKey} {response : Channel} {rtt : Option Rtt} {last : World}
    {kept : PendingTransaction} (hlast : Unanswered key response rtt last)
    (hkept : last.waiting key response = some kept) :
    ∀ {events : List Event} {world : World} {transaction : PendingTransaction},
      response ∈ world.issued → world.waiting key response = some transaction →
      transaction.Unsegmented → transaction.retriesRemaining ≤ world.endpoint.retries →
      Machine.Throughout step (fun world _ => Unanswered key response rtt world) world events →
      Machine.run step world events = some last →
        Waited world.endpoint key transaction kept (waits key response world events)
          (transmissions key (entriesSince world last))
  | [], world, transaction, _, hwaiting, _, _, _, hrun => by
      cases hrun
      rw [hwaiting] at hkept
      cases hkept
      have hnone : entriesSince last last = [] := List.drop_length
      rw [hnone]
      exact .refl last.endpoint key kept
  | event :: events, world, transaction, hissued, hwaiting, hwhole, hretries, hthroughout,
    hrun => by
      obtain ⟨world', hstep, hrest⟩ := Machine.run_cons_eq_some.mp hrun
      have hissued' := step_issued hstep hissued
      obtain ⟨next, hnext⟩ := waiting_before hkept hissued' hrest
      -- The world a step leads to is the start of the rest of the run, or its end.
      have hunanswered' : Unanswered key response rtt world' := by
        cases events with
        | nil =>
            cases hrest
            exact hlast
        | cons => exact (hthroughout.2 world' hstep).1
      have hretried := step_retried hissued hstep hwaiting hwhole
        (hthroughout.1.2 transaction hwaiting) hnext (hunanswered'.2 next hnext)
      have hsettings := step_settings hstep
      have hcount : world'.endpoint.retries = world.endpoint.retries :=
        congrArg (fun settings => settings.2.1) hsettings
      have hsame : world'.endpoint.attemptWait key.1 = world.endpoint.attemptWait key.1 :=
        Endpoint.attemptWait_congr (hunanswered'.1.trans hthroughout.1.1.symm) hsettings
      have hlater := run_waits hlast hkept hissued' hnext (hretried.unsegmented hwhole)
        (by rw [hcount]; exact hretried.waited.retries_le hretries) (hthroughout.2 world' hstep)
        hrest
      have hbegun : waitsBegun key response world world'
          = (transmissions key (entriesSince world world')).map
            (fun sentAt => next.deadline - sentAt) := by
        rw [waitsBegun, hnext]
      rw [waits_cons hstep, hbegun, entriesSince_append (step_trace hstep) (run_trace hrest),
        transmissions_append]
      -- The attempts are counted from the endpoint's retries, which no step changes.
      refine hretried.waited.trans ?_ hretries
      exact ⟨hlater.retries_eq, by rw [← hsame, ← hcount]; exact hlater.waits_eq, hlater.times_eq,
        hlater.deadline_le⟩

/-- The command that opens a transaction sends it, and waits the initial timeout. -/
theorem step_opens {timeout : Duration} {retries : UInt8} {acceptedApdu : MaxApduSize}
    {origin opened : World} (hreachable : Reachable timeout retries acceptedApdu origin)
    {now : Instant} {sendTo : SocketAddr → Bytes → Option IoError}
    {command : Endpoint.EndpointCommand}
    (hopen : step origin (.command now sendTo command) = some opened) {key : TransactionKey}
    {response : Channel} {first : PendingTransaction} (hchannel : response ∈ command.channels)
    (hfirst : opened.waiting key response = some first) :
    Endpoint.Opens origin.endpoint (origin.host now sendTo) key first
      (entriesSince origin opened) := by
  have hfresh := (not_issued_of_command hopen hchannel).1
  obtain ⟨_, rfl⟩ := step_eq_some.mp hopen
  obtain ⟨hlookup, hresponse⟩ := waiting_eq_some.mp hfirst
  obtain ⟨hlookup, _⟩ := resume_lookup hlookup
  -- Nothing held the channel before.
  have hnone : ∀ earlier, origin.endpoint.pending.lookup key = some earlier →
      earlier.response ≠ response := by
    intro earlier hearlier hsame
    have hexclusive := hreachable.exclusive response
    rw [if_neg hfresh] at hexclusive
    have hheld : holders response origin.endpoint.pending = _ :=
      KeyedTable.count_erase _ _ _ _ hearlier
    rw [beq_iff_eq.mpr hsame, if_pos rfl] at hheld
    omega
  have hentries : entriesSince origin (origin.react (.command now sendTo command))
      = (origin.endpoint.handleCommand (origin.host now sendTo) command).2 := List.drop_left
  rw [hentries]
  rcases Endpoint.handleCommand_opens hlookup with ⟨hbefore, _⟩ | ⟨_, hopens⟩
  · exact absurd hresponse (hnone first hbefore)
  · exact hopens

/-- An endpoint keeps what it was created with. -/
theorem Reachable.settings_eq {timeout : Duration} {retries : UInt8} {acceptedApdu : MaxApduSize}
    {world : World} (h : Reachable timeout retries acceptedApdu world) :
    world.endpoint.settings = (timeout, retries, acceptedApdu) :=
  Machine.Reachable.invariant
    (P := fun world : World => world.endpoint.settings = (timeout, retries, acceptedApdu))
    (fun _ _ _ hbefore hstep => (step_settings hstep).trans hbefore) rfl h

/-- A transaction told it timed out had no retry left, and its deadline had passed. -/
theorem timeout_told {last expired : World} {now : Instant}
    {sendTo : SocketAddr → Bytes → Option IoError}
    {visits : List (TransactionKey × Instant)}
    (hexpire : step last (.timeouts now sendTo visits) = some expired) {time : Instant}
    {response : Channel}
    (htold : ⟨time, .answered response (.error .timeout)⟩ ∈ entriesSince last expired) :
    ∃ key kept, last.waiting key response = some kept ∧ kept.retriesRemaining = 0
      ∧ kept.deadline ≤ time ∧ transmissions key (entriesSince last expired) = [] := by
  obtain ⟨hpermits, rfl⟩ := step_eq_some.mp hexpire
  have hentries : entriesSince last (last.react (.timeouts now sendTo visits))
      = (last.endpoint.handleTimeouts (last.host now sendTo) visits).2 := List.drop_left
  obtain ⟨hnodup, hdue⟩ := visits_due hpermits
  rw [hentries, Endpoint.handleTimeouts] at htold
  obtain ⟨key, kept, hvisit, hlookup, hresponse, hretries⟩ :=
    Endpoint.expireEach_told _ visits _ hnodup htold
  obtain ⟨middle, entries, hearlier, _, hsent⟩ :=
    Endpoint.expireEach_visit (last.host now sendTo) visits _ hnodup hvisit
  refine ⟨key, kept, waiting_eq_some.mpr ⟨hlookup, hresponse⟩, hretries,
    hdue hvisit hlookup, ?_⟩
  rw [hentries, Endpoint.handleTimeouts, hsent]
  exact Endpoint.expireOne_exhausted (hearlier.lookup_eq.trans hlookup) hretries

/-- The transaction told is the one the command opened. -/
theorem told_waiting {timeout : Duration} {retries : UInt8} {acceptedApdu : MaxApduSize}
    {opened last expired : World} (hopened : Reachable timeout retries acceptedApdu opened)
    {key : TransactionKey} {response : Channel} (hissued : response ∈ opened.issued)
    {first : PendingTransaction} (hfirst : opened.waiting key response = some first)
    {events : List Event} (hrun : Machine.run step opened events = some last) {now : Instant}
    {sendTo : SocketAddr → Bytes → Option IoError} {visits : List (TransactionKey × Instant)}
    (hexpire : step last (.timeouts now sendTo visits) = some expired) {time : Instant}
    (htold : ⟨time, .answered response (.error .timeout)⟩ ∈ entriesSince last expired) :
    ∃ kept, last.waiting key response = some kept ∧ kept.retriesRemaining = 0
      ∧ kept.deadline ≤ time ∧ transmissions key (entriesSince last expired) = [] := by
  obtain ⟨other, kept, hkept, htold⟩ := timeout_told hexpire htold
  obtain ⟨found, hfound⟩ := waiting_before hkept hissued hrun
  obtain ⟨hfirstLookup, hfirstResponse⟩ := waiting_eq_some.mp hfirst
  obtain ⟨hfoundLookup, hfoundResponse⟩ := waiting_eq_some.mp hfound
  have hone : holders response opened.endpoint.pending ≤ 1 := by
    have hexclusive := hopened.exclusive response
    rw [if_pos hissued] at hexclusive
    omega
  have hkey : key = other := KeyedTable.eq_key_of_count_le_one _ _ hone hfirstLookup hfoundLookup
    (beq_iff_eq.mpr hfirstResponse) (beq_iff_eq.mpr hfoundResponse)
  rw [hkey]
  exact ⟨kept, hkept, htold⟩

/-- The first wait is that before any retransmission. -/
theorem first_wait {timeout : Duration} {retries : UInt8} {acceptedApdu : MaxApduSize}
    {origin opened : World} (htimeout : timeout ≤ Duration.max)
    (hreachable : Reachable timeout retries acceptedApdu origin) {now : Instant}
    {sendTo : SocketAddr → Bytes → Option IoError} {command : Endpoint.EndpointCommand}
    (hopen : step origin (.command now sendTo command) = some opened) {key : TransactionKey}
    {response : Channel} (hchannel : response ∈ command.channels) {first : PendingTransaction}
    (hfirst : opened.waiting key response = some first) :
    first.deadline = now + opened.endpoint.attemptWait key.1 0 := by
  have hsettings := hreachable.settings_eq
  have hopens := step_opens hreachable hopen hchannel hfirst
  have hsame : opened.endpoint.attemptWait key.1 = origin.endpoint.attemptWait key.1 := by
    refine Endpoint.attemptWait_congr ?_ (step_settings hopen)
    obtain ⟨_, rfl⟩ := step_eq_some.mp hopen
    exact congrArg (fun rtt => AList.lookup key.1 rtt)
      (origin.endpoint.handleCommand_rtt (origin.host now sendTo) command)
  have hle : origin.endpoint.timeout ≤ Duration.max := by
    rw [show origin.endpoint.timeout = timeout from congrArg Prod.fst hsettings]
    exact htimeout
  rw [hsame, origin.endpoint.attemptWait_zero key.1 hle, hopens.deadline_eq]
  rfl

/-- **A request that times out** was sent once more than there are retries, waited after
each time as long as the attempt's turn says, and was told so no earlier than that. -/
theorem waits_in_order {timeout : Duration} {retries : UInt8} {acceptedApdu : MaxApduSize}
    {origin opened last expired : World} (htimeout : timeout ≤ Duration.max)
    (hreachable : Reachable timeout retries acceptedApdu origin) {now : Instant}
    {sendTo : SocketAddr → Bytes → Option IoError} {command : Endpoint.EndpointCommand}
    (hopen : step origin (.command now sendTo command) = some opened) {key : TransactionKey}
    {response : Channel} (hchannel : response ∈ command.channels) {first : PendingTransaction}
    (hfirst : opened.waiting key response = some first) (hwhole : first.outbound = none)
    {events : List Event} (hrun : Machine.run step opened events = some last)
    {passedAt : Instant} {sendLater : SocketAddr → Bytes → Option IoError}
    {visits : List (TransactionKey × Instant)}
    (hexpire : step last (.timeouts passedAt sendLater visits) = some expired)
    (hunanswered : Machine.Throughout step
      (fun world _ => Unanswered key response (opened.endpoint.rtt.lookup key.1) world) opened
      (events ++ [.timeouts passedAt sendLater visits]))
    {time : Instant}
    (htold : ⟨time, .answered response (.error .timeout)⟩ ∈ entriesSince last expired) :
    waits key response origin (.command now sendTo command :: events)
        = (List.range (retries.toNat + 1)).map (last.endpoint.attemptWait key.1)
      ∧ (transmissions key (entriesSince origin expired)).length = retries.toNat + 1
      ∧ now + ((List.range (retries.toNat + 1)).map (last.endpoint.attemptWait key.1)).sum
        ≤ time := by
  have hopened : Reachable timeout retries acceptedApdu opened :=
    Machine.Reachable.next hreachable hopen
  have hissued := (not_issued_of_command hopen hchannel).2
  obtain ⟨kept, hkept, hexhausted, hpassed, hunsent⟩ :=
    told_waiting hopened hissued hfirst hrun hexpire htold
  obtain ⟨hbefore, hafter⟩ := Machine.throughout_append.mp hunanswered
  have hlast := (hafter last hrun).1
  have hopens := step_opens hreachable hopen hchannel hfirst
  obtain ⟨hframe, hsent⟩ := hopens.whole hwhole
  have hretries : opened.endpoint.retries = retries :=
    congrArg (fun settings => settings.2.1) hopened.settings_eq
  have hstart : first.retriesRemaining = opened.endpoint.retries :=
    hopens.retries_eq.trans (congrArg (fun settings => settings.2.1) (step_settings hopen)).symm
  have hwaited := run_waits hlast hkept hissued hfirst ⟨hwhole, hframe⟩
    (UInt8.le_of_eq hstart) hbefore hrun
  have hcount : (waits key response opened events).length = retries.toNat := by
    have hused := hwaited.retries_eq
    rw [hexhausted, hstart, hretries] at hused
    exact (hused.trans (Nat.zero_add _)).symm
  have hsame : last.endpoint.attemptWait key.1 = opened.endpoint.attemptWait key.1 := by
    have hreached : Reachable timeout retries acceptedApdu last :=
      Machine.Reachable.run_to hopened hrun
    exact Endpoint.attemptWait_congr hlast.1
      (hreached.settings_eq.trans hopened.settings_eq.symm)
  -- The initial wait, then those of the run.
  have hdeadline := first_wait htimeout hreachable hopen hchannel hfirst
  have hbegun : waitsBegun key response origin opened
      = [opened.endpoint.attemptWait key.1 0] := by
    have hwait : first.deadline - now = opened.endpoint.attemptWait key.1 0 := by
      rw [hdeadline]
      exact Nat.add_sub_cancel_left _ _
    rw [waitsBegun, hfirst, hsent, ← hwait]
    rfl
  have hall : waits key response origin (.command now sendTo command :: events)
      = (List.range (retries.toNat + 1)).map (last.endpoint.attemptWait key.1) := by
    rw [waits_cons hopen, hbegun, hwaited.waits_eq, hcount, hstart, hretries, Nat.sub_self, hsame,
      List.range_eq_range', List.range'_succ, List.map_cons]
    rfl
  refine ⟨hall, ?_, ?_⟩
  · rw [entriesSince_append (step_trace hopen) ((run_trace hrun).trans (step_trace hexpire)),
      entriesSince_append (run_trace hrun) (step_trace hexpire), transmissions_append,
      transmissions_append, hsent, hunsent, List.append_nil, List.length_append,
      hwaited.times_eq, hcount]
    exact Nat.add_comm _ _
  · rw [← hall, waits_cons hopen, hbegun, List.singleton_append, List.sum_cons, ← Nat.add_assoc,
      ← hdeadline]
    exact Nat.le_trans hwaited.deadline_le hpassed

/-- **The waits add up.**  A request that goes out whole, gets no part of an answer and
times out has been sent once more than there are retries.  What it waited after each
never got shorter, was never above four times the configured timeout, and makes up the
budget its id is then held back for, by the additions the budget itself is made of; by
plain ones too, unless the request has outlived every duration there is.  And the bounds
a derived timeout is kept in are in order. -/
theorem waits_add_up {timeout : Duration} {retries : UInt8} {acceptedApdu : MaxApduSize}
    {origin opened last expired : World} (htimeout : timeout ≤ Duration.max)
    (hreachable : Reachable timeout retries acceptedApdu origin) {now : Instant}
    {sendTo : SocketAddr → Bytes → Option IoError} {command : Endpoint.EndpointCommand}
    (hopen : step origin (.command now sendTo command) = some opened) {key : TransactionKey}
    {response : Channel} (hchannel : response ∈ command.channels) {first : PendingTransaction}
    (hfirst : opened.waiting key response = some first) (hwhole : first.outbound = none)
    {events : List Event} (hrun : Machine.run step opened events = some last)
    {passedAt : Instant} {sendLater : SocketAddr → Bytes → Option IoError}
    {visits : List (TransactionKey × Instant)}
    (hexpire : step last (.timeouts passedAt sendLater visits) = some expired)
    (hunanswered : Machine.Throughout step
      (fun world _ => Unanswered key response (opened.endpoint.rtt.lookup key.1) world) opened
      (events ++ [.timeouts passedAt sendLater visits]))
    {time : Instant}
    (htold : ⟨time, .answered response (.error .timeout)⟩ ∈ entriesSince last expired) :
    (∃ waited, waits key response origin (.command now sendTo command :: events) = waited
        ∧ waited.length = retries.toNat + 1
        ∧ (transmissions key (entriesSince origin expired)).length = retries.toNat + 1
        ∧ waited.Pairwise (· ≤ ·)
        ∧ (∀ wait ∈ waited, wait ≤ 4 * timeout)
        ∧ waited.foldl Duration.saturatingAdd 0 = last.endpoint.transactionBudget key.1
        ∧ now + waited.sum ≤ time
        ∧ (time - now ≤ Duration.max →
          waited.sum = last.endpoint.transactionBudget key.1))
      ∧ ∀ (endpoint : Endpoint) (peer : SocketAddr) (rtt : Rtt),
        endpoint.rtt.lookup peer = some rtt →
          clamp rtt.timeout (min minTimeout endpoint.ceiling) endpoint.ceiling
            = some (endpoint.rto peer) := by
  refine ⟨⟨_, rfl, ?_⟩, fun endpoint peer rtt hrtt => endpoint.clamp_rto peer hrtt⟩
  obtain ⟨hall, hsent, htime⟩ := waits_in_order htimeout hreachable hopen hchannel hfirst hwhole
    hrun hexpire hunanswered htold
  -- The timeout and the retries are those the endpoint was started with.
  have hsettings : last.endpoint.settings = (timeout, retries, acceptedApdu) :=
    Reachable.settings_eq (Machine.Reachable.run_to (Machine.Reachable.next hreachable hopen) hrun)
  have hconfigured : last.endpoint.timeout = timeout := congrArg Prod.fst hsettings
  have hretries : last.endpoint.retries = retries :=
    congrArg (fun settings => settings.2.1) hsettings
  rw [hall]
  -- How many waits, how many transmissions, in which order, within which bound, to which sum.
  refine ⟨?_, hsent, ?_, ?_, ?_, htime, ?_⟩
  · rw [List.length_map, List.length_range]
  · exact List.pairwise_map.mpr (List.pairwise_lt_range.imp
      (fun hlt => last.endpoint.attemptWait_mono key.1 (Nat.le_of_lt hlt)))
  · intro wait hwait
    obtain ⟨sent, _, rfl⟩ := List.mem_map.mp hwait
    rw [← hconfigured]
    exact last.endpoint.attemptWait_le key.1 sent
  · rw [Endpoint.transactionBudget, hretries]
  -- Nothing saturated on the way: the plain sum is below the longest Duration.
  · intro hshort
    rw [last.endpoint.transactionBudget_eq key.1, hretries]
    exact (Nat.min_eq_left (Nat.le_trans (Nat.le_sub_of_add_le' htime) hshort)).symm

/-- An endpoint that waits 1000 ns and retries once: a request opened at 0 goes out again at
1000 and times out at 3000, which is its budget. -/
theorem waits_add_up_once :
    ∃ waited, waited.length = 2 ∧ waited.Pairwise (· ≤ ·) ∧ (∀ wait ∈ waited, wait ≤ 4000)
      ∧ waited.sum = 3000
      ∧ waits requestKey 0 (start 1000 1 .up1476)
        [oneOctet 0 takesAll 0, .timeouts 1000 takesAll [(requestKey, 1000)]] = waited := by
  let origin := start 1000 1 .up1476
  let opened := origin.react (oneOctet 0 takesAll 0)
  let again : Event := .timeouts 1000 takesAll [(requestKey, 1000)]
  let last := opened.react again
  let passed : Event := .timeouts 3000 takesAll [(requestKey, 3000)]
  have hreachable : Reachable 1000 1 .up1476 origin := ⟨[], rfl⟩
  have hopen : step origin (oneOctet 0 takesAll 0) = some opened :=
    step_eq_some.mpr ⟨by decide +kernel, rfl⟩
  have hrun : Machine.run step opened [again] = some last :=
    Machine.run_cons_eq_some.mpr ⟨last, step_eq_some.mpr ⟨by decide +kernel, rfl⟩, rfl⟩
  have hexpire : step last passed = some (last.react passed) :=
    step_eq_some.mpr ⟨by decide +kernel, rfl⟩
  have hisWaiting : (opened.waiting requestKey 0).isSome = true := by decide +kernel
  obtain ⟨first, hfirst⟩ := Option.isSome_iff_exists.mp hisWaiting
  have hwhole : (opened.waiting requestKey 0).map (·.outbound) = some none := by decide +kernel
  rw [hfirst, Option.map_some, Option.some.injEq] at hwhole
  have hunanswered : Machine.Throughout step
      (fun world _ => Unanswered requestKey 0 (opened.endpoint.rtt.lookup requestKey.1) world)
      opened ([again] ++ [passed]) := by
    decide +kernel
  have htold : (3000, 0) ∈ (entriesSince last (last.react passed)).filterMap timeoutTold := by
    decide +kernel
  have hbudget : last.endpoint.transactionBudget requestKey.1 = 3000 := by decide +kernel
  obtain ⟨waited, hwaits, hlength, _, hpairwise, hle, _, _, hsum⟩ :=
    (waits_add_up (by decide) hreachable hopen List.mem_cons_self hfirst hwhole hrun hexpire
      hunanswered (mem_of_timeoutTold htold)).1
  exact ⟨waited, hlength, hpairwise, hle, (hsum (by decide)).trans hbudget, hwaits⟩

end World

end BacnetRs.Client
