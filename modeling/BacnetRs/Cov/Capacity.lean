/-
  BacnetRs.Cov.Capacity — how full the subscription table gets.

  The limits bound the subscriptions that have yet to lapse, over the whole
  device and on each monitored object.  A newcomer is counted against them.  A
  renewal is not: it replaces an entry, and a live entry makes room for its own
  renewal.  A lapsed entry does not, and its renewal is not counted either.

    * `insert_within_iff`     — taking in a live subscription that replaces
                                nothing live keeps the limits exactly when
                                there is room.
    * `within_limits_iff`     — a run keeps the limits exactly when no lapsed
                                subscription is renewed into a full table.
    * `renewed_past_limit`    — a run that does not.
-/
import BacnetRs.Cov.Subscriptions
import BacnetRs.Library.Machine

namespace BacnetRs.Cov

open BacnetRs.Object BacnetRs.Network

/-! ## §1. Scopes -/

/-- What a limit is about: the whole device, or one monitored object. -/
inductive Scope where
  | device
  | object (monitored : ObjectIdentifier)

namespace Scope

/-- The limit on a scope. -/
def limit (limits : CovLimits) : Scope → Option Nat
  | .device => limits.total
  | .object _ => limits.perObject

/-- Whether a subscription counts against a scope's limit. -/
def covers (now : Nat) (subscription : Subscription) : Scope → Bool
  | .device => subscription.live now
  | .object monitored => subscription.liveOn now monitored

/-- How many held subscriptions count against a scope's limit. -/
def count (table : CovSubscriptions) : Scope → Nat
  | .device => table.liveCount
  | .object monitored => table.liveCountOn monitored

theorem count_eq (table : CovSubscriptions) (scope : Scope) :
    scope.count table
      = KeyedTable.count (fun _ held => scope.covers table.now held) table.subscriptions := by
  cases scope <;> rfl

/-- A lapsed subscription counts against nothing. -/
theorem covers_of_lapsed {now : Nat} {subscription : Subscription}
    (h : subscription.live now = false) (scope : Scope) :
    scope.covers now subscription = false := by
  cases scope with
  | device => exact h
  | object monitored => exact Bool.and_eq_false_iff.mpr (Or.inl h)

/-- Live subscriptions under one key count against the same scopes. -/
theorem covers_of_same_key {now : Nat} {held subscription : Subscription}
    (hkey : held.key = subscription.key) (hlive : held.live now = true) {scope : Scope}
    (h : scope.covers now subscription = true) : scope.covers now held = true := by
  cases scope with
  | device => exact hlive
  | object monitored =>
      have hobject := (Bool.and_eq_true_iff.mp h).2
      refine Bool.and_eq_true_iff.mpr ⟨hlive, ?_⟩
      rw [hkey]
      exact hobject

theorem covers_antitone {now later : Nat} (hle : now ≤ later) {subscription : Subscription}
    {scope : Scope} (h : scope.covers later subscription = true) :
    scope.covers now subscription = true := by
  cases scope with
  | device => exact Subscription.live_of_le hle h
  | object monitored => exact Subscription.liveOn_of_le hle h

end Scope

namespace CovSubscriptions

/-- The limits are kept. -/
def Within (table : CovSubscriptions) : Prop :=
  ∀ (scope : Scope) (limit : Nat), scope.limit table.limits = some limit → scope.count table ≤ limit

theorem empty_within (limits : CovLimits) : (empty limits).Within := by
  intro scope limit _
  cases scope <;> exact Nat.zero_le limit

/-- Fewer subscriptions under the same limits are within them. -/
theorem Within.of_count_le {table table' : CovSubscriptions} (h : table.Within)
    (hlimits : table'.limits = table.limits)
    (hcount : ∀ scope : Scope, scope.count table' ≤ scope.count table) : table'.Within := by
  intro scope limit hlimit
  rw [hlimits] at hlimit
  exact Nat.le_trans (hcount scope) (h scope limit hlimit)

/-! ## §2. Counting through each operation -/

/-- What the entry at `key` counts against a scope's limit: one or nothing. -/
def share (table : CovSubscriptions) (scope : Scope) (key : SubscriptionKey) : Nat :=
  match table.held key with
  | some held => if scope.covers table.now held then 1 else 0
  | none => 0

theorem count_insert (table : CovSubscriptions) (subscription : Subscription) (scope : Scope) :
    scope.count (table.insert subscription) + table.share scope subscription.key
      = scope.count table + if scope.covers table.now subscription then 1 else 0 := by
  rw [Scope.count_eq, Scope.count_eq]
  unfold share held
  show KeyedTable.count (fun _ held => scope.covers table.now held)
      (table.subscriptions.insert subscription.key subscription) + _ = _
  cases hheld : table.subscriptions.lookup subscription.key with
  | none =>
      show _ + 0 = _
      rw [Nat.add_zero]
      exact KeyedTable.count_insert_of_lookup_none _ _ _ _ hheld
  | some held => exact KeyedTable.count_insert_of_lookup_some _ _ _ _ _ hheld

theorem count_cancel_le (table : CovSubscriptions) (key : SubscriptionKey) (scope : Scope) :
    scope.count (table.cancel key).1 ≤ scope.count table := by
  rw [Scope.count_eq, Scope.count_eq]
  exact KeyedTable.count_erase_le _ table.subscriptions key

theorem count_expire_le (table : CovSubscriptions) (now : Nat) (scope : Scope) :
    scope.count (table.expire now) ≤ scope.count table := by
  rw [Scope.count_eq, Scope.count_eq]
  exact KeyedTable.count_retain_le (fun _ held => scope.covers table.now held) _
    table.subscriptions

theorem count_setNow_le {table : CovSubscriptions} {seconds : Nat} (hle : table.now ≤ seconds)
    (scope : Scope) : scope.count (table.setNow seconds) ≤ scope.count table := by
  rw [Scope.count_eq, Scope.count_eq]
  exact KeyedTable.count_mono (fun _ _ => Scope.covers_antitone hle) table.subscriptions

/-! ## §3. Room -/

theorem full_eq_false {limit : Option Nat} {held : Nat} :
    full limit held = false ↔ ∀ bound, limit = some bound → held < bound := by
  cases limit with
  | none => exact ⟨fun _ _ h => (by cases h), fun _ => rfl⟩
  | some bound =>
      show decide (bound ≤ held) = false ↔ _
      rw [decide_eq_false_iff_not, Nat.not_le]
      refine ⟨fun h other heq => ?_, fun h => h bound rfl⟩
      rw [← Option.some.inj heq]
      exact h

/-- There is room for a live subscription when no scope it counts against is full. -/
theorem noRoom_eq_false {table : CovSubscriptions} {subscription : Subscription}
    (hlive : subscription.live table.now = true) :
    table.noRoom subscription.key.monitoredObject = false
      ↔ ∀ (scope : Scope) (limit : Nat), scope.covers table.now subscription = true →
        scope.limit table.limits = some limit → scope.count table < limit := by
  unfold noRoom
  rw [Bool.or_eq_false_iff, full_eq_false, full_eq_false]
  constructor
  · intro hroom scope limit hcovers hlimit
    cases scope with
    | device => exact hroom.1 limit hlimit
    | object monitored =>
        have hobject : subscription.key.monitoredObject = monitored :=
          of_decide_eq_true (Bool.and_eq_true_iff.mp hcovers).2
        rw [hobject] at hroom
        exact hroom.2 limit hlimit
  · intro h
    refine ⟨fun limit hlimit => h .device limit hlive hlimit, fun limit hlimit => ?_⟩
    exact h (.object subscription.key.monitoredObject) limit
      (Bool.and_eq_true_iff.mpr ⟨hlive, decide_eq_true rfl⟩) hlimit

/-- **Room is exactly what keeps the limits.**  A live subscription that replaces
nothing live is taken within the limits if and only if there is room for it. -/
theorem insert_within_iff {table : CovSubscriptions} (hwithin : table.Within)
    {subscription : Subscription} (hlive : subscription.live table.now = true)
    (hshare : ∀ scope : Scope, table.share scope subscription.key = 0) :
    (table.insert subscription).Within
      ↔ table.noRoom subscription.key.monitoredObject = false := by
  rw [noRoom_eq_false hlive]
  constructor
  · intro h scope limit hcovers hlimit
    have hcount := count_insert table subscription scope
    rw [hshare scope, hcovers, if_pos rfl] at hcount
    have hle := h scope limit hlimit
    omega
  · intro hroom scope limit hlimit
    have hcount := count_insert table subscription scope
    rw [hshare scope] at hcount
    cases hcovers : scope.covers table.now subscription with
    | true =>
        have hlt := hroom scope limit hcovers hlimit
        rw [hcovers, if_pos rfl] at hcount
        omega
    | false =>
        have hle := hwithin scope limit hlimit
        rw [hcovers, if_neg Bool.false_ne_true] at hcount
        omega

/-- A subscription that counts no more than what it replaces is taken within the
limits. -/
theorem insert_within_of_share {table : CovSubscriptions} (hwithin : table.Within)
    {subscription : Subscription}
    (hshare : ∀ scope : Scope, scope.covers table.now subscription = true →
      table.share scope subscription.key = 1) :
    (table.insert subscription).Within := by
  refine hwithin.of_count_le rfl ?_
  intro scope
  have hcount := count_insert table subscription scope
  cases hcovers : scope.covers table.now subscription with
  | true =>
      rw [hshare scope hcovers, hcovers, if_pos rfl] at hcount
      omega
  | false =>
      rw [hcovers, if_neg Bool.false_ne_true] at hcount
      omega

/-! ## §4. Runs -/

/-- What is done to a table. -/
inductive TableEvent where
  | subscribe (subscription : Subscription)
  | cancel (key : SubscriptionKey)
  | expire (now : Nat)
  | setNow (seconds : Nat)

/-- One operation; the clock does not go back. -/
def step (table : CovSubscriptions) : TableEvent → Option CovSubscriptions
  | .subscribe subscription =>
      match table.subscribe subscription with
      | .ok table' => some table'
      | .error _ => some table
  | .cancel key => some (table.cancel key).1
  | .expire now => some (table.expire now)
  | .setNow seconds => if table.now ≤ seconds then some (table.setNow seconds) else none

/-- The operation leaves the limits kept. -/
def KeepsWithin (table : CovSubscriptions) (event : TableEvent) : Prop :=
  ∀ table', step table event = some table' → table'.Within

/-- A renewal that brings a lapsed subscription back to life finds room for it. -/
def RevivesWithRoom (table : CovSubscriptions) : TableEvent → Prop
  | .subscribe subscription =>
      (table.held subscription.key).any (fun held => !held.live table.now) = true →
        subscription.live table.now = true →
        table.noRoom subscription.key.monitoredObject = false
  | .cancel _ => True
  | .expire _ => True
  | .setNow _ => True

/-- A lapsed subscription is taken within the limits. -/
theorem insert_lapsed_within {table : CovSubscriptions} (hwithin : table.Within)
    {subscription : Subscription} (hlapsed : subscription.live table.now = false) :
    (table.insert subscription).Within := by
  refine insert_within_of_share hwithin ?_
  intro scope hcovers
  rw [Scope.covers_of_lapsed hlapsed scope] at hcovers
  cases hcovers

/-- A newcomer is taken within the limits, or not at all. -/
theorem newcomer_within {table table' : CovSubscriptions} (hwithin : table.Within)
    {subscription : Subscription} (hheld : table.held subscription.key = none)
    (hstep : step table (.subscribe subscription) = some table') : table'.Within := by
  have hshare : ∀ scope : Scope, table.share scope subscription.key = 0 := by
    intro scope
    unfold share
    rw [hheld]
  unfold step at hstep
  cases hsubscribe : table.subscribe subscription with
  | error refused =>
      simp only [hsubscribe] at hstep
      rw [← Option.some.inj hstep]
      exact hwithin
  | ok taken =>
      simp only [hsubscribe] at hstep
      rw [← Option.some.inj hstep]
      obtain ⟨hroom, rfl⟩ := subscribe_eq_ok.mp hsubscribe
      cases hlive : subscription.live table.now with
      | false => exact insert_lapsed_within hwithin hlive
      | true => exact (insert_within_iff hwithin hlive hshare).mpr (hroom hheld)

/-- **What a renewal does to the limits.**  A renewal of what is held, lapsed or not,
keeps the limits exactly when it does not revive a lapsed subscription without room. -/
theorem renewal_within_iff {table : CovSubscriptions} (hwithin : table.Within)
    {subscription held : Subscription} (hheld : table.held subscription.key = some held) :
    (table.insert subscription).Within
      ↔ (held.live table.now = false → subscription.live table.now = true →
          table.noRoom subscription.key.monitoredObject = false) := by
  have hkey : held.key = subscription.key := table.keyed _ _ hheld
  cases hold : held.live table.now with
  | true =>
      refine ⟨fun _ h => (by cases h), fun _ => insert_within_of_share hwithin ?_⟩
      intro scope hcovers
      unfold share
      rw [hheld]
      exact if_pos (Scope.covers_of_same_key hkey hold hcovers)
  | false =>
      have hshare : ∀ scope : Scope, table.share scope subscription.key = 0 := by
        intro scope
        unfold share
        rw [hheld]
        exact if_neg (by rw [Scope.covers_of_lapsed hold scope]; exact Bool.false_ne_true)
      cases hlive : subscription.live table.now with
      | false => exact ⟨fun _ _ h => (by cases h), fun _ => insert_lapsed_within hwithin hlive⟩
      | true =>
          rw [insert_within_iff hwithin hlive hshare]
          exact ⟨fun h _ _ => h, fun h => h rfl rfl⟩

/-- One operation keeps the limits exactly when it revives nothing without room. -/
theorem revivesWithRoom_iff {table : CovSubscriptions} (hwithin : table.Within)
    (event : TableEvent) : table.RevivesWithRoom event ↔ table.KeepsWithin event := by
  cases event with
  | cancel key =>
      refine ⟨fun _ table' hstep => ?_, fun _ => trivial⟩
      rw [← Option.some.inj hstep]
      exact hwithin.of_count_le rfl (count_cancel_le table key)
  | expire now =>
      refine ⟨fun _ table' hstep => ?_, fun _ => trivial⟩
      rw [← Option.some.inj hstep]
      exact hwithin.of_count_le rfl (count_expire_le table now)
  | setNow seconds =>
      refine ⟨fun _ table' hstep => ?_, fun _ => trivial⟩
      obtain ⟨hle, heq⟩ := Option.ite_none_right_eq_some.mp hstep
      rw [← Option.some.inj heq]
      exact hwithin.of_count_le rfl (count_setNow_le hle)
  -- Only a subscription can add to the count, and only a revived one without being refused.
  | subscribe subscription =>
      show ((table.held subscription.key).any (fun held => !held.live table.now) = true →
        subscription.live table.now = true →
        table.noRoom subscription.key.monitoredObject = false) ↔ _
      cases hheld : table.held subscription.key with
      | none =>
          refine ⟨fun _ _ hstep => newcomer_within hwithin hheld hstep, fun _ hrevived => ?_⟩
          rw [Option.any_none] at hrevived
          cases hrevived
      | some held =>
          have hsubscribe : table.subscribe subscription = .ok (table.insert subscription) :=
            subscribe_eq_ok.mpr ⟨fun hnone => (by rw [hheld] at hnone; cases hnone), rfl⟩
          have hkeeps : table.KeepsWithin (.subscribe subscription)
              ↔ (table.insert subscription).Within := by
            unfold KeepsWithin step
            simp only [hsubscribe, Option.some.injEq, forall_eq']
          rw [hkeeps, renewal_within_iff hwithin hheld, Option.any_some, Bool.not_eq_true']

/-- **The limits hold along a run exactly when no lapsed subscription is revived into a
full table.**  Whatever is subscribed, cancelled, expired and however the clock moves
on, the live subscriptions stay within both limits through every step if and only if
every renewal of a lapsed subscription finds the room a newcomer would need. -/
theorem within_limits_iff (limits : CovLimits) (events : List TableEvent) :
    Machine.Throughout step RevivesWithRoom (empty limits) events
      ↔ Machine.Throughout step KeepsWithin (empty limits) events :=
  Machine.throughout_iff (P := Within) (fun _ event hwithin => revivesWithRoom_iff hwithin event)
    (fun _ _ table' hkeeps _ hstep => hkeeps table' hstep) (empty_within limits)

/-- A subscription of process `process` to analog value `instance`. -/
def subscriber (process instanceNumber : UInt32) (expiresAt : Option Nat) : Subscription where
  key := ⟨process, ⟨.analogValue, instanceNumber⟩, none, .v4 0 47808⟩
  confirmed := false
  expiresAt := expiresAt
  covIncrement := none

/-- **A renewal past the limit.**  In a table for one, the first subscription lapses at
10, a second takes its room, and the first is renewed: two are live. -/
theorem renewed_past_limit :
    (Machine.run step (empty ⟨some 1, none⟩)
        [.subscribe (subscriber 1 1 (some 10)), .setNow 10, .subscribe (subscriber 2 2 none),
          .subscribe (subscriber 1 1 none)]).map (fun table => (table.liveCount, table.limits.total))
      = some (2, some 1) := by
  decide +kernel

end CovSubscriptions

end BacnetRs.Cov
