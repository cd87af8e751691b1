/-
  BacnetRs.Cov.Subscriptions — the device's COV subscription table
  (`cov/mod.rs`).

  A subscription is identified by who asked, for which object or property, and
  where from.  The table holds at most one for each identity, under that
  identity, which is a field of the structure here.  A subscription with an
  expiry lapses when the clock reaches it, and stays in the table, lapsed,
  until the next `expire`.

  Seconds are natural numbers: nothing here overflows a `u64` before the clock
  itself does.
-/
import BacnetRs.Library.KeyedTable
import BacnetRs.Property.Value
import BacnetRs.Network.Host

namespace BacnetRs.Cov

open BacnetRs.Encoding BacnetRs.Object BacnetRs.Network

/-! ## §1. Subscriptions -/

/-- What identifies a subscription. -/
structure SubscriptionKey where
  processIdentifier : UInt32
  monitoredObject : ObjectIdentifier
  /-- A single property to watch; `none` means the standard set. -/
  monitoredProperty : Option PropertyIdentifier
  address : SocketAddr
  deriving Repr, DecidableEq

/-- One COV subscription. -/
structure Subscription where
  key : SubscriptionKey
  confirmed : Bool
  /-- Engine time in seconds when this expires; `none` never expires. -/
  expiresAt : Option Nat
  /-- Overrides the object's own COV_Increment. -/
  covIncrement : Option F32
  deriving Repr, DecidableEq

namespace Subscription

/-- `time_remaining`: a subscription that never expires reports 0. -/
def timeRemaining (subscription : Subscription) (now : Nat) : UInt32 :=
  match subscription.expiresAt with
  | some expiry => UInt32.ofNat (min (expiry - now) 4294967295)
  | none => 0

/-- Whether a subscription has yet to lapse. -/
def live (now : Nat) (subscription : Subscription) : Bool :=
  subscription.expiresAt.all (fun expiry => decide (now < expiry))

/-- Whether a subscription watches `object` and has yet to lapse. -/
def liveOn (now : Nat) (object : ObjectIdentifier) (subscription : Subscription) : Bool :=
  subscription.live now && decide (subscription.key.monitoredObject = object)

/-- What is live later was live before. -/
theorem live_of_le {now later : Nat} (hle : now ≤ later) {subscription : Subscription}
    (h : subscription.live later = true) : subscription.live now = true := by
  unfold live at *
  cases hexpiry : subscription.expiresAt with
  | none => rfl
  | some expiry =>
      rw [hexpiry] at h
      have hlater : later < expiry := of_decide_eq_true h
      exact decide_eq_true (by omega)

theorem liveOn_of_le {now later : Nat} (hle : now ≤ later) {object : ObjectIdentifier}
    {subscription : Subscription} (h : subscription.liveOn later object = true) :
    subscription.liveOn now object = true := by
  obtain ⟨hlive, hobject⟩ := Bool.and_eq_true_iff.mp h
  exact Bool.and_eq_true_iff.mpr ⟨live_of_le hle hlive, hobject⟩

end Subscription

/-- How many subscriptions a device has room for; `none` is unlimited. -/
structure CovLimits where
  total : Option Nat
  perObject : Option Nat
  deriving Repr, DecidableEq

/-- A subscription refused because the table is full. -/
inductive TableFull where
  | tableFull
  deriving Repr, DecidableEq

/-! ## §2. The table -/

/-- The subscription table, its limits and its clock. -/
structure CovSubscriptions where
  subscriptions : KeyedTable SubscriptionKey Subscription
  limits : CovLimits
  /-- The engine's clock, in seconds. -/
  now : Nat
  /-- Every subscription is held under its own key. -/
  keyed : ∀ key held, subscriptions.lookup key = some held → held.key = key

namespace CovSubscriptions

/-- An empty table of the given limits. -/
def empty (limits : CovLimits) : CovSubscriptions where
  subscriptions := ∅
  limits := limits
  now := 0
  keyed := fun _ _ h => by cases h

/-- `set_now`. -/
def setNow (table : CovSubscriptions) (seconds : Nat) : CovSubscriptions :=
  { table with now := seconds }

/-- `set_limits`. -/
def setLimits (table : CovSubscriptions) (limits : CovLimits) : CovSubscriptions :=
  { table with limits := limits }

/-- `expiry_for`: a lifetime of zero is "until cancelled". -/
def expiryFor (table : CovSubscriptions) (lifetime : Option UInt32) : Option Nat :=
  match lifetime with
  | none => none
  | some seconds => if seconds = 0 then none else some (table.now + seconds.toNat)

/-- How many held subscriptions have yet to lapse. -/
def liveCount (table : CovSubscriptions) : Nat :=
  KeyedTable.count (fun _ held => held.live table.now) table.subscriptions

/-- How many of them watch `object`. -/
def liveCountOn (table : CovSubscriptions) (object : ObjectIdentifier) : Nat :=
  KeyedTable.count (fun _ held => held.liveOn table.now object) table.subscriptions

/-- `full`, the closure of `subscribe`. -/
def full (limit : Option Nat) (held : Nat) : Bool := limit.any (fun limit => decide (limit ≤ held))

/-- Whether either limit leaves no room for one more on `object`. -/
def noRoom (table : CovSubscriptions) (object : ObjectIdentifier) : Bool :=
  full table.limits.total table.liveCount || full table.limits.perObject (table.liveCountOn object)

/-- Hold a subscription under its key, in place of what was there. -/
def insert (table : CovSubscriptions) (subscription : Subscription) : CovSubscriptions where
  subscriptions := table.subscriptions.insert subscription.key subscription
  limits := table.limits
  now := table.now
  keyed := by
    intro key held h
    rw [KeyedTable.lookup_insert_eq_ite] at h
    split at h
    next heq =>
      rw [← Option.some.inj h]
      exact heq.symm
    · exact table.keyed key held h

/-- `subscribe`: add a subscription, or renew one that is held. -/
def subscribe (table : CovSubscriptions) (subscription : Subscription) :
    Except TableFull CovSubscriptions :=
  match table.subscriptions.lookup subscription.key with
  | some _ => .ok (table.insert subscription)
  | none =>
      if table.noRoom subscription.key.monitoredObject then .error .tableFull
      else .ok (table.insert subscription)

/-- `cancel`; the boolean says whether one was there. -/
def cancel (table : CovSubscriptions) (key : SubscriptionKey) : CovSubscriptions × Bool :=
  ({ table with
      subscriptions := table.subscriptions.erase key
      keyed := by
        intro other held h
        rw [KeyedTable.lookup_erase_eq_ite] at h
        split at h
        · cases h
        · exact table.keyed other held h },
    (table.subscriptions.lookup key).isSome)

/-- `expire`: drop everything that has expired at `now`, whatever the table's clock says. -/
def expire (table : CovSubscriptions) (now : Nat) : CovSubscriptions where
  subscriptions := KeyedTable.retain (fun _ held => held.live now) table.subscriptions
  limits := table.limits
  now := table.now
  keyed := by
    intro key held h
    exact table.keyed key held ((KeyedTable.lookup_retain_eq_some _ _ _ _).mp h).1

/-- How many `expire` drops. -/
def expired (table : CovSubscriptions) (now : Nat) : Nat :=
  table.subscriptions.entries.length - (table.expire now).subscriptions.entries.length

/-- `all`, in the table's order. -/
def all (table : CovSubscriptions) : List Subscription := KeyedTable.values table.subscriptions

/-- `len`. -/
def len (table : CovSubscriptions) : Nat := table.subscriptions.entries.length

/-! ## §3. What each operation holds -/

/-- The subscription held under a key. -/
def held (table : CovSubscriptions) (key : SubscriptionKey) : Option Subscription :=
  table.subscriptions.lookup key

theorem held_insert (table : CovSubscriptions) (subscription : Subscription)
    (key : SubscriptionKey) :
    (table.insert subscription).held key
      = if key = subscription.key then some subscription else table.held key :=
  KeyedTable.lookup_insert_eq_ite table.subscriptions subscription.key key subscription

theorem held_cancel (table : CovSubscriptions) (key other : SubscriptionKey) :
    (table.cancel key).1.held other = if other = key then none else table.held other :=
  KeyedTable.lookup_erase_eq_ite table.subscriptions key other

theorem held_expire_eq_some {table : CovSubscriptions} {now : Nat} {key : SubscriptionKey}
    {subscription : Subscription} :
    (table.expire now).held key = some subscription
      ↔ table.held key = some subscription ∧ subscription.live now = true :=
  KeyedTable.lookup_retain_eq_some _ table.subscriptions key subscription

/-- The one thing `subscribe` does, when it does anything. -/
theorem subscribe_eq_ok {table table' : CovSubscriptions} {subscription : Subscription} :
    table.subscribe subscription = .ok table'
      ↔ (table.held subscription.key = none →
          table.noRoom subscription.key.monitoredObject = false)
        ∧ table' = table.insert subscription := by
  have hok : (Except.ok (table.insert subscription) : Except TableFull _) = .ok table'
      ↔ table' = table.insert subscription :=
    ⟨fun h => (Except.ok.inj h).symm, fun h => congrArg Except.ok h.symm⟩
  unfold subscribe held
  cases table.subscriptions.lookup subscription.key with
  | some _ =>
      rw [hok]
      exact ⟨fun h => ⟨fun hnone => (by cases hnone), h⟩, And.right⟩
  | none =>
      cases hroom : table.noRoom subscription.key.monitoredObject with
      | true => exact ⟨fun h => (by cases h), fun h => absurd (h.1 rfl) (by simp)⟩
      | false =>
          rw [if_neg Bool.false_ne_true, hok]
          exact ⟨fun h => ⟨fun _ => rfl, h⟩, And.right⟩

/-- The keys of what is held are distinct. -/
theorem all_keys_nodup (table : CovSubscriptions) :
    (table.all.map Subscription.key).Nodup := by
  have hkeys : table.all.map Subscription.key = table.subscriptions.keys := by
    show (table.subscriptions.entries.map (fun entry => entry.2)).map Subscription.key
      = table.subscriptions.entries.map Sigma.fst
    rw [List.map_map]
    refine List.map_congr_left ?_
    intro entry hentry
    exact table.keyed entry.1 entry.2
      ((KeyedTable.lookup_eq_some_iff table.subscriptions entry.1 entry.2).mpr hentry)
  rw [hkeys]
  exact table.subscriptions.keys_nodup

theorem mem_all_iff {table : CovSubscriptions} {subscription : Subscription} :
    subscription ∈ table.all ↔ table.held subscription.key = some subscription := by
  constructor
  · intro hmem
    obtain ⟨⟨key, held⟩, hentry, rfl⟩ := List.mem_map.mp hmem
    have hlookup := (KeyedTable.lookup_eq_some_iff table.subscriptions key held).mpr hentry
    have hkey : held.key = key := table.keyed key held hlookup
    show table.subscriptions.lookup held.key = some held
    rw [hkey]
    exact hlookup
  · intro hheld
    exact List.mem_map.mpr ⟨_,
      (KeyedTable.lookup_eq_some_iff table.subscriptions _ subscription).mp hheld, rfl⟩

/-- The keys listed are the keys something is held under. -/
theorem mem_keys_iff {table : CovSubscriptions} {key : SubscriptionKey} :
    key ∈ table.all.map Subscription.key ↔ ∃ subscription, table.held key = some subscription := by
  constructor
  · intro hmem
    obtain ⟨subscription, hall, rfl⟩ := List.mem_map.mp hmem
    exact ⟨subscription, mem_all_iff.mp hall⟩
  · rintro ⟨subscription, hheld⟩
    have hkey : subscription.key = key := table.keyed key subscription hheld
    subst hkey
    exact List.mem_map_of_mem (mem_all_iff.mpr hheld)

end CovSubscriptions

end BacnetRs.Cov
