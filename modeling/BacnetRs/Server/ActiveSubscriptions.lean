/-
  BacnetRs.Server.ActiveSubscriptions — a list that should not shuffle
  (`active_cov_subscriptions` in `server/object_service.rs`).

  The table of subscriptions hands them out in any order, and the list is
  sorted to hide it.  What it is sorted by leaves out the subscriber's address,
  and makes no difference between no property and the last there is: of two
  subscriptions that agree in the rest, either may come first.

    * `describes_apart`     — two subscriptions that tie are described apart.
    * `list_settled_iff`    — when the list depends on what is held alone.
    * `list_shuffles`       — two subscribers of one process identifier.
-/
import BacnetRs.Library.StableSort
import BacnetRs.Server.Reading

namespace BacnetRs.Server

open BacnetRs.Encoding BacnetRs.Object BacnetRs.Property BacnetRs.Service BacnetRs.Network
open BacnetRs.Cov

/-! ## §1. The order -/

/-- The order of the list. -/
def listedBefore (x y : Subscription) : Bool :=
  decide (subscriptionOrder x ≤ subscriptionOrder y)

theorem listedBefore_trans (x y z : Subscription) (hxy : listedBefore x y = true)
    (hyz : listedBefore y z = true) : listedBefore x z = true :=
  decide_eq_true (List.le_trans (of_decide_eq_true hxy) (of_decide_eq_true hyz))

theorem listedBefore_total (x y : Subscription) :
    (listedBefore x y || listedBefore y x) = true := by
  unfold listedBefore
  rw [Bool.or_eq_true, decide_eq_true_iff, decide_eq_true_iff]
  exact List.le_total _ _

/-- Two subscriptions tie when they agree in all that the list is sorted by. -/
theorem ties_iff {x y : Subscription} :
    listedBefore x y = true ∧ listedBefore y x = true
      ↔ subscriptionOrder x = subscriptionOrder y := by
  unfold listedBefore
  rw [decide_eq_true_iff, decide_eq_true_iff]
  constructor
  · intro h
    exact List.le_antisymm h.1 h.2
  · intro h
    rw [h]
    exact ⟨List.le_refl _, List.le_refl _⟩

/-! ## §2. What is described -/

/-- Octets that hold a number whole tell it. -/
theorem beOctets_injective {width m n : Nat} (hm : m < 256 ^ width) (hn : n < 256 ^ width)
    (h : Octets.beOctets width m = Octets.beOctets width n) : m = n := by
  have hnat := congrArg Octets.beNat h
  rwa [Octets.beNat_beOctets, Octets.beNat_beOctets, Nat.mod_eq_of_lt hm, Nat.mod_eq_of_lt hn]
    at hnat

/-- The address is described whole. -/
theorem macFromSocketAddress_injective {a b : SocketAddr} {mac : Bytes}
    (ha : macFromSocketAddress a = some mac) (hb : macFromSocketAddress b = some mac) : a = b := by
  cases a with
  | v6 ip port flowinfo scopeId => cases ha
  | v4 ip port =>
      cases b with
      | v6 ip' port' flowinfo scopeId => cases hb
      | v4 ip' port' =>
          have hmac := Option.some.inj (ha.trans hb.symm)
          obtain ⟨hip, hport⟩ := List.append_inj hmac (by
            rw [Octets.length_beOctets, Octets.length_beOctets])
          have hips : ip = ip' :=
            UInt32.toNat_inj.mp (beOctets_injective ip.toNat_lt ip'.toNat_lt hip)
          have hports : port = port' :=
            UInt16.toNat_inj.mp (beOctets_injective port.toNat_lt port'.toNat_lt hport)
          rw [hips, hports]

/-- **Two subscriptions that tie are described apart**, unless they have one key. -/
theorem describes_apart {now : Nat} {x y : Subscription}
    (hties : subscriptionOrder x = subscriptionOrder y)
    (hsome : (describeSubscription now x).isSome = true)
    (hsame : describeSubscription now x = describeSubscription now y) : x.key = y.key := by
  unfold describeSubscription at hsome hsame
  cases hx : macFromSocketAddress x.key.address with
  | none =>
      rw [hx] at hsome
      cases hsome
  | some mac =>
      cases hy : macFromSocketAddress y.key.address with
      | none =>
          rw [hx, hy] at hsame
          cases hsame
      | some mac' =>
          rw [hx, hy] at hsame
          simp only [Option.map_some, Option.some.injEq, PropertyValue.covSubscription.injEq,
            CovSubscriptionValue.mk.injEq, RecipientProcess.mk.injEq, Recipient.address.injEq,
            BacnetAddress.mk.injEq, ObjectPropertyReference.mk.injEq, true_and, and_true] at hsame
          obtain ⟨⟨hmac, hprocess⟩, ⟨hobject, hproperty⟩, _⟩ := hsame
          subst hmac
          have haddress := macFromSocketAddress_injective hx hy
          have hnumbered : x.key.monitoredProperty.elim 0 (fun property => property.value + 1)
              = y.key.monitoredProperty.elim 0 (fun property => property.value + 1) := by
            unfold subscriptionOrder at hties
            simp only [List.cons.injEq] at hties
            exact hties.2.2.2.1
          -- No property is described as the present value, which is numbered otherwise.
          have hmonitored : x.key.monitoredProperty = y.key.monitoredProperty := by
            cases hpx : x.key.monitoredProperty with
            | none =>
                cases hpy : y.key.monitoredProperty with
                | none => rfl
                | some property =>
                    rw [hpx, hpy] at hproperty hnumbered
                    simp only [Option.getD_none, Option.getD_some] at hproperty
                    rw [← hproperty] at hnumbered
                    exact absurd hnumbered (by decide)
            | some property =>
                cases hpy : y.key.monitoredProperty with
                | none =>
                    rw [hpx, hpy] at hproperty hnumbered
                    simp only [Option.getD_none, Option.getD_some] at hproperty
                    rw [hproperty] at hnumbered
                    exact absurd hnumbered (by decide)
                | some property' =>
                    rw [hpx, hpy] at hproperty
                    exact congrArg some hproperty
          have hkeys : ∀ k k' : SubscriptionKey, k.processIdentifier = k'.processIdentifier →
              k.monitoredObject = k'.monitoredObject →
              k.monitoredProperty = k'.monitoredProperty → k.address = k'.address → k = k' := by
            rintro ⟨_, _, _, _⟩ ⟨_, _, _, _⟩ rfl rfl rfl rfl
            rfl
          exact hkeys _ _ hprocess hobject hmonitored haddress

/-! ## §3. The list -/

/-- The table of what is held, handed out in a given order. -/
def enumerated (table : CovSubscriptions) (order : List Subscription)
    (h : order.Perm table.all) : CovSubscriptions where
  subscriptions := ⟨order.map (fun subscription => ⟨subscription.key, subscription⟩), by
    have hnodup := ((h.map Subscription.key).nodup_iff).mpr table.all_keys_nodup
    unfold List.NodupKeys List.keys
    rw [List.map_map]
    exact hnodup⟩
  limits := table.limits
  now := table.now
  keyed := by
    intro key held hlookup
    have hentry := (KeyedTable.lookup_eq_some_iff _ key held).mp hlookup
    obtain ⟨subscription, _, heq⟩ := List.mem_map.mp hentry
    cases heq
    rfl

theorem all_enumerated (table : CovSubscriptions) (order : List Subscription)
    (h : order.Perm table.all) : (enumerated table order h).all = order := by
  show (order.map (fun subscription => (⟨subscription.key, subscription⟩ :
    (_ : SubscriptionKey) × Subscription))).map (fun entry => entry.2) = order
  rw [List.map_map]
  exact List.map_id order

/-- Tables that hold the same hand it out in some order of one another. -/
theorem all_perm {table table' : CovSubscriptions}
    (h : ∀ key, table'.held key = table.held key) : table'.all.Perm table.all := by
  have hnodup : ∀ t : CovSubscriptions, t.all.Nodup := fun t => t.all_keys_nodup.of_map
  apply (List.perm_ext_iff_of_nodup (hnodup table') (hnodup table)).mpr
  intro subscription
  rw [CovSubscriptions.mem_all_iff, CovSubscriptions.mem_all_iff, h]

theorem held_of_perm {table table' : CovSubscriptions} (h : table'.all.Perm table.all)
    (key : SubscriptionKey) : table'.held key = table.held key := by
  apply Option.ext
  intro subscription
  have hmem : ∀ t : CovSubscriptions, t.held key = some subscription
      ↔ subscription ∈ t.all ∧ subscription.key = key := by
    intro t
    rw [CovSubscriptions.mem_all_iff]
    constructor
    · intro hheld
      have hkey := t.keyed key subscription hheld
      rw [hkey]
      exact ⟨hheld, rfl⟩
    · rintro ⟨hheld, rfl⟩
      exact hheld
  rw [hmem, hmem, h.mem_iff]

namespace ObjectService

/-- Two of the subscriptions held that are described are the same if they agree in process,
object and property. -/
def Settled (self : ObjectService) : Prop :=
  ∀ x y, self.subscriptions.held x.key = some x → self.subscriptions.held y.key = some y →
    (macFromSocketAddress x.key.address).isSome = true →
      (macFromSocketAddress y.key.address).isSome = true →
        subscriptionOrder x = subscriptionOrder y → x = y

/-- **The list is a function of what is held and the clock exactly when no two subscriptions
that are described tie**: agree in process identifier, object and property, where property
4294967295 counts as none. -/
theorem list_settled_iff (self : ObjectService) :
    (∀ other : ObjectService, other.subscriptions.now = self.subscriptions.now →
        (∀ key, other.subscriptions.held key = self.subscriptions.held key) →
        other.activeCovSubscriptions = self.activeCovSubscriptions)
      ↔ self.Settled := by
  have hdescribed : ∀ x : Subscription,
      (describeSubscription self.subscriptions.now x).isSome
        = (macFromSocketAddress x.key.address).isSome := by
    intro x
    unfold describeSubscription
    rw [Option.isSome_map]
  -- Two subscriptions that tie in the order and read alike are the same.
  have happart : ∀ x ∈ self.subscriptions.all, ∀ y ∈ self.subscriptions.all,
      listedBefore x y = true → listedBefore y x = true →
      (describeSubscription self.subscriptions.now x).isSome = true →
      describeSubscription self.subscriptions.now x
        = describeSubscription self.subscriptions.now y → x = y := by
    intro x hx y hy hxy hyx hsome hsame
    have hkey := describes_apart (ties_iff.mp ⟨hxy, hyx⟩) hsome hsame
    have hheld := (CovSubscriptions.mem_all_iff.mp hx).symm
    rw [hkey, CovSubscriptions.mem_all_iff.mp hy] at hheld
    exact Option.some.inj hheld
  have halike := StableSort.reads_alike_iff listedBefore_trans listedBefore_total happart
  -- Another table of the same subscriptions is the same list in another order.
  refine Iff.trans ?_ (halike.trans ?_)
  · constructor
    · intro h order horder
      have hall := all_enumerated self.subscriptions order horder
      have hsame := h { self with subscriptions := enumerated self.subscriptions order horder } rfl
        (held_of_perm (by rw [hall]; exact horder))
      unfold activeCovSubscriptions at hsame
      rw [hall] at hsame
      exact hsame
    · intro h other hnow hheld
      have hsame := h other.subscriptions.all (all_perm hheld)
      unfold activeCovSubscriptions
      rw [hnow]
      exact hsame
  · constructor
    · intro h x y hx hy hmacx hmacy hties
      obtain ⟨hxy, hyx⟩ := ties_iff.mpr hties
      exact h x (CovSubscriptions.mem_all_iff.mpr hx) y (CovSubscriptions.mem_all_iff.mpr hy)
        ((hdescribed x).trans hmacx) ((hdescribed y).trans hmacy) hxy hyx
    · intro h x hx y hy hsomex hsomey hxy hyx
      exact h x y (CovSubscriptions.mem_all_iff.mp hx) (CovSubscriptions.mem_all_iff.mp hy)
        ((hdescribed x).symm.trans hsomex) ((hdescribed y).symm.trans hsomey)
        (ties_iff.mp ⟨hxy, hyx⟩)

/-! ## §4. Two subscribers of one process identifier -/

/-- A subscription of process 1 to the analog value, from one of two hosts. -/
def subscriptionFrom (host : UInt32) : Subscription :=
  ⟨⟨1, ⟨.analogValue, 1⟩, none, .v4 host 47808⟩, false, none, none⟩

/-- A device that both have subscribed to, and whose table hands out the last to do so first. -/
def subscribedBy (first second : UInt32) : ObjectService :=
  { ObjectService.new (ObjectDatabase.new (.new 1234 "Test device")) with
    subscriptions := ((CovSubscriptions.empty ⟨none, none⟩).insert (subscriptionFrom first)).insert
      (subscriptionFrom second) }

/-- The two tie, and are listed as the table hands them out. -/
theorem listed_of_all {self : ObjectService} {first second : UInt32}
    (h : self.subscriptions.all = [subscriptionFrom second, subscriptionFrom first]) :
    self.activeCovSubscriptions
      = [subscriptionFrom second, subscriptionFrom first].filterMap
          (describeSubscription self.subscriptions.now) := by
  have htie : listedBefore (subscriptionFrom second) (subscriptionFrom first) = true :=
    (ties_iff.mpr rfl).1
  have hsorted : [subscriptionFrom second, subscriptionFrom first].mergeSort listedBefore
      = [subscriptionFrom second, subscriptionFrom first] :=
    List.mergeSort_of_pairwise (List.pairwise_pair.mpr htie)
  unfold activeCovSubscriptions
  rw [h]
  exact congrArg (List.filterMap (describeSubscription self.subscriptions.now)) hsorted

/-- **The list shuffles.**  Two hosts subscribe with one process identifier to one object, and
which comes first is up to the table. -/
theorem list_shuffles :
    ∃ service other : ObjectService, other.subscriptions.now = service.subscriptions.now
      ∧ (∀ key, other.subscriptions.held key = service.subscriptions.held key)
      ∧ other.activeCovSubscriptions ≠ service.activeCovSubscriptions := by
  refine ⟨subscribedBy 1 2, subscribedBy 2 1, rfl, ?_, ?_⟩
  · intro key
    show (CovSubscriptions.insert _ _).held key = (CovSubscriptions.insert _ _).held key
    rw [CovSubscriptions.held_insert, CovSubscriptions.held_insert, CovSubscriptions.held_insert,
      CovSubscriptions.held_insert]
    by_cases hone : key = (subscriptionFrom 1).key
    · subst hone
      decide +kernel
    · by_cases htwo : key = (subscriptionFrom 2).key
      · subst htwo
        decide +kernel
      · rw [if_neg hone, if_neg htwo, if_neg htwo, if_neg hone]
  · have hone : (subscribedBy 1 2).subscriptions.all
        = [subscriptionFrom 2, subscriptionFrom 1] := by decide +kernel
    have htwo : (subscribedBy 2 1).subscriptions.all
        = [subscriptionFrom 1, subscriptionFrom 2] := by decide +kernel
    rw [listed_of_all hone, listed_of_all htwo]
    intro h
    have hsame : describeSubscription 0 (subscriptionFrom 1)
        = describeSubscription 0 (subscriptionFrom 2) := congrArg List.head? h
    have hkey := describes_apart (x := subscriptionFrom 1) (y := subscriptionFrom 2) rfl rfl hsame
    exact absurd hkey (by decide)

end ObjectService

end BacnetRs.Server
