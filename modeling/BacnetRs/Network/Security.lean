/-
  BacnetRs.Network.Security — which messages are let in (`network/mod.rs`).

  There are two lists of networks.  A message from a blocked network is
  refused; a message from a network that is not allowed is refused too, but
  only while some network is allowed, since an empty list allows every one.
  To block a network also takes it off the other list, and when it was the
  only one there, every network that is not blocked is let in from then on.

    * `rejects_iff`             — which messages are refused.
    * `rejects_blockNetwork_iff` — when a network can be blocked and nothing else is let in.
    * `blocking_monotone_iff`   — the same in every state that calls lead to.
-/
import BacnetRs.Network.Npdu
import BacnetRs.Library.Machine

namespace BacnetRs.Network

/-! ## §1. The manager -/

structure SecurityStatistics where
  accepted : UInt64
  rejected : UInt64
  blockedAttempts : UInt64
  deriving Repr, DecidableEq

structure NetworkSecurityManager where
  allowedNetworks : List UInt16
  blockedNetworks : List UInt16
  allowBroadcasts : Bool
  securityStats : SecurityStatistics
  deriving Repr, DecidableEq

namespace NetworkSecurityManager

def new : NetworkSecurityManager := ⟨[], [], true, ⟨0, 0, 0⟩⟩

/-- A message is refused. -/
def reject (manager : NetworkSecurityManager) : NetworkSecurityManager :=
  { manager with
    securityStats := { manager.securityStats with rejected := manager.securityStats.rejected + 1 } }

/-- A message from a blocked network is refused. -/
def rejectBlocked (manager : NetworkSecurityManager) : NetworkSecurityManager :=
  { manager with
    securityStats :=
      { manager.securityStats with
        blockedAttempts := manager.securityStats.blockedAttempts + 1
        rejected := manager.securityStats.rejected + 1 } }

/-- A message is let in. -/
def accept (manager : NetworkSecurityManager) : NetworkSecurityManager :=
  { manager with
    securityStats := { manager.securityStats with accepted := manager.securityStats.accepted + 1 } }

/-- Behind the source's check: whether the message may go where it goes. -/
def checkBroadcast (manager : NetworkSecurityManager) (npdu : Npdu) :
    NetworkSecurityManager × Bool :=
  if !manager.allowBroadcasts && npdu.destination.any NetworkAddress.isBroadcast then
    (manager.reject, false)
  else (manager.accept, true)

/-- `check_message`. -/
def checkMessage (manager : NetworkSecurityManager) (npdu : Npdu) :
    NetworkSecurityManager × Bool :=
  match npdu.source with
  | none => manager.checkBroadcast npdu
  | some source =>
      if manager.blockedNetworks.contains source.network then (manager.rejectBlocked, false)
      -- No network on the list of allowed ones means that all are.
      else if !manager.allowedNetworks.isEmpty &&
          !manager.allowedNetworks.contains source.network then (manager.reject, false)
      else manager.checkBroadcast npdu

/-- `allow_network`. -/
def allowNetwork (manager : NetworkSecurityManager) (network : UInt16) : NetworkSecurityManager :=
  if manager.allowedNetworks.contains network then manager
  else { manager with allowedNetworks := manager.allowedNetworks ++ [network] }

/-- `block_network`. -/
def blockNetwork (manager : NetworkSecurityManager) (network : UInt16) : NetworkSecurityManager :=
  { manager with
    blockedNetworks :=
      if manager.blockedNetworks.contains network then manager.blockedNetworks
      else manager.blockedNetworks ++ [network]
    allowedNetworks := manager.allowedNetworks.filter (· ≠ network) }

/-- `set_allow_broadcasts`. -/
def setAllowBroadcasts (manager : NetworkSecurityManager) (allow : Bool) :
    NetworkSecurityManager :=
  { manager with allowBroadcasts := allow }

/-- What the manager may be asked. -/
inductive Call where
  | checkMessage (npdu : Npdu)
  | allowNetwork (network : UInt16)
  | blockNetwork (network : UInt16)
  | setAllowBroadcasts (allow : Bool)
  deriving DecidableEq

def step (manager : NetworkSecurityManager) : Call → Option NetworkSecurityManager
  | .checkMessage npdu => some (manager.checkMessage npdu).1
  | .allowNetwork network => some (manager.allowNetwork network)
  | .blockNetwork network => some (manager.blockNetwork network)
  | .setAllowBroadcasts allow => some (manager.setAllowBroadcasts allow)

/-! ## §2. What is refused -/

/-- The message is refused. -/
def Rejects (manager : NetworkSecurityManager) (npdu : Npdu) : Prop :=
  (manager.checkMessage npdu).2 = false

/-- Messages from the network are refused. -/
def Excludes (manager : NetworkSecurityManager) (network : UInt16) : Prop :=
  network ∈ manager.blockedNetworks ∨
    (manager.allowedNetworks ≠ [] ∧ network ∉ manager.allowedNetworks)

/-- The message is for every network, and such messages are refused. -/
def RefusesBroadcast (manager : NetworkSecurityManager) (npdu : Npdu) : Prop :=
  manager.allowBroadcasts = false ∧ npdu.destination.any NetworkAddress.isBroadcast = true

theorem checkBroadcast_iff (manager : NetworkSecurityManager) (npdu : Npdu) :
    (manager.checkBroadcast npdu).2 = false ↔ manager.RefusesBroadcast npdu := by
  unfold checkBroadcast RefusesBroadcast
  cases manager.allowBroadcasts <;>
    cases npdu.destination.any NetworkAddress.isBroadcast <;> simp

/-- **Which messages are refused.** -/
theorem rejects_iff (manager : NetworkSecurityManager) (npdu : Npdu) :
    manager.Rejects npdu ↔
      (∃ source, npdu.source = some source ∧ manager.Excludes source.network) ∨
        manager.RefusesBroadcast npdu := by
  unfold Rejects checkMessage
  cases hsource : npdu.source with
  | none => simp [checkBroadcast_iff]
  | some source =>
      dsimp only
      by_cases hblocked : source.network ∈ manager.blockedNetworks
      · rw [if_pos (List.contains_iff_mem.mpr hblocked)]
        exact iff_of_true rfl (.inl ⟨source, rfl, .inl hblocked⟩)
      rw [if_neg (fun h => hblocked (List.contains_iff_mem.mp h))]
      have hlisted : (!manager.allowedNetworks.isEmpty &&
          !manager.allowedNetworks.contains source.network) = true ↔
            manager.allowedNetworks ≠ [] ∧ source.network ∉ manager.allowedNetworks := by
        simp
      by_cases hunlisted : manager.allowedNetworks ≠ [] ∧
          source.network ∉ manager.allowedNetworks
      · rw [if_pos (hlisted.mpr hunlisted)]
        exact iff_of_true rfl (.inl ⟨source, rfl, .inr hunlisted⟩)
      · rw [if_neg (fun h => hunlisted (hlisted.mp h)), checkBroadcast_iff]
        refine ⟨Or.inr, ?_⟩
        rintro (⟨source', hsome, hexcluded⟩ | hbroadcast)
        · cases hsome
          exact absurd hexcluded (not_or.mpr ⟨hblocked, hunlisted⟩)
        · exact hbroadcast

/-! ## §3. Blocking a network -/

@[simp] theorem blockedNetworks_blockNetwork (manager : NetworkSecurityManager)
    (network other : UInt16) :
    other ∈ (manager.blockNetwork network).blockedNetworks
      ↔ other = network ∨ other ∈ manager.blockedNetworks := by
  unfold blockNetwork
  dsimp only
  split
  · rename_i hheld
    have hmem := List.contains_iff_mem.mp hheld
    exact ⟨Or.inr, fun h => h.elim (fun hsame => hsame ▸ hmem) id⟩
  · rw [List.mem_append, List.mem_singleton, or_comm]

@[simp] theorem allowedNetworks_blockNetwork (manager : NetworkSecurityManager)
    (network other : UInt16) :
    other ∈ (manager.blockNetwork network).allowedNetworks
      ↔ other ∈ manager.allowedNetworks ∧ other ≠ network := by
  unfold blockNetwork
  rw [List.mem_filter, decide_eq_true_eq]

/-- Nothing is allowed any more when nothing else was. -/
theorem allowedNetworks_blockNetwork_eq_nil (manager : NetworkSecurityManager) (network : UInt16) :
    (manager.blockNetwork network).allowedNetworks = []
      ↔ ∀ other ∈ manager.allowedNetworks, other = network := by
  unfold blockNetwork
  rw [List.filter_eq_nil_iff]
  simp

/-- The network was the only one allowed, and to block it lets the message in. -/
def Opens (manager : NetworkSecurityManager) (network : UInt16) (npdu : Npdu) : Prop :=
  manager.allowedNetworks = [network] ∧
    (∃ source, npdu.source = some source ∧ source.network ≠ network ∧
      source.network ∉ manager.blockedNetworks) ∧
    ¬ manager.RefusesBroadcast npdu

/-- A list without repetitions of which every entry is the same has at most one. -/
theorem eq_singleton_of_nodup {α : Type} {a : α} : ∀ {l : List α}, l.Nodup → l ≠ [] →
    (∀ b ∈ l, b = a) → l = [a]
  | [], _, hne, _ => absurd rfl hne
  | [b], _, _, hall => by rw [hall b List.mem_cons_self]
  | b :: c :: l, hnodup, _, hall => by
      have hb := hall b List.mem_cons_self
      have hc := hall c (List.mem_cons_of_mem _ List.mem_cons_self)
      have hfresh := (List.nodup_cons.mp hnodup).1
      rw [hb, hc] at hfresh
      exact absurd List.mem_cons_self hfresh

/-- **To block a network lets nothing in, but when no other is allowed.** -/
theorem rejects_blockNetwork_iff {manager : NetworkSecurityManager}
    (hnodup : manager.allowedNetworks.Nodup) (network : UInt16) (npdu : Npdu) :
    (manager.Rejects npdu → (manager.blockNetwork network).Rejects npdu)
      ↔ ¬ manager.Opens network npdu := by
  rw [rejects_iff, rejects_iff]
  have hsame : (manager.blockNetwork network).RefusesBroadcast npdu
      ↔ manager.RefusesBroadcast npdu := Iff.rfl
  rw [hsame]
  constructor
  · -- The message was refused as not listed, and with the list empty it is not.
    rintro hkept ⟨honly, ⟨source, hsource, hother, hunblocked⟩, hpasses⟩
    have hexcluded : manager.Excludes source.network := by
      refine .inr ⟨by rw [honly]; exact List.cons_ne_nil _ _, ?_⟩
      rw [honly, List.mem_singleton]
      exact hother
    obtain ⟨source', hsome, hafter⟩ | hrefused := hkept (.inl ⟨source, hsource, hexcluded⟩)
    · rw [hsource] at hsome
      cases hsome
      obtain hblocked | ⟨hlisted, -⟩ := hafter
      · rw [blockedNetworks_blockNetwork] at hblocked
        exact hblocked.elim hother hunblocked
      · refine hlisted ((allowedNetworks_blockNetwork_eq_nil manager network).mpr ?_)
        rw [honly]
        exact fun other => List.mem_singleton.mp
    · exact hpasses hrefused
  · rintro hclosed (⟨source, hsource, hexcluded⟩ | hrefused)
    · by_cases hpasses : manager.RefusesBroadcast npdu
      · exact .inr hpasses
      refine .inl ⟨source, hsource, ?_⟩
      -- A network that is blocked stays so; one that is not listed is not listed afterwards.
      by_cases hblocked : source.network = network ∨ source.network ∈ manager.blockedNetworks
      · exact .inl ((blockedNetworks_blockNetwork ..).mpr hblocked)
      obtain ⟨hother, hunblocked⟩ := not_or.mp hblocked
      obtain hin | ⟨hsome, hunlisted⟩ := hexcluded
      · exact absurd hin hunblocked
      refine .inr ⟨?_, fun h => hunlisted ((allowedNetworks_blockNetwork ..).mp h).1⟩
      -- Had the last network been taken off, it would have been the only one.
      intro hempty
      have hall := (allowedNetworks_blockNetwork_eq_nil manager network).mp hempty
      exact hclosed ⟨eq_singleton_of_nodup hnodup hsome hall,
        ⟨source, hsource, hother, hunblocked⟩, hpasses⟩
    · exact .inr hrefused

/-! ## §4. Whole runs -/

theorem checkMessage_lists (manager : NetworkSecurityManager) (npdu : Npdu) :
    (manager.checkMessage npdu).1.allowedNetworks = manager.allowedNetworks ∧
      (manager.checkMessage npdu).1.blockedNetworks = manager.blockedNetworks := by
  have hbroadcast : (manager.checkBroadcast npdu).1.allowedNetworks = manager.allowedNetworks ∧
      (manager.checkBroadcast npdu).1.blockedNetworks = manager.blockedNetworks := by
    unfold checkBroadcast
    split <;> exact ⟨rfl, rfl⟩
  unfold checkMessage
  split
  · exact hbroadcast
  · split
    · exact ⟨rfl, rfl⟩
    · split
      · exact ⟨rfl, rfl⟩
      · exact hbroadcast

/-- No network is allowed twice. -/
theorem nodup_step {manager after : NetworkSecurityManager} {call : Call}
    (h : manager.allowedNetworks.Nodup) (hstep : step manager call = some after) :
    after.allowedNetworks.Nodup := by
  cases call with
  | checkMessage npdu =>
      cases hstep
      rwa [(checkMessage_lists manager npdu).1]
  | allowNetwork network =>
      cases hstep
      unfold allowNetwork
      split
      · exact h
      · rename_i hfresh
        refine List.nodup_append.mpr ⟨h, List.pairwise_singleton _ network, ?_⟩
        intro a ha b hb hsame
        rw [List.mem_singleton.mp hb] at hsame
        exact hfresh (List.contains_iff_mem.mpr (hsame ▸ ha))
  | blockNetwork network =>
      cases hstep
      exact h.filter _
  | setAllowBroadcasts allow =>
      cases hstep
      exact h

/-- No call unblocks a network. -/
theorem blocked_step {manager after : NetworkSecurityManager} {call : Call} {network : UInt16}
    (h : network ∈ manager.blockedNetworks) (hstep : step manager call = some after) :
    network ∈ after.blockedNetworks := by
  cases call with
  | checkMessage npdu =>
      cases hstep
      rwa [(checkMessage_lists manager npdu).2]
  | allowNetwork other =>
      cases hstep
      unfold allowNetwork
      split
      · exact h
      · exact h
  | blockNetwork other =>
      cases hstep
      exact (blockedNetworks_blockNetwork ..).mpr (.inr h)
  | setAllowBroadcasts allow =>
      cases hstep
      exact h

/-- **In every state that calls lead to, to block a network lets nothing in, but when it is the
only one allowed.**  Its own messages are refused from then on, whatever else is asked. -/
theorem blocking_monotone_iff {manager : NetworkSecurityManager}
    (h : Machine.Reachable step new manager) (network : UInt16) (npdu : Npdu) :
    ((manager.Rejects npdu → (manager.blockNetwork network).Rejects npdu)
      ↔ ¬ manager.Opens network npdu) ∧
    ∀ (calls : List Call) (after : NetworkSecurityManager) (message : Npdu)
      (source : NetworkAddress),
      Machine.run step (manager.blockNetwork network) calls = some after →
        message.source = some source → source.network = network → after.Rejects message := by
  have hnodup : manager.allowedNetworks.Nodup :=
    h.invariant (P := fun manager => manager.allowedNetworks.Nodup)
      (fun _ _ _ hs hstep => nodup_step hs hstep) List.nodup_nil
  refine ⟨rejects_blockNetwork_iff hnodup network npdu, ?_⟩
  rintro calls after message source hrun hsource rfl
  have hblocked : source.network ∈ after.blockedNetworks :=
    Machine.run_invariant (P := fun manager => source.network ∈ manager.blockedNetworks)
      (fun _ _ _ hs hstep => blocked_step hs hstep)
      ((blockedNetworks_blockNetwork ..).mpr (.inl rfl)) hrun
  exact (rejects_iff after message).mpr (.inl ⟨source, hsource, .inl hblocked⟩)

/-- Network 1 is allowed, and then blocked. -/
theorem blocking_monotone_new :
    (((new.allowNetwork 1).Rejects Npdu.new →
        ((new.allowNetwork 1).blockNetwork 1).Rejects Npdu.new)
      ↔ ¬ (new.allowNetwork 1).Opens 1 Npdu.new) ∧
    ∀ (calls : List Call) (after : NetworkSecurityManager) (message : Npdu)
      (source : NetworkAddress),
      Machine.run step ((new.allowNetwork 1).blockNetwork 1) calls = some after →
        message.source = some source → source.network = 1 → after.Rejects message :=
  blocking_monotone_iff ⟨[.allowNetwork 1], rfl⟩ 1 Npdu.new

/-- With network 1 no longer allowed, network 2 is. -/
theorem last_allowed_blocked :
    (new.allowNetwork 1).Rejects { Npdu.new with source := some ⟨2, []⟩ } ∧
    ¬ ((new.allowNetwork 1).blockNetwork 1).Rejects { Npdu.new with source := some ⟨2, []⟩ } ∧
    ¬ ∀ manager, Machine.Reachable step new manager → ∀ (network : UInt16) (npdu : Npdu),
      manager.Rejects npdu → (manager.blockNetwork network).Rejects npdu := by
  have hbefore : (new.allowNetwork 1).Rejects { Npdu.new with source := some ⟨2, []⟩ } := rfl
  have hafter : ¬ ((new.allowNetwork 1).blockNetwork 1).Rejects
      { Npdu.new with source := some ⟨2, []⟩ } := by
    unfold Rejects
    decide
  refine ⟨hbefore, hafter, ?_⟩
  intro hall
  exact hafter (hall _ ⟨[.allowNetwork 1], rfl⟩ 1 _ hbefore)

end NetworkSecurityManager

end BacnetRs.Network
