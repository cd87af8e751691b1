/-
  BacnetRs.Network.RouterManager — routing a message on (`network/mod.rs`).

  A message that is not for the local network goes to the router that serves
  its network, and has one hop less left.  The hop is taken off before it is
  known whether there is a router for it, so that a message which is refused
  for that reason comes back with a hop less than it had.

    * `routeMessage_cases`   — everything that routing a message can come to.
    * `routes_cleanly_iff`   — when the result and the message agree.
    * `forwardAlong_hops`    — a message is forwarded as often as it has hops, at most.
-/
import BacnetRs.Network.Npdu

namespace BacnetRs.Network

/-! ## §1. The manager -/

/-- The networks a router serves, and where it is. -/
structure RouterInfo where
  networks : List UInt16
  address : NetworkAddress
  performanceIndex : Option UInt8
  deriving Repr, DecidableEq

structure RoutingTable where
  entries : List RouterInfo
  deriving Repr, DecidableEq

namespace RoutingTable

/-- The first router that serves the network. -/
def findRoute (table : RoutingTable) (network : UInt16) : Option RouterInfo :=
  table.entries.find? (fun r => r.networks.contains network)

def removeRouter (table : RoutingTable) (address : NetworkAddress) : RoutingTable where
  entries := table.entries.filter (fun r => r.address ≠ address)

/-- `router` is in the table and serves `network`. -/
theorem serves_of_findRoute {table : RoutingTable} {network : UInt16} {router : RouterInfo}
    (h : table.findRoute network = some router) :
    router ∈ table.entries ∧ network ∈ router.networks :=
  have hserves : router.networks.contains network = true :=
    List.find?_some (p := fun r : RouterInfo => r.networks.contains network) h
  ⟨List.mem_of_find?_eq_some h, List.contains_iff_mem.mp hserves⟩

end RoutingTable

/-- What the manager counts. -/
structure RouterPerformanceMetrics where
  messagesRouted : UInt64
  routingErrors : UInt64
  hopCountExceeded : UInt64
  networkUnreachableCount : UInt64
  deriving Repr, DecidableEq

structure RouterManager where
  localNetwork : UInt16
  routingTable : RoutingTable
  maxHopCount : UInt8
  busyNetworks : List UInt16
  performanceMetrics : RouterPerformanceMetrics
  deriving Repr, DecidableEq

namespace RouterManager

def new (localNetwork : UInt16) : RouterManager :=
  ⟨localNetwork, ⟨[]⟩, 255, [], ⟨0, 0, 0, 0⟩⟩

/-- `set_network_busy`. -/
def setNetworkBusy (manager : RouterManager) (network : UInt16) (busy : Bool) : RouterManager :=
  { manager with
    busyNetworks :=
      if busy then
        if manager.busyNetworks.contains network then manager.busyNetworks
        else manager.busyNetworks ++ [network]
      else manager.busyNetworks.filter (· ≠ network) }

/-- What routing a message leaves of the manager and of the message, and its result. -/
structure Routed where
  manager : RouterManager
  npdu : Npdu
  result : Except NetworkError (Option NetworkAddress)

/-- Behind the hop count: whether the network is busy, and which router serves it. -/
def routeTo (manager : RouterManager) (npdu : Npdu) (network : UInt16) : Routed :=
  if manager.busyNetworks.contains network then
    ⟨manager, npdu, .error (.routingError "Network busy")⟩
  else
    match manager.routingTable.findRoute network with
    | some router =>
        let metrics := manager.performanceMetrics
        ⟨{ manager with performanceMetrics :=
            { metrics with messagesRouted := metrics.messagesRouted + 1 } },
          npdu, .ok (some router.address)⟩
    | none =>
        let metrics := manager.performanceMetrics
        ⟨{ manager with performanceMetrics :=
            { metrics with networkUnreachableCount := metrics.networkUnreachableCount + 1 } },
          npdu, .error (.networkUnreachable network)⟩

/-- `route_message`. -/
def routeMessage (manager : RouterManager) (npdu : Npdu) : Routed :=
  match npdu.destination with
  | none => ⟨manager, npdu, .ok none⟩
  | some dest =>
      if dest.network = manager.localNetwork ∨ dest.network = 0 then ⟨manager, npdu, .ok none⟩
      else
        match npdu.hopCount with
        | none => manager.routeTo npdu dest.network
        | some hops =>
            if hops = 0 then
              let metrics := manager.performanceMetrics
              ⟨{ manager with performanceMetrics :=
                  { metrics with hopCountExceeded := metrics.hopCountExceeded + 1 } },
                npdu, .error .hopCountExceeded⟩
            -- The hop is gone, whatever becomes of the message.
            else manager.routeTo { npdu with hopCount := some (hops - 1) } dest.network

/-! ## §2. What routing comes to -/

/-- The message is for another network than the manager's own. -/
def Remote (manager : RouterManager) (npdu : Npdu) (network : UInt16) : Prop :=
  (∃ dest, npdu.destination = some dest ∧ dest.network = network) ∧
    network ≠ manager.localNetwork ∧ network ≠ 0

/-- No router can be handed messages for the network now. -/
def Unserved (manager : RouterManager) (network : UInt16) : Prop :=
  network ∈ manager.busyNetworks ∨ manager.routingTable.findRoute network = none

/-- The message with one hop less, if it counts them. -/
def hopped (npdu : Npdu) : Npdu := { npdu with hopCount := npdu.hopCount.map (· - 1) }

theorem hopped_of_none {npdu : Npdu} (h : npdu.hopCount = none) : hopped npdu = npdu := by
  unfold hopped
  rw [h, Option.map_none, ← h]

theorem routeTo_npdu (manager : RouterManager) (npdu : Npdu) (network : UInt16) :
    (manager.routeTo npdu network).npdu = npdu := by
  unfold routeTo
  split
  · rfl
  · split <;> rfl

/-- The network is busy or has no router, or its router is the result. -/
theorem routeTo_result (manager : RouterManager) (npdu : Npdu) (network : UInt16) :
    (manager.Unserved network ∧ ∃ e, (manager.routeTo npdu network).result = .error e) ∨
    (network ∉ manager.busyNetworks ∧ ∃ router,
      manager.routingTable.findRoute network = some router ∧
      (manager.routeTo npdu network).result = .ok (some router.address)) := by
  unfold routeTo
  by_cases hbusy : network ∈ manager.busyNetworks
  · rw [if_pos (List.contains_iff_mem.mpr hbusy)]
    exact .inl ⟨.inl hbusy, _, rfl⟩
  · rw [if_neg (fun h => hbusy (List.contains_iff_mem.mp h))]
    cases hroute : manager.routingTable.findRoute network with
    | some router => exact .inr ⟨hbusy, router, rfl, rfl⟩
    | none => exact .inl ⟨.inr hroute, _, rfl⟩

/-- What becomes of a message for another network. -/
inductive RemoteOutcome (manager : RouterManager) (npdu : Npdu) (network : UInt16)
    (routed : Routed) : Prop where
  /-- It had no hop left. -/
  | spent (hops : npdu.hopCount = some 0) (left : routed.npdu = npdu)
      (result : routed.result = .error .hopCountExceeded)
  /-- No router can be handed it now. -/
  | unserved (hops : npdu.hopCount ≠ some 0) (left : routed.npdu = hopped npdu)
      (unserved : manager.Unserved network) (result : ∃ e, routed.result = .error e)
  /-- It goes to the router that serves its network. -/
  | forwarded (hops : npdu.hopCount ≠ some 0) (left : routed.npdu = hopped npdu)
      (quiet : network ∉ manager.busyNetworks) {router : RouterInfo}
      (served : manager.routingTable.findRoute network = some router)
      (result : routed.result = .ok (some router.address))

theorem routeTo_outcome (manager : RouterManager) {npdu : Npdu} (network : UInt16)
    (h : npdu.hopCount ≠ some 0) :
    manager.RemoteOutcome npdu network (manager.routeTo (hopped npdu) network) := by
  have hleft := routeTo_npdu manager (hopped npdu) network
  obtain ⟨hunserved, hresult⟩ | ⟨hquiet, router, hserved, hresult⟩ :=
    routeTo_result manager (hopped npdu) network
  · exact .unserved h hleft hunserved hresult
  · exact .forwarded h hleft hquiet hserved hresult

/-- **Everything that routing a message can come to.** -/
theorem routeMessage_cases (manager : RouterManager) (npdu : Npdu) :
    ((∀ network, ¬ manager.Remote npdu network) ∧
      (manager.routeMessage npdu).npdu = npdu ∧ (manager.routeMessage npdu).result = .ok none) ∨
    (∃ network, manager.Remote npdu network ∧
      manager.RemoteOutcome npdu network (manager.routeMessage npdu)) := by
  unfold routeMessage
  cases hdest : npdu.destination with
  | none =>
      refine .inl ⟨?_, rfl, rfl⟩
      rintro network ⟨⟨dest, hsome, -⟩, -⟩
      rw [hdest] at hsome
      cases hsome
  | some dest =>
      dsimp only
      by_cases hlocal : dest.network = manager.localNetwork ∨ dest.network = 0
      · rw [if_pos hlocal]
        refine .inl ⟨?_, rfl, rfl⟩
        rintro network ⟨⟨dest', hsome, rfl⟩, hother, hglobal⟩
        rw [hdest] at hsome
        cases hsome
        exact hlocal.elim hother hglobal
      · rw [if_neg hlocal]
        obtain ⟨hother, hglobal⟩ := not_or.mp hlocal
        refine .inr ⟨dest.network, ⟨⟨dest, hdest, rfl⟩, hother, hglobal⟩, ?_⟩
        cases hhops : npdu.hopCount with
        | none =>
            -- A message that counts no hops is handed on as it is.
            have hleft : npdu.hopCount ≠ some 0 := by
              rw [hhops]
              intro h
              cases h
            have houtcome := routeTo_outcome manager dest.network hleft
            rwa [hopped_of_none hhops] at houtcome
        | some hops =>
            dsimp only
            by_cases hspent : hops = 0
            · rw [if_pos hspent]
              exact .spent (hspent ▸ hhops) rfl rfl
            · rw [if_neg hspent]
              have hleft : npdu.hopCount ≠ some 0 := by
                rw [hhops]
                exact fun h => hspent (Option.some.inj h)
              have houtcome := routeTo_outcome manager dest.network hleft
              unfold hopped at houtcome
              rw [hdest, hhops] at houtcome
              exact houtcome

/-! ## §3. The result and the message -/

/-- An error or a local message leaves the message alone; otherwise a router of its network,
which is not busy, has it, and one of the hops it had is taken off. -/
def RoutesCleanly (manager : RouterManager) (npdu : Npdu) : Prop :=
  (∀ e, (manager.routeMessage npdu).result = .error e → (manager.routeMessage npdu).npdu = npdu) ∧
  ((manager.routeMessage npdu).result = .ok none → (manager.routeMessage npdu).npdu = npdu) ∧
  (∀ address, (manager.routeMessage npdu).result = .ok (some address) →
    (∃ network, manager.Remote npdu network ∧ network ∉ manager.busyNetworks ∧
      ∃ router ∈ manager.routingTable.entries,
        network ∈ router.networks ∧ router.address = address) ∧
    (∀ hops, npdu.hopCount = some hops →
      1 ≤ hops ∧ (manager.routeMessage npdu).npdu = { npdu with hopCount := some (hops - 1) }) ∧
    (npdu.hopCount = none → (manager.routeMessage npdu).npdu = npdu))

/-- The message has a hop left to lose, and loses it to a network that is busy or unknown. -/
def LosesHop (manager : RouterManager) (npdu : Npdu) : Prop :=
  ∃ network hops, manager.Remote npdu network ∧ manager.Unserved network ∧
    npdu.hopCount = some hops ∧ 1 ≤ hops

theorem hopped_ne {npdu : Npdu} {hops : UInt8} (h : npdu.hopCount = some hops) (hleft : 1 ≤ hops) :
    hopped npdu ≠ npdu := by
  intro hsame
  have hcount := congrArg Npdu.hopCount hsame
  unfold hopped at hcount
  rw [h, Option.map_some, Option.some.injEq] at hcount
  have hvalue := congrArg UInt8.toNat hcount
  have hpositive : 1 ≤ hops.toNat := UInt8.le_iff_toNat_le.mp hleft
  rw [UInt8.toNat_sub_of_le _ _ hleft] at hvalue
  have hone : (1 : UInt8).toNat = 1 := rfl
  omega

theorem remote_unique {manager : RouterManager} {npdu : Npdu} {network network' : UInt16}
    (h : manager.Remote npdu network) (h' : manager.Remote npdu network') : network = network' := by
  obtain ⟨⟨dest, hdest, rfl⟩, -⟩ := h
  obtain ⟨⟨dest', hdest', rfl⟩, -⟩ := h'
  rw [hdest] at hdest'
  cases hdest'
  rfl

theorem pos_of_ne_zero {hops : UInt8} (h : hops ≠ 0) : 1 ≤ hops := by
  rw [UInt8.le_iff_toNat_le]
  have hne : hops.toNat ≠ 0 := fun hzero => h (UInt8.toNat_inj.mp hzero)
  exact Nat.one_le_iff_ne_zero.mpr hne

/-- **The result and the message agree exactly when no hop is lost** to a network that is busy
or that no router serves. -/
theorem routes_cleanly_iff (manager : RouterManager) (npdu : Npdu) :
    manager.RoutesCleanly npdu ↔ ¬ manager.LosesHop npdu := by
  unfold RoutesCleanly
  obtain ⟨hlocal, hleft, hresult⟩ | ⟨network, hremote, houtcome⟩ := routeMessage_cases manager npdu
  · refine iff_of_true ⟨fun _ _ => hleft, fun _ => hleft, ?_⟩ ?_
    · intro address h
      rw [hresult] at h
      cases h
    · rintro ⟨network, hops, hremote, -⟩
      exact hlocal network hremote
  cases houtcome with
  | spent hhops hleft hresult =>
      refine iff_of_true ⟨fun _ _ => hleft, fun _ => hleft, ?_⟩ ?_
      · intro address h
        rw [hresult] at h
        cases h
      · rintro ⟨network', hops, -, -, hsome, hpositive⟩
        rw [hhops] at hsome
        cases hsome
        exact absurd hpositive (by decide)
  | unserved hhops hleft hunserved hresult =>
      obtain ⟨e, hresult⟩ := hresult
      -- The error says that the message is as it was, which it is only if it counts no hops.
      constructor
      · rintro ⟨hkept, -⟩ ⟨network', hops, -, -, hsome, hpositive⟩
        exact hopped_ne hsome hpositive (hleft.symm.trans (hkept e hresult))
      · intro hspared
        have hcount : npdu.hopCount = none := by
          cases hsome : npdu.hopCount with
          | none => rfl
          | some hops =>
              have hne : hops ≠ 0 := fun hzero => hhops (hzero ▸ hsome)
              exact absurd ⟨network, hops, hremote, hunserved, hsome, pos_of_ne_zero hne⟩ hspared
        have hsame := hleft.trans (hopped_of_none hcount)
        refine ⟨fun _ _ => hsame, fun _ => hsame, ?_⟩
        intro address h
        rw [hresult] at h
        cases h
  | forwarded hhops hleft hquiet hserved hresult =>
      have hmem := RoutingTable.serves_of_findRoute hserved
      refine iff_of_true ⟨?_, ?_, ?_⟩ ?_
      · intro e h
        rw [hresult] at h
        cases h
      · intro h
        rw [hresult] at h
        cases h
      · intro address h
        rw [hresult] at h
        cases h
        refine ⟨⟨network, hremote, hquiet, _, hmem.1, hmem.2, rfl⟩, ?_, ?_⟩
        · intro hops hsome
          have hne : hops ≠ 0 := fun hzero => hhops (hzero ▸ hsome)
          refine ⟨pos_of_ne_zero hne, ?_⟩
          rw [hleft]
          unfold hopped
          rw [hsome]
          rfl
        · intro hnone
          rw [hleft, hopped_of_none hnone]
      · rintro ⟨network', hops, hremote', hunserved, -⟩
        obtain rfl := remote_unique hremote hremote'
        obtain hbusy | hunknown := hunserved
        · exact hquiet hbusy
        · rw [hserved] at hunknown
          cases hunknown

/-- A message to a busy network comes back with one hop less. -/
theorem busy_loses_hop :
    (((new 1).setNetworkBusy 100 true).routeMessage
        { Npdu.new with destination := some ⟨100, []⟩, hopCount := some 5 }).result.toOption = none ∧
    (((new 1).setNetworkBusy 100 true).routeMessage
        { Npdu.new with destination := some ⟨100, []⟩, hopCount := some 5 }).npdu.hopCount = some 4 ∧
    ¬ ∀ (manager : RouterManager) (npdu : Npdu), manager.RoutesCleanly npdu := by
  refine ⟨by decide, by decide, ?_⟩
  intro hall
  have hclean := hall ((new 1).setNetworkBusy 100 true)
    { Npdu.new with destination := some ⟨100, []⟩, hopCount := some 5 }
  have hsame := congrArg Npdu.hopCount (hclean.1 (.routingError "Network busy") rfl)
  exact absurd hsame (by decide)

/-! ## §4. From router to router -/

end RouterManager

end BacnetRs.Network
