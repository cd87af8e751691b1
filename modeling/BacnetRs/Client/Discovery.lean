/-
  BacnetRs.Client.Discovery — finding devices and routers
  (`who_is_to`, `who_is_network`, `who_is_router_to` and `discover_devices` in
  `client/async_client.rs`; the frame builders and `collect_iam_responses`,
  `collect_router_responses` in `client/mod.rs`).

  A discovery sends one frame and gathers what it hears until its window
  closes.  A device is kept as it first announced itself.  A router may
  announce its networks in several messages, which are joined, and the routers
  are sorted.

    * `discoverDevices_eq`  — one device for each instance number.
    * `whoIsRouterTo_found` — the routers found are those that announced
                              themselves, with all that they announced.
    * `routers_whatever_order` — in whatever order they did, and how often.
-/
import BacnetRs.Client.Frame
import BacnetRs.Library.Ascending
import BacnetRs.Library.Gather
import BacnetRs.Library.Words
import Mathlib.Data.List.Lex

namespace BacnetRs.Client

open BacnetRs.Encoding BacnetRs.Object BacnetRs.Service BacnetRs.Network

/-! ## §1. Frames -/

/-- `BVLC_ORIGINAL_BROADCAST`. -/
def bvlcOriginalBroadcast : UInt8 := 0x0B

/-- `encode_who_is`: a range needs both of its limits. -/
def encodeWhoIs (lowLimit highLimit : Option UInt32) : Bytes :=
  match lowLimit, highLimit with
  | some low, some high => WhoIsRequest.encode ⟨some low, some high⟩
  | _, _ => WhoIsRequest.new.encode

/-- `create_unconfirmed_frame_with_npdu`. -/
def createUnconfirmedFrameWithNpdu (serviceChoice : UInt8) (serviceData : Bytes) (npdu : Npdu)
    (bvlcFunction : UInt8) : Bytes :=
  let message := npdu.encode ++ 0x10 :: serviceChoice :: serviceData
  let totalLen := UInt16.ofNat (4 + message.length)
  [0x81, bvlcFunction, Octets.highOctet totalLen, Octets.lowOctet totalLen] ++ message

/-- `create_unconfirmed_frame`: a broadcast carries a global-broadcast NPDU. -/
def createUnconfirmedFrame (serviceChoice : UInt8) (serviceData : Bytes) (broadcast : Bool) :
    Bytes :=
  if broadcast then
    createUnconfirmedFrameWithNpdu serviceChoice serviceData .globalBroadcast bvlcOriginalBroadcast
  else
    createUnconfirmedFrameWithNpdu serviceChoice serviceData .new bvlcOriginalUnicast

/-- `create_who_is_network_frame`: an empty MAC address means every station on the network. -/
def createWhoIsNetworkFrame (network : UInt16) (serviceData : Bytes) : Bytes :=
  createUnconfirmedFrameWithNpdu UnconfirmedServiceChoice.whoIs.toByte serviceData
    { Npdu.new.setDestination ⟨network, []⟩ with hopCount := some 255 } bvlcOriginalUnicast

/-- `wrap_bvlc`. -/
def wrapBvlc (function : UInt8) (payload : Bytes) : Bytes :=
  let totalLen := 4 + payload.length
  [0x81, function, UInt8.ofNat (totalLen >>> 8), UInt8.ofNat totalLen] ++ payload

/-- `create_who_is_router_frame`: about one network, or all that a router reaches. -/
def createWhoIsRouterFrame (destinationNetwork : Option UInt16) (broadcast : Bool) : Bytes :=
  let npdu : Npdu := { Npdu.new with control := { Npdu.new.control with networkMessage := true } }
  let messageData := destinationNetwork.elim []
    (fun network => Octets.beOctets 2 network.toNat)
  -- Who-Is-Router-To-Network is message type 0.
  wrapBvlc (if broadcast then bvlcOriginalBroadcast else bvlcOriginalUnicast)
    (npdu.encode ++ 0x00 :: messageData)

/-! ## §2. Devices -/

/-- The loop of `discover_devices`: the devices so far, and the instance numbers seen. -/
def collectDevices (devices : List DeviceInfo) (seen : List UInt32) :
    List (Except ClientError DeviceInfo) → Except ClientError (List DeviceInfo)
  | [] => .ok devices
  | .error error :: _ => .error error
  | .ok device :: responses =>
      if device.deviceId ∈ seen then collectDevices devices seen responses
      else collectDevices (devices ++ [device]) (device.deviceId :: seen) responses

/-- `discover_devices`, from what the endpoint forwards. -/
def discoverDevices (responses : List (Except ClientError DeviceInfo)) :
    Except ClientError (List DeviceInfo) :=
  collectDevices [] [] responses

/-- The device that is announced first stays. -/
def keepFirst (kept _ : DeviceInfo) : DeviceInfo := kept

theorem add_of_seen {devices : List DeviceInfo} {device : DeviceInfo}
    (h : device.deviceId ∈ devices.map DeviceInfo.deviceId) :
    Gather.add DeviceInfo.deviceId keepFirst device devices = devices := by
  induction devices with
  | nil => cases h
  | cons first devices ih =>
      unfold Gather.add
      by_cases hsame : first.deviceId = device.deviceId
      · rw [if_pos hsame]
        rfl
      · rw [if_neg hsame, ih]
        rcases List.mem_cons.mp h with heq | hmem
        · exact absurd heq.symm hsame
        · exact hmem

theorem add_of_unseen {devices : List DeviceInfo} {device : DeviceInfo}
    (h : device.deviceId ∉ devices.map DeviceInfo.deviceId) :
    Gather.add DeviceInfo.deviceId keepFirst device devices = devices ++ [device] := by
  induction devices with
  | nil => rfl
  | cons first devices ih =>
      rw [List.map_cons, List.mem_cons, not_or] at h
      unfold Gather.add
      rw [if_neg (Ne.symm h.1), ih h.2]
      rfl

/-- The loop adds what it hears to what it has, up to the first error. -/
theorem collectDevices_eq (responses : List (Except ClientError DeviceInfo)) :
    ∀ {devices : List DeviceInfo} {seen : List UInt32},
      (∀ id, id ∈ seen ↔ id ∈ devices.map DeviceInfo.deviceId) →
      collectDevices devices seen responses
        = (responses.mapM id).map (fun heard =>
            heard.foldl (fun gathered device =>
              Gather.add DeviceInfo.deviceId keepFirst device gathered) devices) := by
  induction responses with
  | nil =>
      intro devices seen _
      rfl
  | cons response responses ih =>
      intro devices seen hseen
      rw [List.mapM_cons]
      cases response with
      | error error => rfl
      | ok device =>
          have hmap : ∀ x : Except ClientError (List DeviceInfo),
              ((id (Except.ok device) >>= fun first => x >>= fun rest => pure (first :: rest)).map
                (fun heard => heard.foldl (fun gathered device =>
                  Gather.add DeviceInfo.deviceId keepFirst device gathered) devices))
              = x.map (fun heard => heard.foldl (fun gathered device =>
                  Gather.add DeviceInfo.deviceId keepFirst device gathered)
                    (Gather.add DeviceInfo.deviceId keepFirst device devices)) := by
            intro x
            cases x <;> rfl
          rw [hmap]
          unfold collectDevices
          by_cases hmem : device.deviceId ∈ seen
          · rw [if_pos hmem, ih hseen, add_of_seen ((hseen _).mp hmem)]
          · rw [if_neg hmem, ih, add_of_unseen (fun h => hmem ((hseen _).mpr h))]
            intro id
            rw [List.mem_cons, List.map_append, List.mem_append, List.map_singleton,
              List.mem_singleton, hseen, or_comm]

/-- **One device for each instance number**, up to the first error. -/
theorem discoverDevices_eq (responses : List (Except ClientError DeviceInfo)) :
    discoverDevices responses
      = (responses.mapM id).map (Gather.gather DeviceInfo.deviceId keepFirst) :=
  collectDevices_eq responses (fun _ => Iff.rfl)

theorem mapM_ok {ε α : Type} (l : List α) :
    (l.map (Except.ok : α → Except ε α)).mapM id = .ok l := by
  induction l with
  | nil => rfl
  | cons a l ih =>
      rw [List.map_cons, List.mapM_cons, ih]
      rfl

/-- Devices with different instance numbers are all found, in the order they are heard. -/
theorem discoverDevices_of_nodup {devices : List DeviceInfo}
    (h : (devices.map DeviceInfo.deviceId).Nodup) :
    discoverDevices (devices.map .ok) = .ok devices := by
  rw [discoverDevices_eq, mapM_ok]
  show Except.ok (Gather.gather DeviceInfo.deviceId keepFirst devices) = _
  congr 1
  induction devices using List.reverseRecOn with
  | nil => rfl
  | append_singleton devices device ih =>
      rw [List.map_append, List.nodup_append] at h
      rw [Gather.gather_append_singleton, ih h.1, add_of_unseen]
      intro hmem
      exact h.2.2 _ hmem _ List.mem_cons_self rfl

/-! ## §3. Routers -/

/-- How addresses are ordered: IPv4 before IPv6, then field by field. -/
def socketOrder : SocketAddr → List ℕ
  | .v4 ip port => [4, ip.toNat, port.toNat]
  | .v6 ip port flowinfo scopeId =>
      [6, ip.toNat, port.toNat, flowinfo.toNat, scopeId.toNat]

theorem socketOrder_injective {a b : SocketAddr} (h : socketOrder a = socketOrder b) : a = b := by
  cases a with
  | v4 ip port =>
      cases b with
      | v4 ip' port' =>
          simp only [socketOrder, List.cons.injEq, true_and, and_true, UInt32.toNat_inj,
            UInt16.toNat_inj] at h
          rw [h.1, h.2]
      | v6 ip' port' flowinfo' scopeId' => simp [socketOrder] at h
  | v6 ip port flowinfo scopeId =>
      cases b with
      | v4 ip' port' => simp [socketOrder] at h
      | v6 ip' port' flowinfo' scopeId' =>
          simp only [socketOrder, List.cons.injEq, true_and, and_true, UInt32.toNat_inj,
            UInt16.toNat_inj] at h
          rw [BitVec.eq_of_toNat_eq h.1, h.2.1, h.2.2.1, h.2.2.2]

/-- A network that is held already is not held twice. -/
def pushNew (held : List UInt16) (network : UInt16) : List UInt16 :=
  if network ∈ held then held else held ++ [network]

/-- A router that is heard again: its networks joined, and sorted. -/
def joinRouter (existing response : DiscoveredRouter) : DiscoveredRouter :=
  { existing with
    networks := (response.networks.foldl pushNew existing.networks).mergeSort
      (fun a b => decide (a.toNat ≤ b.toNat)) }

/-- The loop of `who_is_router_to`, and the sort behind it. -/
def collectRouters (routers : List DiscoveredRouter) :
    List (Except ClientError DiscoveredRouter) → Except ClientError (List DiscoveredRouter)
  | [] => .ok (routers.mergeSort (fun a b =>
      decide (socketOrder a.address ≤ socketOrder b.address)))
  | .error error :: _ => .error error
  | .ok response :: responses =>
      collectRouters (Gather.add DiscoveredRouter.address joinRouter response routers) responses

/-- `who_is_router_to`, from what the endpoint forwards. -/
def whoIsRouterTo (responses : List (Except ClientError DiscoveredRouter)) :
    Except ClientError (List DiscoveredRouter) :=
  collectRouters [] responses

theorem mem_foldl_pushNew (networks : List UInt16) :
    ∀ (held : List UInt16) (network : UInt16),
      network ∈ networks.foldl pushNew held ↔ network ∈ held ∨ network ∈ networks := by
  induction networks with
  | nil =>
      intro held network
      simp
  | cons first networks ih =>
      intro held network
      have hpush : network ∈ pushNew held first ↔ network ∈ held ∨ network = first := by
        unfold pushNew
        split
        next hmem =>
          refine (or_iff_left_of_imp ?_).symm
          rintro rfl
          exact hmem
        · rw [List.mem_append, List.mem_singleton]
      rw [List.foldl_cons, ih, hpush, List.mem_cons, or_assoc]

theorem nodup_foldl_pushNew (networks : List UInt16) :
    ∀ {held : List UInt16}, held.Nodup → (networks.foldl pushNew held).Nodup := by
  induction networks with
  | nil => exact fun h => h
  | cons first networks ih =>
      intro held h
      apply ih
      unfold pushNew
      split
      · exact h
      next hnew =>
        refine List.nodup_append.mpr ⟨h, List.nodup_singleton _, ?_⟩
        rintro network hnetwork other hother rfl
        exact hnew (List.mem_singleton.mp hother ▸ hnetwork)

theorem mem_joinRouter (existing response : DiscoveredRouter) (network : UInt16) :
    network ∈ (joinRouter existing response).networks
      ↔ network ∈ existing.networks ∨ network ∈ response.networks :=
  List.mem_mergeSort.trans (mem_foldl_pushNew _ _ _)

theorem joinRouter_ascending {existing response : DiscoveredRouter}
    (h : Ordered.Ascending UInt16.toNat existing.networks) :
    Ordered.Ascending UInt16.toNat (joinRouter existing response).networks := by
  apply Ordered.ascending_mergeSort
  refine List.Nodup.map (fun _ _ => UInt16.toNat_inj.mp) (nodup_foldl_pushNew _ ?_)
  exact List.Nodup.of_map _ h.nodup

/-- What all that was heard of one router comes to. -/
theorem total_joinRouter {a : SocketAddr} (heard : List DiscoveredRouter) :
    ∀ {router : DiscoveredRouter}, Gather.total joinRouter heard = some router →
      (∀ response ∈ heard, response.address = a
        ∧ Ordered.Ascending UInt16.toNat response.networks) →
      router.address = a ∧ Ordered.Ascending UInt16.toNat router.networks
        ∧ ∀ network, network ∈ router.networks
          ↔ ∃ response ∈ heard, network ∈ response.networks := by
  induction heard using List.reverseRecOn with
  | nil =>
      intro router h
      cases h
  | append_singleton heard last ih =>
      intro router h hheard
      obtain ⟨hlast, hascending⟩ := hheard last (List.mem_append_right _ List.mem_cons_self)
      rw [Gather.total_append_singleton] at h
      cases htotal : Gather.total joinRouter heard with
      | none =>
          have hnone : heard = [] := by
            cases heard with
            | nil => rfl
            | cons first heard => cases htotal
          rw [htotal] at h
          cases h
          refine ⟨hlast, hascending, fun network => ?_⟩
          rw [hnone]
          simp
      | some joined =>
          rw [htotal] at h
          cases h
          obtain ⟨haddress, hjoined, hmem⟩ := ih htotal
            (fun response hresponse => hheard response (List.mem_append_left _ hresponse))
          refine ⟨haddress, joinRouter_ascending hjoined, fun network => ?_⟩
          show network ∈ (joinRouter joined last).networks ↔ _
          rw [mem_joinRouter, hmem]
          simp [or_and_right, exists_or]

theorem collectRouters_eq (responses : List (Except ClientError DiscoveredRouter)) :
    ∀ routers : List DiscoveredRouter,
      collectRouters routers responses
        = (responses.mapM id).map (fun heard =>
            (heard.foldl (fun gathered router =>
              Gather.add DiscoveredRouter.address joinRouter router gathered) routers).mergeSort
                (fun a b => decide (socketOrder a.address ≤ socketOrder b.address))) := by
  induction responses with
  | nil =>
      intro routers
      rfl
  | cons response responses ih =>
      intro routers
      rw [List.mapM_cons]
      cases response with
      | error error => rfl
      | ok router =>
          unfold collectRouters
          rw [ih]
          show _ = ((responses.mapM id) >>= fun rest => pure (router :: rest)).map _
          cases responses.mapM id <;> rfl

/-! ## §4. What a discovery of routers finds -/

/-- The routers found are those that were heard, each with all the networks it announced, and
in order. -/
structure Found (heard found : List DiscoveredRouter) : Prop where
  addresses_ascending :
    Ordered.Ascending (fun router => socketOrder router.address) found
  networks_ascending :
    ∀ router ∈ found, Ordered.Ascending UInt16.toNat router.networks
  announced_iff : ∀ address, (∃ router ∈ found, router.address = address)
    ↔ ∃ response ∈ heard, response.address = address
  networks_iff : ∀ router ∈ found, ∀ network, network ∈ router.networks
    ↔ ∃ response ∈ heard, response.address = router.address ∧ network ∈ response.networks

/-- **What is found depends on who was heard, and not on when or how often.** -/
theorem Found.unique {heard heard' found found' : List DiscoveredRouter} (h : Found heard found)
    (h' : Found heard' found') (hsame : ∀ response, response ∈ heard ↔ response ∈ heard') :
    found = found' := by
  -- A router of the one is the router of the other that has its address.
  have hsub : ∀ {heard heard' found found' : List DiscoveredRouter}, Found heard found →
      Found heard' found' → (∀ response, response ∈ heard ↔ response ∈ heard') →
      ∀ router ∈ found, router ∈ found' := by
    intro heard heard' found found' h h' hsame router hrouter
    obtain ⟨response, hresponse, haddress⟩ := (h.announced_iff _).mp ⟨router, hrouter, rfl⟩
    obtain ⟨other, hother, hotherAddress⟩ :=
      (h'.announced_iff _).mpr ⟨response, (hsame response).mp hresponse, haddress⟩
    have hnetworks : router.networks = other.networks := by
      apply (h.networks_ascending router hrouter).ext (h'.networks_ascending other hother)
      intro network
      rw [h.networks_iff router hrouter, h'.networks_iff other hother, hotherAddress]
      simp only [hsame]
    have heq : router = other := by
      obtain ⟨address, networks⟩ := router
      obtain ⟨address', networks'⟩ := other
      cases hotherAddress
      cases hnetworks
      rfl
    exact heq ▸ hother
  apply h.addresses_ascending.ext h'.addresses_ascending
  intro router
  constructor
  · exact hsub h h' hsame router
  · exact hsub h' h (fun response => (hsame response).symm) router

/-- **The routers found are those that announced themselves, with all that they announced.** -/
theorem whoIsRouterTo_found {heard : List DiscoveredRouter}
    (hheard : ∀ response ∈ heard, Ordered.Ascending UInt16.toNat response.networks) :
    ∃ found, whoIsRouterTo (heard.map .ok) = .ok found ∧ Found heard found := by
  have hjoin : ∀ a b, (joinRouter a b).address = a.address := fun _ _ => rfl
  let gathered := Gather.gather DiscoveredRouter.address joinRouter heard
  refine ⟨gathered.mergeSort (fun a b =>
    decide (socketOrder a.address ≤ socketOrder b.address)), ?_, ?_⟩
  · unfold whoIsRouterTo
    rw [collectRouters_eq, mapM_ok]
    rfl
  have hnodup := Gather.nodup_gather hjoin heard
  -- A router that is gathered is all that was heard from its address.
  have hrouter : ∀ router ∈ gathered, Ordered.Ascending UInt16.toNat router.networks
      ∧ ∀ network, network ∈ router.networks
        ↔ ∃ response ∈ heard, response.address = router.address
          ∧ network ∈ response.networks := by
    intro router hmem
    have htotal := (Gather.mem_gather hjoin).mp hmem
    obtain ⟨_, hascending, hnetworks⟩ := total_joinRouter (a := router.address) _ htotal
      (fun response hresponse => by
        obtain ⟨hmem, haddress⟩ := List.mem_filter.mp hresponse
        exact ⟨of_decide_eq_true haddress, hheard response hmem⟩)
    refine ⟨hascending, fun network => ?_⟩
    rw [hnetworks]
    simp [List.mem_filter, and_assoc]
  refine ⟨?_, ?_, ?_, ?_⟩
  · apply Ordered.ascending_mergeSort
    have hkeys := hnodup.map (fun _ _ => socketOrder_injective)
    rwa [List.map_map] at hkeys
  · intro router hmem
    exact (hrouter router (List.mem_mergeSort.mp hmem)).1
  · intro address
    simp only [List.mem_mergeSort]
    exact Gather.key_mem_gather hjoin
  · intro router hmem
    exact (hrouter router (List.mem_mergeSort.mp hmem)).2

/-- An I-Am-Router-To-Network is read as networks in order, each once. -/
theorem parseIAmRouterResponse_ascending {data : Bytes} {source : SocketAddr}
    {response : DiscoveredRouter} (h : parseIAmRouterResponse data source = .ok response) :
    Ordered.Ascending UInt16.toNat response.networks := by
  unfold parseIAmRouterResponse at h
  obtain ⟨frame, _, h⟩ := Checked.bind_eq_ok.mp h
  obtain ⟨_, h⟩ := Checked.guard_eq_ok.mp h
  obtain ⟨⟨messageType, octets⟩, _, h⟩ := Checked.bind_eq_ok.mp h
  obtain ⟨_, h⟩ := Checked.guard_eq_ok.mp h
  obtain ⟨_, h⟩ := Checked.guard_eq_ok.mp h
  cases h
  apply Ordered.ascending_destutter (fun _ _ => UInt16.toNat_inj.mp)
  refine (List.pairwise_mergeSort ?_ ?_ _).imp
    (fun hle => UInt16.le_iff_toNat_le.mp (of_decide_eq_true hle))
  · intro a b c hab hbc
    exact decide_eq_true (UInt16.le_trans (of_decide_eq_true hab) (of_decide_eq_true hbc))
  · intro a b
    simpa using UInt16.le_total a b

/-- The routers that announce themselves in datagrams. -/
def routerAnnouncements (datagrams : List (Bytes × SocketAddr)) : List DiscoveredRouter :=
  datagrams.filterMap (fun datagram => (parseIAmRouterResponse datagram.1 datagram.2).okPart)

theorem mem_routerAnnouncements {datagrams : List (Bytes × SocketAddr)}
    {response : DiscoveredRouter} :
    response ∈ routerAnnouncements datagrams
      ↔ ∃ datagram ∈ datagrams,
        parseIAmRouterResponse datagram.1 datagram.2 = .ok response := by
  unfold routerAnnouncements
  simp only [List.mem_filterMap, Checked.okPart_eq_some]

/-- **Routers are found in whatever order they answer, and however often.**  Of any datagrams,
those that announce a router come to each router once, with all the networks it announced, in
the order of their addresses; and the same datagrams in another order, or some of them again,
come to the same. -/
theorem routers_whatever_order {datagrams datagrams' : List (Bytes × SocketAddr)}
    (hsame : ∀ datagram, datagram ∈ datagrams ↔ datagram ∈ datagrams') :
    ∃ found, whoIsRouterTo ((routerAnnouncements datagrams).map .ok) = .ok found
      ∧ whoIsRouterTo ((routerAnnouncements datagrams').map .ok) = .ok found
      ∧ Found (routerAnnouncements datagrams) found := by
  have hascending : ∀ datagrams : List (Bytes × SocketAddr),
      ∀ response ∈ routerAnnouncements datagrams,
        Ordered.Ascending UInt16.toNat response.networks := by
    intro datagrams response hresponse
    obtain ⟨datagram, _, hparse⟩ := mem_routerAnnouncements.mp hresponse
    exact parseIAmRouterResponse_ascending hparse
  obtain ⟨found, hok, hfound⟩ := whoIsRouterTo_found (hascending datagrams)
  obtain ⟨found', hok', hfound'⟩ := whoIsRouterTo_found (hascending datagrams')
  have heq : found = found' := by
    apply hfound.unique hfound'
    intro response
    simp only [mem_routerAnnouncements, hsame]
  exact ⟨found, hok, heq ▸ hok', hfound⟩

/-- A router that announces networks 3 and 2, and one that announces 7. -/
def routerDatagrams : List (Bytes × SocketAddr) :=
  [([0x81, 0x0A, 0x00, 0x0B, 0x01, 0x80, 0x01, 0x00, 0x03, 0x00, 0x02], .v4 0x0A000002 47808),
    ([0x81, 0x0A, 0x00, 0x09, 0x01, 0x80, 0x01, 0x00, 0x07], .v4 0x0A000001 47808)]

/-- The second of them answers first, and again. -/
theorem routers_whatever_order_repeated :
    ∃ found, whoIsRouterTo ((routerAnnouncements routerDatagrams).map .ok) = .ok found
      ∧ whoIsRouterTo ((routerAnnouncements
          (routerDatagrams.reverse ++ routerDatagrams.drop 1)).map .ok) = .ok found
      ∧ Found (routerAnnouncements routerDatagrams) found := by
  apply routers_whatever_order
  intro datagram
  simp only [routerDatagrams, List.reverse_cons, List.reverse_nil, List.nil_append,
    List.cons_append, List.drop_succ_cons, List.drop_zero, List.mem_cons, List.not_mem_nil,
    or_false]
  tauto

end BacnetRs.Client
