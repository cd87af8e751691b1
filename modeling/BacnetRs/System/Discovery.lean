/-
  BacnetRs.System.Discovery — a client finds the devices behind a router
  (`who_is_network` and `discover_devices` in `client/async_client.rs`,
  `route` in `server/router.rs`, `dispatch` in `server/dispatcher.rs`).

  The client asks a router for the devices of a network.  The router hands the
  question to each device there, and each that is meant answers from its own
  address.

    * `dispatch_whoIs`   — what one device answers.
    * `announced_reply`  — what the client makes of that answer.
    * `site_discovered`  — so it finds the devices that are there, and can
                           reach each of them.
-/
import BacnetRs.Client.Discovery
import BacnetRs.Client.Windows
import BacnetRs.Server.Routing
import BacnetRs.Service.Announcement
import BacnetRs.System.Answering

namespace BacnetRs.System

open BacnetRs.Encoding BacnetRs.Object BacnetRs.Service BacnetRs.Network BacnetRs.App
  BacnetRs.Server BacnetRs.Client

/-! ## §1. The question -/

/-- Whom a Who-Is with these limits is for. -/
def whoIsFor : Option UInt32 → Option UInt32 → WhoIsRequest
  | some low, some high => ⟨some low, some high⟩
  | _, _ => .new

variable {lowLimit highLimit : Option UInt32}

theorem encodeWhoIs_eq (lowLimit highLimit : Option UInt32) :
    encodeWhoIs lowLimit highLimit = (whoIsFor lowLimit highLimit).encode := by
  cases lowLimit <;> cases highLimit <;> rfl

theorem decode_encodeWhoIs (lowLimit highLimit : Option UInt32) :
    WhoIsRequest.decode (encodeWhoIs lowLimit highLimit) = .ok (whoIsFor lowLimit highLimit) := by
  have hwritten : (whoIsFor lowLimit highLimit).written = whoIsFor lowLimit highLimit := by
    cases lowLimit <;> cases highLimit <;> rfl
  rw [encodeWhoIs_eq, WhoIsRequest.decode_encode, hwritten]

/-- A Who-Is is short. -/
theorem length_encodeWhoIs (lowLimit highLimit : Option UInt32) :
    (encodeWhoIs lowLimit highLimit).length ≤ 20 := by
  have hlimit : ∀ (value : UInt32) (tag : UInt8), tag ≤ 14 →
      (encodeContextUnsigned value tag).length ≤ 5 := by
    intro value tag htag
    obtain ⟨width, _, hwidth, _, hoctets⟩ := unsignedOctets_eq value
    have hcount : (unsignedOctets value).length = width := by
      rw [hoctets, Octets.length_beOctets]
    have hshort : width < lvtExtendedLength.toNat := by
      show width < 5
      omega
    have hnumber : contextTagNumber tag = (tag <<< 4, []) := if_neg (UInt8.not_lt.mpr htag)
    unfold encodeContextUnsigned encodeContextTag
    rw [hnumber]
    simp only [hcount, if_pos hshort, List.length_append]
    show 1 + width ≤ 5
    omega
  have hnone : ([] : Bytes).length ≤ 20 := Nat.zero_le _
  cases lowLimit with
  | none => cases highLimit <;> exact hnone
  | some low =>
      cases highLimit with
      | none => exact hnone
      | some high =>
          show (encodeContextUnsigned low 0 ++ encodeContextUnsigned high 1).length ≤ 20
          have hlow := hlimit low 0 (by decide)
          have hhigh := hlimit high 1 (by decide)
          rw [List.length_append]
          omega

/-- The header that asks a router to broadcast on `network`. -/
def towards (network : UInt16) : Npdu := Client.routed Npdu.new (some ⟨network, []⟩)

/-- The question, as an APDU. -/
def whoIs (lowLimit highLimit : Option UInt32) : Apdu :=
  .unconfirmedRequest .whoIs (encodeWhoIs lowLimit highLimit)

theorem createWhoIsNetworkFrame_eq (network : UInt16) (lowLimit highLimit : Option UInt32) :
    createWhoIsNetworkFrame network (encodeWhoIs lowLimit highLimit)
      = enveloped .originalUnicastNpdu (towards network) (whoIs lowLimit highLimit).encode := by
  rw [enveloped_eq]
  rfl

/-- **The router reads the question as it was asked.** -/
theorem router_reads (network : UInt16) (lowLimit highLimit : Option UInt32) :
    Server.decodeBacnetIpFrame
        (createWhoIsNetworkFrame network (encodeWhoIs lowLimit highLimit))
      = some (towards network, (whoIs lowLimit highLimit).encode, none) := by
  have hroute : Routable (some ⟨network, []⟩) := by
    intro address haddress
    cases haddress
    exact Nat.zero_le _
  have hshort : (whoIs lowLimit highLimit).encode.length ≤ 65000 := by
    have hdata := length_encodeWhoIs lowLimit highLimit
    show (_ :: _ :: encodeWhoIs lowLimit highLimit).length ≤ 65000
    simp only [List.length_cons]
    omega
  rw [createWhoIsNetworkFrame_eq]
  exact server_reads (.inl rfl) (routed_consistent Npdu.Built.new.consistent hroute)
    (fits_routed Npdu.new rfl rfl hroute hshort)

theorem requestOf_whoIs (lowLimit highLimit : Option UInt32) :
    requestOf (whoIs lowLimit highLimit).encode = .ok (whoIs lowLimit highLimit) := by
  unfold requestOf
  rw [Apdu.decode_encode (show (whoIs lowLimit highLimit).Canonical from trivial)]
  rfl

/-! ## §2. The answer -/

/-- The instance number of the device behind a dispatcher. -/
def instanceOf (server : ServerDispatcher ObjectService) : UInt32 :=
  server.objects.database.view.deviceId.instanceNumber

/-- The device has an announcement to make, and it can be encoded. -/
def Announces (server : ServerDispatcher ObjectService) (announced : IAmRequest)
    (octets : Bytes) : Prop :=
  iAm server.objects.database.view = .ok announced ∧ announced.encode = .ok octets

variable {server : ServerDispatcher ObjectService} {announced : IAmRequest} {octets : Bytes}

/-- A device announces itself by the number it goes by. -/
theorem Announces.instance_eq (h : Announces server announced octets) :
    announced.deviceIdentifier.instanceNumber = instanceOf server := by
  have hiam := h.1
  simp only [iAm, bind, Except.bind, pure, Except.pure] at hiam
  -- Every way that returns announces the device the database names.
  repeat' (split at hiam)
  all_goals first
    | cases hiam; rfl
    | cases hiam

/-- **A device answers when it is meant**, and with its announcement. -/
theorem dispatch_whoIs (h : Announces server announced octets) {npdu : Npdu}
    (hnpdu : npdu.isNetworkMessage = false) (source : Option SocketAddr) :
    (server.dispatch ObjectService.services npdu (whoIs lowLimit highLimit) source).2
      = .ok (if (whoIsFor lowLimit highLimit).matches (instanceOf server) then
          some (respond npdu (.unconfirmedRequest .iAm octets)) else none) := by
  unfold ServerDispatcher.dispatch
  rw [hnpdu, if_neg Bool.false_ne_true]
  show (ServerDispatcher.whoIs server.objects.database.view
    (encodeWhoIs lowLimit highLimit)).map _ = _
  unfold ServerDispatcher.whoIs
  rw [decode_encodeWhoIs]
  show (if !(whoIsFor lowLimit highLimit).matches (instanceOf server) then _ else _ :
    Checked ServerError (Option Apdu)).map _ = _
  cases (whoIsFor lowLimit highLimit).matches (instanceOf server) with
  | false => rfl
  | true =>
      rw [h.1]
      show ((Checked.ofExcept announced.encode).mapErr ServerError.encoding >>= _).map _ = _
      rw [h.2]
      rfl

/-- What the client makes of an announcement that comes from behind a router. -/
def infoOf (router : SocketAddr) (address : NetworkAddress) (announced : IAmRequest) :
    DeviceInfo where
  deviceId := announced.deviceIdentifier.instanceNumber
  address := router
  route := some address
  vendorId := announced.vendorIdentifier
  maxApdu := announced.maxApduLengthAccepted
  segmentation := announced.segmentationSupported

theorem replyHeader_consistent {npdu : Npdu} (hsource : npdu.source = none)
    {address : NetworkAddress} (hmac : address.address.length ≤ 255) :
    (replyHeader npdu address).Consistent := by
  have hbuilt : replyHeader npdu address = Npdu.new.setSource address := by
    unfold replyHeader
    rw [hsource]
    rfl
  rw [hbuilt]
  exact (Npdu.Built.setSource .new hmac).consistent

/-- **The client makes the device of its announcement**, and takes it to be reached at the
address the reply is from. -/
theorem announced_reply {npdu : Npdu} (hsource : npdu.source = none) {address : NetworkAddress}
    (hmac : address.address.length ≤ 255) (hencoded : announced.encode = .ok octets)
    (router : SocketAddr) :
    Sought.announced
        (encodeResponse ⟨replyHeader npdu address, .unconfirmedRequest .iAm octets⟩) router .devices
      = some (.device (infoOf router address announced)) := by
  have hcarried : (replyHeader npdu address).carried = replyHeader npdu address := by
    unfold replyHeader
    rw [hsource]
    rfl
  have hfits : Fits (replyHeader npdu address) (Apdu.unconfirmedRequest .iAm octets).encode := by
    have hoctets := length_iAm hencoded
    have haddress := Npdu.length_encodeAddress address
    unfold Fits replyHeader
    rw [hsource]
    show 4 + ((_ :: _ :: ([] ++ Npdu.encodeAddress address ++ []) : Bytes)
      ++ (_ :: _ :: octets)).length < 65536
    simp only [List.length_append, List.length_cons, List.length_nil]
    omega
  have hframe := client_reads (.inl rfl) (replyHeader_consistent hsource hmac) hfits router
  rw [hcarried] at hframe
  have hread : parseIamResponse
      (encodeResponse ⟨replyHeader npdu address, .unconfirmedRequest .iAm octets⟩) router
        = .ok (infoOf router address announced) := by
    unfold parseIamResponse
    rw [encodeResponse_eq, hframe]
    show ((IAmRequest.decode octets).mapErr _ >>= _ : Checked Unit DeviceInfo) = _
    rw [IAmRequest.decode_encode hencoded]
    rfl
  have hannounced := Sought.announced_devices hframe
    (show (replyHeader npdu address).isNetworkMessage = false from rfl)
  rw [encodeResponse_eq] at hread ⊢
  rw [hannounced, hread]
  rfl

/-! ## §3. The devices of a site -/

section Site

variable {δ : Type}

/-- What the device at each address announces, and the octets of it. -/
structure Announcing (routes : Routes δ) (devices : Devices δ)
    (announced : δ → IAmRequest) (octets : δ → Bytes) : Prop where
  announces : ∀ device ∈ routes.devices,
    Announces (devices device.2) (announced device.2) (octets device.2)
  /-- Each is a dispatcher of its own. -/
  apart : (routes.devices.map Prod.snd).Nodup
  /-- Each address has a length octet. -/
  addressed : ∀ device ∈ routes.devices, device.1.address.length ≤ 255

/-- The devices on a network that a Who-Is is for. -/
def meant (routes : Routes δ) (devices : Devices δ) (network : UInt16)
    (lowLimit highLimit : Option UInt32) : List (NetworkAddress × δ) :=
  (routes.devices.filter (fun device => device.1.network == network)).filter (fun device =>
    (whoIsFor lowLimit highLimit).matches (instanceOf (devices device.2)))

variable {routes : Routes δ} {devices : Devices δ} {announced : δ → IAmRequest} {octets : δ → Bytes}
  {network : UInt16}

/-- The reply of a device that is meant. -/
def announcement (network : UInt16) (octets : δ → Bytes) (client : SocketAddr)
    (device : NetworkAddress × δ) : Bytes × SocketAddr :=
  (encodeResponse ⟨replyHeader (towards network) device.1,
    .unconfirmedRequest .iAm (octets device.2)⟩, client)

/-- Each device on the network answers for itself. -/
theorem askEach_whoIs [DecidableEq δ] (hsite : Announcing routes devices announced octets)
    (network : UInt16) (lowLimit highLimit : Option UInt32) (client : SocketAddr) :
    askEach hosted (towards network) (whoIs lowLimit highLimit) (some client) devices
        (routes.devices.filter (fun device => device.1.network == network))
      = (routes.devices.filter (fun device => device.1.network == network)).map (fun device =>
        (device.1, .ok (if (whoIsFor lowLimit highLimit).matches (instanceOf (devices device.2))
          then some (respond (towards network) (.unconfirmedRequest .iAm (octets device.2)))
          else none))) := by
  rw [askEach_of_nodup _ _ (hsite.apart.sublist ((List.filter_sublist).map _))]
  apply List.map_congr_left
  intro device hdevice
  rw [dispatch_whoIs (hsite.announces device (List.mem_of_mem_filter hdevice)) rfl]

/-- **The router replies with the announcements of the devices that are meant.** -/
theorem route_whoIs [DecidableEq δ] (hroutes : Machine.Reachable Routes.step .new routes)
    (hsite : Announcing routes devices announced octets) (hnetwork : network ∈ routes.networks)
    (lowLimit highLimit : Option UInt32) (client : SocketAddr) :
    (route routes hosted devices
        (createWhoIsNetworkFrame network (encodeWhoIs lowLimit highLimit)) client).2
      = .ok ((meant routes devices network lowLimit highLimit).map
          (announcement network octets client)) := by
  have hsound := Routes.reachable_sound hroutes
  have hreached : routes.reachedBy ⟨network, []⟩
      = some (routes.devices.filter (fun device => device.1.network == network)) := by
    unfold Routes.reachedBy
    rw [if_neg (hsound.routable network hnetwork).2, if_neg (not_not.mpr hnetwork), if_pos rfl,
      hsound.on_network]
  have hframe := router_reads network lowLimit highLimit
  obtain ⟨header, hheader⟩ := header_of_frame hframe
  have hloop : (route routes hosted devices
      (createWhoIsNetworkFrame network (encodeWhoIs lowLimit highLimit)) client).2
      = (routeEach hosted (towards network) (.ok (whoIs lowLimit highLimit))
          ((routes.devices.filter (fun device => device.1.network == network)).length == 1
            && !([] : Bytes).isEmpty) client client devices
          (routes.devices.filter (fun device => device.1.network == network))).2 := by
    have hmessage : (towards network).isNetworkMessage = false := rfl
    have hdestination : (towards network).destination = some ⟨network, []⟩ := rfl
    simp only [route, hheader, hframe, hmessage, hdestination, hreached, requestOf_whoIs,
      if_neg Bool.false_ne_true]
    rfl
  rw [hloop, routeEach_eq_ok, askEach_whoIs hsite]
  constructor
  · intro outcome houtcome
    obtain ⟨device, _, rfl⟩ := List.mem_map.mp houtcome
    exact ⟨_, rfl⟩
  · unfold meant
    rw [List.filterMap_map, ← List.filterMap_eq_map, List.filterMap_filter]
    apply List.filterMap_congr
    intro device _
    show _ = replyOf client (device.1, .ok (if _ then _ else _))
    cases (whoIsFor lowLimit highLimit).matches (instanceOf (devices device.2)) with
    | false => rfl
    | true =>
        show some (announcement network octets client device) = some _
        unfold announcement
        rw [← setSource_respond]
        rfl

/-- The replies, as they reach the client. -/
def arrivals (now : Instant) (sendTo : SocketAddr → Bytes → Option IoError) (router : SocketAddr)
    (replies : List (Bytes × SocketAddr)) : List Event :=
  replies.map (fun reply => .packet now sendTo reply.1 router)

/-- What an open discovery is told of the announcements. -/
theorem told_announcements (hsite : Announcing routes devices announced octets)
    {found : List (NetworkAddress × δ)} (hfound : ∀ device ∈ found, device ∈ routes.devices)
    (window : ActiveDiscovery) (now : Instant) (sendTo : SocketAddr → Bytes → Option IoError)
    (client router : SocketAddr) (later : List Event) :
    World.told .devices window
        (arrivals now sendTo router (found.map (announcement network octets client)) ++ later)
      = (found.map (fun device => infoOf router device.1 (announced device.2))).map
          (fun info => .ok (.device info))
        ++ World.told .devices window later := by
  induction found with
  | nil => rfl
  | cons device found ih =>
      obtain ⟨hdevice, hrest⟩ := List.forall_mem_cons.mp hfound
      have hheard := announced_reply (show (towards network).source = none from rfl)
        (hsite.addressed device hdevice) (hsite.announces device hdevice).2 router
      show (Sought.announced (announcement network octets client device).1 router .devices).toList.map
        _ ++ World.told .devices window _ = _
      unfold announcement
      rw [hheard]
      show .ok (.device _) :: World.told .devices window _ = _
      have hlater := ih hrest
      unfold arrivals at hlater
      rw [List.map_cons, List.map_cons, List.cons_append, ← hlater]
      rfl

/-- **A device is reached at the address it was found at**, and no other device is. -/
theorem reachedBy_found (hroutes : Machine.Reachable Routes.step .new routes)
    {device : NetworkAddress × δ} (hdevice : device ∈ routes.devices) :
    routes.reachedBy device.1 = some [device] := by
  have hsound := Routes.reachable_sound hroutes
  obtain ⟨hnetwork, haddress⟩ := hsound.placed device hdevice
  have honly : routes.devices.filter (fun other => other.1 == device.1) = [device] := by
    apply (Ordered.ascending_filter _ hsound.devices_ascending).ext
      (List.pairwise_singleton _ device)
    intro other
    rw [List.mem_filter, beq_iff_eq, List.mem_singleton]
    constructor
    · rintro ⟨hother, hsame⟩
      exact List.inj_on_of_nodup_map hsound.devices_ascending.nodup hother hdevice
        (congrArg addressOrder hsame)
    · rintro rfl
      exact ⟨hdevice, rfl⟩
  unfold Routes.reachedBy
  rw [if_neg (hsound.routable _ hnetwork).2, if_neg (not_not.mpr hnetwork), if_neg haddress,
    hsound.at_address, honly]

/-- **A client finds the devices that are there, and can reach each of them.**  Asked for the
devices of a network behind it, a router replies to whoever asked; a discovery whose window is
open when the replies arrive hears just these; and what `discover_devices` returns are the
devices on that network whose instance numbers are in the range, in the order of their
addresses, each as it announced itself: of those that share a number the first.  What is sent
to the address one was found at reaches that device and no other. -/
theorem site_discovered [DecidableEq δ] (hroutes : Machine.Reachable Routes.step .new routes)
    (hsite : Announcing routes devices announced octets) (hnetwork : network ∈ routes.networks)
    (lowLimit highLimit : Option UInt32) (client router : SocketAddr) :
    ∃ replies heard,
      (route routes hosted devices
          (createWhoIsNetworkFrame network (encodeWhoIs lowLimit highLimit)) client).2 = .ok replies
        ∧ (∀ reply ∈ replies, reply.2 = client)
        ∧ heard = (meant routes devices network lowLimit highLimit).map (fun device =>
            infoOf router device.1 (announced device.2))
        ∧ (∀ window now sendTo later,
            World.told .devices window (arrivals now sendTo router replies ++ later)
              = heard.map (fun info => .ok (.device info)) ++ World.told .devices window later)
        ∧ discoverDevices (heard.map .ok) = .ok (Gather.gather DeviceInfo.deviceId keepFirst heard)
        ∧ ((heard.map DeviceInfo.deviceId).Nodup → discoverDevices (heard.map .ok) = .ok heard)
        ∧ ∀ info ∈ heard, ∃ address device, info.route = some address
            ∧ info.deviceId = instanceOf (devices device)
            ∧ routes.reachedBy address = some [(address, device)] := by
  have hmeant : ∀ device ∈ meant routes devices network lowLimit highLimit,
      device ∈ routes.devices := fun device hdevice =>
    List.mem_of_mem_filter (List.mem_of_mem_filter hdevice)
  refine ⟨_, _, route_whoIs hroutes hsite hnetwork lowLimit highLimit client, ?_, rfl, ?_, ?_,
    discoverDevices_of_nodup, ?_⟩
  · intro reply hreply
    obtain ⟨device, _, rfl⟩ := List.mem_map.mp hreply
    rfl
  · intro window now sendTo later
    exact told_announcements hsite hmeant window now sendTo client router later
  · rw [discoverDevices_eq, mapM_ok]
    rfl
  · intro info hinfo
    obtain ⟨device, hdevice, rfl⟩ := List.mem_map.mp hinfo
    have hthere := hmeant device hdevice
    exact ⟨device.1, device.2, rfl, (hsite.announces device hthere).instance_eq,
      reachedBy_found hroutes hthere⟩

end Site

/-- What the two devices of the pair announce. -/
def pairAnnounced : Bool → IAmRequest
  | false => ⟨⟨.device, 1⟩, 1476, .noSegmentation, 999⟩
  | true => ⟨⟨.device, 2⟩, 1476, .noSegmentation, 999⟩

/-- The octets of it. -/
def pairOctets : Bool → Bytes
  | false => [0xC4, 0x02, 0x00, 0x00, 0x01, 0x22, 0x05, 0xC4, 0x91, 0x03, 0x22, 0x03, 0xE7]
  | true => [0xC4, 0x02, 0x00, 0x00, 0x02, 0x22, 0x05, 0xC4, 0x91, 0x03, 0x22, 0x03, 0xE7]

/-- Who is 2 or more, and at most 9. -/
theorem site_discovered_pair :
    ∃ replies heard,
      (route pairRoutes hosted (pairOf 1)
          (createWhoIsNetworkFrame 1001 (encodeWhoIs (some 2) (some 9))) everywhereAsker).2
            = .ok replies
        ∧ heard = [infoOf (.v4 0x0A000001 47808) ⟨1001, [2]⟩ (pairAnnounced true)]
        ∧ discoverDevices (heard.map .ok) = .ok heard := by
  have hroutes : Machine.Reachable Routes.step .new pairRoutes :=
    ⟨[.addNetwork 1001, .insert ⟨1001, [1]⟩ false, .insert ⟨1001, [2]⟩ true], rfl⟩
  have hencoded : ∀ device, (pairAnnounced device).encode = .ok (pairOctets device) := by
    decide +kernel
  have hiam : ∀ device, iAm (pairOf 1 device).objects.database.view
      = .ok (pairAnnounced device) := by
    intro device
    cases device <;> rfl
  have hsite : Announcing pairRoutes (pairOf 1) pairAnnounced pairOctets :=
    ⟨fun device _ => ⟨hiam device.2, hencoded device.2⟩, by decide, by decide⟩
  obtain ⟨replies, heard, hreplies, _, hheard, _, _, hfound, _⟩ :=
    site_discovered hroutes hsite (show (1001 : UInt16) ∈ pairRoutes.networks from by decide)
      (some 2) (some 9) everywhereAsker (.v4 0x0A000001 47808)
  have hone : heard = [infoOf (.v4 0x0A000001 47808) ⟨1001, [2]⟩ (pairAnnounced true)] :=
    hheard.trans rfl
  refine ⟨replies, heard, hreplies, hone, hfound ?_⟩
  rw [hone]
  exact List.nodup_singleton _

end BacnetRs.System
