/-
  BacnetRs.Server.Router — many devices behind one BACnet/IP port
  (`server/router.rs`).

  A datagram that carries an NPDU with a destination is given to every device
  that destination reaches, in the order of their addresses, and each response
  is sent to whoever really sent the datagram.

    * `Serves.oneAddress_iff` — when the address given to a dispatcher is the
                            one replied to; `serveOnce_serves` and
                            `route_serves` for the two front ends.
    * `replied_where_dispatched_iff` — both.
-/
import BacnetRs.Server.Bip

namespace BacnetRs.Server

open BacnetRs.Encoding BacnetRs.Object BacnetRs.Service BacnetRs.Network BacnetRs.App

/-! ## §1. The devices -/

/-- `Routes`: the networks behind the router and the devices on them, each in ascending order. -/
structure Routes (δ : Type) where
  networks : List UInt16
  devices : List (NetworkAddress × δ)

/-- `GLOBAL_BROADCAST`. -/
def globalBroadcast : UInt16 := 0xFFFF

/-- `reached_by`: the devices a destination reaches, or `none` when it names a network that is
not behind this router. -/
def Routes.reachedBy {δ : Type} (routes : Routes δ) (destination : NetworkAddress) :
    Option (List (NetworkAddress × δ)) :=
  if destination.network = globalBroadcast then some routes.devices
  else if destination.network ∉ routes.networks then none
  else if destination.address = [] then
    some ((routes.devices.dropWhile (fun device => device.1.network < destination.network)).takeWhile
      (fun device => device.1.network == destination.network))
  -- A MAC nobody holds is not an error.
  else some (routes.devices.find? (fun device => device.1 == destination)).toList

/-- The number of the Who-Is-Router-To-Network message. -/
def whoIsRouterToNetwork : UInt8 := 0x00

/-- The number of the Reject-Message-To-Network message. -/
def rejectMessageToNetwork : UInt8 := 0x03

/-- `REJECT_UNKNOWN_NETWORK`. -/
def rejectUnknownNetwork : UInt8 := 1

/-- `network_frame`: a network-layer reply, sent back through whatever router the request came
from. -/
def networkFrame (request : Npdu) (messageType : UInt8) (data : Bytes) : Bytes :=
  let npdu : Npdu := { Npdu.new with control := { Npdu.new.control with networkMessage := true } }
  let npdu :=
    match request.source with
    | some source => { npdu.setDestination source with hopCount := some 255 }
    | none => npdu
  wrapBvlcParts .originalUnicastNpdu [npdu.encode, messageType :: data]

/-- `network_message`: which networks the router reaches. -/
def networkMessage {δ : Type} (routes : Routes δ) (npdu : Npdu) (payload : Bytes) : Option Bytes :=
  match decodeNetworkLayerMessage payload with
  | .error _ => none
  | .ok (messageType, data) =>
      if messageType ≠ whoIsRouterToNetwork then none
      else do
        let announced ←
          match data with
          -- Asked for no network in particular, the router announces all it serves.
          | [] => some routes.networks
          | high :: low :: _ =>
              let asked := UInt16.ofNat (Octets.beNat [high, low])
              if asked ∈ routes.networks then some [asked] else none
          | [_] => none
        if announced = [] then none
        else
          return networkFrame npdu iAmRouterToNetwork
            (announced.flatMap (fun network => Octets.beOctets 2 network.toNat))

/-- `reject`. -/
def rejectNetwork (npdu : Npdu) (network : UInt16) : Bytes :=
  networkFrame npdu rejectMessageToNetwork
    (rejectUnknownNetwork :: Octets.beOctets 2 network.toNat)

/-! ## §2. Routing a datagram -/

variable {σ δ : Type}

/-- The loop of `route`: each device in turn, up to the first that fails. -/
def routeEach (dispatch : δ → Dispatch σ) (npdu : Npdu) (request : Except Bytes Apdu)
    (alone : Bool) (source replyTo : SocketAddr) :
    σ → List (NetworkAddress × δ) → σ × Checked ServerError (List (Bytes × SocketAddr))
  | state, [] => (state, .ok [])
  | state, (address, device) :: rest =>
      -- Only a device addressed on its own rejects what it cannot read.
      if request.toOption.isNone && !alone then
        routeEach dispatch npdu request alone source replyTo state rest
      else
        match answer (dispatch device) state npdu request (some source) with
        | (after, .error fault) => (after, .error fault)
        | (after, .ok response) =>
            let (final, more) := routeEach dispatch npdu request alone source replyTo after rest
            (final, more.map (fun replies =>
              (response.map (fun response => (encodeResponse
                { response with npdu := response.npdu.setSource address }, replyTo))).toList
                ++ replies))

/-- `route`, when `data` arrives from `source`: the replies, and where they go. -/
def route (routes : Routes δ) (dispatch : δ → Dispatch σ) (state : σ) (data : Bytes)
    (source : SocketAddr) : σ × Checked ServerError (List (Bytes × SocketAddr)) :=
  match BvlcHeader.decode data with
  | .error _ => (state, .ok [])
  | .ok header =>
      match decodeBacnetIpFrame data with
      | none => (state, .ok [])
      | some (npdu, payload, origin) =>
          -- A Forwarded-NPDU names who really sent it; the BBMD is only the carrier.
          let replyTo := origin.getD source
          if npdu.isNetworkMessage then
            (state, .ok ((networkMessage routes npdu payload).map
              (fun frame => (frame, replyTo))).toList)
          else
            match npdu.destination with
            | none => (state, .ok [])
            | some destination =>
                match routes.reachedBy destination with
                | none =>
                    (state, .ok
                      (if header.function = .originalUnicastNpdu then
                        [(rejectNetwork npdu destination.network, replyTo)]
                      else []))
                | some reached =>
                    let alone := reached.length == 1 && !destination.address.isEmpty
                    routeEach dispatch npdu (requestOf payload) alone source replyTo state reached

/-! ## §3. The address given and the address replied to -/

/-- A dispatcher that keeps the addresses it is given. -/
def recording (dispatch : Dispatch σ) : Dispatch (σ × List (Option SocketAddr)) :=
  fun (state, given) npdu apdu source =>
    let (after, response) := dispatch state npdu apdu source
    ((after, given ++ [source]), response)

/-- Every address given to a dispatcher, and every one replied to, is `address`. -/
def OneAddress (address : SocketAddr)
    (served : (σ × List (Option SocketAddr)) × Checked ServerError (List (Bytes × SocketAddr))) :
    Prop :=
  (∀ given ∈ served.1.2, given = some address)
    ∧ ∀ replies, served.2 = .ok replies → ∀ reply ∈ replies, reply.2 = address

/-- A request that goes to a dispatcher: an APDU that decodes, and no network-layer message. -/
def Dispatched (npdu : Npdu) (payload : Bytes) : Prop :=
  npdu.isNetworkMessage = false ∧ ∃ apdu, Apdu.decode payload = .ok apdu

/-- One that goes to a dispatcher behind the router: it has a destination that reaches some
device. -/
def DispatchedBehind (routes : Routes δ) (npdu : Npdu) (payload : Bytes) : Prop :=
  Dispatched npdu payload
    ∧ ∃ destination, npdu.destination = some destination
      ∧ ∃ reached, routes.reachedBy destination = some reached ∧ reached ≠ []

theorem requestOf_cases (payload : Bytes) :
    (∃ apdu, Apdu.decode payload = .ok apdu ∧ requestOf payload = .ok apdu)
      ∨ (¬ ∃ apdu, Apdu.decode payload = .ok apdu) ∧ requestOf payload = .error payload := by
  unfold requestOf
  cases hdecode : Apdu.decode payload with
  | ok apdu => exact .inl ⟨apdu, rfl, rfl⟩
  | error fault =>
      refine .inr ⟨?_, rfl⟩
      rintro ⟨apdu, happdu⟩
      cases happdu

/-- What a front end gives to dispatchers is `source`, and something is given when there is
something to; what it sends goes to `replyTo`. -/
structure Serves (source replyTo : SocketAddr) (dispatched : Prop)
    (served : (σ × List (Option SocketAddr)) × Checked ServerError (List (Bytes × SocketAddr))) :
    Prop where
  given : ∀ given ∈ served.1.2, given = some source ∧ dispatched
  reached : dispatched → some source ∈ served.1.2
  replies : ∀ replies, served.2 = .ok replies → ∀ reply ∈ replies, reply.2 = replyTo

theorem Serves.oneAddress_iff {source replyTo : SocketAddr} {dispatched : Prop}
    {served : (σ × List (Option SocketAddr)) × Checked ServerError (List (Bytes × SocketAddr))}
    (h : Serves source replyTo dispatched served) :
    OneAddress replyTo served ↔ replyTo = source ∨ ¬ dispatched := by
  constructor
  · rintro ⟨hgiven, _⟩
    by_cases hdispatched : dispatched
    · exact .inl (Option.some.inj (hgiven _ (h.reached hdispatched))).symm
    · exact .inr hdispatched
  · intro hsame
    refine ⟨fun given hmem => ?_, h.replies⟩
    obtain ⟨rfl, hdispatched⟩ := h.given given hmem
    rcases hsame with rfl | hnot
    · rfl
    · exact absurd hdispatched hnot

/-- Nothing is dispatched and nothing is sent. -/
theorem serves_quiet {source replyTo : SocketAddr} {dispatched : Prop} (hnot : ¬ dispatched)
    (state : σ) {replies : List (Bytes × SocketAddr)}
    (hreplies : ∀ reply ∈ replies, reply.2 = replyTo) :
    Serves source replyTo dispatched ((state, []), .ok replies) where
  given := by simp
  reached := fun h => absurd h hnot
  replies := by
    intro sent hsent
    cases hsent
    exact hreplies

/-- An APDU that decodes is given to the dispatcher, with the address the caller has. -/
theorem given_answer (dispatch : Dispatch σ) (state : σ) (given : List (Option SocketAddr))
    (npdu : Npdu) (request : Except Bytes Apdu) (source : Option SocketAddr) :
    (answer (recording dispatch) (state, given) npdu request source).1.2
      = given ++ if request.toOption.isSome then [source] else [] := by
  cases request with
  | error data => exact (List.append_nil _).symm
  | ok apdu => rfl

/-- A device is given a request from one address, if there is a request. -/
theorem eq_of_mem_given {request : Except Bytes Apdu} {source : SocketAddr}
    {address : Option SocketAddr}
    (h : address ∈ if request.toOption.isSome then [some source] else []) :
    address = some source := by
  split at h
  · exact List.mem_singleton.mp h
  · cases h

theorem given_ne_nil_iff (request : Except Bytes Apdu) (source : SocketAddr) :
    (if request.toOption.isSome then [some source] else []) ≠ []
      ↔ request.toOption.isSome = true := by
  cases request.toOption.isSome with
  | true => simp
  | false => simp

/-! ## §4. The two front ends -/

theorem serveOnce_serves {data : Bytes} {npdu : Npdu} {payload : Bytes}
    {origin : Option SocketAddr} (h : decodeBacnetIpFrame data = some (npdu, payload, origin))
    (dispatch : Dispatch σ) (state : σ) (source : SocketAddr) :
    Serves source (origin.getD source) (Dispatched npdu payload)
      (serveOnce (recording dispatch) (state, []) data source) := by
  unfold serveOnce processDatagram
  rw [h]
  simp only
  -- A network message reaches no service.
  by_cases hnetwork : npdu.isNetworkMessage = true
  · rw [if_pos hnetwork]
    apply serves_quiet _ state
    · simp
    · rintro ⟨hquiet, _⟩
      rw [hnetwork] at hquiet
      cases hquiet
  · rw [if_neg hnetwork]
    have happlication : npdu.isNetworkMessage = false := by simpa using hnetwork
    have hgiven := given_answer dispatch state [] npdu (requestOf payload) (some source)
    generalize answer (recording dispatch) (state, []) npdu (requestOf payload) (some source)
      = answered at hgiven ⊢
    obtain ⟨⟨after, given⟩, response⟩ := answered
    simp only [List.nil_append] at hgiven
    subst hgiven
    -- Given to the dispatcher exactly when the payload is an APDU, and answered to the sender.
    constructor
    · intro address hmem
      rcases requestOf_cases payload with ⟨apdu, hdecode, hrequest⟩ | ⟨_, hrequest⟩
      · rw [hrequest] at hmem
        exact ⟨List.mem_singleton.mp hmem, happlication, apdu, hdecode⟩
      · rw [hrequest] at hmem
        cases hmem
    · rintro ⟨_, apdu, hdecode⟩
      rcases requestOf_cases payload with ⟨_, _, hrequest⟩ | ⟨hnone, _⟩
      · rw [hrequest]
        exact List.mem_singleton_self _
      · exact absurd ⟨apdu, hdecode⟩ hnone
    · intro replies hreplies reply hreply
      cases response with
      | error fault => cases hreplies
      | ok response =>
          cases hreplies
          cases response with
          | none => cases hreply
          | some response => exact List.mem_singleton.mp hreply ▸ rfl

/-- What the loop gives and sends, device by device. -/
theorem routeEach_serves (dispatch : δ → Dispatch σ) (npdu : Npdu) (request : Except Bytes Apdu)
    (alone : Bool) (source replyTo : SocketAddr) (reached : List (NetworkAddress × δ)) :
    ∀ (state : σ) (given : List (Option SocketAddr)), ∃ more,
      (routeEach (fun device => recording (dispatch device)) npdu request alone source replyTo
          (state, given) reached).1.2 = given ++ more
        ∧ (∀ address ∈ more, address = some source)
        ∧ (more ≠ [] ↔ request.toOption.isSome = true ∧ reached ≠ [])
        ∧ ∀ replies, (routeEach (fun device => recording (dispatch device)) npdu request alone
            source replyTo (state, given) reached).2 = .ok replies →
          ∀ reply ∈ replies, reply.2 = replyTo := by
  induction reached with
  | nil =>
      intro state given
      refine ⟨[], (List.append_nil _).symm, by simp, by simp, ?_⟩
      intro replies hreplies
      cases hreplies
      simp
  | cons device rest ih =>
      obtain ⟨address, device⟩ := device
      intro state given
      unfold routeEach
      by_cases hskip : (request.toOption.isNone && !alone) = true
      · rw [if_pos hskip]
        obtain ⟨more, hmore, hsource, hsome, hreplies⟩ := ih state given
        refine ⟨more, hmore, hsource, ?_, hreplies⟩
        have hundecoded : request.toOption.isSome = false := by
          rw [Bool.and_eq_true] at hskip
          simpa using hskip.1
        rw [hsome, hundecoded]
        simp
      · rw [if_neg hskip]
        have hgiven := given_answer (dispatch device) state given npdu request (some source)
        generalize answer (recording (dispatch device)) (state, given) npdu request (some source)
          = answered at hgiven ⊢
        obtain ⟨⟨after, told⟩, response⟩ := answered
        simp only at hgiven
        subst hgiven
        -- What this device is given, before the others are.
        have hown : ∀ a ∈ (if request.toOption.isSome then [some source] else []),
            a = some source := fun a ha => eq_of_mem_given ha
        have hnotEmpty := given_ne_nil_iff request source
        generalize (if request.toOption.isSome then [some source] else []) = own
          at hown hnotEmpty ⊢
        cases response with
        | error fault =>
            refine ⟨own, rfl, hown, ?_, fun _ h => by cases h⟩
            rw [hnotEmpty]
            simp
        | ok response =>
            obtain ⟨more, hmore, hsource, hsome, hreplies⟩ := ih after (given ++ own)
            refine ⟨own ++ more, ?_, ?_, ?_, ?_⟩
            · rw [← List.append_assoc]
              exact hmore
            · intro a ha
              rcases List.mem_append.mp ha with hfirst | hlater
              · exact hown a hfirst
              · exact hsource a hlater
            · rw [ne_eq, List.append_eq_nil_iff, not_and_or, ← ne_eq, ← ne_eq, hnotEmpty, hsome]
              constructor
              · rintro (hdecoded | ⟨hdecoded, _⟩)
                · exact ⟨hdecoded, List.cons_ne_nil _ _⟩
                · exact ⟨hdecoded, List.cons_ne_nil _ _⟩
              · rintro ⟨hdecoded, _⟩
                exact .inl hdecoded
            · intro replies hall reply hreply
              cases hrest : (routeEach (fun device => recording (dispatch device)) npdu request
                  alone source replyTo (after, given ++ own) rest).2 with
              | error fault =>
                  simp only [hrest] at hall
                  cases hall
              | ok others =>
                  simp only [hrest] at hall
                  cases hall
                  rcases List.mem_append.mp hreply with hfirst | hlater
                  · cases response with
                    | none => cases hfirst
                    | some response => exact List.mem_singleton.mp hfirst ▸ rfl
                  · exact hreplies others hrest reply hlater

theorem route_serves {data : Bytes} {npdu : Npdu} {payload : Bytes}
    {origin : Option SocketAddr} (h : decodeBacnetIpFrame data = some (npdu, payload, origin))
    (routes : Routes δ) (dispatch : δ → Dispatch σ) (state : σ) (source : SocketAddr) :
    Serves source (origin.getD source) (DispatchedBehind routes npdu payload)
      (route routes (fun device => recording (dispatch device)) (state, []) data source) := by
  obtain ⟨header, hheader⟩ := header_of_frame h
  unfold route
  rw [hheader, h]
  simp only
  -- A network message is answered by the router itself and dispatched to nobody.
  by_cases hnetwork : npdu.isNetworkMessage = true
  · rw [if_pos hnetwork]
    apply serves_quiet _ state
    · intro reply hreply
      obtain ⟨frame, _, rfl⟩ := Option.map_eq_some_iff.mp (Option.mem_toList.mp hreply)
      rfl
    · rintro ⟨⟨hquiet, _⟩, _⟩
      rw [hnetwork] at hquiet
      cases hquiet
  · rw [if_neg hnetwork]
    have happlication : npdu.isNetworkMessage = false := by simpa using hnetwork
    cases hdestination : npdu.destination with
    | none =>
        apply serves_quiet _ state
        · simp
        · rintro ⟨_, destination, hsome, _⟩
          rw [hdestination] at hsome
          cases hsome
    | some destination =>
        simp only
        cases hreached : routes.reachedBy destination with
        | none =>
            apply serves_quiet _ state
            · intro reply hreply
              split at hreply
              · exact List.mem_singleton.mp hreply ▸ rfl
              · cases hreply
            · rintro ⟨_, other, hsome, reached, hfound, _⟩
              rw [hdestination] at hsome
              cases hsome
              rw [hreached] at hfound
              cases hfound
        | some reached =>
            simp only
            obtain ⟨more, hmore, hsource, hsome, hreplies⟩ := routeEach_serves dispatch npdu
              (requestOf payload) (reached.length == 1 && !destination.address.isEmpty) source
              (origin.getD source) reached state []
            have hdecodes : (requestOf payload).toOption.isSome = true
                ↔ ∃ apdu, Apdu.decode payload = .ok apdu := by
              rcases requestOf_cases payload with ⟨apdu, hdecode, hrequest⟩ | ⟨hnone, hrequest⟩
              · rw [hrequest]
                exact ⟨fun _ => ⟨apdu, hdecode⟩, fun _ => rfl⟩
              · rw [hrequest]
                exact ⟨fun h => (by cases h), fun h => absurd h hnone⟩
            -- Something is dispatched exactly when a device is reached and the request decodes.
            have hbehind : DispatchedBehind routes npdu payload ↔ more ≠ [] := by
              rw [hsome, hdecodes]
              constructor
              · rintro ⟨⟨_, hdecode⟩, other, hother, found, hfound, hany⟩
                rw [hdestination] at hother
                cases hother
                rw [hreached] at hfound
                cases hfound
                exact ⟨hdecode, hany⟩
              · rintro ⟨hdecode, hany⟩
                exact ⟨⟨happlication, hdecode⟩, destination, hdestination, reached, hreached, hany⟩
            rw [List.nil_append] at hmore
            constructor
            · intro given hgiven
              rw [hmore] at hgiven
              exact ⟨hsource given hgiven, hbehind.mpr (List.ne_nil_of_mem hgiven)⟩
            · intro hdispatched
              obtain ⟨given, hgiven⟩ := List.exists_mem_of_ne_nil more (hbehind.mp hdispatched)
              rw [hmore, ← hsource given hgiven]
              exact hgiven
            · exact hreplies

/-- **Requests come from where replies go, exactly when no Forwarded-NPDU that reaches a
dispatcher names another address than it came from**, at either front end, whatever the
dispatchers do. -/
theorem replied_where_dispatched_iff {data : Bytes} {npdu : Npdu} {payload : Bytes}
    {origin : Option SocketAddr} (h : decodeBacnetIpFrame data = some (npdu, payload, origin))
    (routes : Routes δ) (dispatch : Dispatch σ) (behind : δ → Dispatch σ) (state : σ)
    (source : SocketAddr) :
    (OneAddress (origin.getD source) (serveOnce (recording dispatch) (state, []) data source)
        ↔ origin.getD source = source ∨ ¬ Dispatched npdu payload)
      ∧ (OneAddress (origin.getD source)
          (route routes (fun device => recording (behind device)) (state, []) data source)
        ↔ origin.getD source = source ∨ ¬ DispatchedBehind routes npdu payload) :=
  ⟨(serveOnce_serves h dispatch state source).oneAddress_iff,
    (route_serves h routes behind state source).oneAddress_iff⟩

/-- A Who-Is from 10.0.0.9, forwarded. -/
def forwardedWhoIs : Bytes :=
  [0x81, 0x04, 0x00, 0x0E, 0x0A, 0x00, 0x00, 0x09, 0xBA, 0xC0, 0x01, 0x00, 0x10, 0x08]

/-- One that carried it itself. -/
theorem replied_where_dispatched_iff_same :
    OneAddress (.v4 0x0A000009 47808) (serveOnce (recording (fun state _ _ _ => (state, .ok none)))
      ((), []) forwardedWhoIs (.v4 0x0A000009 47808)) := by
  have hframe : decodeBacnetIpFrame forwardedWhoIs
      = some (.new, [0x10, 0x08], some (.v4 0x0A000009 47808)) := by decide +kernel
  exact (replied_where_dispatched_iff hframe (⟨[], []⟩ : Routes Unit) _
    (fun _ state _ _ _ => (state, .ok none)) () _).1.mpr (.inl rfl)

/-- Through a BBMD at 10.0.0.2, the dispatcher is given the BBMD's address. -/
theorem forwarded_from_carrier :
    ¬ OneAddress (.v4 0x0A000009 47808)
      (serveOnce (recording (fun state _ _ _ => (state, .ok none))) ((), []) forwardedWhoIs
        (.v4 0x0A000002 47808)) := by
  rintro ⟨hgiven, _⟩
  have hcarrier := hgiven (some (.v4 0x0A000002 47808)) (by decide +kernel)
  exact absurd hcarrier (by decide)

end BacnetRs.Server
