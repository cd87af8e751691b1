/-
  BacnetRs.Client.Windows — what a discovery hears
  (`start_discovery`, `handle_packet`, `handle_timeouts` and `fail_all` in
  `client/async_client.rs`).

  A discovery is told of every device, or of every router, that announces
  itself while its window is open, and of nothing else: its window opens when
  its frame is sent and closes with the first round of timeouts at or after
  its deadline, whatever else the endpoint does meanwhile.

    * `step_windows`, `step_heard` — what a step leaves of the windows, and what it
                           tells whom.
    * `discovery_hears`  — and so what any run tells a discovery.
-/
import BacnetRs.Client.CovRouting
import BacnetRs.Client.Datagrams

namespace BacnetRs.Client

open BacnetRs.Object BacnetRs.Service BacnetRs.Network BacnetRs.App

/-! ## §1. What is told -/

/-- What a discovery looks for. -/
inductive Sought where
  | devices
  | routers
  deriving Repr, DecidableEq

namespace Sought

/-- The command that starts a discovery. -/
def command : Sought → Bytes → SocketAddr → Channel → Endpoint.EndpointCommand
  | devices => .discoverDevices
  | routers => .discoverRouters

/-- The discoveries under way. -/
def windows (endpoint : Endpoint) : Sought → List ActiveDiscovery
  | devices => endpoint.deviceDiscoveries
  | routers => endpoint.routerDiscoveries

/-- What a datagram announces.  An I-Am in a network message is none. -/
def announced (data : Bytes) (source : SocketAddr) : Sought → Option Discovered
  | devices =>
      (decodeBacnetIpFrame data source).okPart.bind (fun frame =>
        if frame.npdu.isNetworkMessage then none
        else (parseIamResponse data source).okPart.map .device)
  | routers => (parseIAmRouterResponse data source).okPart.map .router

end Sought

/-- What an entry puts into a discovery's channel. -/
def Entry.heard (sink : Channel) (entry : Entry) : Option (Except ClientError Discovered) :=
  match entry.effect with
  | .discovered channel found => if channel = sink then some found else none
  | _ => none

/-- What is put into a discovery's channel, in order. -/
def heardBy (sink : Channel) (entries : List Entry) : List (Except ClientError Discovered) :=
  entries.filterMap (Entry.heard sink)

theorem heardBy_append (sink : Channel) (es fs : List Entry) :
    heardBy sink (es ++ fs) = heardBy sink es ++ heardBy sink fs :=
  List.filterMap_append

theorem heardBy_eq_nil {sink : Channel} {entries : List Entry}
    (h : ∀ entry ∈ entries, entry.heard sink = none) : heardBy sink entries = [] :=
  List.filterMap_eq_nil_iff.mpr h

theorem heard_of_sendsFor {sink : Channel} {key : TransactionKey} {entry : Entry}
    (h : entry.sendsFor key) : entry.heard sink = none := by
  obtain ⟨_, _, _, heffect, _⟩ := h
  unfold Entry.heard
  rw [heffect]

/-- What is told to several discoveries, one of them hears. -/
theorem heardBy_map (host : Host) (sink : Channel) (found : Except ClientError Discovered)
    (windows : List ActiveDiscovery) :
    heardBy sink (windows.map (fun window => host.entry (.discovered window.sink found)))
      = (windows.filter (fun window => decide (window.sink = sink))).map (fun _ => found) := by
  induction windows with
  | nil => rfl
  | cons window windows ih =>
      have hfirst : Entry.heard sink (host.entry (.discovered window.sink found))
          = if window.sink = sink then some found else none := rfl
      unfold heardBy at ih ⊢
      rw [List.map_cons, List.filter_cons, List.filterMap_cons, ih, hfirst]
      by_cases hsame : window.sink = sink
      · simp [hsame]
      · simp [hsame]

namespace Endpoint

/-- The windows of one channel. -/
def windowsOf (endpoint : Endpoint) (sink : Channel) (sought : Sought) : List ActiveDiscovery :=
  (sought.windows endpoint).filter (fun window => decide (window.sink = sink))

/-- What the windows of one channel are told of what is announced. -/
def tellings (endpoint : Endpoint) (sink : Channel) (announced : Sought → Option Discovered) :
    List (Except ClientError Discovered) :=
  [Sought.devices, Sought.routers].flatMap (fun sought =>
    (announced sought).elim [] (fun found =>
      (endpoint.windowsOf sink sought).map (fun _ => .ok found)))

/-- A discovery whose frame cannot be sent has no window. -/
theorem startDiscovery_refused (endpoint : Endpoint) {host : Host} {frame : Bytes}
    {destination : SocketAddr} {sink : Channel} {error : IoError}
    (hclosed : host.isClosed sink = false) (hsend : host.sendTo destination frame = some error) :
    endpoint.startDiscovery host frame destination sink
      = (none, [host.entry (.discovered sink (.error (.io error)))]) := by
  simp [startDiscovery, hclosed, hsend]

/-- One whose frame is sent waits for the endpoint's timeout. -/
theorem startDiscovery_sent (endpoint : Endpoint) {host : Host} {frame : Bytes}
    {destination : SocketAddr} {sink : Channel} (hclosed : host.isClosed sink = false)
    (hsend : host.sendTo destination frame = none) :
    endpoint.startDiscovery host frame destination sink
      = (some ⟨sink, host.now + endpoint.timeout⟩,
        [host.entry (.sent .discovery destination frame)]) := by
  simp [startDiscovery, hclosed, hsend]

/-! ## §2. Datagrams -/

theorem dispatch_heard (endpoint : Endpoint) (host : Host) (notification : CovNotification)
    (sink : Channel) : heardBy sink (endpoint.dispatchCovNotification host notification) = [] := by
  unfold dispatchCovNotification
  split <;> rfl

theorem sendIgnored_heard (host : Host) (purpose : Purpose) (destination : SocketAddr)
    (frame : Bytes) (sink : Channel) :
    heardBy sink (sendIgnored host purpose destination frame) = [] := by
  unfold sendIgnored
  split <;> rfl

theorem handleConfirmedCov_heard {endpoint : Endpoint} {host : Host}
    {request : ConfirmedRequest} {source : SocketAddr} {route : Option NetworkAddress}
    {entries : List Entry}
    (h : endpoint.handleConfirmedCovNotification host request source route = some entries)
    (sink : Channel) : heardBy sink entries = [] := by
  unfold handleConfirmedCovNotification at h
  simp only at h
  split at h
  · cases h
    exact sendIgnored_heard host _ _ _ sink
  · split at h
    · cases h
    · cases h
      rw [heardBy_append, dispatch_heard, sendIgnored_heard]
      rfl
    · cases h
      exact sendIgnored_heard host _ _ _ sink

theorem handleUnconfirmedCov_heard {endpoint : Endpoint} {host : Host} {payload : Bytes}
    {entries : List Entry} (h : endpoint.handleUnconfirmedCov host payload = some entries)
    (sink : Channel) : heardBy sink entries = [] := by
  unfold handleUnconfirmedCov at h
  split at h
  · cases h
    rfl
  · split at h
    · cases h
    · split at h
      · cases h
      · cases h
        exact dispatch_heard endpoint host _ sink
      · cases h
        rfl
    · cases h
      rfl

theorem handleApdu_heard (endpoint : Endpoint) (host : Host) (apdu : Apdu) (source : SocketAddr)
    (route : Option NetworkAddress) (sink : Channel) :
    (∀ sought, Sought.windows (endpoint.handleApdu host apdu source route).1 sought
        = Sought.windows endpoint sought)
      ∧ heardBy sink (endpoint.handleApdu host apdu source route).2 = [] := by
  rcases endpoint.handleApdu_cases host apdu source route with
    hnone | ⟨invokeId, transaction, _, hlookup, hresponse⟩
  · rw [hnone]
    exact ⟨fun _ => rfl, rfl⟩
  · rw [hresponse]
    have hhandled := handleResponse_handled hlookup host apdu route
    generalize endpoint.handleResponse host (source, invokeId) transaction apdu route = outcome
      at hhandled ⊢
    cases hhandled with
    | ignored => exact ⟨fun _ => rfl, rfl⟩
    | kept kept entries hkeeps =>
        refine ⟨fun sought => by cases sought <;> rfl, heardBy_eq_nil (fun entry hentry => ?_)⟩
        exact heard_of_sendsFor (hkeeps.sendsFor entry hentry)
    | closed rtt sends time result hcloses =>
        refine ⟨fun sought => by cases sought <;> rfl, ?_⟩
        rw [heardBy_append, heardBy_eq_nil (fun entry hentry =>
          heard_of_sendsFor (hcloses.sendsFor entry hentry))]
        rfl

theorem handleDecoded_heard {endpoint : Endpoint} {host : Host} {apdu : Apdu}
    {source : SocketAddr} {route : Option NetworkAddress} {outcome : Endpoint × List Entry}
    (h : endpoint.handleDecoded host apdu source route = some outcome) (sink : Channel) :
    (∀ sought, Sought.windows outcome.1 sought = Sought.windows endpoint sought)
      ∧ heardBy sink outcome.2 = [] := by
  unfold handleDecoded at h
  split at h
  · split at h
    · obtain ⟨entries, hentries, rfl⟩ := Option.map_eq_some_iff.mp h
      exact ⟨fun _ => rfl, handleConfirmedCov_heard hentries sink⟩
    · cases h
      exact endpoint.handleApdu_heard host _ source route sink
  · cases h
    exact endpoint.handleApdu_heard host _ source route sink

/-- While nothing is looked for, nothing would be told. -/
theorem tellings_of_isEmpty {endpoint : Endpoint} (sought : Sought) (sink : Channel)
    (h : (sought.windows endpoint).isEmpty = true) (found : Option Discovered) :
    found.elim [] (fun found => (endpoint.windowsOf sink sought).map
      (fun _ => (Except.ok found : Except ClientError Discovered))) = [] := by
  unfold windowsOf
  rw [List.isEmpty_iff.mp h]
  cases found <;> rfl

theorem handleNetworkMessage_heard {endpoint : Endpoint} {host : Host} {data : Bytes}
    {source : SocketAddr} {entries : List Entry}
    (h : endpoint.handleNetworkMessage host data source = some entries) (sink : Channel) :
    heardBy sink entries = (Sought.announced data source .routers).elim [] (fun found =>
      (endpoint.windowsOf sink .routers).map (fun _ => .ok found)) := by
  unfold handleNetworkMessage at h
  split at h
  next hempty =>
    cases h
    exact (tellings_of_isEmpty .routers sink hempty _).symm
  · unfold Sought.announced
    split at h
    · cases h
    next hparse =>
      cases h
      rw [hparse]
      rfl
    next router hparse =>
      cases h
      rw [hparse]
      exact heardBy_map host sink _ _

theorem handleIAm_heard {endpoint : Endpoint} {host : Host} {data : Bytes}
    {source : SocketAddr} {entries : List Entry}
    (h : endpoint.handleIAm host data source = some entries) (sink : Channel) :
    heardBy sink entries
      = ((parseIamResponse data source).okPart.map Discovered.device).elim [] (fun found =>
        (endpoint.windowsOf sink .devices).map (fun _ => .ok found)) := by
  unfold handleIAm at h
  split at h
  next hempty =>
    cases h
    exact (tellings_of_isEmpty .devices sink hempty _).symm
  · split at h
    · cases h
    next hparse =>
      cases h
      rw [hparse]
      rfl
    next device hparse =>
      cases h
      rw [hparse]
      exact heardBy_map host sink _ _

end Endpoint

/-- What is no frame announces nothing. -/
theorem Sought.announced_of_error {data : Bytes} {source : SocketAddr} {fault : Fault Unit}
    (h : decodeBacnetIpFrame data source = .error fault) (sought : Sought) :
    announced data source sought = none := by
  cases sought with
  | devices =>
      unfold announced
      rw [h]
      rfl
  | routers =>
      unfold announced parseIAmRouterResponse
      rw [h]
      rfl

section Frame

variable {data : Bytes} {source : SocketAddr} {frame : DecodedBacnetIpFrame}
  (hframe : decodeBacnetIpFrame data source = .ok frame)

include hframe

theorem Sought.announced_devices_of_message (h : frame.npdu.isNetworkMessage = true) :
    announced data source devices = none := by
  unfold announced
  rw [hframe]
  exact if_pos h

theorem Sought.announced_devices (h : frame.npdu.isNetworkMessage = false) :
    announced data source devices = (parseIamResponse data source).okPart.map .device := by
  unfold announced
  rw [hframe]
  show (if frame.npdu.isNetworkMessage = true then none else _) = _
  rw [h]
  rfl

theorem Sought.announced_routers_of_application (h : frame.npdu.isNetworkMessage = false) :
    announced data source routers = none := by
  unfold announced parseIAmRouterResponse
  rw [hframe]
  show ((if !frame.npdu.isNetworkMessage then _ else _ : Checked Unit DiscoveredRouter)).okPart.map
    _ = none
  rw [h]
  rfl

/-- An I-Am is an unconfirmed request. -/
theorem parseIamResponse_of_head (h : frame.payload.head? ≠ some 0x10) :
    (parseIamResponse data source).okPart = none := by
  cases hresponse : (parseIamResponse data source).okPart with
  | none => rfl
  | some response =>
      obtain ⟨found, hfound, hrest⟩ := Checked.bind_eq_ok.mp (Checked.okPart_eq_some.mp hresponse)
      rw [hframe] at hfound
      cases hfound
      split at hrest
      next pduType choice serviceData hpayload =>
        have hiam := (Checked.guard_eq_ok.mp hrest).1
        have hne : pduType ≠ 0x10 := fun heq => h (by rw [hpayload, heq]; rfl)
        exact absurd (.inl hne) hiam
      next => cases hrest

end Frame

namespace Endpoint

/-- **A datagram is told to whoever looks for what it announces**, once to each, and to nobody
else. -/
theorem handlePacket_heard {endpoint : Endpoint} {host : Host} {data : Bytes}
    {source : SocketAddr} {outcome : Endpoint × List Entry}
    (h : endpoint.handlePacket host data source = some outcome) (sink : Channel) :
    (∀ sought, Sought.windows outcome.1 sought = Sought.windows endpoint sought)
      ∧ heardBy sink outcome.2 = endpoint.tellings sink (Sought.announced data source) := by
  unfold handlePacket at h
  have htellings : endpoint.tellings sink (Sought.announced data source)
      = (Sought.announced data source .devices).elim [] (fun found =>
          (endpoint.windowsOf sink .devices).map (fun _ => .ok found))
        ++ ((Sought.announced data source .routers).elim [] (fun found =>
          (endpoint.windowsOf sink .routers).map (fun _ => .ok found))
        ++ []) := rfl
  rw [htellings, List.append_nil]
  cases hframe : decodeBacnetIpFrame data source with
  | error fault =>
      rw [Sought.announced_of_error hframe, Sought.announced_of_error hframe]
      rw [hframe] at h
      cases fault with
      | panic => cases h
      | error e =>
          cases h
          exact ⟨fun _ => rfl, rfl⟩
  | ok frame =>
      rw [hframe] at h
      simp only at h
      split at h
      next hmessage =>
        obtain ⟨entries, hentries, rfl⟩ := Option.map_eq_some_iff.mp h
        refine ⟨fun _ => rfl, ?_⟩
        rw [Sought.announced_devices_of_message hframe hmessage]
        exact handleNetworkMessage_heard hentries sink
      next hmessage =>
        have happlication : frame.npdu.isNetworkMessage = false := by simpa using hmessage
        rw [Sought.announced_devices hframe happlication,
          Sought.announced_routers_of_application hframe happlication, Option.elim_none,
          List.append_nil]
        split at h
        · obtain ⟨found, hfound, hrest⟩ := Option.bind_eq_some_iff.mp h
          obtain ⟨entries, hentries, rfl⟩ := Option.map_eq_some_iff.mp hrest
          refine ⟨fun _ => rfl, ?_⟩
          rw [heardBy_append, handleUnconfirmedCov_heard hentries, List.append_nil]
          exact handleIAm_heard hfound sink
        next hhead =>
          rw [parseIamResponse_of_head hframe hhead]
          split at h
          · cases h
          · cases h
            exact ⟨fun _ => rfl, rfl⟩
          · exact handleDecoded_heard h sink

/-! ## §3. The other handlers -/

/-- What is left of the windows when what was dropped is reclaimed. -/
def reclaimed (dropped : List Channel) (windows : List ActiveDiscovery) : List ActiveDiscovery :=
  windows.filter (fun window => !dropped.contains window.sink)

theorem windows_removeCancelled (endpoint : Endpoint) (dropped : List Channel) (sought : Sought) :
    Sought.windows (endpoint.removeCancelled dropped) sought
      = reclaimed dropped (Sought.windows endpoint sought) := by
  cases sought <;> rfl

theorem reclaimed_reclaimed (dropped : List Channel) (windows : List ActiveDiscovery) :
    reclaimed dropped (reclaimed dropped windows) = reclaimed dropped windows := by
  unfold reclaimed
  rw [List.filter_filter]
  simp only [Bool.and_self]

theorem Admission.heard {endpoint : Endpoint} {host : Host} {target : BacnetTarget}
    {serviceChoice : ConfirmedServiceChoice} {serviceData : Bytes} {response : Channel}
    {outcome : Endpoint × List Entry}
    (h : Admission endpoint host target serviceChoice serviceData response outcome) :
    (∀ sought, reclaimed host.dropped (Sought.windows outcome.1 sought)
        = reclaimed host.dropped (Sought.windows endpoint sought))
      ∧ ∀ sink, heardBy sink outcome.2 = [] := by
  have hswept : ∀ sought, reclaimed host.dropped
      (Sought.windows (endpoint.swept host target.address) sought)
        = reclaimed host.dropped (Sought.windows endpoint sought) := by
    intro sought
    have hsame : Sought.windows (endpoint.swept host target.address) sought
        = Sought.windows (endpoint.removeCancelled host.dropped) sought := by
      cases sought <;> rfl
    rw [hsame, windows_removeCancelled, reclaimed_reclaimed]
  cases h with
  | cancelled => exact ⟨fun _ => rfl, fun _ => rfl⟩
  | exhausted | refused => exact ⟨hswept, fun _ => rfl⟩
  | admitted invokeId frames hfree hsplit =>
      exact ⟨fun sought => by rw [← hswept]; cases sought <;> rfl, fun _ => rfl⟩
  | unsent invokeId error hfree =>
      exact ⟨fun sought => by rw [← hswept]; cases sought <;> rfl, fun _ => rfl⟩

theorem Expiry.heard {endpoint : Endpoint} {host : Host} {key : TransactionKey}
    {transaction : PendingTransaction} {outcome : Endpoint × List Entry}
    (h : Expiry endpoint host key transaction outcome) :
    (∀ sought, Sought.windows outcome.1 sought = Sought.windows endpoint sought)
      ∧ ∀ sink, heardBy sink outcome.2 = [] := by
  cases h with
  | cancelled | timedOut => exact ⟨fun sought => by cases sought <;> rfl, fun _ => rfl⟩
  | attempted hretries deadline =>
      refine ⟨fun sought => by cases sought <;> rfl,
        fun sink => heardBy_eq_nil (fun entry hentry => ?_)⟩
      exact heard_of_sendsFor (sendsFor_of_mem_sendEntries
        (fun _ hm => key?_of_mem_retransmission (List.mem_of_mem_filter hm)) hentry)
  | failed count error =>
      refine ⟨fun sought => by cases sought <;> rfl, fun sink => ?_⟩
      rw [heardBy_append, heardBy_eq_nil (fun entry hentry => ?_)]
      · rfl
      · exact heard_of_sendsFor (sendsFor_of_mem_sendEntries (fun _ hm =>
          key?_of_mem_retransmission (List.mem_of_mem_filter (List.mem_of_mem_take hm))) hentry)

theorem expireEach_heard (host : Host) (visits : List (TransactionKey × Instant))
    (endpoint : Endpoint) :
    (∀ sought, Sought.windows (endpoint.expireEach host visits).1 sought
        = Sought.windows endpoint sought)
      ∧ ∀ sink, heardBy sink (endpoint.expireEach host visits).2 = [] := by
  refine expireEach_relates (P := fun a b entries =>
    (∀ sought, Sought.windows b sought = Sought.windows a sought)
      ∧ ∀ sink, heardBy sink entries = []) (fun _ => ⟨fun _ => rfl, fun _ => rfl⟩) ?_
    (fun _ _ _ _ _ _ hexpiry => hexpiry.heard) visits endpoint
  intro a b c es fs hab hbc
  refine ⟨fun sought => (hbc.1 sought).trans (hab.1 sought), fun sink => ?_⟩
  rw [heardBy_append, hab.2 sink, hbc.2 sink]
  rfl

/-- Timeouts close the windows that are over, and tell nobody. -/
theorem handleTimeouts_heard (endpoint : Endpoint) (host : Host)
    (visits : List (TransactionKey × Instant)) :
    (∀ sought, Sought.windows (endpoint.handleTimeouts host visits).1 sought
        = (Sought.windows endpoint sought).filter (fun d => decide (host.now < d.deadline)))
      ∧ ∀ sink, heardBy sink (endpoint.handleTimeouts host visits).2 = [] := by
  obtain ⟨hwindows, hquiet⟩ := expireEach_heard host visits
    { endpoint with
      deviceDiscoveries :=
        endpoint.deviceDiscoveries.filter (fun d => decide (host.now < d.deadline))
      routerDiscoveries :=
        endpoint.routerDiscoveries.filter (fun d => decide (host.now < d.deadline)) }
  refine ⟨fun sought => (hwindows sought).trans ?_, hquiet⟩
  cases sought <;> rfl

theorem failAll_heard (endpoint : Endpoint) (now : Instant) (error : ClientError)
    (sink : Channel) :
    heardBy sink (endpoint.failAll now error).2
      = (endpoint.windowsOf sink .devices ++ endpoint.windowsOf sink .routers).map
        (fun _ => .error error) := by
  have hanswered : heardBy sink ((KeyedTable.values endpoint.pending).map
      (fun transaction => (⟨now, .answered transaction.response (.error error)⟩ : Entry))) = [] := by
    refine heardBy_eq_nil (fun entry hentry => ?_)
    obtain ⟨transaction, _, rfl⟩ := List.mem_map.mp hentry
    rfl
  have hdiscovered := heardBy_map ⟨now, fun _ _ => none, []⟩ sink (.error error)
    (endpoint.deviceDiscoveries ++ endpoint.routerDiscoveries)
  rw [List.filter_append] at hdiscovered
  show heardBy sink (_ ++ _) = _
  rw [heardBy_append, hanswered, List.nil_append]
  exact hdiscovered

end Endpoint

namespace World

/-! ## §4. A step -/

/-- The windows that an event opens. -/
def opened (world : World) : Event → Sought → List ActiveDiscovery
  | .command now sendTo (.discoverDevices frame destination sink), .devices =>
      (world.endpoint.startDiscovery (world.host now sendTo) frame destination sink).1.toList
  | .command now sendTo (.discoverRouters frame destination sink), .routers =>
      (world.endpoint.startDiscovery (world.host now sendTo) frame destination sink).1.toList
  | _, _ => []

/-- What an event leaves of the windows. -/
def remaining : Event → List ActiveDiscovery → List ActiveDiscovery
  | .timeouts now _ _, windows => windows.filter (fun window => decide (now < window.deadline))
  | .stop _ _, _ => []
  | _, windows => windows

/-- What is reclaimed after an event: nothing, when a channel is dropped. -/
def reclaims (world : World) : Event → List Channel
  | .drop _ => []
  | _ => world.dropped

/-- What an event tells a discovery. -/
def tellings (world : World) (sink : Channel) : Event → List (Except ClientError Discovered)
  | .packet _ _ data source => world.endpoint.tellings sink (Sought.announced data source)
  | .stop _ error =>
      (world.endpoint.windowsOf sink .devices ++ world.endpoint.windowsOf sink .routers).map
        (fun _ => .error (error.elim .endpointClosed ClientError.io))
  | _ => []

variable {world after : World} {event : Event}

theorem handleCommand_windows (world : World) (now : Instant)
    (sendTo : SocketAddr → Bytes → Option IoError) (command : Endpoint.EndpointCommand)
    (sought : Sought) :
    Endpoint.reclaimed world.dropped
        (Sought.windows (world.endpoint.handleCommand (world.host now sendTo) command).1 sought)
      = Endpoint.reclaimed world.dropped (Sought.windows world.endpoint sought
          ++ world.opened (.command now sendTo command) sought) := by
  cases command with
  | confirmed target serviceChoice serviceData response =>
      rw [show world.opened (.command now sendTo (.confirmed target serviceChoice serviceData
        response)) sought = [] from by cases sought <;> rfl, List.append_nil]
      exact (Endpoint.handleConfirmedCommand_admission world.endpoint (world.host now sendTo)
        target serviceChoice serviceData response).heard.1 sought
  | subscribeCov target key serviceData sink response =>
      rw [show world.opened (.command now sendTo (.subscribeCov target key serviceData sink
        response)) sought = [] from by cases sought <;> rfl, List.append_nil]
      refine ((Endpoint.handleConfirmedCommand_admission
        { world.endpoint with covSubscribers := world.endpoint.covSubscribers.insert key sink }
        (world.host now sendTo) target .subscribeCov serviceData response).heard.1 sought).trans ?_
      cases sought <;> rfl
  | discoverDevices frame destination sink =>
      cases sought with
      | devices => rfl
      | routers => rw [show world.opened _ Sought.routers = [] from rfl, List.append_nil]; rfl
  | discoverRouters frame destination sink =>
      cases sought with
      | devices => rw [show world.opened _ Sought.devices = [] from rfl, List.append_nil]; rfl
      | routers => rfl

/-- **What a step leaves of the windows**: those that were open and are not over, those it
opens, and of these not the ones whose callers are gone. -/
theorem step_windows (hstep : step world event = some after) (sought : Sought) :
    Sought.windows after.endpoint sought
      = Endpoint.reclaimed (world.reclaims event)
        (remaining event (Sought.windows world.endpoint sought) ++ world.opened event sought) := by
  obtain ⟨_, rfl⟩ := step_eq_some.mp hstep
  cases event with
  | command now sendTo command =>
      exact (Endpoint.windows_removeCancelled _ _ sought).trans
        (world.handleCommand_windows now sendTo command sought)
  | packet now sendTo data source =>
      obtain ⟨outcome, houtcome, hreact⟩ := world.react_packet_resumes now sendTo data source
      rw [hreact]
      refine (Endpoint.windows_removeCancelled outcome.1 world.dropped sought).trans ?_
      rw [(Endpoint.handlePacket_heard houtcome 0).1 sought]
      cases sought <;> exact congrArg _ (List.append_nil _).symm
  | timeouts now sendTo visits =>
      refine (Endpoint.windows_removeCancelled _ world.dropped sought).trans ?_
      rw [(world.endpoint.handleTimeouts_heard (world.host now sendTo) visits).1 sought]
      cases sought <;> exact congrArg _ (List.append_nil _).symm
  | drop channel =>
      show Sought.windows world.endpoint sought = _
      rw [show world.opened (.drop channel) sought = [] from by cases sought <;> rfl,
        List.append_nil]
      simp [Endpoint.reclaimed, reclaims, remaining]
  | stop now error => cases sought <;> rfl

/-- A discovery that is started is told of a frame that cannot be sent, and of nothing else. -/
theorem startDiscovery_heard (endpoint : Endpoint) (host : Host) (frame : Bytes)
    (destination : SocketAddr) {channel sink : Channel} (hother : channel ≠ sink) :
    heardBy sink (endpoint.startDiscovery host frame destination channel).2 = [] := by
  unfold Endpoint.startDiscovery
  split
  · rfl
  · split
    next error _ =>
      apply heardBy_eq_nil
      intro entry hentry
      rw [List.mem_singleton.mp hentry]
      exact if_neg hother
    · rfl

theorem handleCommand_heard (endpoint : Endpoint) (host : Host)
    {command : Endpoint.EndpointCommand} {sink : Channel} (hother : sink ∉ command.channels) :
    heardBy sink (endpoint.handleCommand host command).2 = [] := by
  cases command with
  | confirmed target serviceChoice serviceData response =>
      exact (Endpoint.handleConfirmedCommand_admission endpoint host target serviceChoice
        serviceData response).heard.2 sink
  | subscribeCov target key serviceData channel response =>
      exact (Endpoint.handleConfirmedCommand_admission
        { endpoint with covSubscribers := endpoint.covSubscribers.insert key channel } host target
        .subscribeCov serviceData response).heard.2 sink
  | discoverDevices frame destination channel =>
      exact startDiscovery_heard endpoint host frame destination
        (fun heq => hother (List.mem_singleton.mpr heq.symm))
  | discoverRouters frame destination channel =>
      exact startDiscovery_heard endpoint host frame destination
        (fun heq => hother (List.mem_singleton.mpr heq.symm))

/-- **What a step tells a discovery** that it does not itself start. -/
theorem step_heard (hstep : step world event = some after) {sink : Channel}
    (hissued : sink ∈ world.issued) :
    heardBy sink (entriesSince world after) = world.tellings sink event := by
  obtain ⟨hpermits, rfl⟩ := step_eq_some.mp hstep
  cases event with
  | command now sendTo command =>
      have hother : sink ∉ command.channels :=
        fun hmem => (not_issued_of_command hstep hmem).1 hissued
      rw [show entriesSince world (world.react (.command now sendTo command))
        = (world.endpoint.handleCommand (world.host now sendTo) command).2 from List.drop_left]
      exact handleCommand_heard _ _ hother
  | packet now sendTo data source =>
      obtain ⟨outcome, houtcome, hreact⟩ := world.react_packet_resumes now sendTo data source
      rw [hreact, entriesSince_resume]
      exact (Endpoint.handlePacket_heard houtcome sink).2
  | timeouts now sendTo visits =>
      rw [show entriesSince world (world.react (.timeouts now sendTo visits))
        = (world.endpoint.handleTimeouts (world.host now sendTo) visits).2 from List.drop_left]
      exact (world.endpoint.handleTimeouts_heard (world.host now sendTo) visits).2 sink
  | drop channel =>
      rw [show entriesSince world (world.react (.drop channel)) = [] from List.drop_length]
      rfl
  | stop now error =>
      rw [show entriesSince world (world.react (.stop now error))
        = (world.endpoint.failAll now (error.elim .endpointClosed ClientError.io)).2
        from List.drop_left]
      exact world.endpoint.failAll_heard now _ sink

/-- The windows an event opens are of channels it brings. -/
theorem sink_of_opened {sought : Sought} {window : ActiveDiscovery}
    (h : window ∈ world.opened event sought) :
    ∃ now sendTo command, event = .command now sendTo command ∧ window.sink ∈ command.channels := by
  have hstarted : ∀ {host : Host} {frame : Bytes} {destination : SocketAddr} {sink : Channel},
      window ∈ (world.endpoint.startDiscovery host frame destination sink).1.toList →
        window.sink = sink := by
    intro host frame destination sink hmem
    unfold Endpoint.startDiscovery at hmem
    split at hmem
    · cases hmem
    · split at hmem
      · cases hmem
      · have hsame := Option.some.inj (Option.mem_toList.mp hmem)
        rw [← hsame]
  unfold opened at h
  split at h
  · exact ⟨_, _, _, rfl, List.mem_singleton.mpr (hstarted h)⟩
  · exact ⟨_, _, _, rfl, List.mem_singleton.mpr (hstarted h)⟩
  · cases h

theorem mem_of_remaining {windows : List ActiveDiscovery} {window : ActiveDiscovery}
    (h : window ∈ remaining event windows) : window ∈ windows := by
  unfold remaining at h
  split at h
  · exact List.mem_of_mem_filter h
  · cases h
  · exact h

/-! ## §5. A run -/

/-- Every window is of a channel that was issued. -/
def Windowed (world : World) : Prop :=
  ∀ sought, ∀ window ∈ Sought.windows world.endpoint sought, window.sink ∈ world.issued

theorem step_windowed (h : world.Windowed) (hstep : step world event = some after) :
    after.Windowed := by
  intro sought window hmem
  rw [step_windows hstep] at hmem
  rcases List.mem_append.mp (List.mem_of_mem_filter hmem) with hbefore | hopened
  · exact step_issued hstep (h sought window (mem_of_remaining hbefore))
  · obtain ⟨now, sendTo, command, rfl, hchannel⟩ := sink_of_opened hopened
    exact (not_issued_of_command hstep hchannel).2

theorem Reachable.windowed {timeout : Duration} {retries : UInt8} {acceptedApdu : MaxApduSize}
    (h : Reachable timeout retries acceptedApdu world) : world.Windowed := by
  refine Machine.Reachable.invariant (fun _ _ _ => step_windowed) ?_ h
  intro sought window hmem
  cases sought <;> cases hmem

/-- The windows of a channel that is waited for are not reclaimed. -/
theorem filter_reclaimed {dropped : List Channel} {sink : Channel} (h : sink ∉ dropped)
    (windows : List ActiveDiscovery) :
    (Endpoint.reclaimed dropped windows).filter (fun window => decide (window.sink = sink))
      = windows.filter (fun window => decide (window.sink = sink)) := by
  unfold Endpoint.reclaimed
  rw [List.filter_filter]
  apply List.filter_congr
  intro window _
  by_cases hsame : window.sink = sink
  · rw [hsame]
    simpa using h
  · simp [hsame]

/-- What becomes of the windows of a channel that is there and waited for. -/
theorem step_windowsOf (hstep : step world event = some after) {sink : Channel}
    (hissued : sink ∈ world.issued) (hlive : sink ∉ world.dropped) (sought : Sought) :
    after.endpoint.windowsOf sink sought
      = remaining event (world.endpoint.windowsOf sink sought) := by
  have hkept : sink ∉ world.reclaims event := by
    unfold reclaims
    split
    · exact List.not_mem_nil
    · exact hlive
  have hnone : (world.opened event sought).filter (fun window => decide (window.sink = sink))
      = [] := by
    apply List.filter_eq_nil_iff.mpr
    intro window hmem
    obtain ⟨now, sendTo, command, rfl, hchannel⟩ := sink_of_opened hmem
    rw [decide_eq_true_eq]
    rintro rfl
    exact (not_issued_of_command hstep hchannel).1 hissued
  unfold Endpoint.windowsOf
  rw [step_windows hstep, filter_reclaimed hkept, List.filter_append, hnone, List.append_nil]
  cases event with
  | timeouts now sendTo visits => exact List.filter_comm _ _ _
  | command | packet | drop | stop => rfl

/-- What the window of a discovery is told, until it closes. -/
def told (sought : Sought) (window : ActiveDiscovery) :
    List Event → List (Except ClientError Discovered)
  | [] => []
  | .packet _ _ data source :: rest =>
      (Sought.announced data source sought).toList.map .ok ++ told sought window rest
  | .timeouts now _ _ :: rest => if now < window.deadline then told sought window rest else []
  | .stop _ error :: _ => [.error (error.elim .endpointClosed ClientError.io)]
  | .command _ _ _ :: rest => told sought window rest
  | .drop _ :: rest => told sought window rest

section Run

variable {sink : Channel} {events : List Event}

/-- The channel was issued, and its receiver is still there. -/
structure Waiting (sink : Channel) (world : World) : Prop where
  issued : sink ∈ world.issued
  live : sink ∉ world.dropped

theorem Waiting.step (h : Waiting sink world) (hstep : World.step world event = some after)
    (hkept : event ≠ .drop sink) : Waiting sink after := by
  refine ⟨step_issued hstep h.issued, ?_⟩
  obtain ⟨_, rfl⟩ := step_eq_some.mp hstep
  cases event with
  | command | timeouts | stop => exact h.live
  | packet now sendTo data source =>
      obtain ⟨outcome, _, hreact⟩ := world.react_packet_resumes now sendTo data source
      rw [hreact]
      exact h.live
  | drop channel =>
      intro hmem
      rcases List.mem_cons.mp hmem with rfl | hbefore
      · exact hkept rfl
      · exact h.live hbefore

/-- A discovery without a window. -/
def Closed (sink : Channel) (world : World) : Prop :=
  ∀ sought, world.endpoint.windowsOf sink sought = []

/-- A discovery with one window. -/
def Open (sink : Channel) (sought : Sought) (window : ActiveDiscovery) (world : World) : Prop :=
  ∀ other, world.endpoint.windowsOf sink other = if other = sought then [window] else []

theorem Closed.tellings (h : Closed sink world) (event : Event) :
    world.tellings sink event = [] := by
  cases event with
  | packet now sendTo data source =>
      show world.endpoint.tellings sink (Sought.announced data source) = []
      unfold Endpoint.tellings
      simp only [h _, List.map_nil, List.flatMap_cons, List.flatMap_nil, List.append_nil]
      cases Sought.announced data source .devices <;>
        cases Sought.announced data source .routers <;> rfl
  | stop now error =>
      show (_ ++ _ : List ActiveDiscovery).map _ = []
      rw [h, h]
      rfl
  | command | timeouts | drop => rfl

/-- A window that is closed stays closed, and nothing more is heard. -/
theorem run_closed : ∀ {world : World}, Machine.run World.step world events = some after →
    Waiting sink world → (∀ event ∈ events, event ≠ .drop sink) → Closed sink world →
      heardBy sink (entriesSince world after) = [] := by
  induction events with
  | nil =>
      intro world hrun _ _ _
      cases hrun
      rw [show entriesSince after after = [] from List.drop_length]
      rfl
  | cons event events ih =>
      intro world hrun hwaiting hkept hclosed
      obtain ⟨next, hnext, hrest⟩ := Machine.run_cons_eq_some.mp hrun
      obtain ⟨hfirst, hlater⟩ := List.forall_mem_cons.mp hkept
      have hstill : Closed sink next := by
        intro sought
        rw [step_windowsOf hnext hwaiting.issued hwaiting.live, hclosed]
        cases event <;> rfl
      rw [entriesSince_append (step_trace hnext) (run_trace hrest), heardBy_append,
        step_heard hnext hwaiting.issued, hclosed.tellings,
        ih hrest (hwaiting.step hnext hfirst) hlater hstill]
      rfl

theorem Open.tellings_packet {sought : Sought} {window : ActiveDiscovery}
    (h : Open sink sought window world) (data : Bytes) (source : SocketAddr) :
    world.endpoint.tellings sink (Sought.announced data source)
      = (Sought.announced data source sought).toList.map .ok := by
  unfold Endpoint.tellings
  simp only [h _, List.flatMap_cons, List.flatMap_nil, List.append_nil]
  cases sought <;>
    cases Sought.announced data source .devices <;>
      cases Sought.announced data source .routers <;> rfl

/-- **An open window is told what is announced until it closes.** -/
theorem run_open {sought : Sought} {window : ActiveDiscovery} :
    ∀ {world : World}, Machine.run World.step world events = some after →
      Waiting sink world → (∀ event ∈ events, event ≠ .drop sink) →
      Open sink sought window world →
        heardBy sink (entriesSince world after) = told sought window events := by
  induction events with
  | nil =>
      intro world hrun _ _ _
      cases hrun
      rw [show entriesSince after after = [] from List.drop_length]
      rfl
  | cons event events ih =>
      intro world hrun hwaiting hkept hopen
      obtain ⟨next, hnext, hrest⟩ := Machine.run_cons_eq_some.mp hrun
      obtain ⟨hfirst, hlater⟩ := List.forall_mem_cons.mp hkept
      have hwindows := step_windowsOf hnext hwaiting.issued hwaiting.live
      have hnextWaiting := hwaiting.step hnext hfirst
      rw [entriesSince_append (step_trace hnext) (run_trace hrest), heardBy_append,
        step_heard hnext hwaiting.issued]
      -- Unless this event closes it, the window is open for the rest.
      have hstays : (∀ windows, remaining event windows = windows) →
          heardBy sink (entriesSince next after) = told sought window events := by
        intro hsame
        apply ih hrest hnextWaiting hlater
        intro other
        rw [hwindows, hsame, hopen]
      cases event with
      | packet now sendTo data source =>
          rw [hstays (fun _ => rfl)]
          show world.endpoint.tellings sink (Sought.announced data source) ++ _ = _
          rw [hopen.tellings_packet]
          rfl
      | command now sendTo command => exact hstays (fun _ => rfl)
      | drop channel => exact hstays (fun _ => rfl)
      | timeouts now sendTo visits =>
          show heardBy sink (entriesSince next after)
            = if now < window.deadline then told sought window events else []
          by_cases hbefore : now < window.deadline
          · rw [if_pos hbefore]
            apply ih hrest hnextWaiting hlater
            intro other
            rw [hwindows, hopen]
            by_cases hother : other = sought
            · simp [remaining, hother, hbefore]
            · simp [remaining, hother]
          · rw [if_neg hbefore]
            apply run_closed hrest hnextWaiting hlater
            intro other
            rw [hwindows, hopen]
            by_cases hother : other = sought
            · simp [remaining, hother, hbefore]
            · simp [remaining, hother]
      | stop now error =>
          have hnone : heardBy sink (entriesSince next after) = [] := by
            apply run_closed hrest hnextWaiting hlater
            intro other
            rw [hwindows]
            rfl
          rw [hnone, List.append_nil]
          show (world.endpoint.windowsOf sink .devices ++ world.endpoint.windowsOf sink .routers).map
            _ = _
          rw [hopen, hopen]
          cases sought <;> rfl

/-- A channel that was not issued yet has no window. -/
theorem windowsOf_of_not_issued {timeout : Duration} {retries : UInt8}
    {acceptedApdu : MaxApduSize} (hreachable : Reachable timeout retries acceptedApdu world)
    (hfresh : sink ∉ world.issued) (sought : Sought) : world.endpoint.windowsOf sink sought = [] := by
  apply List.filter_eq_nil_iff.mpr
  intro window hmem
  rw [decide_eq_true_eq]
  rintro rfl
  exact hfresh (hreachable.windowed sought window hmem)

section Seek

variable {opened : World} {sought : Sought} {now : Instant}
  {sendTo : SocketAddr → Bytes → Option IoError} {frame : Bytes} {destination : SocketAddr}

/-- A command that starts a discovery opens the one window, of what is sought, if any. -/
theorem windowsOf_seek
    (hopened : World.step world (.command now sendTo (sought.command frame destination sink))
      = some opened)
    (hnone : ∀ other, world.endpoint.windowsOf sink other = []) (hlive : sink ∉ world.dropped)
    (other : Sought) :
    opened.endpoint.windowsOf sink other
      = if other = sought then (world.endpoint.startDiscovery (world.host now sendTo) frame
          destination sink).1.toList.filter (fun window => decide (window.sink = sink))
        else [] := by
  have hbefore : (Sought.windows world.endpoint other).filter
      (fun window => decide (window.sink = sink)) = [] := hnone other
  have hkeeps : sink ∉ world.reclaims
      (.command now sendTo (sought.command frame destination sink)) := hlive
  unfold Endpoint.windowsOf
  rw [step_windows hopened, filter_reclaimed hkeeps]
  show ((Sought.windows world.endpoint other) ++ _).filter _ = _
  rw [List.filter_append, hbefore, List.nil_append]
  cases sought <;> cases other <;> rfl

/-- What the command leads to is what starting the discovery does. -/
theorem entriesSince_seek
    (hopened : World.step world (.command now sendTo (sought.command frame destination sink))
      = some opened) :
    entriesSince world opened
      = (world.endpoint.startDiscovery (world.host now sendTo) frame destination sink).2 := by
  obtain ⟨_, rfl⟩ := step_eq_some.mp hopened
  cases sought <;> exact List.drop_left

end Seek

/-- **A discovery hears what is announced in its window.**  Whatever else the endpoint is asked
and whatever datagrams reach it, a discovery whose frame is sent is told of each device, or of
each router, that announces itself until the first round of timeouts at or after its deadline:
each time it does, in that order, and of nothing else.  A task that is stopped before then tells
it so.  One whose frame cannot be sent is told that, and nothing more. -/
theorem discovery_hears {timeout : Duration} {retries : UInt8} {acceptedApdu : MaxApduSize}
    {world opened final : World} {sought : Sought} {now : Instant}
    {sendTo : SocketAddr → Bytes → Option IoError} {frame : Bytes} {destination : SocketAddr}
    (hreachable : Reachable timeout retries acceptedApdu world)
    (hopened : World.step world (.command now sendTo (sought.command frame destination sink))
      = some opened)
    (hrun : Machine.run World.step opened events = some final)
    (hkept : ∀ event ∈ events, event ≠ .drop sink) :
    heardBy sink (entriesSince world final)
      = (sendTo destination frame).elim
          (told sought ⟨sink, now + world.endpoint.timeout⟩ events)
          (fun error => [.error (.io error)]) := by
  have hchannel : sink ∈ (sought.command frame destination sink).channels := by
    cases sought <;> exact List.mem_cons_self
  obtain ⟨hfresh, hissued⟩ := not_issued_of_command hopened hchannel
  have hlive : sink ∉ world.dropped :=
    fun hdropped => hfresh (hreachable.known.dropped sink hdropped)
  have hnone := windowsOf_of_not_issued hreachable hfresh
  have hwaiting : Waiting sink opened := by
    refine ⟨hissued, ?_⟩
    obtain ⟨_, rfl⟩ := step_eq_some.mp hopened
    exact hlive
  have hclosed : (world.host now sendTo).isClosed sink = false := by
    simpa [Host.isClosed, World.host] using hlive
  rw [entriesSince_append (step_trace hopened) (run_trace hrun), heardBy_append,
    entriesSince_seek hopened]
  cases hsend : sendTo destination frame with
  | some error =>
      have hrefused := Endpoint.startDiscovery_refused world.endpoint hclosed hsend
      have hquiet : heardBy sink (entriesSince opened final) = [] := by
        apply run_closed hrun hwaiting hkept
        intro other
        rw [windowsOf_seek hopened hnone hlive, hrefused]
        exact ite_self _
      rw [hquiet, hrefused, List.append_nil]
      show [(if sink = sink then some _ else none : Option _)].filterMap id = _
      rw [if_pos rfl]
      rfl
  | none =>
      have hsent := Endpoint.startDiscovery_sent world.endpoint hclosed hsend
      rw [hsent]
      apply run_open hrun hwaiting hkept
      intro other
      rw [windowsOf_seek hopened hnone hlive, hsent]
      simp [World.host]

end Run

/-- Device 1 announces itself. -/
def deviceOneIAm : Bytes :=
  [0x81, 0x0A, 0x00, 0x14, 0x01, 0x00, 0x10, 0x00, 0xC4, 0x02, 0x00, 0x00, 0x01, 0x22, 0x01, 0xE0,
    0x91, 0x00, 0x21, 0x0F]

/-- Before anybody looks for devices. -/
def beforeDiscovery : World := start 3000000000 3 .up1476

/-- A caller looks for devices. -/
def discoveryStarts : Event :=
  .command 0 takesAll (.discoverDevices [0x81] segmentingPeer.address 7)

/-- The device announces itself within the three seconds, and again after them. -/
def discoveryEvents : List Event :=
  [.packet 1000000000 takesAll deviceOneIAm segmentingPeer.address,
    .timeouts 3000000000 takesAll [],
    .packet 4000000000 takesAll deviceOneIAm segmentingPeer.address]

/-- What the device announces. -/
def deviceOneInfo : DeviceInfo where
  deviceId := 1
  address := segmentingPeer.address
  route := none
  vendorId := 15
  maxApdu := 480
  segmentation := .both

/-- The device is heard once. -/
theorem discovery_hears_once :
    ∃ opened final, step beforeDiscovery discoveryStarts = some opened
      ∧ Machine.run step opened discoveryEvents = some final
      ∧ heardBy 7 (entriesSince beforeDiscovery final) = [.ok (.device deviceOneInfo)] := by
  refine ⟨_, _, rfl, rfl, ?_⟩
  have hreachable : Reachable 3000000000 3 .up1476 beforeDiscovery := ⟨[], rfl⟩
  have hkept : ∀ event ∈ discoveryEvents, event ≠ .drop 7 := by
    intro event hevent
    simp only [discoveryEvents, List.mem_cons, List.not_mem_nil, or_false] at hevent
    rcases hevent with rfl | rfl | rfl <;> exact Event.noConfusion
  have hopened : step beforeDiscovery
      (.command 0 takesAll (Sought.devices.command [0x81] segmentingPeer.address 7))
        = some (beforeDiscovery.react discoveryStarts) := rfl
  rw [discovery_hears hreachable hopened rfl hkept]
  rfl

end World

end BacnetRs.Client
