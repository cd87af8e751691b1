/-
  BacnetRs.Client.Sending — what the endpoint puts on the wire
  (`Endpoint` in `client/async_client.rs`).

  A frame goes out because a command asked for it, because a transaction holds
  it for a retransmission, or as one of the endpoint's own small answers: an
  acknowledgement, a Reject or an Abort.  Of these some pace the endpoint's own
  transactions, and one answers a confirmed COV notification.  Whatever is true
  of the frames that commands bring and of those answers is true of every frame
  that is ever sent.

    * `handlePacket_within`, `handleTimeouts_within`, `handleCommand_within` — what
                        each handler sends, and leaves to be sent again.
    * `step_within`   — so for every step of the endpoint.
-/
import BacnetRs.Client.Steps

namespace BacnetRs.Client

open BacnetRs.Service BacnetRs.Network BacnetRs.App

/-- What is handed to the transactions is an application message that is no unconfirmed request. -/
theorem packetApdu_eq_some {data : Bytes} {source : SocketAddr} {apdu : Apdu}
    {route : Option NetworkAddress} :
    packetApdu data source = some (apdu, route)
      ↔ ∃ frame, decodeBacnetIpFrame data source = .ok frame
          ∧ frame.npdu.isNetworkMessage = false ∧ frame.payload.head? ≠ some 0x10
          ∧ Apdu.decode frame.payload = .ok apdu ∧ frame.npdu.source = route := by
  unfold packetApdu
  cases hframe : decodeBacnetIpFrame data source with
  | error fault => simp
  | ok frame => simp [and_assoc, Checked.okPart_eq_some]

/-- It is handled as what it is. -/
theorem Endpoint.handlePacket_decoded (endpoint : Endpoint) (host : Host) {data : Bytes}
    {source : SocketAddr} {apdu : Apdu} {route : Option NetworkAddress}
    (h : packetApdu data source = some (apdu, route)) :
    endpoint.handlePacket host data source = endpoint.handleDecoded host apdu source route := by
  obtain ⟨frame, hframe, hmessage, hhead, hdecode, rfl⟩ := packetApdu_eq_some.mp h
  unfold handlePacket
  simp only [hframe, hmessage, Bool.false_eq_true, if_false, if_neg hhead, hdecode]

/-! ## §1. What is kept true of frames -/

/-- An APDU the endpoint answers with of its own accord. -/
def OwnAnswer : Apdu → Prop
  | .segmentAck _ _ _ _ _ => True
  | .simpleAck _ _ => True
  | .reject _ _ => True
  | .abort _ _ _ => True
  | _ => False

/-- An APDU the endpoint sends about a transaction of its own. -/
def Pacing : Apdu → Prop
  | .segmentAck _ _ _ _ _ => True
  | .abort server _ _ => server = false
  | _ => False

/-- What a confirmed COV notification is answered with. -/
def covAnswer (request : ConfirmedRequest) : Option Apdu :=
  if request.segmented then
    some (.abort true request.invokeId .segmentationNotSupported)
  else
    match CovNotification.decode request.serviceData with
    | .error .panic => none
    | .ok _ =>
        some (.simpleAck request.invokeId ConfirmedServiceChoice.confirmedCovNotification.toByte)
    | .error (.error _) => some (.reject request.invokeId .invalidTag)

/-- What a datagram that is a confirmed COV notification is answered with, and the network-layer
address that is answered. -/
def replyTo (data : Bytes) (source : SocketAddr) : Option (Apdu × Option NetworkAddress) :=
  match packetApdu data source with
  | some (.confirmedRequest request, route) =>
      if request.serviceChoice = .confirmedCovNotification then
        (covAnswer request).map (fun answer => (answer, route))
      else none
  | _ => none

/-- A route whose MAC address has a length octet. -/
def Routable (route : Option NetworkAddress) : Prop :=
  ∀ address ∈ route, address.address.length ≤ 255

/-- What is true of every frame the endpoint builds by itself, whoever it is for. -/
def AllowsAnswers (P : SocketAddr → Bytes → Prop) : Prop :=
  ∀ destination apdu route, OwnAnswer apdu → Routable route →
    P destination (buildResponseFrame apdu route)

/-- What is true of every frame the endpoint builds about its own transactions. -/
def AllowsPacing (P : SocketAddr → Bytes → Prop) : Prop :=
  ∀ destination apdu route, Pacing apdu → Routable route →
    P destination (buildResponseFrame apdu route)

/-- What is true of the frame a datagram is answered with. -/
def AllowsReply (P : SocketAddr → Bytes → Prop) (data : Bytes) (source : SocketAddr) : Prop :=
  ∀ answer route, replyTo data source = some (answer, route) → Routable route →
    P source (buildResponseFrame answer route)

/-- The frames among the entries satisfy `P`. -/
def Sends (P : SocketAddr → Bytes → Prop) (entries : List Entry) : Prop :=
  ∀ entry ∈ entries, ∀ purpose destination frame,
    entry.effect = .sent purpose destination frame → P destination frame

/-- All that a transaction may send again satisfies `P`. -/
structure PendingTransaction.Ready (P : SocketAddr → Bytes → Prop) (key : TransactionKey)
    (transaction : PendingTransaction) : Prop where
  frame : transaction.frame ≠ [] → P key.1 transaction.frame
  outbound : ∀ outbound, transaction.outbound = some outbound →
    ∀ frame ∈ outbound.frames, P key.1 frame
  lastAck : ∀ transfer, transaction.reassembly = some transfer →
    transfer.lastAck ≠ [] → P key.1 transfer.lastAck

/-- Every pending transaction is ready. -/
def Endpoint.AllReady (P : SocketAddr → Bytes → Prop) (endpoint : Endpoint) : Prop :=
  ∀ key transaction, endpoint.pending.lookup key = some transaction → transaction.Ready P key

/-- What a handler leaves is ready, and what it sends satisfies `P`. -/
structure Within (P : SocketAddr → Bytes → Prop) (outcome : Endpoint × List Entry) : Prop where
  ready : outcome.1.AllReady P
  sends : Sends P outcome.2

/-- The answers the endpoint gives of its own accord pace its transactions, or answer a
notification. -/
theorem AllowsAnswers.pacing {P : SocketAddr → Bytes → Prop} (hP : AllowsAnswers P) :
    AllowsPacing P := by
  intro destination apdu route hpacing hroute
  refine hP destination apdu route ?_ hroute
  cases apdu with
  | segmentAck | abort => trivial
  | confirmedRequest | unconfirmedRequest | simpleAck | complexAck | error | reject =>
      exact absurd hpacing id

theorem ownAnswer_of_covAnswer {request : ConfirmedRequest} {answer : Apdu}
    (h : covAnswer request = some answer) : OwnAnswer answer := by
  unfold covAnswer at h
  split at h
  · cases h
    trivial
  · split at h
    · cases h
    · cases h
      trivial
    · cases h
      trivial

theorem AllowsAnswers.reply {P : SocketAddr → Bytes → Prop} (hP : AllowsAnswers P) (data : Bytes)
    (source : SocketAddr) : AllowsReply P data source := by
  intro answer route hreply hroute
  unfold replyTo at hreply
  split at hreply
  · split at hreply
    · obtain ⟨found, hfound, hpair⟩ := Option.map_eq_some_iff.mp hreply
      cases hpair
      exact hP source answer route (ownAnswer_of_covAnswer hfound) hroute
    · cases hreply
  · cases hreply

section Sends

variable {P Q : SocketAddr → Bytes → Prop} {es fs : List Entry}

theorem Sends.nil : Sends P [] := fun _ h => absurd h List.not_mem_nil

theorem Sends.append (hes : Sends P es) (hfs : Sends P fs) : Sends P (es ++ fs) := by
  intro entry hentry
  rcases List.mem_append.mp hentry with h | h
  · exact hes entry h
  · exact hfs entry h

theorem Sends.mono (h : Sends P es) (hle : ∀ destination frame, P destination frame →
    Q destination frame) : Sends Q es :=
  fun entry hentry purpose destination frame heffect =>
    hle destination frame (h entry hentry purpose destination frame heffect)

/-- Nothing is sent by an entry that says something else. -/
theorem Sends.quiet (h : ∀ entry ∈ es, ∀ purpose destination frame,
    entry.effect ≠ .sent purpose destination frame) : Sends P es :=
  fun entry hentry purpose destination frame heffect =>
    absurd heffect (h entry hentry purpose destination frame)

theorem Sends.sent {host : Host} {purpose : Purpose} {destination : SocketAddr} {frame : Bytes}
    (h : P destination frame) : Sends P [host.entry (.sent purpose destination frame)] := by
  intro entry hentry purpose' destination' frame' heffect
  rw [List.mem_singleton.mp hentry] at heffect
  cases heffect
  exact h

theorem Sends.ignored {host : Host} {purpose : Purpose} {destination : SocketAddr} {frame : Bytes}
    (h : P destination frame) : Sends P (Endpoint.sendIgnored host purpose destination frame) := by
  unfold Endpoint.sendIgnored
  cases host.sendTo destination frame with
  | none => exact .sent h
  | some error => exact .nil

end Sends

namespace Endpoint

variable {P Q : SocketAddr → Bytes → Prop} {endpoint : Endpoint}

/-! ## §2. Transactions come and go -/

theorem AllReady.mono (h : endpoint.AllReady P)
    (hle : ∀ destination frame, P destination frame → Q destination frame) :
    endpoint.AllReady Q := fun key transaction hlookup =>
  { frame := fun hne => hle _ _ ((h key transaction hlookup).frame hne)
    outbound := fun outbound houtbound frame hframe =>
      hle _ _ ((h key transaction hlookup).outbound outbound houtbound frame hframe)
    lastAck := fun transfer htransfer hne =>
      hle _ _ ((h key transaction hlookup).lastAck transfer htransfer hne) }

theorem AllReady.insert (h : endpoint.AllReady P) {key : TransactionKey}
    {transaction : PendingTransaction} (hready : transaction.Ready P key) :
    (endpoint.insertPending key transaction).AllReady P := by
  intro other found hlookup
  rw [insertPending_lookup] at hlookup
  split at hlookup
  · next heq =>
      cases hlookup
      rw [heq]
      exact hready
  · exact h other found hlookup

theorem AllReady.remove (h : endpoint.AllReady P) (key : TransactionKey) :
    (endpoint.removePending key).AllReady P := by
  intro other found hlookup
  have hkept : (endpoint.pending.erase key).lookup other = some found := hlookup
  rw [KeyedTable.lookup_erase_eq_ite] at hkept
  split at hkept
  · cases hkept
  · exact h other found hkept

theorem AllReady.removeCancelled (h : endpoint.AllReady P) (dropped : List Channel) :
    (endpoint.removeCancelled dropped).AllReady P := fun key transaction hlookup =>
  h key transaction ((KeyedTable.lookup_retain_eq_some _ _ _ _).mp hlookup).1

/-- An answer put into a channel sends nothing. -/
theorem Within.answered (h : endpoint.AllReady P) (host : Host) (channel : Channel)
    (result : Except ClientError Bytes) :
    Within P (endpoint, [host.entry (.answered channel result)]) := by
  refine ⟨h, .quiet ?_⟩
  intro entry hentry purpose destination frame heffect
  rw [List.mem_singleton.mp hentry] at heffect
  cases heffect

theorem fail_within (h : endpoint.AllReady P) (host : Host) (key : TransactionKey)
    (error : ClientError) : Within P (endpoint.fail host key error) := by
  unfold fail
  split
  · exact ⟨h, .nil⟩
  · exact Within.answered (h.remove key) host _ _

theorem finish_within (h : endpoint.AllReady P) (host : Host) (key : TransactionKey)
    (result : Except ClientError Bytes) : Within P (endpoint.finish host key result) := by
  unfold finish
  split
  · exact ⟨h, .nil⟩
  · refine Within.answered ?_ host _ _
    unfold settle
    simp only
    split
    · exact h.remove key
    · exact h.remove key

theorem abandon_within (hP : AllowsPacing P) (h : endpoint.AllReady P) (host : Host)
    (key : TransactionKey) (reason : AbortReason) {route : Option NetworkAddress}
    (hroute : Routable route) : Within P (endpoint.abandon host key reason route) :=
  ⟨(fail_within h host key _).ready,
    (Sends.ignored (hP key.1 (.abort false key.2 reason) route rfl hroute)).append
      (fail_within h host key _).sends⟩

/-! ## §3. Frames going out -/

theorem sendOrFail_within (h : endpoint.AllReady P) (host : Host) (key : TransactionKey)
    (parcel : Purpose × Bytes) (hparcel : P key.1 parcel.2) :
    Within P ((endpoint.sendOrFail host key parcel).1, (endpoint.sendOrFail host key parcel).2.1) := by
  unfold sendOrFail
  split
  · exact ⟨h, .sent hparcel⟩
  · exact fail_within h host key _

theorem sendAll_within (host : Host) (key : TransactionKey) :
    ∀ (parcels : List (Purpose × Bytes)) {endpoint : Endpoint}, endpoint.AllReady P →
      (∀ parcel ∈ parcels, P key.1 parcel.2) → Within P (endpoint.sendAll host key parcels)
  | [], endpoint, h, _ => ⟨h, .nil⟩
  | parcel :: parcels, endpoint, h, hparcels => by
      have hone := sendOrFail_within h host key parcel (hparcels parcel List.mem_cons_self)
      unfold sendAll
      rcases hsent : endpoint.sendOrFail host key parcel with ⟨after, entries, went⟩
      rw [hsent] at hone
      cases went with
      | false => exact hone
      | true =>
          have hrest := sendAll_within host key parcels hone.ready
            (fun other hother => hparcels other (List.mem_cons_of_mem _ hother))
          exact ⟨hrest.ready, hone.sends.append hrest.sends⟩

theorem windowFrames_allowed {outbound : OutboundSegments} {key : TransactionKey}
    (h : ∀ frame ∈ outbound.frames, P key.1 frame) :
    ∀ parcel ∈ outbound.windowFrames key, P key.1 parcel.2 := by
  intro parcel hparcel
  obtain ⟨index, hindex, rfl⟩ := List.mem_map.mp hparcel
  rw [OutboundSegments.windowAfterAck, List.mem_range'_1] at hindex
  have hlt : index < outbound.frames.length := by omega
  show P key.1 (outbound.frames.getD index [])
  rw [List.getD_eq_getElem?_getD, List.getElem?_eq_getElem hlt]
  exact h _ (List.getElem_mem hlt)

/-! ## §4. A segment of the response -/

theorem acknowledgeSegment_within (hP : AllowsPacing P) (h : endpoint.AllReady P) (host : Host)
    {key : TransactionKey} {stored : PendingTransaction} (hstored : stored.Ready P key)
    (transfer : Reassembly) (sequence : UInt8) (negative : Bool) {route : Option NetworkAddress}
    (hroute : Routable route) :
    Within P (endpoint.acknowledgeSegment host key stored transfer
      (segmentAckFrame key.2 sequence negative route)) := by
  have hack : P key.1 (segmentAckFrame key.2 sequence negative route) :=
    hP key.1 (.segmentAck negative false key.2 sequence grantedWindow) route trivial hroute
  unfold acknowledgeSegment
  refine sendOrFail_within (h.insert ?_) host key (.segmentAck key, _) hack
  refine ⟨hstored.frame, hstored.outbound, ?_⟩
  rintro kept ⟨⟩ _
  exact hack

theorem acceptResponseSegment_within (hP : AllowsPacing P) (h : endpoint.AllReady P) (host : Host)
    (key : TransactionKey) (sequenceNumber : Option UInt8) (moreFollows : Bool)
    (serviceData : Bytes) {route : Option NetworkAddress} (hroute : Routable route) :
    Within P (endpoint.acceptResponseSegment host key sequenceNumber moreFollows serviceData
      route) := by
  cases sequenceNumber with
  | none => exact abandon_within hP h host key _ hroute
  | some sequence =>
      unfold acceptResponseSegment
      cases hlookup : endpoint.pending.lookup key with
      | none => exact ⟨h, .nil⟩
      | some transaction =>
          have hready := h key transaction hlookup
          simp only
          rcases haccept : transaction.transfer.accept sequence moreFollows serviceData with
            ⟨outcome, transfer⟩
          -- Taking a segment never touches the acknowledgement that is kept.
          have hlast : transfer.lastAck = transaction.transfer.lastAck := by
            have hsame := congrArg (fun found => found.2.lastAck) haccept
            rw [← hsame]
            unfold Reassembly.accept Reassembly.take
            split <;> (repeat' split) <;> rfl
          have hold : transaction.transfer.lastAck ≠ [] → P key.1 transaction.transfer.lastAck := by
            intro hne
            cases hreassembly : transaction.reassembly with
            | none =>
                unfold PendingTransaction.transfer at hne
                rw [hreassembly] at hne
                exact absurd rfl hne
            | some kept =>
                unfold PendingTransaction.transfer at hne ⊢
                rw [hreassembly] at hne ⊢
                exact hready.lastAck kept hreassembly hne
          have hstored :
              ({ transaction with reassembly := some transfer } : PendingTransaction).Ready P key := by
            refine ⟨hready.frame, hready.outbound, ?_⟩
            rintro kept ⟨⟩ hne
            rw [hlast] at hne ⊢
            exact hold hne
          cases outcome with
          | accepted last => exact acknowledgeSegment_within hP h host hstored _ _ _ hroute
          | missing last => exact acknowledgeSegment_within hP h host hstored _ _ _ hroute
          | «repeat» =>
              simp only
              split
              · exact ⟨h.insert hstored, .nil⟩
              · next hne =>
                  refine sendOrFail_within (h.insert hstored) host key (.segmentAck key, _) (hold ?_)
                  intro hnil
                  rw [hnil] at hne
                  exact hne rfl
          | complete last data =>
              have hfinished := finish_within (h.insert hstored) host key (.ok data)
              exact ⟨hfinished.ready, (Sends.ignored (hP key.1
                (.segmentAck false false key.2 last grantedWindow) route trivial hroute)).append
                  hfinished.sends⟩
          | abandon reason => exact abandon_within hP (h.insert hstored) host key reason hroute

/-! ## §5. An APDU -/

theorem advanceOutbound_within (h : endpoint.AllReady P) (host : Host) (key : TransactionKey)
    (sequenceNumber windowSize : UInt8) :
    Within P (endpoint.advanceOutbound host key sequenceNumber windowSize) := by
  unfold advanceOutbound
  cases hlookup : endpoint.pending.lookup key with
  | none => exact ⟨h, .nil⟩
  | some transaction =>
      have hready := h key transaction hlookup
      simp only
      cases houtbound : transaction.outbound with
      | none => exact ⟨h, .nil⟩
      | some outbound =>
          simp only
          have hwindow : ∀ parcel ∈ (outbound.acknowledge sequenceNumber windowSize).windowFrames
              key, P key.1 parcel.2 := windowFrames_allowed (hready.outbound outbound houtbound)
          split
          · exact ⟨h, .nil⟩
          · split
            · refine ⟨h.insert ⟨fun hne => absurd rfl hne, ?_, hready.lastAck⟩, .nil⟩
              rintro other ⟨⟩
            · refine sendAll_within host key _ (h.insert ⟨?_, ?_, hready.lastAck⟩) hwindow
              -- The first frame of the window is kept for a retransmission.
              · intro hne
                show P key.1 (List.headD _ _)
                cases hframes : (outbound.acknowledge sequenceNumber windowSize).windowFrames key with
                | nil =>
                    rw [hframes] at hne
                    exact hready.frame hne
                | cons parcel parcels =>
                    exact hwindow parcel (by rw [hframes]; exact List.mem_cons_self)
              · rintro other ⟨⟩
                exact hready.outbound outbound houtbound

theorem handleResponse_within (hP : AllowsPacing P) (h : endpoint.AllReady P) (host : Host)
    (key : TransactionKey) (transaction : PendingTransaction) (apdu : Apdu)
    {route : Option NetworkAddress} (hroute : Routable route) :
    Within P (endpoint.handleResponse host key transaction apdu route) := by
  have hnothing : Within P (endpoint, []) := ⟨h, .nil⟩
  unfold handleResponse
  cases apdu with
  | segmentAck negative server invokeId sequenceNumber windowSize =>
      exact advanceOutbound_within h host key _ _
  | complexAck ack =>
      simp only
      split
      · exact hnothing
      · split
        · exact acceptResponseSegment_within hP h host key _ _ _ hroute
        · exact finish_within h host key _
  | confirmedRequest | unconfirmedRequest | simpleAck | error | reject | abort =>
      simp only
      split
      · exact hnothing
      · exact finish_within h host key _

theorem handleApdu_within (hP : AllowsPacing P) (h : endpoint.AllReady P) (host : Host)
    (apdu : Apdu) (source : SocketAddr) {route : Option NetworkAddress} (hroute : Routable route) :
    Within P (endpoint.handleApdu host apdu source route) := by
  rcases endpoint.handleApdu_cases host apdu source route with
    hnone | ⟨invokeId, transaction, _, _, hresponse⟩
  · rw [hnone]
    exact ⟨h, .nil⟩
  · rw [hresponse]
    exact handleResponse_within hP h host _ transaction apdu hroute

end Endpoint

/-! ## §6. A datagram -/

section Routes

open Checked

/-- A MAC address that was read has a length octet. -/
theorem decodeAddress_fits (data : Bytes) (pos : Nat) (what : String) :
    Ensures (Npdu.decodeAddress data pos what)
      (fun decoded => decoded.1.address.length ≤ 255) := by
  refine ensures_guard (ensures_bind (fun network => ensures_bind (fun length => ?_)))
  refine ensures_guard ?_
  have hrange : Ensures (Octets.range (ε := NetworkError) data (pos + 3) (pos + 3 + length.toNat))
      (fun octets => octets.length ≤ 255) := by
    intro octets hoctets
    obtain ⟨_, _, hcut⟩ := Octets.range_eq_ok.mp hoctets
    have hlength := length.toNat_lt
    rw [hcut, List.length_take]
    omega
  exact hrange.bind (fun octets hoctets => ensures_ok hoctets)

theorem decodeAddressIf_fits (present : Bool) (data : Bytes) (pos : Nat) (what : String) :
    Ensures (Npdu.decodeAddressIf present data pos what) (fun decoded => Routable decoded.1) := by
  unfold Npdu.decodeAddressIf
  split
  · refine (decodeAddress_fits data pos what).bind (fun decoded hdecoded => ensures_ok ?_)
    rintro address ⟨⟩
    exact hdecoded
  · refine ensures_ok ?_
    rintro address ⟨⟩

/-- Where a header that was read came from can be answered. -/
theorem routable_of_decode (data : Bytes) :
    Ensures (Npdu.decode data) (fun decoded => Routable decoded.1.source) := by
  refine ensures_guard (ensures_bind (fun version => ensures_guard (ensures_bind (fun byte => ?_))))
  refine ensures_bind (fun destination => ?_)
  refine (decodeAddressIf_fits _ data _ "source").bind (fun source hsource => ?_)
  simp only
  split
  · exact ensures_guard (ensures_bind (fun hopCount => ensures_ok hsource))
  · exact ensures_ok hsource

theorem routable_of_frame {data : Bytes} {source : SocketAddr} {frame : DecodedBacnetIpFrame}
    (h : decodeBacnetIpFrame data source = .ok frame) : Routable frame.npdu.source := by
  have hframe : Ensures (decodeBacnetIpFrame data source)
      (fun frame => Routable frame.npdu.source) := by
    refine ensures_guard (ensures_bind (fun first => ensures_guard (ensures_bind (fun length => ?_))))
    refine ensures_guard (ensures_bind (fun function => ?_))
    -- Wherever the NPDU starts, its header is read by the same decoder.
    have hrest : ∀ (start : Nat) (address : SocketAddr),
        Ensures (frameFrom data start address) (fun frame => Routable frame.npdu.source) := by
      intro start address
      refine ensures_bind (fun rest => ?_)
      have hdecode : Ensures ((Npdu.decode rest).mapErr (fun _ => ()))
          (fun decoded => Routable decoded.1.source) :=
        fun decoded hdecoded => routable_of_decode rest decoded (mapErr_eq_ok.mp hdecoded)
      refine hdecode.bind (fun decoded hdecoded => ?_)
      exact ensures_guard (ensures_bind (fun payload => ensures_ok hdecoded))
    split
    · refine ensures_guard (ensures_bind (fun ip => ensures_bind (fun port => ?_)))
      exact hrest 10 _
    · exact hrest 4 source
  exact hframe frame h

end Routes

namespace Endpoint

variable {P : SocketAddr → Bytes → Prop} {endpoint : Endpoint}

/-- Entries that tell discoveries something send nothing. -/
theorem Sends.discovered {host : Host} {discoveries : List ActiveDiscovery} {found : Discovered} :
    Sends P (discoveries.map
      (fun discovery => host.entry (.discovered discovery.sink (.ok found)))) := by
  refine .quiet ?_
  intro entry hentry purpose destination frame heffect
  obtain ⟨discovery, _, rfl⟩ := List.mem_map.mp hentry
  cases heffect

theorem handleNetworkMessage_sends {host : Host} {data : Bytes} {source : SocketAddr}
    {entries : List Entry} (h : endpoint.handleNetworkMessage host data source = some entries) :
    Sends P entries := by
  unfold handleNetworkMessage at h
  split at h
  · cases h
    exact .nil
  · split at h <;> cases h
    · exact .nil
    · exact Sends.discovered

theorem handleIAm_sends {host : Host} {data : Bytes} {source : SocketAddr}
    {entries : List Entry} (h : endpoint.handleIAm host data source = some entries) :
    Sends P entries := by
  unfold handleIAm at h
  split at h
  · cases h
    exact .nil
  · split at h <;> cases h
    · exact .nil
    · exact Sends.discovered

theorem dispatchCov_sends (host : Host) (notification : CovNotification) :
    Sends P (endpoint.dispatchCovNotification host notification) := by
  refine .quiet ?_
  intro entry hentry purpose destination frame heffect
  unfold dispatchCovNotification at hentry
  split at hentry
  · rw [List.mem_singleton.mp hentry] at heffect
    cases heffect
  · exact absurd hentry List.not_mem_nil

theorem handleUnconfirmedCov_sends {host : Host} {payload : Bytes} {entries : List Entry}
    (h : endpoint.handleUnconfirmedCov host payload = some entries) : Sends P entries := by
  unfold handleUnconfirmedCov at h
  split at h
  · cases h
    exact .nil
  · split at h
    · cases h
    · split at h
      · cases h
      · cases h
        exact dispatchCov_sends host _
      · cases h
        exact .nil
    · cases h
      exact .nil

/-- What a notification is answered with. -/
theorem handleConfirmedCov_sends {host : Host} {request : ConfirmedRequest} {source : SocketAddr}
    {route : Option NetworkAddress}
    (hreply : ∀ answer, covAnswer request = some answer →
      P source (buildResponseFrame answer route))
    {entries : List Entry}
    (h : endpoint.handleConfirmedCovNotification host request source route = some entries) :
    Sends P entries := by
  unfold handleConfirmedCovNotification at h
  unfold covAnswer at hreply
  simp only at h
  split at h
  · next hsegmented =>
      rw [if_pos hsegmented] at hreply
      cases h
      exact .ignored (hreply _ rfl)
  · next hwhole =>
      rw [if_neg hwhole] at hreply
      cases hdecode : CovNotification.decode request.serviceData with
      | ok notification =>
          rw [hdecode] at h hreply
          cases h
          exact (dispatchCov_sends host _).append (.ignored (hreply _ rfl))
      | error fault =>
          rw [hdecode] at h hreply
          cases fault with
          | panic => cases h
          | error e =>
              cases h
              exact .ignored (hreply _ rfl)

/-- **A datagram** makes the endpoint send what it holds, or an answer of its own. -/
theorem handlePacket_within (hP : AllowsPacing P) (h : endpoint.AllReady P) {host : Host}
    {data : Bytes} {source : SocketAddr} (hreply : AllowsReply P data source)
    {outcome : Endpoint × List Entry}
    (houtcome : endpoint.handlePacket host data source = some outcome) : Within P outcome := by
  have hquiet : ∀ {found : Option (List Entry)}, found.map (fun entries => (endpoint, entries))
      = some outcome → (∀ entries, found = some entries → Sends P entries) → Within P outcome := by
    intro found hfound hentries
    obtain ⟨entries, hsome, rfl⟩ := Option.map_eq_some_iff.mp hfound
    exact ⟨h, hentries entries hsome⟩
  have hnothing : some (endpoint, []) = some outcome → Within P outcome := by
    rintro ⟨⟩
    exact ⟨h, .nil⟩
  unfold handlePacket at houtcome
  cases hframe : decodeBacnetIpFrame data source with
  | error fault =>
      rw [hframe] at houtcome
      cases fault with
      | error e => exact hnothing houtcome
      | panic => cases houtcome
  | ok frame =>
      have hroute := routable_of_frame hframe
      rw [hframe] at houtcome
      simp only at houtcome
      split at houtcome
      · exact hquiet houtcome (fun entries => handleNetworkMessage_sends)
      next happlication =>
        split at houtcome
        -- An unconfirmed request is read twice, as an I-Am and as a COV notification.
        · obtain ⟨found, hfound, hrest⟩ := Option.bind_eq_some_iff.mp houtcome
          obtain ⟨entries, hentries, rfl⟩ := Option.map_eq_some_iff.mp hrest
          exact ⟨h, (handleIAm_sends hfound).append (handleUnconfirmedCov_sends hentries)⟩
        next hconfirmed =>
          split at houtcome
          · cases houtcome
          · exact hnothing houtcome
          · next apdu hapdu =>
              have hpacket : packetApdu data source = some (apdu, frame.npdu.source) := by
                simp [packetApdu, hframe, happlication, hconfirmed, hapdu, Checked.okPart]
              unfold handleDecoded at houtcome
              split at houtcome
              · split at houtcome
                · next request hcov =>
                    refine hquiet houtcome (fun entries => handleConfirmedCov_sends ?_)
                    intro answer hanswer
                    refine hreply answer frame.npdu.source ?_ hroute
                    simp [replyTo, hpacket, hcov, hanswer]
                · cases houtcome
                  exact handleApdu_within hP h host _ source hroute
              · cases houtcome
                exact handleApdu_within hP h host _ source hroute

/-! ## §7. Expired deadlines -/

theorem retransmission_allowed {key : TransactionKey} {transaction : PendingTransaction}
    (h : transaction.Ready P key) :
    ∀ parcel ∈ (transaction.retransmission key).filter (fun parcel => !parcel.2.isEmpty),
      P key.1 parcel.2 := by
  intro parcel hparcel
  obtain ⟨hmem, hne⟩ := List.mem_filter.mp hparcel
  have hne : parcel.2 ≠ [] := by
    intro hnil
    rw [hnil] at hne
    cases hne
  unfold PendingTransaction.retransmission at hmem
  split at hmem
  · next transfer htransfer =>
      rw [List.mem_singleton.mp hmem] at hne ⊢
      exact h.lastAck transfer htransfer hne
  · next outbound _ houtbound => exact windowFrames_allowed (h.outbound outbound houtbound) _ hmem
  · rw [List.mem_singleton.mp hmem] at hne ⊢
    exact h.frame hne

theorem expireOne_within (h : endpoint.AllReady P) (host : Host) (key : TransactionKey) :
    Within P (endpoint.expireOne host key) := by
  unfold expireOne
  split
  · exact ⟨h, .nil⟩
  · next transaction hlookup =>
      have hready := h key transaction hlookup
      split
      · exact ⟨h.remove key, .nil⟩
      · simp only
        split
        · exact ⟨(h.remove key), (Within.answered (h.remove key) host _ _).sends⟩
        · exact sendAll_within host key _
            (h.insert ⟨hready.frame, hready.outbound, hready.lastAck⟩)
            (retransmission_allowed hready)

theorem expireEach_within (host : Host) : ∀ (visits : List (TransactionKey × Instant))
    {endpoint : Endpoint}, endpoint.AllReady P → Within P (endpoint.expireEach host visits)
  | [], endpoint, h => ⟨h, .nil⟩
  | (key, now) :: visits, endpoint, h => by
      have hone := expireOne_within h (host.later now) key
      have hrest := expireEach_within host visits hone.ready
      exact ⟨hrest.ready, hone.sends.append hrest.sends⟩

/-- **Expired deadlines** make the endpoint send again what it holds. -/
theorem handleTimeouts_within (h : endpoint.AllReady P) (host : Host)
    (visits : List (TransactionKey × Instant)) :
    Within P (endpoint.handleTimeouts host visits) := expireEach_within host visits h

/-! ## §8. A command -/

/-- The APDUs a request can go out in. -/
inductive RequestPdu (target : BacnetTarget) (invokeId : UInt8)
    (serviceChoice : ConfirmedServiceChoice) (serviceData : Bytes) (acceptedApdu : MaxApduSize) :
    ConfirmedRequest → Prop where
  | whole (hshort : serviceData.length ≤ 1470) :
      RequestPdu target invokeId serviceChoice serviceData acceptedApdu
        (confirmedApdu target invokeId serviceChoice serviceData acceptedApdu)
  | segment (sequenceNumber : UInt8) (moreFollows : Bool) (chunk : Bytes)
      (hshort : chunk.length ≤ 1470) :
      RequestPdu target invokeId serviceChoice serviceData acceptedApdu
        (requestSegmentApdu target invokeId serviceChoice sequenceNumber moreFollows chunk
          acceptedApdu)

/-- Every frame a request can go out in satisfies `P`. -/
def RequestAllowed (P : SocketAddr → Bytes → Prop) (target : BacnetTarget) (invokeId : UInt8)
    (serviceChoice : ConfirmedServiceChoice) (serviceData : Bytes) (acceptedApdu : MaxApduSize) :
    Prop :=
  ∀ request, RequestPdu target invokeId serviceChoice serviceData acceptedApdu request →
    P target.address (wrapRequest target (.confirmedRequest request))

theorem requestLimit_le (target : BacnetTarget) (acceptedApdu : MaxApduSize) :
    requestLimit target acceptedApdu ≤ 1476 := by
  have hsize : acceptedApdu.size ≤ 1476 := by cases acceptedApdu <;> decide
  unfold requestLimit
  split
  · omega
  · exact hsize

/-- What goes out first, and what is kept to go out again. -/
theorem requestTransfer_allowed (key : TransactionKey) {target : BacnetTarget}
    {serviceChoice : ConfirmedServiceChoice} {serviceData : Bytes} {acceptedApdu : MaxApduSize}
    (haddress : key.1 = target.address)
    (hallowed : RequestAllowed P target key.2 serviceChoice serviceData acceptedApdu)
    {frames : RequestFrames}
    (hsplit : splitRequest target key.2 serviceChoice serviceData acceptedApdu = .ok frames) :
    P key.1 (requestTransfer key frames).1.2
      ∧ ∀ outbound, (requestTransfer key frames).2 = some outbound →
        ∀ frame ∈ outbound.frames, P key.1 frame := by
  have hlimit := requestLimit_le target acceptedApdu
  have hfifty := fifty_le_requestLimit target acceptedApdu
  rw [haddress]
  unfold splitRequest at hsplit
  simp only [peerLimits_maxApdu] at hsplit
  split at hsplit
  · next hfits =>
      cases hsplit
      refine ⟨hallowed _ (.whole (by unfold segmentedRequestHeader at hfits; omega)), ?_⟩
      rintro outbound ⟨⟩
  · next hlong =>
      split at hsplit
      · cases hsplit
      · split at hsplit
        · cases hsplit
        · cases hsplit
          have hpayload := segmentPayload_eq target acceptedApdu
          have hframes : ∀ frame ∈
              (Octets.chunks (segmentPayload (peerLimits target acceptedApdu)) serviceData).mapIdx
                (buildRequestSegmentFrame target key.2 serviceChoice acceptedApdu
                  (Octets.chunks (segmentPayload (peerLimits target acceptedApdu))
                    serviceData).length), P target.address frame := by
            intro frame hframe
            obtain ⟨index, hlt, rfl⟩ := List.mem_mapIdx.mp hframe
            refine hallowed _ (.segment _ _ _ ?_)
            have hchunk := Octets.length_le_of_mem_chunks (List.getElem_mem hlt)
            omega
          constructor
          -- What does not fit one APDU makes at least one segment.
          · obtain ⟨first, rest, hcons⟩ : ∃ first rest,
                Octets.chunks (segmentPayload (peerLimits target acceptedApdu)) serviceData
                  = first :: rest := by
              refine List.exists_cons_of_ne_nil (fun hnil => ?_)
              have hflat := Octets.flatten_chunks
                (segmentPayload (peerLimits target acceptedApdu)) (by omega) serviceData
              rw [hnil] at hflat
              rw [← hflat] at hlong
              exact hlong (by unfold segmentedRequestHeader; simp only [List.flatten_nil,
                List.length_nil]; omega)
            refine hframes _ ?_
            show List.headD _ _ ∈ _
            rw [hcons, List.mapIdx_cons]
            exact List.mem_cons_self
          · rintro outbound ⟨⟩
            exact hframes

/-- **A command** makes the endpoint send its request, or the first segment of it. -/
theorem Admission.within (h : endpoint.AllReady P) {host : Host} {target : BacnetTarget}
    {serviceChoice : ConfirmedServiceChoice} {serviceData : Bytes} {response : Channel}
    {outcome : Endpoint × List Entry}
    (hadmission : Admission endpoint host target serviceChoice serviceData response outcome)
    (hallowed : ∀ invokeId, host.entry (.reserved (target.address, invokeId)) ∈ outcome.2 →
      RequestAllowed P target invokeId serviceChoice serviceData endpoint.acceptedApdu) :
    Within P outcome := by
  have hswept : (endpoint.swept host target.address).AllReady P := h.removeCancelled host.dropped
  have hanswer : ∀ (invokeId : UInt8) (error : ClientError),
      Sends P [host.entry (.reserved (target.address, invokeId)),
        host.entry (.answered response (.error error))] := by
    intro invokeId error
    refine .quiet ?_
    intro entry hentry purpose destination frame heffect
    rcases List.mem_cons.mp hentry with rfl | hentry
    · cases heffect
    · rw [List.mem_singleton.mp hentry] at heffect
      cases heffect
  cases hadmission with
  | cancelled => exact ⟨h, .nil⟩
  | exhausted => exact Within.answered hswept host _ _
  | refused invokeId error hfree => exact ⟨hswept, hanswer invokeId error⟩
  | unsent invokeId error hfree => exact ⟨hswept.remove _, hanswer invokeId (.io error)⟩
  | admitted invokeId frames hfree hsplit =>
      obtain ⟨hfirst, houtbound⟩ := requestTransfer_allowed (target.address, invokeId) rfl
        (hallowed invokeId List.mem_cons_self) hsplit
      refine ⟨hswept.insert ⟨fun _ => hfirst, houtbound, ?_⟩, ?_⟩
      · rintro transfer ⟨⟩
      · intro entry hentry purpose destination frame heffect
        rcases List.mem_cons.mp hentry with rfl | hentry
        · cases heffect
        · obtain ⟨parcel, hparcel, rfl⟩ := List.mem_map.mp hentry
          rw [List.mem_singleton.mp hparcel] at heffect
          cases heffect
          exact hfirst

/-- Every frame a command can make the endpoint send satisfies `P`. -/
def Commanded (P : SocketAddr → Bytes → Prop) (endpoint : Endpoint) (host : Host)
    (command : EndpointCommand) : Prop :=
  match command with
  | .confirmed target serviceChoice serviceData _ =>
      ∀ invokeId, host.entry (.reserved (target.address, invokeId))
          ∈ (endpoint.handleCommand host command).2 →
        RequestAllowed P target invokeId serviceChoice serviceData endpoint.acceptedApdu
  | .subscribeCov target _ serviceData _ _ =>
      ∀ invokeId, host.entry (.reserved (target.address, invokeId))
          ∈ (endpoint.handleCommand host command).2 →
        RequestAllowed P target invokeId .subscribeCov serviceData endpoint.acceptedApdu
  | .discoverDevices frame destination _ => P destination frame
  | .discoverRouters frame destination _ => P destination frame

theorem startDiscovery_sends {host : Host} {frame : Bytes} {destination : SocketAddr}
    (hframe : P destination frame) (sink : Channel) :
    Sends P (endpoint.startDiscovery host frame destination sink).2 := by
  unfold startDiscovery
  split
  · exact .nil
  · split
    · refine .quiet ?_
      intro entry hentry purpose other sent heffect
      rw [List.mem_singleton.mp hentry] at heffect
      cases heffect
    · exact .sent hframe

theorem handleCommand_within (h : endpoint.AllReady P) {host : Host} {command : EndpointCommand}
    (hcommand : Commanded P endpoint host command) :
    Within P (endpoint.handleCommand host command) := by
  cases command with
  | confirmed target serviceChoice serviceData response =>
      exact Admission.within h (handleConfirmedCommand_admission _ _ _ _ _ _) hcommand
  | subscribeCov target key serviceData sink response =>
      have hregistered : (endpoint.registered
          (.subscribeCov target key serviceData sink response)).AllReady P := h
      exact Admission.within hregistered (handleConfirmedCommand_admission _ _ _ _ _ _) hcommand
  | discoverDevices frame destination sink => exact ⟨h, startDiscovery_sends hcommand sink⟩
  | discoverRouters frame destination sink => exact ⟨h, startDiscovery_sends hcommand sink⟩

theorem failAll_sends (endpoint : Endpoint) (now : Instant) (error : ClientError) :
    Sends P (endpoint.failAll now error).2 := by
  refine .quiet ?_
  intro entry hentry purpose destination frame heffect
  rcases List.mem_append.mp hentry with hentry | hentry
  · obtain ⟨transaction, _, rfl⟩ := List.mem_map.mp hentry
    cases heffect
  · obtain ⟨discovery, _, rfl⟩ := List.mem_map.mp hentry
    cases heffect

end Endpoint

/-! ## §9. A step -/

namespace World

variable {P : SocketAddr → Bytes → Prop} {world world' : World} {event : Event}

/-- Every frame an event can make the endpoint send by command satisfies `P`. -/
def Commands (P : SocketAddr → Bytes → Prop) (world : World) : Event → Prop
  | .command now sendTo command => Endpoint.Commanded P world.endpoint (world.host now sendTo) command
  | _ => True

/-- Every frame a datagram is answered with satisfies `P`. -/
def Replies (P : SocketAddr → Bytes → Prop) : Event → Prop
  | .packet _ _ data source => AllowsReply P data source
  | _ => True

/-- **Whatever happens**, what is sent satisfies `P`, and so does all that may be sent again. -/
theorem step_within (hP : AllowsPacing P) (h : world.endpoint.AllReady P)
    (hstep : step world event = some world') (hcommands : world.Commands P event)
    (hreplies : Replies P event) :
    world'.endpoint.AllReady P ∧ Sends P (entriesSince world world') := by
  obtain ⟨_, rfl⟩ := step_eq_some.mp hstep
  have hresume : ∀ {now : Instant} {issued : List Channel} {outcome : Endpoint × List Entry},
      Within P outcome →
        (({ world with issued := issued }.resume now outcome).endpoint.AllReady P
          ∧ Sends P (entriesSince world ({ world with issued := issued }.resume now outcome))) := by
    intro now issued outcome hwithin
    refine ⟨hwithin.ready.removeCancelled world.dropped, ?_⟩
    show Sends P ((world.trace ++ outcome.2).drop world.trace.length)
    rw [List.drop_left]
    exact hwithin.sends
  have hhalt : ∀ (now : Instant) {entries : List Entry}, Sends P entries →
      ((world.halt now entries).endpoint.AllReady P
        ∧ Sends P (entriesSince world (world.halt now entries))) := by
    intro now entries hentries
    refine ⟨(by rintro key transaction ⟨⟩), ?_⟩
    show Sends P ((world.trace ++ entries).drop world.trace.length)
    rw [List.drop_left]
    exact hentries
  cases event with
  | command now sendTo command => exact hresume (Endpoint.handleCommand_within h hcommands)
  | packet now sendTo data source =>
      rcases react_packet world now sendTo data source with ⟨outcome, hhandled, hreact⟩ | hreact
      · rw [hreact]
        exact hresume (Endpoint.handlePacket_within hP h hreplies hhandled)
      · rw [hreact]
        exact hhalt now .nil
  | timeouts now sendTo visits => exact hresume (Endpoint.handleTimeouts_within h _ visits)
  | drop channel =>
      refine ⟨h, ?_⟩
      show Sends P (world.trace.drop world.trace.length)
      rw [List.drop_length]
      exact .nil
  | stop now error => exact hhalt now (Endpoint.failAll_sends _ _ _)

end World

end BacnetRs.Client
