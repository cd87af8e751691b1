/-
  BacnetRs.Network.DataLink — a BACnet/IP data link, and what it distributes as
  a BBMD (`datalink/bip.rs`).

  The link keeps a table of peer BBMDs and a table of foreign devices.  The
  first is filled by the application, the second by Register-Foreign-Device
  messages and emptied by `cleanup_fdt`.  Broadcasts go by the first only.

    * `Bbmd.distributes_iff` — when one call or message does what is asked of a BBMD.
    * `Bbmd.broadcasts_reach_iff` — and so when all of a run do.
-/
import BacnetRs.Library.Machine
import BacnetRs.Network.Bvlc

namespace BacnetRs.Network

/-! ## §1. The data link -/

/-- A peer BBMD. -/
structure BdtEntry where
  address : SocketAddr
  mask : UInt8 × UInt8 × UInt8 × UInt8
  deriving Repr, DecidableEq

/-- A foreign device. -/
structure FdtEntry where
  address : SocketAddr
  ttl : UInt16
  registrationTime : Instant
  deriving Repr, DecidableEq

/-- Whole seconds since the registration are still fewer than it is good for. -/
def FdtEntry.runs (entry : FdtEntry) (now : Instant) : Bool :=
  decide (now.saturatingDurationSince entry.registrationTime / 1000000000 < entry.ttl.toNat)

/-- `BacnetIpDataLink`. -/
structure BacnetIpDataLink where
  localAddr : SocketAddr
  bdt : List BdtEntry
  fdt : List FdtEntry
  broadcastAddr : SocketAddr
  deriving Repr, DecidableEq

/-- `BACNET_IP_PORT`. -/
def bacnetIpPort : UInt16 := 47808

/-- How much of a datagram `receive_frame` has room for. -/
def receiveBuffer : Nat := 1500

namespace BacnetIpDataLink

/-- `BacnetIpDataLink::new`, bound to `localAddr`. -/
def new (localAddr : SocketAddr) : Except DataLinkError BacnetIpDataLink :=
  match localAddr with
  | .v4 ip _ => .ok ⟨localAddr, [], [], .v4 (ip ||| 0xFF) bacnetIpPort⟩
  | .v6 .. => .error .unsupportedType

/-- `process_bvlc_message`. -/
def processBvlcMessage (self : BacnetIpDataLink) (data : Bytes) (source : SocketAddr)
    (now : Instant) : BacnetIpDataLink × Except DataLinkError (Option Bytes) :=
  match BvlcHeader.decode data with
  | .error e => (self, .error e)
  | .ok header =>
      if data.length ≠ header.length.toNat then (self, .error .invalidFrame)
      else
        match header.function with
        | .originalUnicastNpdu | .originalBroadcastNpdu =>
            if data.length > 4 then (self, .ok (some (data.drop 4)))
            else (self, .error .invalidFrame)
        | .forwardedNpdu =>
            -- The original source stands between the header and the NPDU.
            if data.length > 10 then (self, .ok (some (data.drop 10)))
            else (self, .error .invalidFrame)
        | .registerForeignDevice =>
            match data with
            | [_, _, _, _, high, low] =>
                let ttl := UInt16.ofNat (Octets.beNat [high, low])
                ({ self with fdt := self.fdt ++ [⟨source, ttl, now⟩] }, .ok none)
            | _ => (self, .ok none)
        | _ => (self, .ok none)

/-- `receive_frame`, when `datagram` arrives from `source`: the NPDU, and where it is from. -/
def receiveFrame (self : BacnetIpDataLink) (datagram : Bytes) (source : SocketAddr)
    (now : Instant) : BacnetIpDataLink × Except DataLinkError (Bytes × SocketAddr) :=
  match self.processBvlcMessage (datagram.take receiveBuffer) source now with
  | (after, .ok (some npdu)) => (after, .ok (npdu, source))
  | (after, .ok none) => (after, .error .invalidFrame)
  | (after, .error e) => (after, .error e)

/-- A broadcast frame. -/
def broadcastFrame (npdu : Bytes) : Bytes :=
  (BvlcHeader.new .originalBroadcastNpdu (4 + UInt16.ofNat npdu.length)).encode ++ npdu

/-- `send_broadcast_npdu`: what is sent where, and what is returned.  `primary` is what the first
`send_to` returns; what the others do is ignored. -/
def sendBroadcastNpdu (self : BacnetIpDataLink) (npdu : Bytes)
    (primary : Except DataLinkError Unit) :
    List (Bytes × SocketAddr) × Except DataLinkError Unit :=
  let frame := broadcastFrame npdu
  match primary with
  | .error e => ([(frame, self.broadcastAddr)], .error e)
  | .ok _ =>
      ((frame, self.broadcastAddr) :: self.bdt.map (fun entry => (frame, entry.address)), .ok ())

/-- `add_bdt_entry`. -/
def addBdtEntry (self : BacnetIpDataLink) (address : SocketAddr)
    (mask : UInt8 × UInt8 × UInt8 × UInt8) : BacnetIpDataLink :=
  { self with bdt := self.bdt ++ [⟨address, mask⟩] }

/-- `cleanup_fdt`. -/
def cleanupFdt (self : BacnetIpDataLink) (now : Instant) : BacnetIpDataLink :=
  { self with fdt := self.fdt.filter (fun entry => entry.runs now) }

/-- The peers of the link. -/
def peers (self : BacnetIpDataLink) : List SocketAddr := self.bdt.map BdtEntry.address

/-- The addresses of the foreign devices in the table. -/
def foreignDevices (self : BacnetIpDataLink) : List SocketAddr := self.fdt.map FdtEntry.address

end BacnetIpDataLink

/-- The time to live a Register-Foreign-Device message asks for. -/
def registration (data : Bytes) : Option UInt16 :=
  match data with
  | [0x81, 0x05, 0x00, 0x06, high, low] => some (UInt16.ofNat (Octets.beNat [high, low]))
  | _ => none

/-! ## §2. A BBMD -/

/-- The link, the clock, and the registrations it has received, the latest first. -/
structure Bbmd where
  link : BacnetIpDataLink
  now : Instant
  registrations : List FdtEntry
  deriving Repr, DecidableEq

namespace Bbmd

/-- What happens at a BBMD. -/
inductive Event where
  | receive (datagram : Bytes) (source : SocketAddr)
  | addBdtEntry (address : SocketAddr) (mask : UInt8 × UInt8 × UInt8 × UInt8)
  | cleanupFdt
  | broadcast (npdu : Bytes) (primary : Except DataLinkError Unit)
  | wait (span : Duration)

/-- A link to `localAddr`'s subnet, before anything happens. -/
def start (localAddr broadcastAddr : SocketAddr) (now : Instant) : Bbmd :=
  ⟨⟨localAddr, [], [], broadcastAddr⟩, now, []⟩

/-- What an event does. -/
def act (self : Bbmd) : Event → Bbmd
  | .receive datagram source =>
      { self with
        link := (self.link.receiveFrame datagram source self.now).1
        registrations :=
          ((registration datagram).map (fun ttl => ⟨source, ttl, self.now⟩)).toList
            ++ self.registrations }
  | .addBdtEntry address mask => { self with link := self.link.addBdtEntry address mask }
  | .cleanupFdt => { self with link := self.link.cleanupFdt self.now }
  | .broadcast _ _ => self
  | .wait span => { self with now := self.now + span }

/-- Every event can happen. -/
def step (self : Bbmd) (event : Event) : Option Bbmd := some (self.act event)

/-- The most recent registration from `address` is for longer than has passed since. -/
def Live (self : Bbmd) (address : SocketAddr) : Prop :=
  ∃ entry, self.registrations.find? (fun entry => entry.address == address) = some entry
    ∧ entry.runs self.now = true

/-- What is asked of a BBMD: a broadcast that succeeds reaches its subnet, every peer and every
live foreign device, each once, and nobody else; no device is in the table twice; and one that
registers for no time is not in it. -/
def Distributes (self : Bbmd) (event : Event) : Prop :=
  match event with
  | .broadcast npdu primary =>
      let (sends, result) := self.link.sendBroadcastNpdu npdu primary
      result = .ok () →
        (sends.map Prod.snd).Nodup
          ∧ (∀ sent ∈ sends, sent.1 = BacnetIpDataLink.broadcastFrame npdu)
          ∧ ∀ address, address ∈ sends.map Prod.snd
              ↔ address = self.link.broadcastAddr ∨ address ∈ self.link.peers ∨ self.Live address
  | .receive datagram source =>
      (self.act event).link.foreignDevices.Nodup
        ∧ (registration datagram = some 0 → source ∉ (self.act event).link.foreignDevices)
  | _ => (self.act event).link.foreignDevices.Nodup

/-- At a broadcast, the peers are different, none of them is the broadcast address, and every
live foreign device is one of these; and who registers does so for some time, and is not in the
table. -/
def Plain (self : Bbmd) : Event → Prop
  | .broadcast _ primary =>
      primary = .ok () → (self.link.broadcastAddr :: self.link.peers).Nodup
        ∧ ∀ address, self.Live address → address ∈ self.link.broadcastAddr :: self.link.peers
  | .receive datagram source =>
      ∀ ttl, registration datagram = some ttl → ttl ≠ 0 ∧ source ∉ self.link.foreignDevices
  | _ => True

/-! ## §3. What each event does to the table -/

variable {self : Bbmd}

theorem registration_eq_some {data : Bytes} {ttl : UInt16} :
    registration data = some ttl
      ↔ ∃ high low, data = [0x81, 0x05, 0x00, 0x06, high, low]
        ∧ ttl = UInt16.ofNat (Octets.beNat [high, low]) := by
  constructor
  · intro h
    unfold registration at h
    split at h
    · next high low => exact ⟨high, low, rfl, (Option.some.inj h).symm⟩
    · cases h
  · rintro ⟨high, low, rfl, rfl⟩
    rfl

/-- A registration is six octets, and its header says so. -/
theorem registration_of_header {data : Bytes} {header : BvlcHeader} {o₀ o₁ o₂ o₃ high low : UInt8}
    (hdecode : BvlcHeader.decode data = .ok header) (hlength : data.length = header.length.toNat)
    (hfunction : header.function = .registerForeignDevice)
    (hdata : data = [o₀, o₁, o₂, o₃, high, low]) :
    registration data = some (UInt16.ofNat (Octets.beNat [high, low])) := by
  obtain ⟨upper, lower, rest, heq, hheader⟩ := BvlcHeader.decode_eq_ok hdecode
  rw [hfunction] at heq
  rw [hdata] at heq hlength
  simp only [List.cons.injEq] at heq
  obtain ⟨rfl, rfl, rfl, rfl, rfl⟩ := heq
  -- The length is 6, in two octets.
  have hsix : o₂.toNat * 256 + o₃.toNat = 6 := by
    rw [← hlength] at hheader
    simpa [Octets.beNat] using hheader.symm
  have hupper : o₂ = 0 := UInt8.toNat_inj.mp (show o₂.toNat = 0 by omega)
  have hlower : o₃ = 6 := UInt8.toNat_inj.mp (show o₃.toNat = 6 by omega)
  rw [hdata, hupper, hlower]
  rfl

theorem fst_receiveFrame (link : BacnetIpDataLink) (datagram : Bytes) (source : SocketAddr)
    (now : Instant) :
    (link.receiveFrame datagram source now).1
      = (link.processBvlcMessage (datagram.take receiveBuffer) source now).1 := by
  unfold BacnetIpDataLink.receiveFrame
  obtain ⟨after, result⟩ := link.processBvlcMessage (datagram.take receiveBuffer) source now
  cases result with
  | error e => rfl
  | ok npdu => cases npdu <;> rfl

/-- **What a datagram does to the table of foreign devices**: a registration is added to it,
whatever is there already and whatever it asks for. -/
theorem fdt_receiveFrame (link : BacnetIpDataLink) (datagram : Bytes) (source : SocketAddr)
    (now : Instant) :
    (link.receiveFrame datagram source now).1
      = { link with
          fdt := link.fdt ++ ((registration datagram).map (fun ttl =>
            (⟨source, ttl, now⟩ : FdtEntry))).toList } := by
  cases hregistered : registration datagram with
  | some ttl =>
      obtain ⟨high, low, rfl, rfl⟩ := registration_eq_some.mp hregistered
      rfl
  | none =>
      have hlink : (link.processBvlcMessage (datagram.take receiveBuffer) source now).1 = link := by
        unfold BacnetIpDataLink.processBvlcMessage
        cases hdecode : BvlcHeader.decode (datagram.take receiveBuffer) with
        | error e => rfl
        | ok header =>
            simp only
            by_cases hlength : (datagram.take receiveBuffer).length ≠ header.length.toNat
            · rw [if_pos hlength]
            · rw [if_neg hlength]
              cases hfunction : header.function with
              | registerForeignDevice =>
                  simp only
                  split
                  · next o₀ o₁ o₂ o₃ high low hdata =>
                      -- Six octets are all of the datagram, so it is a registration.
                      have hall : datagram.take receiveBuffer = datagram := by
                        apply List.take_of_length_le
                        have hsix : (datagram.take receiveBuffer).length = 6 := by rw [hdata]; rfl
                        rw [List.length_take] at hsix
                        unfold receiveBuffer at *
                        omega
                      have hfound := registration_of_header hdecode (not_not.mp hlength)
                        hfunction hdata
                      rw [hall, hregistered] at hfound
                      cases hfound
                  · rfl
              | originalUnicastNpdu => simp only; split <;> rfl
              | originalBroadcastNpdu => simp only; split <;> rfl
              | forwardedNpdu => simp only; split <;> rfl
              | _ => rfl
      rw [fst_receiveFrame, hlink]
      simp

theorem foreignDevices_receiveFrame (link : BacnetIpDataLink) (datagram : Bytes)
    (source : SocketAddr) (now : Instant) :
    (link.receiveFrame datagram source now).1.foreignDevices
      = link.foreignDevices ++ ((registration datagram).map (fun _ => source)).toList := by
  rw [fdt_receiveFrame]
  unfold BacnetIpDataLink.foreignDevices
  cases registration datagram <;> simp

/-- A broadcast goes to the subnet and to every entry of the peers' table. -/
theorem broadcast_addresses (link : BacnetIpDataLink) (npdu : Bytes) :
    (link.sendBroadcastNpdu npdu (.ok ())).1.map Prod.snd = link.broadcastAddr :: link.peers := by
  show link.broadcastAddr :: (link.bdt.map _).map Prod.snd = _
  rw [List.map_map]
  rfl

/-- **One event does what is asked of a BBMD exactly when it is plain.** -/
theorem distributes_iff (h : self.link.foreignDevices.Nodup) (event : Event) :
    self.Distributes event ↔ self.Plain event := by
  cases event with
  | addBdtEntry address mask => exact ⟨fun _ => trivial, fun _ => h⟩
  | wait span => exact ⟨fun _ => trivial, fun _ => h⟩
  | cleanupFdt =>
      refine ⟨fun _ => trivial, fun _ => ?_⟩
      exact h.sublist (List.Sublist.map FdtEntry.address List.filter_sublist)
  | receive datagram source =>
      show (self.link.receiveFrame datagram source self.now).1.foreignDevices.Nodup
        ∧ (registration datagram = some 0 →
          source ∉ (self.link.receiveFrame datagram source self.now).1.foreignDevices) ↔ _
      rw [foreignDevices_receiveFrame]
      unfold Plain
      simp only
      -- An entry is appended whatever is there, so the address must be a new one.
      cases registration datagram with
      | none => simp [h]
      | some ttl =>
          have hadded : (((some ttl).map (fun _ => source)).toList : List SocketAddr) = [source] :=
            rfl
          rw [hadded]
          simp only [Option.some.injEq, forall_eq', List.mem_append, List.mem_singleton, or_true,
            not_true_eq_false, imp_false]
          rw [List.nodup_append]
          constructor
          · rintro ⟨⟨_, _, hdifferent⟩, httl⟩
            exact ⟨httl, fun hmem => hdifferent source hmem source (List.mem_singleton_self _) rfl⟩
          · rintro ⟨httl, hnew⟩
            refine ⟨⟨h, List.nodup_singleton _, ?_⟩, httl⟩
            intro address hmem other hother heq
            rw [List.mem_singleton.mp hother] at heq
            exact hnew (heq ▸ hmem)
  | broadcast npdu primary =>
      cases primary with
      | error e =>
          constructor
          · intro _ hok
            cases hok
          · intro _ hok
            cases hok
      | ok u =>
          have haddresses := broadcast_addresses self.link npdu
          -- The subnet and every peer are sent the same frame.
          have hframes : ∀ sent ∈ (self.link.sendBroadcastNpdu npdu (.ok ())).1,
              sent.1 = BacnetIpDataLink.broadcastFrame npdu := by
            intro sent hsent
            rcases List.mem_cons.mp hsent with rfl | hpeer
            · rfl
            · obtain ⟨entry, _, rfl⟩ := List.mem_map.mp hpeer
              rfl
          show (_ → ((self.link.sendBroadcastNpdu npdu (.ok ())).1.map Prod.snd).Nodup
            ∧ _ ∧ ∀ address, address ∈ (self.link.sendBroadcastNpdu npdu (.ok ())).1.map Prod.snd
              ↔ _) ↔ (_ → _)
          rw [haddresses]
          constructor
          · intro hall _
            obtain ⟨hnodup, _, hmem⟩ := hall rfl
            exact ⟨hnodup, fun address hlive => (hmem address).mpr (.inr (.inr hlive))⟩
          · intro hplain _
            obtain ⟨hnodup, hlive⟩ := hplain rfl
            refine ⟨hnodup, hframes, fun address => ⟨fun hmem => ?_, ?_⟩⟩
            · rcases List.mem_cons.mp hmem with hsubnet | hpeer
              · exact .inl hsubnet
              · exact .inr (.inl hpeer)
            · rintro (rfl | hpeer | hheard)
              · exact List.mem_cons_self
              · exact List.mem_cons_of_mem _ hpeer
              · exact hlive address hheard

/-! ## §4. Whole runs -/

theorem step_nodup {event : Event} {after : Bbmd} (hplain : self.Plain event)
    (h : self.link.foreignDevices.Nodup) (hstep : self.step event = some after) :
    after.link.foreignDevices.Nodup := by
  have hdone := (distributes_iff h event).mpr hplain
  cases hstep
  cases event with
  | receive datagram source => exact hdone.1
  | addBdtEntry address mask => exact hdone
  | cleanupFdt => exact hdone
  | wait span => exact hdone
  | broadcast npdu primary => exact h

/-- **A run does what is asked of a BBMD exactly when all of it is plain**: no broadcast while a
foreign device is registered that is not a peer, or while a peer is in its table twice; and no
registration for no time, or from a device that is still in the table. -/
theorem broadcasts_reach_iff (localAddr broadcastAddr : SocketAddr) (now : Instant)
    (events : List Event) :
    Machine.Throughout step Distributes (start localAddr broadcastAddr now) events
      ↔ Machine.Throughout step Plain (start localAddr broadcastAddr now) events :=
  Machine.throughout_iff (fun _ event h => distributes_iff h event)
    (fun _ _ _ hplain h hstep => step_nodup hplain h hstep) List.nodup_nil

/-- A foreign device registers for a minute, and does not hear the next broadcast. -/
theorem foreign_device_unheard :
    ¬ Machine.Throughout step Distributes
      (start (.v4 0x0A000001 47808) (.v4 0x0A0000FF 47808) 0)
      [.receive [0x81, 0x05, 0x00, 0x06, 0x00, 0x3C] (.v4 0xC0A80105 47808),
        .broadcast [0x01, 0x00, 0x10, 0x08] (.ok ())] := by
  rintro ⟨_, hon⟩
  obtain ⟨hbroadcast, _⟩ := hon _ rfl
  obtain ⟨_, _, hmem⟩ := hbroadcast rfl
  have hlive := (hmem (.v4 0xC0A80105 47808)).mpr (.inr (.inr ⟨_, rfl, by decide⟩))
  exact absurd hlive (by decide +kernel)

end Bbmd

end BacnetRs.Network
