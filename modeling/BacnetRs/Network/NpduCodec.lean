/-
  BacnetRs.Network.NpduCodec — a header is read back as it was written, and
  written back as it was read (`network/mod.rs`).

  The encoder goes by which addresses there are, the decoder by two bits of the
  control octet.  Every way of putting a header together keeps the bits and the
  addresses in step (`Npdu.Consistent`).

    * `Npdu.Built.consistent` — the setters keep the bits and the addresses in step.
    * `Npdu.decode_encode`    — what is written is read back, whatever comes next.
    * `Npdu.decode_ensures`   — what is read is written back, octet for octet.
-/
import BacnetRs.Network.Npdu

namespace BacnetRs.Network

/-! ## §1. The control octet -/

/-- The flags of a control octet, every combination of them. -/
theorem fromByte_flags : ∀ networkMessage destinationPresent sourcePresent expectingReply : Bool,
    ∀ priority : Fin 4,
    let control : NpduControl := ⟨networkMessage, destinationPresent, sourcePresent,
      expectingReply, UInt8.ofNat priority⟩
    NpduControl.fromByte control.toByte = control := by
  decide

theorem NpduControl.fromByte_toByte {control : NpduControl} (h : control.priority ≤ 3) :
    fromByte control.toByte = control := by
  obtain ⟨networkMessage, destinationPresent, sourcePresent, expectingReply, priority⟩ := control
  have hlt : priority.toNat < 4 := by
    have hle : priority.toNat ≤ 3 := UInt8.le_iff_toNat_le.mp h
    omega
  have hflags := fromByte_flags networkMessage destinationPresent sourcePresent expectingReply
    ⟨priority.toNat, hlt⟩
  simp only [UInt8.ofNat_toNat] at hflags
  exact hflags

/-- Two bits of the octet are reserved; the others are written back as they were read. -/
theorem toByte_octets : ∀ byte : Fin 256, UInt8.ofNat byte &&& 0x50 = 0 →
    (NpduControl.fromByte (UInt8.ofNat byte)).toByte = UInt8.ofNat byte := by
  decide +kernel

theorem NpduControl.toByte_fromByte {byte : UInt8} (h : byte &&& 0x50 = 0) :
    (fromByte byte).toByte = byte := by
  have hoctet := toByte_octets ⟨byte.toNat, byte.toNat_lt⟩
  simp only [UInt8.ofNat_toNat] at hoctet
  exact hoctet h

namespace Npdu

/-! ## §2. Address specifiers -/

theorem length_encodeAddress (address : NetworkAddress) :
    (encodeAddress address).length = 3 + address.address.length := by
  unfold encodeAddress
  rw [List.length_append, Octets.length_beOctets, List.length_cons]
  omega

/-- An address that fits its length octet is read back where it was written. -/
theorem decodeAddress_append (before : Bytes) {address : NetworkAddress}
    (h : address.address.length ≤ 255) (after : Bytes) (what : String) :
    decodeAddress (before ++ (encodeAddress address ++ after)) before.length what
      = .ok (address, before.length + (encodeAddress address).length) := by
  let network := Octets.beOctets 2 address.network.toNat
  let length := UInt8.ofNat address.address.length
  have hlength : length.toNat = address.address.length := by
    show address.address.length % 256 = _
    omega
  have hnetwork : network.length = 2 := Octets.length_beOctets 2 _
  have hsize := length_encodeAddress address
  have hdata : before ++ (encodeAddress address ++ after)
      = before ++ (network ++ (length :: address.address ++ after)) := by
    unfold encodeAddress
    rw [List.append_assoc]
  -- The network number, the length and the address each stand where the decoder looks.
  have hnat : (Octets.natAt (before ++ (encodeAddress address ++ after)) before.length 2 :
      Checked NetworkError Nat) = .ok address.network.toNat := by
    rw [hdata, ← hnetwork, Octets.natAt_append, Octets.beNat_beOctets]
    have hlt : address.network.toNat < 256 ^ 2 := address.network.toNat_lt
    rw [Nat.mod_eq_of_lt hlt]
  have hindex : (Octets.index (before ++ (encodeAddress address ++ after)) (before.length + 2) :
      Checked NetworkError UInt8) = .ok length := by
    have hplace : (before ++ network).length = before.length + 2 := by
      rw [List.length_append, hnetwork]
    rw [hdata, ← List.append_assoc, ← hplace]
    exact Octets.index_append (before ++ network) length (address.address ++ after)
  have hrange : (Octets.range (before ++ (encodeAddress address ++ after)) (before.length + 3)
      (before.length + 3 + length.toNat) : Checked NetworkError Bytes) = .ok address.address := by
    have hplace : (before ++ network ++ [length]).length = before.length + 3 := by
      simp [hnetwork]
    rw [hdata, hlength, ← hplace]
    have happend := Octets.range_append (ε := NetworkError) (before ++ network ++ [length])
      address.address after
    simpa using happend
  unfold decodeAddress
  simp only [hnat, hindex, hlength] at hrange ⊢
  -- Both bounds that the decoder checks hold.
  have hfits : ¬ before.length + 3 > (before ++ (encodeAddress address ++ after)).length := by
    simp only [List.length_append, hsize]
    omega
  have hwithin : ¬ before.length + 3 + length.toNat
      > (before ++ (encodeAddress address ++ after)).length := by
    simp only [List.length_append, hsize, hlength]
    omega
  rw [if_neg hfits]
  show (if before.length + 3 + length.toNat > _ then _ else _) = _
  rw [if_neg hwithin]
  show (Octets.range _ (before.length + 3) (before.length + 3 + length.toNat) >>= _) = _
  rw [hlength, hrange]
  show Except.ok (NetworkAddress.mk (UInt16.ofNat address.network.toNat) address.address, _) = _
  rw [UInt16.ofNat_toNat, hsize]
  congr 2
  omega

theorem decodeAddressIf_append (before : Bytes) {address : Option NetworkAddress}
    (h : ∀ a ∈ address, a.address.length ≤ 255) (after : Bytes) (what : String) :
    decodeAddressIf address.isSome (before ++ (address.elim [] encodeAddress ++ after))
        before.length what
      = .ok (address, before.length + (address.elim [] encodeAddress).length) := by
  cases address with
  | none => rfl
  | some address =>
      show (decodeAddress (before ++ (encodeAddress address ++ after)) before.length what >>= _) = _
      rw [decodeAddress_append before (h address rfl) after what]
      rfl

/-! ## §3. Headers that are put together -/

/-- A header made by a constructor, the setters and the assignment of the other fields, in any
order. -/
inductive Built : Npdu → Prop
  | new : Built new
  | globalBroadcast : Built globalBroadcast
  | setSource {npdu : Npdu} {source : NetworkAddress} (h : Built npdu)
      (hfits : source.address.length ≤ 255) : Built (npdu.setSource source)
  | setDestination {npdu : Npdu} {destination : NetworkAddress} (h : Built npdu)
      (hfits : destination.address.length ≤ 255) : Built (npdu.setDestination destination)
  | flags {npdu : Npdu} (networkMessage expectingReply : Bool) (h : Built npdu) :
      Built { npdu with
        control := { npdu.control with
          networkMessage := networkMessage
          expectingReply := expectingReply } }
  | priority {npdu : Npdu} {priority : UInt8} (h : Built npdu) (hpriority : priority ≤ 3) :
      Built { npdu with control := { npdu.control with priority := priority } }
  | hopCount {npdu : Npdu} (hopCount : Option UInt8) (h : Built npdu) :
      Built { npdu with hopCount := hopCount }

/-- The control octet says which addresses there are, and each fits its length octet. -/
structure Consistent (npdu : Npdu) : Prop where
  version : npdu.version = 1
  priority : npdu.control.priority ≤ 3
  destination : npdu.control.destinationPresent = npdu.destination.isSome
  source : npdu.control.sourcePresent = npdu.source.isSome
  destinationFits : ∀ address ∈ npdu.destination, address.address.length ≤ 255
  sourceFits : ∀ address ∈ npdu.source, address.address.length ≤ 255

theorem Built.consistent {npdu : Npdu} (h : Built npdu) : npdu.Consistent := by
  induction h with
  | new => exact ⟨rfl, by decide, rfl, rfl, by simp [Npdu.new], by simp [Npdu.new]⟩
  | globalBroadcast =>
      exact ⟨rfl, by decide, rfl, rfl, by simp [Npdu.globalBroadcast],
        by simp [Npdu.globalBroadcast]⟩
  | setSource h hfits ih =>
      exact ⟨ih.version, ih.priority, ih.destination, rfl, ih.destinationFits,
        fun address ha => by cases ha; exact hfits⟩
  | setDestination h hfits ih =>
      exact ⟨ih.version, ih.priority, rfl, ih.source, fun address ha => by cases ha; exact hfits,
        ih.sourceFits⟩
  | flags networkMessage expectingReply h ih => exact { ih with }
  | priority h hpriority ih => exact { ih with priority := hpriority }
  | hopCount hopCount h ih => exact { ih with }

/-- The header as it is carried: a hop count goes with a destination, 255 where none was given. -/
def carried (npdu : Npdu) : Npdu :=
  { npdu with hopCount := npdu.destination.map (fun _ => npdu.hopCount.getD 255) }

/-! ## §4. Reading what was written -/

theorem decode_encode {npdu : Npdu} (h : npdu.Consistent) (payload : Bytes) :
    decode (npdu.encode ++ payload) = .ok (npdu.carried, npdu.encode.length) := by
  let header : Bytes := [npdu.version, npdu.control.toByte]
  let destination := npdu.destination.elim [] encodeAddress
  let source := npdu.source.elim [] encodeAddress
  let hops : Bytes := if npdu.destination.isSome then [npdu.hopCount.getD 255] else []
  have hdata : npdu.encode ++ payload = header ++ (destination ++ (source ++ (hops ++ payload))) := by
    simp [encode, header, destination, source, hops]
  have hlength : npdu.encode.length
      = 2 + destination.length + source.length + hops.length := by
    simp only [encode, List.length_cons, List.length_append, destination, source, hops]
    omega
  have hcontrol : NpduControl.fromByte npdu.control.toByte = npdu.control :=
    NpduControl.fromByte_toByte h.priority
  have hdestination : decodeAddressIf npdu.destination.isSome (npdu.encode ++ payload) 2
      "destination" = .ok (npdu.destination, 2 + destination.length) := by
    rw [hdata]
    exact decodeAddressIf_append header h.destinationFits _ _
  have hsource : decodeAddressIf npdu.source.isSome (npdu.encode ++ payload)
      (2 + destination.length) "source"
      = .ok (npdu.source, 2 + destination.length + source.length) := by
    have hplace : (header ++ destination).length = 2 + destination.length := by
      simp only [List.length_append, header]
      rfl
    rw [hdata, ← List.append_assoc, ← hplace]
    exact decodeAddressIf_append (header ++ destination) h.sourceFits _ _
  have hlong : ¬ (npdu.encode ++ payload).length < 2 := by
    rw [List.length_append, hlength]
    omega
  have hread : decode (npdu.encode ++ payload)
      = (if npdu.destination.isSome then
          if 2 + destination.length + source.length ≥ (npdu.encode ++ payload).length then
            Checked.fail (.invalidNpdu "Missing hop count")
          else do
            let hopCount ← Octets.index (npdu.encode ++ payload)
              (2 + destination.length + source.length)
            return (⟨npdu.version, npdu.control, npdu.destination, npdu.source, some hopCount⟩,
              2 + destination.length + source.length + 1)
        else .ok (⟨npdu.version, npdu.control, npdu.destination, npdu.source, none⟩,
          2 + destination.length + source.length)) := by
    unfold decode
    rw [if_neg hlong]
    show (if npdu.version ≠ 1 then _ else _) = _
    rw [if_neg (by simp [h.version])]
    show (decodeAddressIf (NpduControl.fromByte npdu.control.toByte).destinationPresent _ 2 _
      >>= _) = _
    rw [hcontrol, h.destination, hdestination]
    show (decodeAddressIf npdu.control.sourcePresent _ _ _ >>= _) = _
    rw [h.source, hsource]
    rfl
  rw [hread]
  cases hpresent : npdu.destination with
  | none =>
      have hnone : hops = [] := by simp [hops, hpresent]
      rw [hlength, hnone]
      simp [carried, hpresent]
  | some address =>
      have hone : hops = [npdu.hopCount.getD 255] := by simp [hops, hpresent]
      -- The hop count is the octet after both addresses.
      have hplace : (header ++ destination ++ source).length
          = 2 + destination.length + source.length := by
        simp only [List.length_append, header]
        rfl
      have hindex : (Octets.index (npdu.encode ++ payload)
          (2 + destination.length + source.length) : Checked NetworkError UInt8)
          = .ok (npdu.hopCount.getD 255) := by
        have happend := Octets.index_append (ε := NetworkError) (header ++ destination ++ source)
          (npdu.hopCount.getD 255) payload
        rw [hdata, hone, ← hplace]
        simpa using happend
      have hleft : ¬ 2 + destination.length + source.length
          ≥ (npdu.encode ++ payload).length := by
        rw [List.length_append, hlength, hone, List.length_singleton]
        omega
      rw [Option.isSome_some, if_pos rfl, if_neg hleft, hindex, hlength, hone]
      simp [carried, hpresent]

/-! ## §5. Writing what was read -/

section Written

open Checked

/-- An address is written as the octets it was read from. -/
theorem decodeAddress_ensures (data : Bytes) (pos : Nat) (what : String) :
    Ensures (decodeAddress data pos what)
      (fun decoded => data.take decoded.2 = data.take pos ++ encodeAddress decoded.1) := by
  unfold decodeAddress
  apply ensures_guard
  refine (Octets.natAt_ensures data pos 2).bind ?_
  intro network hnetwork
  refine (Octets.index_ensures data (pos + 2)).bind ?_
  intro length hlength
  apply ensures_guard
  refine (Octets.range_ensures data).bind ?_
  intro address haddress
  apply ensures_ok
  show data.take (pos + 3 + length.toNat) = _
  have hsize : UInt8.ofNat address.length = length := by
    rw [show address.length = length.toNat by omega, UInt8.ofNat_toNat]
  have hnumber : (UInt16.ofNat network).toNat = network := by
    rw [UInt16.toNat_ofNat']
    exact Nat.mod_eq_of_lt hnetwork.2
  rw [haddress.1, show pos + 3 = pos + 2 + 1 from rfl, hlength.2, hnetwork.1]
  simp [encodeAddress, hsize, hnumber]

theorem decodeAddressIf_ensures (present : Bool) (data : Bytes) (pos : Nat) (what : String) :
    Ensures (decodeAddressIf present data pos what)
      (fun decoded => data.take decoded.2 = data.take pos ++ decoded.1.elim [] encodeAddress) := by
  unfold decodeAddressIf
  cases present with
  | false => exact ensures_ok (List.append_nil _).symm
  | true =>
      refine (decodeAddress_ensures data pos what).bind ?_
      intro decoded hdecoded
      exact ensures_ok hdecoded

/-- A header is written as the octets it was read from, but for what its control octet keeps. -/
theorem decode_written (data : Bytes) :
    Ensures (decode data) (fun decoded => ∃ version byte, data.take 2 = [version, byte]
      ∧ decoded.1.encode
        = [version, (NpduControl.fromByte byte).toByte] ++ (data.take decoded.2).drop 2) := by
  -- The decoder's steps in order: each says which octets it has read.
  unfold decode
  apply ensures_guard
  refine (Octets.index_ensures data 0).bind ?_
  intro version hversion
  apply ensures_guard
  refine (Octets.index_ensures data 1).bind ?_
  intro byte hbyte
  refine (decodeAddressIf_ensures _ data 2 "destination").bind ?_
  rintro ⟨destination, afterDestination⟩ hdestination
  refine (decodeAddressIf_ensures _ data afterDestination "source").bind ?_
  rintro ⟨source, afterSource⟩ hsource
  simp only at hdestination hsource ⊢
  have hheader : data.take 2 = [version, byte] := by
    rw [hbyte.2, hversion.2]
    rfl
  split
  · next hpresent =>
      refine ensures_guard ?_
      refine (Octets.index_ensures data afterSource).bind ?_
      intro hopCount hhops
      refine ensures_ok ⟨version, byte, hheader, ?_⟩
      show _ = _ ++ (data.take (afterSource + 1)).drop 2
      rw [hhops.2, hsource, hdestination, hheader]
      simp [encode, hpresent]
  · next habsent =>
      refine ensures_ok ⟨version, byte, hheader, ?_⟩
      show _ = _ ++ (data.take afterSource).drop 2
      rw [hsource, hdestination, hheader]
      simp [encode, habsent]

/-- A header takes as many octets as it is written in. -/
theorem length_encode_of_decode {data : Bytes} {npdu : Npdu} {consumed : Nat}
    (h : decode data = .ok (npdu, consumed)) : npdu.encode.length = consumed := by
  obtain ⟨version, byte, _, hwritten⟩ := decode_written data _ h
  have hwithin : 2 ≤ consumed ∧ consumed ≤ data.length := (decode_meets data).2 _ h
  simp only at hwritten
  rw [hwritten]
  simp only [List.length_append, List.length_cons, List.length_nil, List.length_drop,
    List.length_take]
  omega

/-- A header is written as the octets it was read from, but for the reserved bits. -/
theorem decode_ensures (data : Bytes) :
    Ensures (decode data) (fun decoded => ∀ byte, data[1]? = some byte → byte &&& 0x50 = 0 →
      decoded.1.encode = data.take decoded.2) := by
  intro decoded h other hother hclear
  obtain ⟨version, byte, hheader, hwritten⟩ := decode_written data decoded h
  have hwithin : 2 ≤ decoded.2 ∧ decoded.2 ≤ data.length := (decode_meets data).2 decoded h
  have hsame : byte = other := by
    have hsecond : (data.take 2)[1]? = some byte := by rw [hheader]; rfl
    rw [List.getElem?_take_of_lt (by omega), hother] at hsecond
    exact (Option.some.inj hsecond).symm
  rw [hwritten, hsame, NpduControl.toByte_fromByte hclear, ← hsame, ← hheader]
  calc data.take 2 ++ (data.take decoded.2).drop 2
      = (data.take decoded.2).take 2 ++ (data.take decoded.2).drop 2 := by
        rw [List.take_take, Nat.min_eq_left hwithin.1]
    _ = data.take decoded.2 := List.take_append_drop 2 _

end Written

/-! ## §6. Both ways -/

/-- **A header is read back as it was put together, whatever follows it; and one that was read is
written back as the octets it was read from, where the two reserved bits were clear.** -/
theorem header_roundTrip :
    (∀ npdu, Built npdu → ∀ payload : Bytes,
      decode (npdu.encode ++ payload) = .ok (npdu.carried, npdu.encode.length))
    ∧ ∀ (data : Bytes) (npdu : Npdu) (consumed : Nat) (byte : UInt8),
      decode data = .ok (npdu, consumed) → data[1]? = some byte → byte &&& 0x50 = 0 →
        npdu.encode = data.take consumed := by
  constructor
  · intro npdu hbuilt payload
    exact decode_encode hbuilt.consistent payload
  · intro data npdu consumed byte hdecode hbyte hclear
    exact decode_ensures data (npdu, consumed) hdecode byte hbyte hclear

/-- A routed reply that waits for nothing, and a broadcast as it was received. -/
theorem header_roundTrip_routed :
    decode ((Npdu.new.setDestination ⟨7, [1, 2]⟩).encode ++ [0x10])
        = .ok ({ Npdu.new.setDestination ⟨7, [1, 2]⟩ with hopCount := some 255 }, 8)
      ∧ globalBroadcast.encode = ([0x01, 0x20, 0xFF, 0xFF, 0x00, 0xFF] : Bytes) :=
  ⟨header_roundTrip.1 _ (.setDestination .new (by decide)) [0x10],
    header_roundTrip.2 [0x01, 0x20, 0xFF, 0xFF, 0x00, 0xFF, 0x10, 0x08] globalBroadcast 6 0x20
      (by decide) rfl rfl⟩

end Npdu

end BacnetRs.Network
