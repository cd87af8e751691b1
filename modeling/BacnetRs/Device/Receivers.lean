/-
  BacnetRs.Device.Receivers — the three receivers of BACnet/IP datagrams, side
  by side.

  The data link, the server and the client each take the envelope apart with
  code of their own.  What a receiver delivers is the octets of an NPDU and the
  address it takes them to be from.  The link takes a Forwarded-NPDU to be from
  whoever carried it, and the client does not ask whether the function carries
  an NPDU.

    * `linkDelivery_eq_some`, `serverDelivery_eq_some`, `clientDelivery_eq_some`
                            — what each delivers, from the octets of the datagram.
    * `receivers_agree_iff` — and so when they agree.
-/
import BacnetRs.Client.Frame
import BacnetRs.Network.DataLink
import BacnetRs.Network.NpduCodec
import BacnetRs.Server.Bip

namespace BacnetRs.Receivers

open Checked BacnetRs.Encoding BacnetRs.Object BacnetRs.Network

/-! ## §1. What is delivered -/

/-- The octets of an NPDU, and the address they are attributed to. -/
abbrev Delivery := Bytes × SocketAddr

/-- The octets of an NPDU handed on as a header and what follows it: as many at the end of the
datagram as these two take. -/
def npduOctets (data : Bytes) (npdu : Npdu) (payload : Bytes) : Bytes :=
  data.drop (data.length - (npdu.encode.length + payload.length))

/-- What `BacnetIpDataLink::receive_frame` delivers. -/
def linkDelivery (link : BacnetIpDataLink) (now : Instant) (data : Bytes) (source : SocketAddr) :
    Option Delivery :=
  (link.receiveFrame data source now).2.toOption

/-- What the server's `decode_bacnet_ip_frame` delivers, with the UDP source where it names no
origin. -/
def serverDelivery (data : Bytes) (source : SocketAddr) : Option Delivery :=
  (Server.decodeBacnetIpFrame data).map (fun (npdu, payload, origin) =>
    (npduOctets data npdu payload, origin.getD source))

/-- What the client's `decode_bacnet_ip_frame` delivers. -/
def clientDelivery (data : Bytes) (source : SocketAddr) : Option Delivery :=
  (Client.decodeBacnetIpFrame data source).okPart.map (fun frame =>
    (npduOctets data frame.npdu frame.payload, frame.source))

/-! ## §2. Agreement -/

/-- Who a datagram is to be attributed to. -/
def attributed (data : Bytes) (source : SocketAddr) : SocketAddr :=
  if data[1]? = some BvlcFunction.forwardedNpdu.toByte then Server.originOf data else source

/-- The BVLC functions without an NPDU: a result, the reads and writes of the two tables, and
Register-Foreign-Device. -/
def carriesNone : BvlcFunction → Bool
  | .result | .writeBroadcastDistributionTable | .readBroadcastDistributionTable
  | .readBroadcastDistributionTableAck | .registerForeignDevice | .readForeignDeviceTable
  | .readForeignDeviceTableAck | .deleteForeignDeviceTableEntry => true
  | _ => false

/-- If both deliver, they deliver the same, attributed as it is to be. -/
def Agree (data : Bytes) (source : SocketAddr) (one other : Option Delivery) : Prop :=
  ∀ a ∈ one, ∀ b ∈ other, a = b ∧ a.2 = attributed data source

/-- What is asked of the three receivers, of one datagram. -/
structure ReceiversAgree (link : BacnetIpDataLink) (now : Instant) (data : Bytes)
    (source : SocketAddr) : Prop where
  linkServer : Agree data source (linkDelivery link now data source) (serverDelivery data source)
  linkClient : Agree data source (linkDelivery link now data source) (clientDelivery data source)
  serverClient : Agree data source (serverDelivery data source) (clientDelivery data source)
  none_carried : ∀ function, carriesNone function = true → data[1]? = some function.toByte →
    linkDelivery link now data source = none ∧ serverDelivery data source = none
      ∧ clientDelivery data source = none

/-- The datagram is a BACnet/IP message of `function`, and as long as it says. -/
def Framed (function : UInt8) (data : Bytes) : Prop :=
  ∃ high low rest, data = 0x81 :: function :: high :: low :: rest
    ∧ Octets.beNat [high, low] = data.length

/-- A Forwarded-NPDU that the link has room for, from another address than the one it names. -/
def Misattributed (data : Bytes) (source : SocketAddr) : Prop :=
  Framed BvlcFunction.forwardedNpdu.toByte data ∧ data.length ≤ receiveBuffer
    ∧ (Npdu.decode (data.drop 10)).okPart.isSome ∧ Server.originOf data ≠ source

/-- A message without an NPDU, whose contents could pass for one. -/
def Mistaken (data : Bytes) : Prop :=
  ∃ function, carriesNone function = true ∧ Framed function.toByte data
    ∧ (Npdu.decode (data.drop 4)).okPart.isSome

/-! ## §3. The envelope -/

section Envelope

variable {data : Bytes} {source : SocketAddr} {function other : UInt8}

theorem framed_iff : Framed function data ↔ data[0]? = some 0x81 ∧ data[1]? = some function
    ∧ 2 + 2 ≤ data.length ∧ Octets.beNat ((data.drop 2).take 2) = data.length := by
  constructor
  · rintro ⟨high, low, rest, rfl, hlength⟩
    exact ⟨rfl, rfl, by simp, hlength⟩
  · match data with
    | [] | [_] | [_, _] | [_, _, _] => simp
    | first :: second :: high :: low :: rest =>
        rintro ⟨hfirst, hsecond, _, hlength⟩
        cases hfirst
        cases hsecond
        exact ⟨high, low, rest, rfl, hlength⟩

theorem Framed.octet (h : Framed function data) : data[1]? = some function := by
  obtain ⟨high, low, rest, rfl, _⟩ := h
  rfl

theorem Framed.same (h : Framed function data) (hother : Framed other data) :
    function = other :=
  Option.some.inj (h.octet.symm.trans hother.octet)

/-- A datagram and what the link has room for cannot both be as long as they say, unless all of
it has room. -/
theorem Framed.fits {room : Nat} (h : Framed function (data.take room))
    (hother : Framed other data) : data.take room = data ∧ data.length ≤ room := by
  obtain ⟨high, low, rest, htake, hlength⟩ := h
  obtain ⟨high', low', rest', rfl, hlength'⟩ := hother
  have hroom : 4 ≤ ((0x81 :: other :: high' :: low' :: rest').take room).length := by
    rw [htake]
    simp
  rw [List.length_take] at hroom
  obtain ⟨more, rfl⟩ : ∃ more, room = more + 4 := ⟨room - 4, by omega⟩
  simp only [List.take_succ_cons, List.cons.injEq] at htake
  obtain ⟨_, _, rfl, rfl, _⟩ := htake
  rw [hlength', List.length_take] at hlength
  have hfits : (0x81 :: other :: high' :: low' :: rest').length ≤ more + 4 := by omega
  exact ⟨List.take_of_length_le hfits, hfits⟩

/-- A header that decodes, of a datagram as long as it says. -/
theorem framed_of_decode {header : BvlcHeader} (h : BvlcHeader.decode data = .ok header)
    (hlength : header.length.toNat = data.length) : Framed header.function.toByte data := by
  obtain ⟨high, low, rest, hdata, hvalue⟩ := BvlcHeader.decode_eq_ok h
  exact ⟨high, low, rest, hdata, hvalue ▸ hlength⟩

theorem decode_of_framed {function : BvlcFunction} (h : Framed function.toByte data) :
    ∃ header, BvlcHeader.decode data = .ok header ∧ header.function = function
      ∧ header.length.toNat = data.length := by
  obtain ⟨high, low, rest, hdata, hlength⟩ := h
  refine ⟨⟨0x81, function, high.toUInt16 <<< 8 ||| low.toUInt16⟩, ?_, rfl, ?_⟩
  · have hread : BvlcHeader.decode (0x81 :: function.toByte :: high :: low :: rest)
        = BvlcFunction.tryFrom function.toByte >>= fun function =>
          pure ⟨0x81, function, high.toUInt16 <<< 8 ||| low.toUInt16⟩ := rfl
    rw [hdata, hread, BvlcFunction.tryFrom_toByte]
    rfl
  · show (high.toUInt16 <<< 8 ||| low.toUInt16).toNat = _
    rw [BvlcHeader.length_toNat, hlength]

theorem Framed.attributed_ite (h : Framed function data) :
    attributed data source = if function = 0x04 then Server.originOf data else source := by
  unfold attributed
  rw [h.octet]
  simp [BvlcFunction.toByte]

theorem Framed.attributed_eq {function : BvlcFunction} (h : Framed function.toByte data) :
    attributed data source
      = (if function = .forwardedNpdu then some (Server.originOf data) else none).getD source := by
  rw [h.attributed_ite]
  cases function <;> rfl

/-- The octets of an NPDU handed on in two parts. -/
theorem npduOctets_eq {npdu : Npdu} {start consumed : Nat}
    (hdecode : Npdu.decode (data.drop start) = .ok (npdu, consumed)) :
    npduOctets data npdu (data.drop (start + consumed)) = data.drop start := by
  have hwithin : 2 ≤ consumed ∧ consumed ≤ (data.drop start).length :=
    (Npdu.decode_meets (data.drop start)).2 _ hdecode
  rw [List.length_drop] at hwithin
  unfold npduOctets
  rw [Npdu.length_encode_of_decode hdecode, List.length_drop]
  congr 1
  omega

end Envelope

/-! ## §4. What each receiver delivers -/

/-- Where the NPDU starts in the messages the link and the server take one from. -/
def startOf : BvlcFunction → Option Nat
  | .originalUnicastNpdu | .originalBroadcastNpdu => some 4
  | .forwardedNpdu => some 10
  | _ => none

/-- Where the client takes it to start. -/
def clientStart (function : UInt8) : Nat := if function = 0x04 then 10 else 4

section Deliveries

variable {data : Bytes} {source : SocketAddr} {link : BacnetIpDataLink} {now : Instant}

theorem processBvlcMessage_delivers {npdu : Bytes} :
    (link.processBvlcMessage data source now).2 = .ok (some npdu)
      ↔ ∃ function start, startOf function = some start ∧ Framed function.toByte data
        ∧ start < data.length ∧ npdu = data.drop start := by
  constructor
  · intro h
    unfold BacnetIpDataLink.processBvlcMessage at h
    cases hdecode : BvlcHeader.decode data with
    | error e =>
        rw [hdecode] at h
        cases h
    | ok header =>
        simp only [hdecode] at h
        by_cases hlength : data.length ≠ header.length.toNat
        · rw [if_pos hlength] at h
          cases h
        · rw [if_neg hlength] at h
          have hframed := framed_of_decode hdecode (not_not.mp hlength).symm
          refine ⟨header.function, ?_⟩
          cases hfunction : header.function <;> rw [hfunction] at h hframed <;> simp only at h
          -- The functions that carry an NPDU, each with its length check.
          case originalUnicastNpdu | originalBroadcastNpdu | forwardedNpdu =>
            split at h
            · next hlong =>
                cases h
                exact ⟨_, rfl, hframed, hlong, rfl⟩
            · cases h
          case registerForeignDevice => split at h <;> cases h
          all_goals cases h
  · rintro ⟨function, start, hstart, hframed, hlong, rfl⟩
    obtain ⟨header, hdecode, rfl, hlength⟩ := decode_of_framed hframed
    unfold BacnetIpDataLink.processBvlcMessage
    simp only [hdecode]
    rw [if_neg (by rw [not_not, hlength])]
    cases hfunction : header.function <;> rw [hfunction] at hstart <;> cases hstart
    all_goals exact congrArg Prod.snd (if_pos hlong)

/-- **What the link delivers**: what follows the envelope, of as much of the datagram as there
was room for. -/
theorem linkDelivery_eq_some {delivery : Delivery} :
    linkDelivery link now data source = some delivery
      ↔ ∃ function start, startOf function = some start
        ∧ Framed function.toByte (data.take receiveBuffer)
        ∧ start < (data.take receiveBuffer).length
        ∧ delivery = ((data.take receiveBuffer).drop start, source) := by
  have hreceived : linkDelivery link now data source = some delivery
      ↔ (link.processBvlcMessage (data.take receiveBuffer) source now).2
          = .ok (some delivery.1) ∧ delivery.2 = source := by
    unfold linkDelivery BacnetIpDataLink.receiveFrame
    obtain ⟨octets, address⟩ := delivery
    cases hprocess : link.processBvlcMessage (data.take receiveBuffer) source now with
    | mk after result =>
        cases result with
        | error e => simp [Except.toOption]
        | ok found =>
            cases found with
            | none => simp [Except.toOption]
            | some npdu => simp [Except.toOption, eq_comm]
  rw [hreceived, processBvlcMessage_delivers]
  constructor
  · rintro ⟨⟨function, start, hstart, hframed, hlong, hoctets⟩, haddress⟩
    exact ⟨function, start, hstart, hframed, hlong, Prod.ext hoctets haddress⟩
  · rintro ⟨function, start, hstart, hframed, hlong, rfl⟩
    exact ⟨⟨function, start, hstart, hframed, hlong, rfl⟩, rfl⟩

/-- Where the server finds the NPDU. -/
theorem npduStart_eq_some {start : Nat} {origin : Option SocketAddr} :
    Server.npduStart data = some (start, origin)
      ↔ ∃ function, startOf function = some start ∧ Framed function.toByte data
        ∧ (function = .forwardedNpdu → 10 < data.length)
        ∧ origin = if function = .forwardedNpdu then some (Server.originOf data) else none := by
  constructor
  · intro h
    unfold Server.npduStart at h
    cases hdecode : BvlcHeader.decode data with
    | error e =>
        rw [hdecode] at h
        cases h
    | ok header =>
        simp only [hdecode] at h
        by_cases hlength : header.length.toNat ≠ data.length
        · rw [if_pos hlength] at h
          cases h
        · rw [if_neg hlength] at h
          have hframed := framed_of_decode hdecode (not_not.mp hlength)
          refine ⟨header.function, ?_⟩
          cases hfunction : header.function <;> rw [hfunction] at h hframed <;> simp only at h
          case forwardedNpdu =>
            split at h
            · next hlong =>
                cases h
                exact ⟨rfl, hframed, fun _ => hlong, rfl⟩
            · cases h
          case originalUnicastNpdu | originalBroadcastNpdu =>
            cases h
            exact ⟨rfl, hframed, fun hforwarded => (by cases hforwarded), rfl⟩
          all_goals cases h
  · rintro ⟨function, hstart, hframed, hlong, rfl⟩
    obtain ⟨header, hdecode, rfl, hlength⟩ := decode_of_framed hframed
    unfold Server.npduStart
    simp only [hdecode]
    rw [if_neg (by rw [not_not, hlength])]
    cases hfunction : header.function <;> rw [hfunction] at hstart hlong <;> cases hstart
    all_goals first | rfl | exact if_pos (hlong rfl)

/-- **What the server delivers**: what follows the envelope, if it starts with a header. -/
theorem serverDelivery_eq_some {delivery : Delivery} :
    serverDelivery data source = some delivery
      ↔ ∃ function start, startOf function = some start ∧ Framed function.toByte data
        ∧ (Npdu.decode (data.drop start)).okPart.isSome
        ∧ delivery = (data.drop start, attributed data source) := by
  unfold serverDelivery
  rw [Option.map_eq_some_iff]
  constructor
  · rintro ⟨⟨npdu, payload, origin⟩, hdecoded, rfl⟩
    obtain ⟨start, consumed, hstart, hdecode, rfl⟩ := Server.decodeBacnetIpFrame_eq_some.mp hdecoded
    obtain ⟨function, hfunction, hframed, _, rfl⟩ := npduStart_eq_some.mp hstart
    refine ⟨function, start, hfunction, hframed, by rw [hdecode]; rfl, ?_⟩
    exact Prod.ext (npduOctets_eq hdecode) hframed.attributed_eq.symm
  · rintro ⟨function, start, hfunction, hframed, hdecodes, rfl⟩
    cases hdecode : Npdu.decode (data.drop start) with
    | error fault =>
        rw [hdecode] at hdecodes
        cases hdecodes
    | ok decoded =>
        obtain ⟨npdu, consumed⟩ := decoded
        have hwithin : 2 ≤ consumed ∧ consumed ≤ (data.drop start).length :=
          (Npdu.decode_meets (data.drop start)).2 _ hdecode
        rw [List.length_drop] at hwithin
        have hlong : function = .forwardedNpdu → 10 < data.length := by
          rintro rfl
          cases hfunction
          omega
        refine ⟨_, Server.decodeBacnetIpFrame_eq_some.mpr ⟨start, consumed,
          npduStart_eq_some.mpr ⟨function, hfunction, hframed, hlong, rfl⟩, hdecode, rfl⟩, ?_⟩
        exact Prod.ext (npduOctets_eq hdecode) hframed.attributed_eq.symm

/-- What the client hands on. -/
theorem client_decode_eq_ok {frame : Client.DecodedBacnetIpFrame} :
    Client.decodeBacnetIpFrame data source = .ok frame
      ↔ ∃ function consumed, Framed function data
        ∧ Npdu.decode (data.drop (clientStart function)) = .ok (frame.npdu, consumed)
        ∧ frame.payload = data.drop (clientStart function + consumed)
        ∧ frame.source = attributed data source := by
  unfold Client.decodeBacnetIpFrame clientStart
  simp only [bind_eq_ok, guard_eq_ok, Octets.natAt_eq_ok, Octets.index_eq_ok]
  constructor
  · rintro ⟨hshort, first, hfirst, htype, announced, ⟨hfour, rfl⟩, hlength, function, hfunction,
      hread⟩
    rw [not_not] at htype hlength
    have hframed : Framed function data :=
      framed_iff.mpr ⟨htype ▸ hfirst, hfunction, hfour, hlength.symm⟩
    refine ⟨function, ?_⟩
    -- A forwarded frame has the origin's six octets before its payload.
    by_cases hforwarded : function = 0x04
    · simp only [if_pos hforwarded, bind_eq_ok, guard_eq_ok, pure_eq_ok, mapErr_eq_ok,
        Octets.natAt_eq_ok, Octets.dropFrom_eq_ok] at hread ⊢
      obtain ⟨_, ip, ⟨_, rfl⟩, port, ⟨_, rfl⟩, start, rfl, octets, ⟨_, rfl⟩, ⟨npdu, consumed⟩,
        hdecode, _, payload, ⟨_, rfl⟩, rfl⟩ := hread
      exact ⟨consumed, hframed, hdecode, rfl, (hframed.attributed_ite.trans (if_pos hforwarded)).symm⟩
    · simp only [if_neg hforwarded, bind_eq_ok, guard_eq_ok, pure_eq_ok, mapErr_eq_ok,
        Octets.dropFrom_eq_ok] at hread ⊢
      obtain ⟨start, rfl, octets, ⟨_, rfl⟩, ⟨npdu, consumed⟩, hdecode, _, payload, ⟨_, rfl⟩, rfl⟩ :=
        hread
      exact ⟨consumed, hframed, hdecode, rfl, (hframed.attributed_ite.trans (if_neg hforwarded)).symm⟩
  · rintro ⟨function, consumed, hframed, hdecode, hpayload, hsource⟩
    obtain ⟨hfirst, hfunction, hfour, hlength⟩ := framed_iff.mp hframed
    -- An NPDU takes two octets at least, so each slice read on the way is there.
    have hwithin := (Npdu.decode_meets _).2 _ hdecode
    simp only [List.length_drop] at hwithin
    obtain ⟨address, npdu, payload⟩ := frame
    simp only at hdecode hpayload hsource
    rw [hframed.attributed_ite] at hsource
    by_cases hforwarded : function = 0x04
    · rw [if_pos hforwarded] at hdecode hpayload hwithin
      rw [if_pos hforwarded] at hsource
      refine ⟨by omega, _, hfirst, by simp, _, ⟨hfour, rfl⟩, by simp [hlength], _, hfunction, ?_⟩
      simp only [if_pos hforwarded, bind_eq_ok, guard_eq_ok, pure_eq_ok, mapErr_eq_ok,
        Octets.natAt_eq_ok, Octets.dropFrom_eq_ok]
      exact ⟨by omega, _, ⟨by omega, rfl⟩, _, ⟨by omega, rfl⟩, _, rfl, _, ⟨by omega, rfl⟩, _, hdecode,
        by omega, _, ⟨by omega, hpayload⟩, by rw [hsource]; rfl⟩
    · rw [if_neg hforwarded] at hdecode hpayload hwithin
      rw [if_neg hforwarded] at hsource
      refine ⟨by omega, _, hfirst, by simp, _, ⟨hfour, rfl⟩, by simp [hlength], _, hfunction, ?_⟩
      simp only [if_neg hforwarded, bind_eq_ok, guard_eq_ok, pure_eq_ok, mapErr_eq_ok,
        Octets.dropFrom_eq_ok]
      exact ⟨_, rfl, _, ⟨by omega, rfl⟩, _, hdecode, by omega, _, ⟨by omega, hpayload⟩,
        by rw [hsource]⟩

/-- **What the client delivers**: what follows the envelope, whatever function it is of, if it
starts with a header. -/
theorem clientDelivery_eq_some {delivery : Delivery} :
    clientDelivery data source = some delivery
      ↔ ∃ function, Framed function data
        ∧ (Npdu.decode (data.drop (clientStart function))).okPart.isSome
        ∧ delivery = (data.drop (clientStart function), attributed data source) := by
  unfold clientDelivery
  simp only [Option.map_eq_some_iff, okPart_eq_some, client_decode_eq_ok]
  constructor
  · rintro ⟨⟨_, npdu, payload⟩, ⟨function, consumed, hframed, hdecode, rfl, rfl⟩, rfl⟩
    refine ⟨function, hframed, by rw [hdecode]; rfl, ?_⟩
    exact Prod.ext (npduOctets_eq hdecode) rfl
  · rintro ⟨function, hframed, hdecodes, rfl⟩
    obtain ⟨⟨npdu, consumed⟩, hdecode⟩ := Option.isSome_iff_exists.mp hdecodes
    rw [okPart_eq_some] at hdecode
    exact ⟨⟨attributed data source, npdu, _⟩, ⟨function, consumed, hframed, hdecode, rfl, rfl⟩,
      Prod.ext (npduOctets_eq hdecode) rfl⟩

end Deliveries

/-! ## §5. When they agree -/

section Agreement

variable {data : Bytes} {source : SocketAddr} {link : BacnetIpDataLink} {now : Instant}

/-- What the link and another receiver deliver of one datagram differs in the address alone. -/
theorem agree_link {other : Option Delivery}
    (hother : ∀ delivery ∈ other, ∃ function, Framed function data
      ∧ (Npdu.decode (data.drop (clientStart function))).okPart.isSome
      ∧ delivery = (data.drop (clientStart function), attributed data source))
    (h : ¬Misattributed data source) :
    Agree data source (linkDelivery link now data source) other := by
  intro a ha b hb
  obtain ⟨function, start, hstart, hframed, _, rfl⟩ := linkDelivery_eq_some.mp ha
  obtain ⟨octet, hframed', hdecodes, rfl⟩ := hother b hb
  obtain ⟨htake, hroom⟩ := hframed.fits hframed'
  rw [htake] at hframed ⊢
  obtain rfl := hframed.same hframed'
  have hclient : start = clientStart function.toByte := by
    cases function <;> first | exact (Option.some.inj hstart).symm | cases hstart
  have hsource : attributed data source = source := by
    rw [hframed.attributed_eq]
    by_cases hforwarded : function = .forwardedNpdu
    · rw [if_pos hforwarded]
      by_contra hdiffers
      subst hforwarded
      exact h ⟨hframed, hroom, hdecodes, hdiffers⟩
    · rw [if_neg hforwarded]
      rfl
  rw [hclient, hsource]
  exact ⟨rfl, rfl⟩

/-- The server delivers what the client would. -/
theorem serverDelivery_client {delivery : Delivery} (h : serverDelivery data source = some delivery) :
    ∃ function, Framed function data
      ∧ (Npdu.decode (data.drop (clientStart function))).okPart.isSome
      ∧ delivery = (data.drop (clientStart function), attributed data source) := by
  obtain ⟨function, start, hstart, hframed, hdecodes, rfl⟩ := serverDelivery_eq_some.mp h
  have hclient : start = clientStart function.toByte := by
    cases function <;> first | exact (Option.some.inj hstart).symm | cases hstart
  exact ⟨function.toByte, hframed, hclient ▸ hdecodes, by rw [hclient]⟩

/-- A message that carries none starts nowhere. -/
theorem startOf_carriesNone {function : BvlcFunction} (h : carriesNone function = true) :
    startOf function = none := by
  cases function <;> first | rfl | cases h

theorem clientStart_carriesNone {function : BvlcFunction} (h : carriesNone function = true) :
    clientStart function.toByte = 4 := by
  cases function <;> first | rfl | cases h

/-- The second octet of a datagram names one function. -/
theorem Framed.function_eq {octet : UInt8} {function : BvlcFunction} (h : Framed octet data)
    (hoctet : data[1]? = some function.toByte) : octet = function.toByte :=
  Option.some.inj (h.octet.symm.trans hoctet)

theorem toByte_injective {one other : BvlcFunction} (h : one.toByte = other.toByte) :
    one = other := by
  have hsame := BvlcFunction.tryFrom_toByte one
  rw [h, BvlcFunction.tryFrom_toByte] at hsame
  exact (Except.ok.inj hsame).symm

/-- Neither the link nor the server takes an NPDU from a message that carries none. -/
theorem none_of_carriesNone (link : BacnetIpDataLink) (now : Instant) (source : SocketAddr)
    {function : BvlcFunction} (h : carriesNone function = true)
    (hoctet : data[1]? = some function.toByte) :
    linkDelivery link now data source = none ∧ serverDelivery data source = none := by
  constructor
  · rw [Option.eq_none_iff_forall_not_mem]
    intro delivery hdelivery
    obtain ⟨other, start, hstart, hframed, hlong, _⟩ := linkDelivery_eq_some.mp hdelivery
    have hsecond : (data.take receiveBuffer)[1]? = data[1]? :=
      List.getElem?_take_of_lt (by decide)
    rw [← hsecond] at hoctet
    obtain rfl := toByte_injective (hframed.function_eq hoctet)
    rw [startOf_carriesNone h] at hstart
    cases hstart
  · rw [Option.eq_none_iff_forall_not_mem]
    intro delivery hdelivery
    obtain ⟨other, start, hstart, hframed, _, _⟩ := serverDelivery_eq_some.mp hdelivery
    obtain rfl := toByte_injective (hframed.function_eq hoctet)
    rw [startOf_carriesNone h] at hstart
    cases hstart

/-- **The three receivers agree about a datagram exactly when it is no Forwarded-NPDU, within
what the link has room for, that somebody other than its origin sent, and no message without an
NPDU whose contents could pass for one.** -/
theorem receivers_agree_iff (link : BacnetIpDataLink) (now : Instant) (data : Bytes)
    (source : SocketAddr) :
    ReceiversAgree link now data source ↔ ¬Misattributed data source ∧ ¬Mistaken data := by
  constructor
  · intro h
    constructor
    -- A forwarded frame that all three receive: the data link alone attributes it to the sender.
    · rintro ⟨hframed, hroom, hdecodes, hdiffers⟩
      have htake : data.take receiveBuffer = data := List.take_of_length_le hroom
      have hlong : 10 < data.length := by
        obtain ⟨⟨npdu, consumed⟩, hdecode⟩ := Option.isSome_iff_exists.mp hdecodes
        have hwithin := (Npdu.decode_meets _).2 _ (okPart_eq_some.mp hdecode)
        simp only [List.length_drop] at hwithin
        omega
      have hlink : linkDelivery link now data source = some (data.drop 10, source) :=
        linkDelivery_eq_some.mpr ⟨.forwardedNpdu, 10, rfl, htake.symm ▸ hframed,
          htake.symm ▸ hlong, by rw [htake]⟩
      have hserver : serverDelivery data source = some (data.drop 10, attributed data source) :=
        serverDelivery_eq_some.mpr ⟨.forwardedNpdu, 10, rfl, hframed, hdecodes, rfl⟩
      have hattributed := (h.linkServer _ hlink _ hserver).2
      rw [hframed.attributed_eq] at hattributed
      exact hdiffers hattributed.symm
    -- A frame that carries no NPDU: the client alone delivers it.
    · rintro ⟨function, hnone, hframed, hdecodes⟩
      have hclient : clientDelivery data source
          = some (data.drop 4, attributed data source) :=
        clientDelivery_eq_some.mpr ⟨function.toByte, hframed, by
          rw [clientStart_carriesNone hnone]
          exact ⟨hdecodes, rfl⟩⟩
      rw [(h.none_carried function hnone hframed.octet).2.2] at hclient
      cases hclient
  · rintro ⟨hattributed, hmistaken⟩
    constructor
    · exact agree_link (fun delivery hdelivery => serverDelivery_client hdelivery) hattributed
    · exact agree_link (fun delivery hdelivery => clientDelivery_eq_some.mp hdelivery) hattributed
    -- Server and client go by the same function octet, so they read the same.
    · intro a ha b hb
      obtain ⟨one, hone, _, rfl⟩ := serverDelivery_client ha
      obtain ⟨other, hother, _, rfl⟩ := clientDelivery_eq_some.mp hb
      obtain rfl := hone.same hother
      exact ⟨rfl, rfl⟩
    · intro function hnone hoctet
      obtain ⟨hlink, hserver⟩ := none_of_carriesNone link now source hnone hoctet
      refine ⟨hlink, hserver, ?_⟩
      rw [Option.eq_none_iff_forall_not_mem]
      intro delivery hdelivery
      obtain ⟨octet, hframed, hdecodes, _⟩ := clientDelivery_eq_some.mp hdelivery
      obtain rfl := hframed.function_eq hoctet
      rw [clientStart_carriesNone hnone] at hdecodes
      exact hmistaken ⟨function, hnone, hframed, hdecodes⟩

/-- **A Who-Is of 10.0.0.5, forwarded by 10.0.0.1**: the link takes it to be from the one, the
server from the other. -/
theorem forwarded_by_carrier :
    ¬(∀ (link : BacnetIpDataLink) (now : Instant) (data : Bytes) (source : SocketAddr),
      ReceiversAgree link now data source) := by
  intro h
  have hserver := (h ⟨.v4 0 0, [], [], .v4 0 0⟩ 0
    [0x81, 0x04, 0, 18, 10, 0, 0, 5, 0xBA, 0xC0, 1, 0x20, 0xFF, 0xFF, 0, 0xFF, 0x10, 0x08]
    (.v4 0x0A000001 47808)).linkServer _ rfl _ rfl
  exact absurd hserver.1 (by decide)

end Agreement

end BacnetRs.Receivers
