/-
  BacnetRs.Network.Ethernet — BACnet frames on Ethernet (`datalink/ethernet.rs`).

  Two addresses, a type and a link header, then the payload.  A frame is filled
  up to sixty octets.  Nothing in it says where the payload ends, and the
  decoder takes all that follows for the payload:

    * `decode_encode`      — a frame comes back with what it was filled up with.
    * `payload_back_iff`   — which payloads come back as they were.
-/
import BacnetRs.Network.Bvlc

namespace BacnetRs.Network

/-- `BACNET_ETHERNET_TYPE`. -/
def bacnetEthernetType : UInt16 := 0x82DC

/-- `BACNET_LLC_HEADER`. -/
def bacnetLlcHeader : Vector UInt8 3 := #v[0x82, 0x82, 0x03]

/-- `MIN_ETHERNET_FRAME_SIZE`. -/
def minEthernetFrameSize : Nat := 60

/-- `BACNET_ETHERNET_HEADER_SIZE`: fourteen octets and the link header's three. -/
def bacnetEthernetHeaderSize : Nat := 17

/-- `EthernetFrame`. -/
structure EthernetFrame where
  destMac : Vector UInt8 6
  srcMac : Vector UInt8 6
  etherType : UInt16
  llcHeader : Vector UInt8 3
  payload : Bytes
  deriving Repr, DecidableEq

/-- `data[i..i + n]`, copied into an array. -/
def sliceOf (data : Bytes) (i n : Nat) (h : i + n ≤ data.length) : Vector UInt8 n :=
  ⟨((data.drop i).take n).toArray, by
    rw [List.size_toArray, List.length_take, List.length_drop]
    omega⟩

theorem sliceOf_append {n : Nat} {data : Bytes} (front : Bytes) (v : Vector UInt8 n)
    (back : Bytes) {i : Nat} (hdata : data = front ++ (v.toList ++ back))
    (hi : front.length = i) (h : i + n ≤ data.length) : sliceOf data i n h = v := by
  subst hi hdata
  have htake : ((front ++ (v.toList ++ back)).drop front.length).take n = v.toList := by
    rw [List.drop_left]
    exact List.take_left' v.length_toList
  apply Vector.toArray_inj.mp
  show ((((front ++ (v.toList ++ back)).drop front.length).take n).toArray) = v.toArray
  rw [htake, Vector.toList, Array.toArray_toList]

namespace EthernetFrame

/-- `EthernetFrame::new`. -/
def new (destMac srcMac : Vector UInt8 6) (npdu : Bytes) : EthernetFrame :=
  ⟨destMac, srcMac, bacnetEthernetType, bacnetLlcHeader, npdu⟩

/-- The frame before it is filled up. -/
def content (self : EthernetFrame) : Bytes :=
  self.destMac.toList ++ (self.srcMac.toList ++ (Octets.beOctets 2 self.etherType.toNat
    ++ (self.llcHeader.toList ++ self.payload)))

/-- The zeros that a frame of so many octets is filled up with. -/
def padding (length : Nat) : Bytes := List.replicate (minEthernetFrameSize - length) 0

/-- `EthernetFrame::encode`. -/
def encode (self : EthernetFrame) : Bytes := self.content ++ padding self.content.length

/-- `EthernetFrame::decode`. -/
def decode (data : Bytes) : Except DataLinkError EthernetFrame :=
  if h : data.length < bacnetEthernetHeaderSize then .error .invalidFrame
  else
    have hlength : 17 ≤ data.length := Nat.not_lt.mp h
    let destMac := sliceOf data 0 6 (by omega)
    let srcMac := sliceOf data 6 6 (by omega)
    let etherType := data[12].toUInt16 <<< 8 ||| data[13].toUInt16
    if etherType ≠ bacnetEthernetType then .error .invalidFrame
    else
      let llcHeader := sliceOf data 14 3 (by omega)
      if llcHeader ≠ bacnetLlcHeader then .error .invalidFrame
      else .ok ⟨destMac, srcMac, etherType, llcHeader, data.drop 17⟩

variable {destMac srcMac : Vector UInt8 6} {npdu : Bytes}

theorem length_content (self : EthernetFrame) :
    self.content.length = bacnetEthernetHeaderSize + self.payload.length := by
  unfold content bacnetEthernetHeaderSize
  simp only [List.length_append, Vector.length_toList, Octets.length_beOctets]
  omega

/-- The octets of a frame: the two addresses, the type, the link header and the rest. -/
theorem decode_octets (destMac srcMac : Vector UInt8 6) (rest : Bytes) :
    decode (destMac.toList ++ (srcMac.toList ++ (0x82 :: 0xDC ::
        (bacnetLlcHeader.toList ++ rest)))) = .ok (new destMac srcMac rest) := by
  generalize hdata : destMac.toList ++ (srcMac.toList ++ (0x82 :: 0xDC ::
    (bacnetLlcHeader.toList ++ rest))) = data
  have hlength : data.length = 17 + rest.length := by
    rw [← hdata]
    simp only [List.length_append, List.length_cons, Vector.length_toList]
    omega
  have haddresses : (destMac.toList ++ srcMac.toList).length = 12 := by
    simp only [List.length_append, Vector.length_toList]
  -- Seen from the type field and from the LLC header, where the decoder reads.
  have hafter : data = (destMac.toList ++ srcMac.toList) ++ (0x82 :: 0xDC ::
      (bacnetLlcHeader.toList ++ rest)) := by
    rw [← hdata, List.append_assoc]
  have hbefore : data = ((destMac.toList ++ srcMac.toList) ++ [0x82, 0xDC])
      ++ (bacnetLlcHeader.toList ++ rest) := by
    rw [hafter]
    simp only [List.append_assoc, List.cons_append, List.nil_append]
  have hdest : sliceOf data 0 6 (by omega) = destMac :=
    sliceOf_append [] destMac _ hdata.symm rfl _
  have hsrc : sliceOf data 6 6 (by omega) = srcMac :=
    sliceOf_append destMac.toList srcMac _ hdata.symm destMac.length_toList _
  have hllc : sliceOf data 14 3 (by omega) = bacnetLlcHeader :=
    sliceOf_append _ bacnetLlcHeader rest hbefore
      (by rw [List.length_append, haddresses]; rfl) _
  have hfirst : 12 < data.length := by omega
  have hsecond : 13 < data.length := by omega
  have hhigh : data[12] = 0x82 := by
    simp only [hafter]
    rw [List.getElem_append_right (by omega)]
    simp only [haddresses, Nat.sub_self, List.getElem_cons_zero]
  have hlow : data[13] = 0xDC := by
    simp only [hafter]
    rw [List.getElem_append_right (by omega)]
    simp only [haddresses, Nat.reduceSub, List.getElem_cons_succ, List.getElem_cons_zero]
  -- The NPDU is what follows the seventeen octets.
  have hrest : data.drop 17 = rest := by
    have hfront : ((destMac.toList ++ srcMac.toList) ++ [0x82, 0xDC]
        ++ bacnetLlcHeader.toList).length = 17 := by
      rw [List.length_append, List.length_append, haddresses]
      rfl
    rw [hbefore, ← List.append_assoc]
    exact List.drop_left' hfront
  unfold decode
  rw [dif_neg (by unfold bacnetEthernetHeaderSize; omega)]
  simp only [hdest, hsrc, hllc, hhigh, hlow, hrest]
  rfl

/-- **A frame comes back with what it was filled up with.** -/
theorem decode_encode (destMac srcMac : Vector UInt8 6) (npdu : Bytes) :
    decode (new destMac srcMac npdu).encode
      = .ok (new destMac srcMac
          (npdu ++ padding (bacnetEthernetHeaderSize + npdu.length))) := by
  have hoctets : (new destMac srcMac npdu).encode
      = destMac.toList ++ (srcMac.toList ++ (0x82 :: 0xDC :: (bacnetLlcHeader.toList
          ++ (npdu ++ padding (bacnetEthernetHeaderSize + npdu.length))))) := by
    unfold encode
    rw [length_content]
    have htype : Octets.beOctets 2 bacnetEthernetType.toNat = [0x82, 0xDC] := by decide
    unfold content new
    rw [htype]
    simp only [List.append_assoc, List.cons_append, List.nil_append]
  rw [hoctets, decode_octets]

/-- **A payload comes back as it was exactly when it needs no filling up.** -/
theorem payload_back_iff (destMac srcMac : Vector UInt8 6) (npdu : Bytes) :
    (∃ frame, decode (new destMac srcMac npdu).encode = .ok frame
        ∧ frame.destMac = destMac ∧ frame.srcMac = srcMac ∧ frame.payload = npdu)
      ↔ 43 ≤ npdu.length := by
  rw [decode_encode]
  constructor
  · rintro ⟨frame, hframe, _, _, hpayload⟩
    cases hframe
    have hlength := congrArg List.length hpayload
    simp only [new, padding, List.length_append, List.length_replicate, minEthernetFrameSize,
      bacnetEthernetHeaderSize] at hlength
    omega
  · intro hlong
    have hnone : padding (bacnetEthernetHeaderSize + npdu.length) = [] := by
      unfold padding minEthernetFrameSize bacnetEthernetHeaderSize
      rw [show 60 - (17 + npdu.length) = 0 by omega]
      rfl
    rw [hnone, List.append_nil]
    exact ⟨_, rfl, rfl, rfl, rfl⟩

/-- Two octets come back as forty-three. -/
theorem two_octets_come_back_padded :
    decode (new (.replicate 6 0xFF) (.replicate 6 0x11) [1, 2]).encode
        = .ok (new (.replicate 6 0xFF) (.replicate 6 0x11) ([1, 2] ++ List.replicate 41 0)) ∧
    ¬ ∀ (destMac srcMac : Vector UInt8 6) (npdu : Bytes), npdu.length ≤ 1497 →
      ∃ frame, decode (new destMac srcMac npdu).encode = .ok frame
        ∧ frame.destMac = destMac ∧ frame.srcMac = srcMac ∧ frame.payload = npdu := by
  have hback : decode (new (.replicate 6 0xFF) (.replicate 6 0x11) [1, 2]).encode
      = .ok (new (.replicate 6 0xFF) (.replicate 6 0x11) ([1, 2] ++ List.replicate 41 0)) :=
    decode_encode _ _ _
  refine ⟨hback, ?_⟩
  intro hall
  obtain ⟨frame, hframe, _, _, hpayload⟩ :=
    hall (.replicate 6 0xFF) (.replicate 6 0x11) [1, 2] (by decide)
  cases hback.symm.trans hframe
  cases hpayload

end EthernetFrame

end BacnetRs.Network
