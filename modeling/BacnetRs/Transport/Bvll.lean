/-
  BacnetRs.Transport.Bvll — BVLL messages (`transport/mod.rs`).

  A header of four octets, the last two of which announce the length of the
  whole, then the data.  The decoder sees that as much as announced is there,
  and cuts the data out from where the header ends to where the announced
  length does.  It does not see that the one lies before the other:

    * `decode_eq_ok_iff` — what decodes, and to what.
    * `decode_panics_iff` — where the end lies before the beginning.
    * `decode_encode` — a message whose length has room in its field comes back.
    * `new_length_iff` — which messages these are.
-/
import BacnetRs.Network.Bvlc

namespace BacnetRs.Transport

open Network

/-- What transport operations fail with; an operating-system error by its code. -/
inductive TransportError where
  | ioError (code : Nat)
  | invalidBvll (message : String)
  | registrationFailed
  deriving Repr, DecidableEq

/-- `DataLinkError` as `to_string` has it. -/
def displayed : DataLinkError → String
  | .ioError code => "I/O error: " ++ toString code
  | .invalidFrame => "Invalid frame format"
  | .crcError => "CRC check failed"
  | .unsupportedType => "Unsupported data link type"

/-- `BVLL_HEADER_SIZE`. -/
def bvllHeaderSize : Nat := 4

/-- `BvllMessage`. -/
structure BvllMessage where
  header : BvlcHeader
  data : Bytes
  deriving Repr, DecidableEq

namespace BvllMessage

/-- `BvllMessage::new`. -/
def new (function : BvlcFunction) (data : Bytes) : BvllMessage :=
  ⟨BvlcHeader.new function (UInt16.ofNat (bvllHeaderSize + data.length)), data⟩

/-- `BvllMessage::encode`. -/
def encode (self : BvllMessage) : Bytes := self.header.encode ++ self.data

/-- `BvllMessage::decode`. -/
def decode (data : Bytes) : Checked TransportError BvllMessage := do
  let header ← Checked.mapErr (fun e => .invalidBvll (displayed e))
    (Checked.ofExcept (BvlcHeader.decode data))
  if data.length < header.length.toNat then
    Checked.fail (.invalidBvll "Message too short")
  let messageData ← Octets.range data bvllHeaderSize header.length.toNat
  return ⟨header, messageData⟩

end BvllMessage

/-! ## §1. Datagrams -/

/-- The datagram has a header of the function, which announces so many octets. -/
def Announces (datagram : Bytes) (function : BvlcFunction) (n : Nat) : Prop :=
  ∃ high low rest, datagram = 0x81 :: function.toByte :: high :: low :: rest
    ∧ Octets.beNat [high, low] = n

/-- The datagram has a header, which announces less than the header itself. -/
def Stunted (datagram : Bytes) : Prop :=
  ∃ function n, Announces datagram function n ∧ n < bvllHeaderSize

/-- The datagram has a header of the function, which announces just these data; there may be more
behind them. -/
def Carries (datagram : Bytes) (function : BvlcFunction) (data : Bytes) : Prop :=
  Announces datagram function (bvllHeaderSize + data.length)
    ∧ data <+: datagram.drop bvllHeaderSize

variable {datagram data : Bytes} {function : BvlcFunction} {n : Nat}

theorem header_of_announces (h : Announces datagram function n) :
    n < 65536 ∧ BvlcHeader.decode datagram = .ok (BvlcHeader.new function (UInt16.ofNat n)) := by
  obtain ⟨high, low, rest, rfl, hn⟩ := h
  have hword : n = (Octets.wordOf high low).toNat := by
    rw [Octets.toNat_wordOf_eq_beNat, hn]
  refine ⟨hword ▸ UInt16.toNat_lt _, ?_⟩
  show BvlcFunction.tryFrom function.toByte >>= (fun function =>
    (pure (BvlcHeader.mk 0x81 function (Octets.wordOf high low)) :
      Except DataLinkError BvlcHeader)) = _
  rw [BvlcFunction.tryFrom_toByte, hword, UInt16.ofNat_toNat]
  rfl

theorem announces_of_header {header : BvlcHeader} (h : BvlcHeader.decode datagram = .ok header) :
    Announces datagram header.function header.length.toNat := by
  obtain ⟨high, low, rest, hdatagram, hlength⟩ := BvlcHeader.decode_eq_ok h
  exact ⟨high, low, rest, hdatagram, hlength.symm⟩

namespace Announces

theorem length_le (h : Announces datagram function n) : bvllHeaderSize ≤ datagram.length := by
  obtain ⟨high, low, rest, rfl, _⟩ := h
  show 4 ≤ rest.length + 1 + 1 + 1 + 1
  omega

end Announces

namespace Carries

theorem within (h : Carries datagram function data) :
    bvllHeaderSize + data.length ≤ datagram.length := by
  have hlength : data.length ≤ (datagram.drop bvllHeaderSize).length := h.2.length_le
  have hheader := h.1.length_le
  rw [List.length_drop] at hlength
  omega

/-- The data stand between the header and the end that is announced. -/
theorem between (h : Carries datagram function data) :
    data = (datagram.take (bvllHeaderSize + data.length)).drop bvllHeaderSize := by
  rw [List.drop_take, Nat.add_sub_cancel_left]
  exact List.prefix_iff_eq_take.mp h.2

end Carries

/-! ## §2. Decoding -/

namespace BvllMessage

/-- A datagram without a header is refused. -/
theorem decode_of_no_header {e : DataLinkError} (h : BvlcHeader.decode datagram = .error e) :
    decode datagram = Checked.fail (.invalidBvll (displayed e)) := by
  unfold decode
  rw [h]
  rfl

/-- A datagram with a header is refused, cut outside of itself, or cut. -/
theorem decode_of_announces (h : Announces datagram function n) :
    decode datagram =
      if datagram.length < n then Checked.fail (.invalidBvll "Message too short")
      else if n < bvllHeaderSize then .error .panic
      else .ok ⟨BvlcHeader.new function (UInt16.ofNat n),
        (datagram.drop bvllHeaderSize).take (n - bvllHeaderSize)⟩ := by
  obtain ⟨hlt, hheader⟩ := header_of_announces h
  have hn : (UInt16.ofNat n).toNat = n := UInt16.toNat_ofNat_of_lt' hlt
  unfold decode
  rw [hheader]
  show (if datagram.length < (UInt16.ofNat n).toNat then _ else _) = _
  rw [hn]
  by_cases hshort : datagram.length < n
  · rw [if_pos hshort, if_pos hshort]
    rfl
  · rw [if_neg hshort, if_neg hshort]
    show Octets.range datagram bvllHeaderSize (UInt16.ofNat n).toNat >>= _ = _
    rw [hn]
    unfold Octets.range
    by_cases hstunted : n < bvllHeaderSize
    · rw [if_neg (fun hrange => absurd hrange.1 (by omega)), if_pos hstunted]
      rfl
    · rw [if_pos ⟨by omega, by omega⟩, if_neg hstunted]
      rfl

/-- **What decodes, and to what.** -/
theorem decode_eq_ok_iff {message : BvllMessage} :
    decode datagram = .ok message ↔
      ∃ function data, Carries datagram function data ∧ message = new function data := by
  constructor
  · intro h
    cases hheader : BvlcHeader.decode datagram with
    | error e =>
        rw [decode_of_no_header hheader] at h
        cases h
    | ok header =>
        have hannounces := announces_of_header hheader
        rw [decode_of_announces hannounces] at h
        split at h
        · cases h
        · next hlong =>
            split at h
            · cases h
            · next hfull =>
                -- As much is cut out as is announced, so the message is one that `new` makes.
                have hlength : ((datagram.drop bvllHeaderSize).take
                    (header.length.toNat - bvllHeaderSize)).length + bvllHeaderSize
                    = header.length.toNat := by
                  rw [List.length_take, List.length_drop]
                  omega
                refine ⟨header.function, (datagram.drop bvllHeaderSize).take
                  (header.length.toNat - bvllHeaderSize), ⟨?_, List.take_prefix _ _⟩, ?_⟩
                · rw [Nat.add_comm, hlength]
                  exact hannounces
                · rw [← Except.ok.inj h]
                  unfold new
                  rw [Nat.add_comm, hlength]
  · rintro ⟨function, data, hcarries, rfl⟩
    have hwithin := hcarries.within
    rw [decode_of_announces hcarries.1, if_neg (by omega), if_neg (by omega)]
    rw [Nat.add_sub_cancel_left, ← List.prefix_iff_eq_take.mp hcarries.2]
    rfl

theorem new_inj {function' : BvlcFunction} {data' : Bytes} :
    new function data = new function' data' ↔ function = function' ∧ data = data' := by
  constructor
  · intro h
    exact ⟨congrArg (fun message => BvlcHeader.function (BvllMessage.header message)) h,
      congrArg BvllMessage.data h⟩
  · rintro ⟨rfl, rfl⟩
    rfl

/-- What decodes to a message of the function with the data. -/
theorem decode_eq_new_iff : decode datagram = .ok (new function data) ↔
    Carries datagram function data := by
  constructor
  · intro h
    obtain ⟨function', data', hcarries, hsame⟩ := decode_eq_ok_iff.mp h
    obtain ⟨rfl, rfl⟩ := new_inj.mp hsame
    exact hcarries
  · intro h
    exact decode_eq_ok_iff.mpr ⟨function, data, h, rfl⟩

/-- **Decoding panics exactly where less is announced than the header has.** -/
theorem decode_panics_iff : decode datagram = .error .panic ↔ Stunted datagram := by
  constructor
  · intro h
    cases hheader : BvlcHeader.decode datagram with
    | error e =>
        rw [decode_of_no_header hheader] at h
        cases h
    | ok header =>
        have hannounces := announces_of_header hheader
        rw [decode_of_announces hannounces] at h
        split at h
        · cases h
        · split at h
          · next hstunted => exact ⟨_, _, hannounces, hstunted⟩
          · cases h
  · rintro ⟨function, n, hannounces, hstunted⟩
    have hheader := hannounces.length_le
    rw [decode_of_announces hannounces, if_neg (by omega), if_pos hstunted]

/-! ## §3. Encoding -/

theorem length_encode (self : BvllMessage) :
    self.encode.length = bvllHeaderSize + self.data.length := by
  show (self.header.encode ++ self.data).length = _
  rw [List.length_append]
  rfl

/-- **A header announces the message that it is made for** if there is room for the length. -/
theorem new_length_iff (function : BvlcFunction) (data : Bytes) :
    (new function data).header.length.toNat = (new function data).encode.length ↔
      bvllHeaderSize + data.length < 65536 := by
  rw [length_encode]
  show (bvllHeaderSize + data.length) % 65536 = bvllHeaderSize + data.length ↔ _
  omega

theorem encode_carries (h : bvllHeaderSize + data.length < 65536) :
    Carries (new function data).encode function data := by
  refine ⟨⟨_, _, data, rfl, ?_⟩, ⟨[], ?_⟩⟩
  · rw [← Octets.toNat_wordOf_eq_beNat]
    show (Octets.wordOf (Octets.highOctet (new function data).header.length)
      (Octets.lowOctet (new function data).header.length)).toNat = _
    rw [Octets.wordOf_octets]
    exact UInt16.toNat_ofNat_of_lt' h
  · rw [List.append_nil]
    rfl

/-- **A message whose length has room comes back.** -/
theorem decode_encode (h : bvllHeaderSize + data.length < 65536) :
    decode (new function data).encode = .ok (new function data) :=
  decode_eq_new_iff.mpr (encode_carries h)

end BvllMessage

end BacnetRs.Transport
