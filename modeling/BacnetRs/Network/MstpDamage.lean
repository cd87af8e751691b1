/-
  BacnetRs.Network.MstpDamage — MS/TP frames with one damaged octet.

  Every octet of a frame is under a check: the header's, the data's, or the
  decoder's own.  The check of the data notices every change.  The register of
  the header's drops a bit, and one change of an address leaves nothing of it:

    * `headerCrc_eq_iff`, `crc16_eq_iff` — which changes a check misses.
    * `accepts_damaged_iff`  — which damaged frames are decoded.
    * `damage_detected_iff`  — all others are an error.
-/
import BacnetRs.Network.Mstp
import Mathlib.Tactic.IntervalCases

namespace BacnetRs.Network

open Octets Checked

/-! ## §1. What the checks miss -/

/-- A change is what two octets differ by. -/
theorem xor_xor_cancel_left (octet change : UInt8) : octet ^^^ (octet ^^^ change) = change := by
  rw [← UInt8.xor_assoc, UInt8.xor_self, UInt8.zero_xor]

theorem xor_eq_self_iff {octet change : UInt8} : octet ^^^ change = octet ↔ change = 0 := by
  constructor
  · intro h
    rw [← xor_xor_cancel_left octet change, h, UInt8.xor_self]
  · rintro rfl
    exact UInt8.xor_zero

/-- Complements of registers are the same where the registers are. -/
theorem not_eq_not_iff {w : Nat} {a b : BitVec w} : ~~~a = ~~~b ↔ a ^^^ b = 0 := by
  constructor
  · intro h
    have hsame := congrArg (fun x => ~~~x) h
    simp only [BitVec.not_not] at hsame
    rw [hsame, BitVec.xor_self]
    rfl
  · intro h
    rw [BitVec.xor_eq_zero_iff.mp h]

/-- **The check of the header misses one change of an octet.** -/
theorem headerCrc_eq_iff (front back : Bytes) (x y : UInt8) :
    calculateHeaderCrc (front ++ x :: back) = calculateHeaderCrc (front ++ y :: back)
      ↔ x ^^^ y = 0 ∨ x ^^^ y = 0xAB := by
  unfold calculateHeaderCrc
  rw [← UInt8.toBitVec_inj]
  show ~~~_ = ~~~_ ↔ _
  rw [not_eq_not_iff, ShiftRegister.register_change]
  have hlost : ShiftRegister.lost 0x55#8 = 0xAB#8 := by decide
  have hshifts := ShiftRegister.shifts_eq_zero_of_top_clear 0x55#8 (by decide)
    (by decide) (by decide) (n := 8 * back.length + 7) (c := (x ^^^ y).toBitVec.setWidth 8)
  rw [hlost, BitVec.setWidth_eq] at hshifts
  rw [BitVec.setWidth_eq]
  refine hshifts.trans ?_
  rw [← UInt8.toBitVec_inj, ← UInt8.toBitVec_inj]
  rfl

theorem headerCrc_missed (front back : Bytes) (octet : UInt8) :
    calculateHeaderCrc (front ++ octet :: back)
      = calculateHeaderCrc (front ++ (octet ^^^ 0xAB) :: back) := by
  rw [headerCrc_eq_iff, xor_xor_cancel_left]
  exact .inr rfl

/-- A change of an octet that the check of the header misses is that one. -/
theorem change_of_headerCrc_eq (front back : Bytes) {octet octet' change : UInt8}
    (hchange : change ≠ 0) (hoctet : octet ^^^ change = octet')
    (hcrc : calculateHeaderCrc (front ++ octet :: back)
      = calculateHeaderCrc (front ++ octet' :: back)) : change = 0xAB := by
  rw [headerCrc_eq_iff, ← hoctet, xor_xor_cancel_left] at hcrc
  exact hcrc.resolve_left hchange

/-- **The check of the data misses none.** -/
theorem crc16_eq_iff (front back : Bytes) (x y : UInt8) :
    crc16Mstp (front ++ x :: back) = crc16Mstp (front ++ y :: back) ↔ x ^^^ y = 0 := by
  unfold crc16Mstp
  rw [← UInt16.toBitVec_inj]
  show ~~~_ = ~~~_ ↔ _
  rw [not_eq_not_iff, ShiftRegister.register_change, ShiftRegister.shifts_eq_zero (by decide),
    ← UInt8.toBitVec_inj]
  constructor
  · intro h
    have hback := congrArg (fun c : BitVec 16 => c.setWidth 8) h
    simpa using hback
  · intro h
    rw [h]
    rfl

/-! ## §2. What is decoded in spite of it -/

/-- The octets, with one changed. -/
def damaged (octets : Bytes) (position : Nat) (change : UInt8) : Bytes :=
  octets.modify position (· ^^^ change)

theorem length_damaged (octets : Bytes) (position : Nat) (change : UInt8) :
    (damaged octets position change).length = octets.length := List.length_modify ..

theorem damaged_append_cons (front : Bytes) (octet : UInt8) (back : Bytes) (change : UInt8) :
    damaged (front ++ octet :: back) front.length change
      = front ++ (octet ^^^ change) :: back := by
  induction front with
  | nil => rfl
  | cons first front ih =>
      show first :: damaged (front ++ octet :: back) front.length change = _
      rw [ih]
      rfl

namespace MstpFrame

/-- Every octet of a body is under its check. -/
theorem body_damaged {data data' : Bytes} {position : Nat} {change : UInt8}
    (hlength : data'.length = data.length) (hposition : position < (body data).length)
    (h : damaged (body data) position change = body data') : change = 0 := by
  have hpresent : 0 < data.length := by
    rw [length_body] at hposition
    split at hposition <;> omega
  rw [body_of_pos hpresent] at h hposition
  rw [body_of_pos (hlength ▸ hpresent)] at h
  by_cases hdata : position < data.length
  · -- The check does not change, and the data do not without it.
    obtain ⟨front, octet, back, rfl, rfl⟩ :
        ∃ front octet back, data = front ++ octet :: back ∧ position = front.length :=
      ⟨data.take position, data[position], data.drop (position + 1),
        by rw [← List.drop_eq_getElem_cons hdata, List.take_append_drop],
        by rw [List.length_take]; omega⟩
    rw [List.append_assoc, List.cons_append, damaged_append_cons, ← List.cons_append,
      ← List.append_assoc] at h
    obtain ⟨hdata', hcrc⟩ := List.append_inj' h rfl
    rw [← hdata'] at hcrc
    simp only [List.cons.injEq, and_true] at hcrc
    have hsame : crc16Mstp (front ++ octet :: back)
        = crc16Mstp (front ++ (octet ^^^ change) :: back) := by
      rw [← wordOf_octets (crc16Mstp (front ++ octet :: back)), hcrc.1, hcrc.2, wordOf_octets]
    rw [crc16_eq_iff, xor_xor_cancel_left] at hsame
    exact hsame
  · -- The data do not change, and their check does not without them.
    obtain rfl | rfl : position = data.length
        ∨ position = (data ++ [lowOctet (crc16Mstp data)]).length := by
      simp only [List.length_append, List.length_cons, List.length_nil] at hposition ⊢
      omega
    · rw [damaged_append_cons] at h
      obtain ⟨rfl, hcrc⟩ := List.append_inj' h rfl
      simp only [List.cons.injEq, and_true] at hcrc
      exact xor_eq_self_iff.mp hcrc
    · rw [List.append_cons, damaged_append_cons, List.append_assoc] at h
      obtain ⟨rfl, hcrc⟩ := List.append_inj' h rfl
      simp only [List.cons_append, List.nil_append, List.cons.injEq, true_and, and_true] at hcrc
      exact xor_eq_self_iff.mp hcrc

/-- The type octets of two frames do not differ by what the check of the header misses. -/
theorem type_xor_ne (a b : MstpFrameType) : a.toByte ^^^ b.toByte ≠ 0xAB := by
  cases a <;> cases b <;> decide

theorem toByte_inj {a b : MstpFrameType} (h : a.toByte ^^^ b.toByte = 0) : a = b := by
  revert h
  cases a <;> cases b <;> decide

variable {frameType frameType' : MstpFrameType}
  {destination destination' source source' high low : UInt8} {back back' : Bytes}

/-- **One damaged octet of a header leaves a header only where it is an address**, and its change
the one that the check misses. -/
theorem header_damaged {position : Nat} {change : UInt8} (hposition : position < mstpHeaderSize)
    (hchange : change ≠ 0)
    (h : damaged (header frameType destination source high low ++ back) position change
      = header frameType' destination' source' high low ++ back') :
    (position = 3 ∨ position = 4) ∧ change = 0xAB := by
  unfold mstpHeaderSize at hposition
  interval_cases position <;>
    simp only [damaged, header, List.cons_append, List.nil_append, List.modify_zero_cons,
      List.modify_succ_cons, List.cons.injEq] at h
  · exact absurd (xor_eq_self_iff.mp h.1) hchange
  · exact absurd (xor_eq_self_iff.mp h.2.1) hchange
  · -- Another type is the same type, or too far from it.
    obtain ⟨_, _, htype, rfl, rfl, _, _, hcrc, _⟩ := h
    rcases (headerCrc_eq_iff [] [destination, source, high, low] _ _).mp hcrc with hzero | hlost
    · rw [toByte_inj hzero] at htype
      exact absurd (xor_eq_self_iff.mp htype) hchange
    · exact absurd hlost (type_xor_ne frameType frameType')
  · obtain ⟨_, _, htype, hdestination, rfl, _, _, hcrc, _⟩ := h
    rw [← htype] at hcrc
    exact ⟨.inl rfl, change_of_headerCrc_eq [frameType.toByte] [source, high, low] hchange
      hdestination hcrc⟩
  · obtain ⟨_, _, htype, rfl, hsource, _, _, hcrc, _⟩ := h
    rw [← htype] at hcrc
    exact ⟨.inr rfl, change_of_headerCrc_eq [frameType.toByte, destination] [high, low] hchange
      hsource hcrc⟩
  · exact absurd (xor_eq_self_iff.mp h.2.2.2.2.2.1) hchange
  · exact absurd (xor_eq_self_iff.mp h.2.2.2.2.2.2.1) hchange
  · obtain ⟨_, _, htype, rfl, rfl, _, _, hcrc, _⟩ := h
    rw [← htype] at hcrc
    exact absurd (xor_eq_self_iff.mp hcrc) hchange

/-- The damage that leaves the header of a frame to another station. -/
theorem damaged_destination :
    damaged (header frameType destination source high low ++ back) 3 0xAB
      = header frameType (destination ^^^ 0xAB) source high low ++ back := by
  have hcrc : calculateHeaderCrc [frameType.toByte, destination, source, high, low]
      = calculateHeaderCrc [frameType.toByte, destination ^^^ 0xAB, source, high, low] :=
    headerCrc_missed [frameType.toByte] [source, high, low] destination
  unfold header
  rw [← hcrc]
  rfl

/-- And that of one from another. -/
theorem damaged_source :
    damaged (header frameType destination source high low ++ back) 4 0xAB
      = header frameType destination (source ^^^ 0xAB) high low ++ back := by
  have hcrc : calculateHeaderCrc [frameType.toByte, destination, source, high, low]
      = calculateHeaderCrc [frameType.toByte, destination, source ^^^ 0xAB, high, low] :=
    headerCrc_missed [frameType.toByte, destination] [high, low] source
  unfold header
  rw [← hcrc]
  rfl

/-- Behind the header, damage is in the body. -/
theorem damaged_behind (n : Nat) (change : UInt8) :
    damaged (header frameType destination source high low ++ back) (n + mstpHeaderSize) change
      = header frameType destination source high low ++ damaged back n change := by
  unfold damaged header mstpHeaderSize
  simp only [List.cons_append, List.nil_append, List.modify_succ_cons]

/-- **One damaged octet is decoded exactly where it is an address and its change is the one that
the check of the header misses.** -/
theorem accepts_damaged_iff {data : Bytes} (hshort : data.length < 2 ^ 16) {position : Nat}
    {change : UInt8}
    (hposition : position < (assemble frameType destination source data).encode.length)
    (hchange : change ≠ 0) :
    (∃ decoded, decode (damaged (assemble frameType destination source data).encode position change)
        = .ok decoded)
      ↔ (position = 3 ∨ position = 4) ∧ change = 0xAB := by
  obtain ⟨high, low, hlength⟩ := exists_wordOf hshort
  constructor
  · rintro ⟨decoded, hdecoded⟩
    obtain ⟨frameType', destination', source', data', hshort', rfl, hsame⟩ :=
      decode_eq_ok_iff.mp hdecoded
    -- Nothing changes a length unnoticed, so both frames announce the same.
    have hdata : data'.length = data.length := by
      have htotal := congrArg List.length hsame
      rw [length_damaged, length_encode hshort, length_encode hshort'] at htotal
      split at htotal <;> split at htotal <;> omega
    rw [encode_assemble hlength] at hsame hposition
    rw [encode_assemble (hdata.trans hlength)] at hsame
    by_cases hinside : position < mstpHeaderSize
    · exact header_damaged hinside hchange hsame
    · obtain ⟨n, rfl⟩ := Nat.exists_eq_add_of_le' (Nat.le_of_not_lt hinside)
      rw [damaged_behind] at hsame
      have hbody : damaged (body data) n change = body data' := (List.append_inj hsame rfl).2
      have hwithin : n < (body data).length := by
        rw [List.length_append] at hposition
        exact Nat.lt_of_add_lt_add_right (Nat.lt_of_lt_of_eq hposition (Nat.add_comm 8 _))
      exact absurd (body_damaged hdata hwithin hbody) hchange
  · rintro ⟨hposition, rfl⟩
    rcases hposition with rfl | rfl
    · refine ⟨assemble frameType (destination ^^^ 0xAB) source data,
        decode_eq_ok_iff.mpr ⟨frameType, _, source, data, hshort, rfl, ?_⟩⟩
      rw [encode_assemble hlength, encode_assemble hlength, damaged_destination]
    · refine ⟨assemble frameType destination (source ^^^ 0xAB) data,
        decode_eq_ok_iff.mpr ⟨frameType, destination, _, data, hshort, rfl, ?_⟩⟩
      rw [encode_assemble hlength, encode_assemble hlength, damaged_source]

/-! ## §3. Damage is an error -/

/-- The decoder does not index a frame outside it. -/
theorem decode_ne_panic (octets : Bytes) : decode octets ≠ .error .panic := by
  have hmeets : Meets (decode octets) (fun _ => True) := by
    unfold decode
    refine meets_guard fun hheader => ?_
    unfold mstpHeaderSize at hheader
    refine Meets.bind (index_meets (by omega)) fun first _ => ?_
    refine Meets.bind (index_meets (by omega)) fun second _ => ?_
    refine meets_guard fun _ => ?_
    refine Meets.bind (index_meets (by omega)) fun typeOctet _ => ?_
    refine Meets.bind (meets_orFail (P := fun _ => True) fun _ _ => trivial) fun frameType _ => ?_
    refine Meets.bind (index_meets (by omega)) fun destination _ => ?_
    refine Meets.bind (index_meets (by omega)) fun source _ => ?_
    refine Meets.bind (index_meets (by omega)) fun high _ => ?_
    refine Meets.bind (index_meets (by omega)) fun low _ => ?_
    refine Meets.bind (index_meets (by omega)) fun crc _ => ?_
    refine meets_guard fun _ => meets_guard fun hsize => ?_
    -- The size was compared with the one announced, so what is announced is there.
    have hsize := not_not.mp hsize
    unfold mstpHeaderSize at hsize ⊢
    split
    next hdata =>
      rw [if_pos hdata] at hsize
      refine Meets.bind (range_meets (by omega) (by omega)) fun frameData _ => ?_
      refine Meets.bind (index_meets (by omega)) fun crcLow _ => ?_
      refine Meets.bind (index_meets (by omega)) fun crcHigh _ => ?_
      exact meets_guard fun _ => meets_ok trivial
    next => exact meets_ok trivial
  exact hmeets.1

/-- **Damage to one octet of a frame is an error, unless it turns an address into the one that
the check of the header takes for it.** -/
theorem damage_detected_iff (frameType : MstpFrameType) (destination source : UInt8)
    (data : Bytes) (frame : MstpFrame) (position : Nat) (change : UInt8)
    (hnew : new frameType destination source data = .ok frame)
    (hposition : position < frame.encode.length) (hchange : change ≠ 0) :
    (∃ e, decode (damaged frame.encode position change) = .error (.error e))
      ↔ ¬ ((position = 3 ∨ position = 4) ∧ change = 0xAB) := by
  obtain ⟨hlength, rfl⟩ := new_eq_ok_iff.mp hnew
  rw [← accepts_damaged_iff (Nat.lt_of_le_of_lt hlength (by decide)) hposition hchange]
  constructor
  · rintro ⟨e, he⟩ ⟨decoded, hdecoded⟩
    cases he.symm.trans hdecoded
  · intro hrefused
    match hdecode : decode (damaged (assemble frameType destination source data).encode
      position change) with
    | .ok decoded => exact absurd ⟨decoded, hdecode⟩ hrefused
    | .error (.error e) => exact ⟨e, rfl⟩
    | .error .panic => exact absurd hdecode (decode_ne_panic _)

/-- The destination of a token, with its lowest bit changed. -/
theorem token_damage_detected :
    ∃ e, decode (damaged (assemble .token 5 1 []).encode 3 1) = .error (.error e) :=
  (damage_detected_iff .token 5 1 [] _ 3 1 rfl (by decide) (by decide)).mpr (by decide)

/-- A token for station 5 is taken for one to station 0xAE. -/
theorem token_to_another_station :
    decode (damaged (assemble .token 5 1 []).encode 3 0xAB) = .ok (assemble .token 0xAE 1 []) ∧
    ¬ ∀ (frameType : MstpFrameType) (destination source : UInt8) (data : Bytes)
        (frame : MstpFrame) (position : Nat) (change : UInt8),
      new frameType destination source data = .ok frame → position < frame.encode.length →
        change ≠ 0 → ∃ e, decode (damaged frame.encode position change) = .error (.error e) := by
  have haccepted : decode (damaged (assemble .token 5 1 []).encode 3 0xAB)
      = .ok (assemble .token 0xAE 1 []) := by decide +kernel
  refine ⟨haccepted, ?_⟩
  intro hall
  obtain ⟨e, he⟩ := hall .token 5 1 [] _ 3 0xAB rfl (by decide) (by decide)
  cases haccepted.symm.trans he

end MstpFrame

end BacnetRs.Network
