/-
  BacnetRs.Service.Announcement — who is asked for, and what is announced.

  A range of device instances is written whole or not at all, so the devices
  that answer are those asked for, or all of them.  What a device announces of
  itself is four numbers, and they are read as they stand.

    * `WhoIsRequest.decode_encode` — a range is read back, half a range is no range.
    * `IAmRequest.decode_numbers`  — the numbers announced are those that stand there.
    * `announcements_say_what_they_said` — both, with the way back.
-/
import BacnetRs.Encoding.FieldCodec
import BacnetRs.Service.Choice

namespace BacnetRs.Service

open BacnetRs.Encoding BacnetRs.Object Checked Octets

/-! ## §1. Ranges of devices -/

namespace WhoIsRequest

/-- What is left of a request once it is written: a range with both ends, or none. -/
def written (request : WhoIsRequest) : WhoIsRequest :=
  match request.deviceInstanceRangeLowLimit, request.deviceInstanceRangeHighLimit with
  | some low, some high => ⟨some low, some high⟩
  | _, _ => new

theorem decode_range (low high : UInt32) :
    decode (encodeContextUnsigned low 0 ++ encodeContextUnsigned high 1)
      = .ok ⟨some low, some high⟩ := by
  have hlow : ∀ rest, decodeContextUnsigned (encodeContextUnsigned low 0 ++ rest) 0
      = .ok (low, (encodeContextUnsigned low 0).length) := reads_contextUnsigned low 0
  have hhigh : decodeContextUnsigned (encodeContextUnsigned high 1 ++ []) 1
      = .ok (high, (encodeContextUnsigned high 1).length) := reads_contextUnsigned high 1 []
  rw [List.append_nil] at hhigh
  have hleft := (left_zero (encodeContextUnsigned low 0 ++ encodeContextUnsigned high 1)).next
  rw [Nat.zero_add] at hleft
  have hpresent :
      ¬ (encodeContextUnsigned low 0 ++ encodeContextUnsigned high 1).isEmpty = true := by
    intro hempty
    have htakes := ((decodeContextUnsigned_takes _ 0).2 _ (hlow [])).1
    rw [List.isEmpty_iff, List.append_eq_nil_iff] at hempty
    rw [hempty.1] at htakes
    exact Nat.not_succ_le_zero 0 htakes
  unfold decode
  rw [if_neg hpresent]
  simp only [hlow, hleft.dropFrom, hhigh, mapErr, ok_bind]
  rw [if_neg (by rw [List.length_append]; exact not_not_intro rfl)]
  rfl

/-- **A range is read back**; with only one end it is not written, and all are asked for. -/
theorem decode_encode (request : WhoIsRequest) : decode request.encode = .ok request.written := by
  obtain ⟨low, high⟩ := request
  cases low with
  | none => rfl
  | some low =>
      cases high with
      | none => rfl
      | some high => exact decode_range low high

theorem written_whole {request : WhoIsRequest}
    (h : request.deviceInstanceRangeLowLimit.isSome = request.deviceInstanceRangeHighLimit.isSome) :
    request.written = request := by
  obtain ⟨low, high⟩ := request
  cases low with
  | none =>
      cases high with
      | none => rfl
      | some high => cases h
  | some low =>
      cases high with
      | none => cases h
      | some high => rfl

theorem written_half {request : WhoIsRequest}
    (h : request.deviceInstanceRangeLowLimit.isSome ≠ request.deviceInstanceRangeHighLimit.isSome) :
    request.written = new := by
  obtain ⟨low, high⟩ := request
  cases low with
  | none => rfl
  | some low =>
      cases high with
      | none => rfl
      | some high => exact absurd rfl h

end WhoIsRequest

/-! ## §2. Numbers in a row -/

/-- `data` opens with a value of type `tag` that is `content`, and `rest` comes behind it. -/
def Opens (data : Bytes) (tag : ApplicationTag) (content rest : Bytes) : Prop :=
  ∃ header, IsTag header (.application tag) content.length ∧ data = header ++ (content ++ rest)

section Opens

variable {data : Bytes} {consumed : Nat}

/-- What a tag that is decoded stands in front of. -/
theorem opens_of_tag {tag : ApplicationTag} {length header : Nat}
    (h : decodeApplicationTag data = .ok (tag, length, header))
    (hwithin : header + length ≤ data.length) :
    ∃ rest, Opens data tag ((data.drop header).take length) rest
      ∧ (dropFrom data (header + length) : Decoded Bytes) = .ok rest := by
  obtain ⟨octets, behind, rfl, rfl, hoctets⟩ :=
    isTag_of_decodeTag (decodeApplicationTag_eq_ok.mp h)
  rw [List.length_append] at hwithin
  have hlength : (behind.take length).length = length := List.length_take_of_le (by omega)
  refine ⟨behind.drop length, ⟨octets, ?_, ?_⟩, dropFrom_eq_ok.mpr ⟨?_, ?_⟩⟩
  · rw [List.drop_left, hlength]
    exact hoctets
  · rw [List.drop_left, List.take_append_drop]
  · rw [List.length_append]
    omega
  · rw [← List.drop_drop, List.drop_left]

/-- **A number that is decoded is the number that stands there.** -/
theorem decodeUnsigned32_opens {expected : ApplicationTag} {value : UInt32}
    (h : decodeUnsigned32 data expected = .ok (value, consumed)) :
    ∃ content rest, Opens data expected content rest ∧ value.toNat = beNat content
      ∧ (dropFrom data consumed : Decoded Bytes) = .ok rest := by
  obtain ⟨⟨length, header⟩, htag, h⟩ := bind_eq_ok.mp h
  obtain ⟨hwithin, h⟩ := guard_eq_ok.mp h
  by_cases hwidth : 1 ≤ length ∧ length ≤ 4
  · rw [if_pos hwidth] at h
    obtain ⟨n, hn, h⟩ := bind_eq_ok.mp h
    cases h
    obtain ⟨rest, hopens, hrest⟩ :=
      opens_of_tag (expectApplicationTag_eq_ok.mp htag) (Nat.not_lt.mp hwithin)
    have hbound : n < 2 ^ 32 := by
      have hfits := (natAt_ensures data header length n hn).2
      have hpow : 256 ^ length ≤ 256 ^ 4 := Nat.pow_le_pow_right (by decide) hwidth.2
      omega
    refine ⟨_, rest, hopens, ?_, hrest⟩
    rw [UInt32.toNat_ofNat_of_lt' hbound]
    exact (natAt_eq_ok.mp hn).2
  · rw [if_neg hwidth] at h
    cases h

/-- An identifier is the 32 bits that stand there. -/
theorem toUInt32_ofUInt32 (value : UInt32) :
    (ObjectIdentifier.ofUInt32 value).toUInt32 = .ok value := by
  have hhigh : ((value >>> 22) &&& 0x3FF).toNat = value.toNat / 2 ^ 22 % 2 ^ 10 := by
    rw [UInt32.toNat_and, UInt32.toNat_shiftRight]
    show value.toNat >>> 22 &&& (2 ^ 10 - 1) = _
    rw [Nat.and_two_pow_sub_one_eq_mod, Nat.shiftRight_eq_div_pow]
  have hlow : (value &&& 0x3FFFFF).toNat = value.toNat % 2 ^ 22 := by
    rw [UInt32.toNat_and]
    show value.toNat &&& (2 ^ 22 - 1) = _
    rw [Nat.and_two_pow_sub_one_eq_mod]
  have htype : (value >>> 22) &&& 0x3FF ≤ 0x3FF := by
    rw [UInt32.le_iff_toNat_le, hhigh]
    show _ ≤ 1023
    omega
  have hinstance : value &&& 0x3FFFFF ≤ 0x3FFFFF := by
    rw [UInt32.le_iff_toNat_le, hlow]
    show _ ≤ 4194303
    omega
  have hbound := value.toNat_lt
  unfold ObjectIdentifier.toUInt32 ObjectIdentifier.ofUInt32
  rw [if_neg (not_or.mpr ⟨UInt32.not_lt.mpr htype, UInt32.not_lt.mpr hinstance⟩), Except.ok.injEq,
    ← UInt32.toNat_inj, identifier_toNat htype hinstance, hhigh, hlow]
  omega

theorem decodeObjectIdentifier_opens {value : ObjectIdentifier}
    (h : decodeObjectIdentifier data = .ok (value, consumed)) :
    ∃ content rest number, Opens data .objectIdentifier content rest
      ∧ value.toUInt32 = .ok number ∧ number.toNat = beNat content
      ∧ (dropFrom data consumed : Decoded Bytes) = .ok rest := by
  obtain ⟨⟨length, header⟩, htag, h⟩ := bind_eq_ok.mp h
  obtain ⟨hwidth, h⟩ := guard_eq_ok.mp h
  obtain ⟨hfour, hwithin⟩ := not_or.mp hwidth
  obtain ⟨n, hn, h⟩ := bind_eq_ok.mp h
  cases h
  obtain rfl : length = 4 := not_not.mp hfour
  obtain ⟨rest, hopens, hrest⟩ :=
    opens_of_tag (expectApplicationTag_eq_ok.mp htag) (Nat.not_lt.mp hwithin)
  have hbound : n < 2 ^ 32 := (natAt_ensures data header 4 n hn).2
  refine ⟨_, rest, UInt32.ofNat n, hopens, toUInt32_ofUInt32 _, ?_, hrest⟩
  rw [UInt32.toNat_ofNat_of_lt' hbound]
  exact (natAt_eq_ok.mp hn).2

end Opens

/-! ## §3. What a device announces -/

namespace IAmRequest

/-- **The numbers announced are those that stand there**: the identifier, the length and the
segmentation always, the vendor if sixteen bits hold its number. -/
theorem decode_numbers {data : Bytes} {announced : IAmRequest}
    (h : decode data = .ok announced) :
    ∃ device maxApdu segmentation vendor rest₁ rest₂ rest₃ rest₄ number,
      Opens data .objectIdentifier device rest₁ ∧ Opens rest₁ .unsignedInt maxApdu rest₂
        ∧ Opens rest₂ .enumerated segmentation rest₃ ∧ Opens rest₃ .unsignedInt vendor rest₄
        ∧ announced.deviceIdentifier.toUInt32 = .ok number ∧ number.toNat = beNat device
        ∧ announced.maxApduLengthAccepted.toNat = beNat maxApdu
        ∧ announced.segmentationSupported.toUInt32.toNat = beNat segmentation
        ∧ (beNat vendor < 2 ^ 16 → announced.vendorIdentifier.toNat = beNat vendor) := by
  unfold decode at h
  -- The four values one behind the other, each opening where the last one ended.
  obtain ⟨⟨device, consumed⟩, hdevice, h⟩ := bind_eq_ok.mp h
  obtain ⟨behind₁, hbehind₁, h⟩ := bind_eq_ok.mp h
  obtain ⟨octets₁, rest₁, number, hopens₁, hencodable, hnumber, hrest₁⟩ :=
    decodeObjectIdentifier_opens hdevice
  cases hbehind₁.symm.trans hrest₁
  obtain ⟨⟨maxApdu, consumed⟩, hmaxApdu, h⟩ := bind_eq_ok.mp h
  obtain ⟨behind₂, hbehind₂, h⟩ := bind_eq_ok.mp h
  obtain ⟨octets₂, rest₂, hopens₂, hmaxApduNumber, hrest₂⟩ := decodeUnsigned32_opens hmaxApdu
  cases hbehind₂.symm.trans hrest₂
  obtain ⟨⟨segmentation, consumed⟩, hsegmentation, h⟩ := bind_eq_ok.mp h
  obtain ⟨behind₃, hbehind₃, h⟩ := bind_eq_ok.mp h
  obtain ⟨octets₃, rest₃, hopens₃, hsegmentationNumber, hrest₃⟩ :=
    decodeUnsigned32_opens hsegmentation
  cases hbehind₃.symm.trans hrest₃
  obtain ⟨⟨vendor, consumed⟩, hvendor, h⟩ := bind_eq_ok.mp h
  obtain ⟨octets₄, rest₄, hopens₄, hvendorNumber, _⟩ := decodeUnsigned32_opens hvendor
  simp only at h
  cases hknown : Segmentation.tryFrom segmentation with
  | none =>
      rw [hknown] at h
      cases h
  | some known =>
      rw [hknown] at h
      cases h
      refine ⟨octets₁, octets₂, octets₃, octets₄, behind₁, behind₂, behind₃, rest₄, number,
        hopens₁, hopens₂, hopens₃, hopens₄, hencodable, hnumber, hmaxApduNumber, ?_, ?_⟩
      · rw [← hsegmentationNumber, Segmentation.tryFrom_eq_some.mp hknown]
      -- The vendor's number keeps its low two octets.
      · intro hfits
        rw [← hvendorNumber] at hfits ⊢
        show vendor.toUInt16.toNat = _
        rw [UInt32.toNat_toUInt16]
        exact Nat.mod_eq_of_lt hfits

/-- **What is announced is read back.** -/
theorem decode_encode {announced : IAmRequest} {encoded : Bytes}
    (h : announced.encode = .ok encoded) : decode encoded = .ok announced := by
  obtain ⟨device, maxApdu, segmentation, vendor⟩ := announced
  simp only [encode, bind_eq_ok, pure_eq_ok] at h
  obtain ⟨octets, hdevice, rfl⟩ := h
  simp only [List.append_assoc]
  rw [← List.append_nil (encodeUnsigned vendor.toUInt32)]
  have hobject := reads_objectIdentifier hdevice (encodeUnsigned maxApdu
    ++ (encodeEnumerated segmentation.toUInt32 ++ (encodeUnsigned vendor.toUInt32 ++ [])))
  have hmaxApdu := reads_unsigned maxApdu
    (encodeEnumerated segmentation.toUInt32 ++ (encodeUnsigned vendor.toUInt32 ++ []))
  have hsegmentation := reads_enumerated segmentation.toUInt32
    (encodeUnsigned vendor.toUInt32 ++ [])
  have hvendor := reads_unsigned vendor.toUInt32 []
  unfold decode
  simp only [hobject, ok_bind, dropFrom_append, hmaxApdu, hsegmentation, hvendor,
    Segmentation.tryFrom_eq_some.mpr rfl, UInt16.toUInt16_toUInt32]
  rfl

end IAmRequest

/-! ## §4. Both -/

/-- **The devices that answer are those asked for**, and all of them where the range was half a
range; **and what they announce is what is read**. -/
theorem announcements_say_what_they_said :
    (∀ (request : WhoIsRequest) (device : UInt32),
        ∃ read, WhoIsRequest.decode request.encode = .ok read
          ∧ (request.deviceInstanceRangeLowLimit.isSome
              = request.deviceInstanceRangeHighLimit.isSome →
                read.matches device = request.matches device)
          ∧ (request.deviceInstanceRangeLowLimit.isSome
              ≠ request.deviceInstanceRangeHighLimit.isSome → read.matches device = true))
      ∧ (∀ (data : Bytes) (announced : IAmRequest), IAmRequest.decode data = .ok announced →
        ∃ device maxApdu segmentation vendor rest₁ rest₂ rest₃ rest₄ number,
          Opens data .objectIdentifier device rest₁ ∧ Opens rest₁ .unsignedInt maxApdu rest₂
            ∧ Opens rest₂ .enumerated segmentation rest₃ ∧ Opens rest₃ .unsignedInt vendor rest₄
            ∧ announced.deviceIdentifier.toUInt32 = .ok number ∧ number.toNat = beNat device
            ∧ announced.maxApduLengthAccepted.toNat = beNat maxApdu
            ∧ announced.segmentationSupported.toUInt32.toNat = beNat segmentation
            ∧ (beNat vendor < 2 ^ 16 → announced.vendorIdentifier.toNat = beNat vendor))
      ∧ (∀ (announced : IAmRequest) (number : UInt32),
        announced.deviceIdentifier.toUInt32 = .ok number →
          ∃ encoded, announced.encode = .ok encoded ∧ IAmRequest.decode encoded = .ok announced) := by
  refine ⟨?_, fun _ _ => IAmRequest.decode_numbers, ?_⟩
  · intro request device
    refine ⟨request.written, request.decode_encode, ?_, ?_⟩
    · intro hwhole
      rw [WhoIsRequest.written_whole hwhole]
    · intro hhalf
      rw [WhoIsRequest.written_half hhalf]
      rfl
  · intro announced number hdevice
    have hencoded : ∃ encoded, announced.encode = .ok encoded := by
      unfold IAmRequest.encode encodeObjectIdentifier
      rw [hdevice]
      exact ⟨_, rfl⟩
    obtain ⟨encoded, hencoded⟩ := hencoded
    exact ⟨encoded, hencoded, IAmRequest.decode_encode hencoded⟩

/-- Half a range, from 5 on, asks for device 4 too once it is written. -/
theorem half_a_range_asks_for_all :
    WhoIsRequest.«matches» ⟨some 5, none⟩ 4 = false
      ∧ ∃ read, WhoIsRequest.decode (WhoIsRequest.encode ⟨some 5, none⟩) = .ok read
        ∧ read.matches 4 = true :=
  ⟨by decide, WhoIsRequest.new, rfl, rfl⟩

end BacnetRs.Service
