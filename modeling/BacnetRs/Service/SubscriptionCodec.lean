/-
  BacnetRs.Service.SubscriptionCodec — subscriptions are decoded as they were
  encoded.

  A subscription and its cancellation differ by the fields that are left out.
  Each optional field has a tag of its own, so what was left out is never taken
  from the field that comes next.

    * `SubscribeCovRequest.decode_encode`, `SubscribeCovPropertyRequest.decode_encode`
                          — one request of each kind.
-/
import BacnetRs.Service.RequestCodec
import BacnetRs.Service.SubscribeCov

namespace BacnetRs.Service

open BacnetRs.Encoding BacnetRs.Object Checked Octets

/-! ## §1. Optional fields -/

section Fields

variable {data rest : Bytes} {consumed : Nat} {tag other : UInt8}

/-- An optional Boolean field is read back before anything that is not it. -/
theorem readOptionalBoolean_of_left {value : Option Bool}
    (h : Left data consumed (encodeOptionalBoolean value tag ++ rest))
    (hrest : isContextTag rest tag = false) :
    readOptionalAt (isContextTag · tag) (decodeContextBoolean · tag) data consumed
      = .ok (value, consumed + (encodeOptionalBoolean value tag).length) := by
  cases value with
  | none => exact readOptionalAt_absent h hrest
  | some value =>
      apply readOptionalAt_of_left h ?_ (reads_contextBoolean value tag rest)
      show isContextTag (encodeContextBoolean value tag ++ rest) tag = true
      unfold encodeContextBoolean
      rw [List.append_assoc, isContextTag_context (by decide)]
      exact beq_self_eq_true tag

/-- A field with a tag of its own is not taken for the one left out before it. -/
theorem isContextTag_optionalUnsigned {value : Option UInt32} (hother : other ≠ tag)
    (hrest : isContextTag rest tag = false) :
    isContextTag (encodeOptionalUnsigned value other ++ rest) tag = false := by
  cases value with
  | none => exact hrest
  | some value =>
      show isContextTag (encodeContextUnsigned value other ++ rest) tag = false
      rw [isContextTag_contextUnsigned]
      exact beq_false_of_ne hother

end Fields

/-! ## §2. The header -/

/-- **What both requests open with** is read back before anything but its own optional fields. -/
theorem SubscriptionHeader.decode_encode {header : SubscribeCovRequest} {encoded rest : Bytes}
    (h : SubscriptionHeader.encode header = .ok encoded) (hconfirmed : isContextTag rest 2 = false)
    (hlifetime : isContextTag rest 3 = false) :
    SubscriptionHeader.decode (encoded ++ rest) = .ok (header, encoded.length) := by
  obtain ⟨process, object, confirmed, lifetime⟩ := header
  simp only [SubscriptionHeader.encode, bind_eq_ok, pure_eq_ok] at h
  obtain ⟨octets, hobject, rfl⟩ := h
  simp only [List.append_assoc]
  have hread : ∀ rest, decodeContextUnsigned (encodeContextUnsigned process 0 ++ rest) 0
      = .ok (process, (encodeContextUnsigned process 0).length) := reads_contextUnsigned process 0
  have h₁ := (left_zero (encodeContextUnsigned process 0 ++ (octets
    ++ (encodeOptionalBoolean confirmed 2 ++ (encodeOptionalUnsigned lifetime 3 ++ rest))))).next
  rw [Nat.zero_add] at h₁
  have h₂ := h₁.next
  have h₃ := h₂.next
  have hmonitored : readAt (decodeContextObjectId · 1) _ _ = .ok (object, _) :=
    readAt_of_left h₁ (reads_contextObjectId hobject _)
  unfold SubscriptionHeader.decode
  simp only [hread, ok_bind, hmonitored,
    readOptionalBoolean_of_left h₂ (isContextTag_optionalUnsigned (by decide) hconfirmed),
    readOptionalUnsigned_of_left h₃ hlifetime]
  simp only [List.length_append, Nat.add_assoc]
  rfl

/-! ## §3. The requests -/

theorem SubscribeCovRequest.decode_encode {request : SubscribeCovRequest} {encoded : Bytes}
    (h : request.encode = .ok encoded) : SubscribeCovRequest.decode encoded = .ok request := by
  have hread : SubscriptionHeader.decode (encoded ++ []) = .ok (request, encoded.length) :=
    SubscriptionHeader.decode_encode h rfl rfl
  rw [List.append_nil] at hread
  unfold SubscribeCovRequest.decode
  rw [hread]
  rfl

/-- The increment is all that may follow. -/
theorem readIncrementAt_of_left {data : Bytes} {offset : Nat} {increment : Option F32}
    (h : Left data offset (encodeOptionalReal increment 5)) :
    readIncrementAt data offset = .ok increment := by
  have hend := h.length
  unfold readIncrementAt
  cases increment with
  | none =>
      simp only [encodeOptionalReal, List.length_nil] at hend
      rw [if_neg (by omega)]
      rfl
  | some increment =>
      have hbound : increment.bits.toNat < 256 ^ 4 := increment.bits.toNat_lt
      simp only [encodeOptionalReal, encodeContextReal, List.length_append, length_beOctets]
        at h hend
      rw [← List.append_nil (beOctets _ _)] at h
      have hnumber : (natAt data (offset + (encodeContextTag 5 4).length) 4 : Decoded Nat)
          = .ok increment.bits.toNat := by
        have hrange : (range data (offset + (encodeContextTag 5 4).length)
            (offset + (encodeContextTag 5 4).length + (beOctets 4 increment.bits.toNat).length)
              : Decoded Bytes) = .ok _ := h.next.range
        rw [length_beOctets] at hrange
        unfold natAt
        rw [hrange]
        show Except.ok (beNat _) = _
        rw [beNat_beOctets, Nat.mod_eq_of_lt hbound]
      rw [if_pos (by omega)]
      simp only [h.dropFrom, ok_bind, decodeContextTag_append 5 (show 4 < 2 ^ 32 by decide),
        Checked.ofExcept]
      rw [if_neg (by decide), if_neg (by omega), hnumber]
      show Except.ok (some (F32.mk (UInt32.ofNat increment.bits.toNat))) = _
      rw [UInt32.ofNat_toNat]

/-- The fields of an encoded request, read where they stand, and what is left for the increment. -/
theorem SubscribeCovPropertyRequest.fields {request : SubscribeCovPropertyRequest} {encoded : Bytes}
    (h : request.encode = .ok encoded) :
    ∃ p₁ p₂ p₃ p₄, SubscriptionHeader.decode encoded = .ok (request.header, p₁)
      ∧ openAt encoded p₁ 4 = .ok p₂
      ∧ readAt PropertyReference.decode encoded p₂ = .ok (request.monitoredProperty, p₃)
      ∧ closeAt encoded p₃ 4 = .ok p₄
      ∧ Left encoded p₄ (encodeOptionalReal request.covIncrement 5) := by
  simp only [SubscribeCovPropertyRequest.encode, bind_eq_ok, pure_eq_ok] at h
  obtain ⟨header, hheader, rfl⟩ := h
  simp only [List.append_assoc]
  have hread : ∀ rest, SubscriptionHeader.decode (header ++ (encodeOpeningTag 4 ++ rest))
      = .ok (request.header, header.length) := fun rest =>
    SubscriptionHeader.decode_encode hheader isContextTag_opening isContextTag_opening
  have h₁ := (left_zero (header ++ (encodeOpeningTag 4 ++ (request.monitoredProperty.encode
    ++ (encodeClosingTag 4 ++ encodeOptionalReal request.covIncrement 5))))).next
  rw [Nat.zero_add] at h₁
  have h₂ := h₁.next
  have h₃ := h₂.next
  exact ⟨_, _, _, _, hread _, openAt_of_left h₁,
    readAt_of_left h₂ ((item_reference _).reads _ isContextTag_closing), closeAt_of_left h₃,
    h₃.next⟩

theorem SubscribeCovPropertyRequest.decode_encode {request : SubscribeCovPropertyRequest}
    {encoded : Bytes} (h : request.encode = .ok encoded) :
    SubscribeCovPropertyRequest.decode encoded = .ok request := by
  obtain ⟨_, _, _, _, hheader, hopen, hproperty, hclose, hincrement⟩ :=
    SubscribeCovPropertyRequest.fields h
  unfold SubscribeCovPropertyRequest.decode
  simp only [hheader, ok_bind, hopen, hproperty, hclose, readIncrementAt_of_left hincrement]
  rfl

/-! ## §4. Encoding succeeds -/

theorem SubscriptionHeader.encode_isOk {header : SubscribeCovRequest} {number : UInt32}
    (h : header.monitoredObjectIdentifier.toUInt32 = .ok number) :
    ∃ encoded, SubscriptionHeader.encode header = .ok encoded := by
  unfold SubscriptionHeader.encode encodeContextObjectId
  rw [h]
  exact ⟨_, rfl⟩

theorem SubscribeCovPropertyRequest.encode_isOk {request : SubscribeCovPropertyRequest}
    {number : UInt32} (h : request.monitoredObjectIdentifier.toUInt32 = .ok number) :
    ∃ encoded, request.encode = .ok encoded := by
  obtain ⟨header, hheader⟩ := SubscriptionHeader.encode_isOk
    (show request.header.monitoredObjectIdentifier.toUInt32 = .ok number from h)
  unfold SubscribeCovPropertyRequest.encode
  rw [hheader]
  exact ⟨_, rfl⟩

end BacnetRs.Service
