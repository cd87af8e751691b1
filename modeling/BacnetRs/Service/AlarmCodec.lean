/-
  BacnetRs.Service.AlarmCodec — an acknowledgement names the transition that it
  was told of.

  A transition is told with its time stamp, and acknowledged with it.  Both
  write the time stamp between two tags, so what is read from the one, written
  into the other and read again is still the same.

    * `AcknowledgeAlarmRequest.decode_encode` — an acknowledgement is read back.
    * `EventNotification.readTimestamp_encode` — the time stamp of a notification is
                          the one it was made with.
-/
import BacnetRs.Property.ComplexCodec
import BacnetRs.Service.EventNotification

namespace BacnetRs.Service

open BacnetRs.Encoding BacnetRs.Object BacnetRs.Property Checked Octets

/-! ## §1. Fields -/

section Fields

variable {data rest encoded : Bytes} {consumed : Nat} {tag : UInt8}

theorem readEventStateAt_of_left {state : EventState}
    (h : Left data consumed (encodeContextEnumerated state.value.toUInt32 2 ++ rest)) :
    readEventStateAt data consumed
      = .ok (state, consumed + (encodeContextEnumerated state.value.toUInt32 2).length) := by
  have hbound : state.value.toUInt32.toNat < 2 ^ 16 := by
    rw [UInt16.toNat_toUInt32]
    exact state.value.toNat_lt
  unfold encodeContextEnumerated at *
  unfold readEventStateAt
  rw [readUnsignedAt_of_left h, ok_bind]
  simp only
  rw [if_pos hbound, UInt16.toUInt16_toUInt32]
  rfl

/-- **A time stamp between its tags is read back.** -/
theorem reads_constructedTimestamp {timestamp : TimestampValue}
    (h : encodeConstructedTimestamp timestamp tag = .ok encoded) :
    Reads (constructedTimestamp tag) encoded timestamp := by
  intro rest
  simp only [encodeConstructedTimestamp, bind_eq_ok, pure_eq_ok] at h
  obtain ⟨octets, hoctets, rfl⟩ := h
  simp only [List.append_assoc]
  have h₀ := left_zero (encodeOpeningTag tag ++ (octets ++ (encodeClosingTag tag ++ rest)))
  have h₁ := h₀.next
  unfold constructedTimestamp
  simp only [openAt_of_left h₀, ok_bind, readAt_of_left h₁ (TimestampValue.reads hoctets _),
    closeAt_of_left h₁.next]
  simp only [List.length_append, Nat.zero_add, Nat.add_assoc]
  rfl

/-- **Text is read back**, if its tag can say its length. -/
theorem readSourceAt_of_left {text : String} (hlength : text.toUTF8.toList.length + 1 < 2 ^ 32)
    (h : Left data consumed (encodeContextCharString text 4 ++ rest)) :
    readSourceAt data consumed
      = .ok (text, consumed + (encodeContextCharString text 4).length) := by
  unfold encodeContextCharString at *
  rw [List.append_assoc] at h
  have hheader : Left data (consumed + (encodeContextTag 4 (text.toUTF8.toList.length + 1)).length)
      ([0] ++ (text.toUTF8.toList ++ rest)) := h.next
  have htext := hheader.next.range?
  rw [List.length_singleton] at htext
  unfold readSourceAt
  simp only [h.dropFrom, ok_bind, decodeContextTag_append 4 hlength, Checked.ofExcept]
  rw [if_neg (by simp), show ∀ n : Nat, n + (text.toUTF8.toList.length + 1)
    = n + 1 + text.toUTF8.toList.length from by omega, htext]
  simp only [Checked.orFail, ok_bind, fromUTF8?_toUTF8]
  simp only [List.length_append, List.length_cons]
  rfl

end Fields

/-! ## §2. Acknowledgements -/

/-- What stands in front of the source is read back, and what stands behind it can be. -/
theorem AcknowledgeAlarmRequest.decode_front {request : AcknowledgeAlarmRequest} {encoded : Bytes}
    (h : request.encode = .ok encoded) :
    ∃ consumed last, Left encoded consumed
        (encodeContextCharString request.acknowledgmentSource 4 ++ (last ++ []))
      ∧ Reads (constructedTimestamp 5) last request.timeOfAcknowledgment
      ∧ AcknowledgeAlarmRequest.decode encoded = do
          let (source, consumed) ← readSourceAt encoded consumed
          let (time, _) ← readAt (constructedTimestamp 5) encoded consumed
          return { request with acknowledgmentSource := source, timeOfAcknowledgment := time } := by
  obtain ⟨process, object, state, timeStamp, source, acknowledged⟩ := request
  simp only [AcknowledgeAlarmRequest.encode, bind_eq_ok, pure_eq_ok] at h
  obtain ⟨octets, hobject, stamp, hstamp, last, hlast, rfl⟩ := h
  simp only [List.append_assoc]
  rw [← List.append_nil last]
  have hread : ∀ rest, decodeContextUnsigned (encodeContextUnsigned process 0 ++ rest) 0
      = .ok (process, (encodeContextUnsigned process 0).length) := reads_contextUnsigned process 0
  have h₁ := (left_zero (encodeContextUnsigned process 0 ++ (octets
    ++ (encodeContextEnumerated state.value.toUInt32 2 ++ (stamp
    ++ (encodeContextCharString source 4 ++ (last ++ []))))))).next
  rw [Nat.zero_add] at h₁
  have h₂ := h₁.next
  have h₃ := h₂.next
  have hmonitored : readAt (decodeContextObjectId · 1) _ _ = .ok (object, _) :=
    readAt_of_left h₁ (reads_contextObjectId hobject _)
  refine ⟨_, last, h₃.next, reads_constructedTimestamp hlast, ?_⟩
  unfold AcknowledgeAlarmRequest.decode
  simp only [hread, ok_bind, hmonitored, readEventStateAt_of_left h₂,
    readAt_of_left h₃ (reads_constructedTimestamp hstamp _)]

/-- **An acknowledgement is read back**, if the tag of its source can say its length. -/
theorem AcknowledgeAlarmRequest.decode_encode {request : AcknowledgeAlarmRequest} {encoded : Bytes}
    (hsource : request.acknowledgmentSource.toUTF8.toList.length + 1 < 2 ^ 32)
    (h : request.encode = .ok encoded) : AcknowledgeAlarmRequest.decode encoded = .ok request := by
  obtain ⟨consumed, last, hleft, hlast, hdecode⟩ := AcknowledgeAlarmRequest.decode_front h
  rw [hdecode]
  simp only [readSourceAt_of_left hsource hleft, ok_bind, readAt_of_left hleft.next (hlast [])]
  rfl

/-- Whatever becomes of the source, the time stamp that was written is the one read. -/
theorem AcknowledgeAlarmRequest.timeStamp_of_decode {request read : AcknowledgeAlarmRequest}
    {encoded : Bytes} (h : request.encode = .ok encoded)
    (hread : AcknowledgeAlarmRequest.decode encoded = .ok read) :
    read.timeStamp = request.timeStamp := by
  obtain ⟨consumed, last, _, _, hdecode⟩ := AcknowledgeAlarmRequest.decode_front h
  rw [hdecode] at hread
  obtain ⟨source, _, hread⟩ := bind_eq_ok.mp hread
  obtain ⟨time, _, hread⟩ := bind_eq_ok.mp hread
  cases hread
  rfl

/-- A source of 2^32 - 1 octets is of no length to the tag in front of it. -/
theorem AcknowledgeAlarmRequest.decode_wrapped {request : AcknowledgeAlarmRequest} {encoded : Bytes}
    (hsource : request.acknowledgmentSource.toUTF8.toList.length + 1 = 2 ^ 32)
    (h : request.encode = .ok encoded) :
    AcknowledgeAlarmRequest.decode encoded = .error (.error .invalidTag) := by
  obtain ⟨consumed, last, hleft, _, hdecode⟩ := AcknowledgeAlarmRequest.decode_front h
  unfold encodeContextCharString at hleft
  rw [hsource, List.append_assoc] at hleft
  have hrefused : readSourceAt encoded consumed = .error (.error .invalidTag) := by
    unfold readSourceAt
    simp only [hleft.dropFrom, ok_bind, decodeContextTag_append_mod, Checked.ofExcept,
      Nat.mod_self]
    rw [if_pos (.inr trivial)]
    rfl
  rw [hdecode, hrefused]
  rfl

/-! ## §3. Notifications -/

/-- The time stamp of a notification, behind the process and the two objects it opens with. -/
def EventNotification.readTimestamp (data : Bytes) : Decoded TimestampValue := do
  let (_, consumed) ← decodeContextUnsigned data 0
  let (_, consumed) ← readAt (decodeContextObjectId · 1) data consumed
  let (_, consumed) ← readAt (decodeContextObjectId · 2) data consumed
  let (timestamp, _) ← readAt (constructedTimestamp 3) data consumed
  return timestamp

/-- **The time stamp of a notification is read back**, whatever else it tells. -/
theorem EventNotification.readTimestamp_encode {notification : EventNotification} {encoded : Bytes}
    (h : notification.encode = .ok encoded) :
    EventNotification.readTimestamp encoded = .ok notification.timestamp := by
  simp only [EventNotification.encode, bind_eq_ok, pure_eq_ok] at h
  obtain ⟨device, hdevice, object, hobject, stamp, hstamp, rfl⟩ := h
  simp only [List.append_assoc]
  generalize encodeContextUnsigned notification.notificationClass 4 ++ _ = rest
  have hread : ∀ rest, decodeContextUnsigned
      (encodeContextUnsigned notification.processIdentifier 0 ++ rest) 0
        = .ok (_, (encodeContextUnsigned notification.processIdentifier 0).length) :=
    reads_contextUnsigned notification.processIdentifier 0
  have h₁ := (left_zero (encodeContextUnsigned notification.processIdentifier 0
    ++ (device ++ (object ++ (stamp ++ rest))))).next
  rw [Nat.zero_add] at h₁
  have h₂ := h₁.next
  have h₃ := h₂.next
  have hinitiating : readAt (decodeContextObjectId · 1) _ _ = .ok (_, _) :=
    readAt_of_left h₁ (reads_contextObjectId hdevice _)
  have hevent : readAt (decodeContextObjectId · 2) _ _ = .ok (_, _) :=
    readAt_of_left h₂ (reads_contextObjectId hobject _)
  unfold EventNotification.readTimestamp
  simp only [hread, ok_bind, hinitiating, hevent,
    readAt_of_left h₃ (reads_constructedTimestamp hstamp _)]
  rfl

/-! ## §4. Encoding succeeds -/

/-- A time stamp of a year that an octet can say, if it has one. -/
def Writable : TimestampValue → Prop
  | .dateTime (year, _, _, _) _ => year = 255 ∨ (1900 ≤ year ∧ year ≤ 2154)
  | _ => True

theorem encodeConstructedTimestamp_isOk {timestamp : TimestampValue} (h : Writable timestamp)
    (tag : UInt8) : ∃ encoded, encodeConstructedTimestamp timestamp tag = .ok encoded := by
  have hencoded : ∃ octets, timestamp.encode = .ok octets := by
    cases timestamp with
    | time time => exact ⟨_, rfl⟩
    | sequenceNumber sequence => exact ⟨_, rfl⟩
    | dateTime day time =>
        obtain ⟨year, month, day, weekday⟩ := day
        have hyear : ∃ octet, yearOctet year = .ok octet := by
          unfold yearOctet
          by_cases hany : year = 255
          · exact ⟨255, if_pos hany⟩
          · rw [if_neg hany, if_pos (h.resolve_left hany)]
            exact ⟨_, rfl⟩
        obtain ⟨octet, hoctet⟩ := hyear
        unfold TimestampValue.encode encodeDate
        simp only [hoctet]
        exact ⟨_, rfl⟩
  obtain ⟨octets, hoctets⟩ := hencoded
  unfold encodeConstructedTimestamp
  rw [hoctets]
  exact ⟨_, rfl⟩

theorem AcknowledgeAlarmRequest.encode_isOk {request : AcknowledgeAlarmRequest} {number : UInt32}
    (hobject : request.eventObjectIdentifier.toUInt32 = .ok number)
    (htimeStamp : Writable request.timeStamp)
    (hacknowledged : Writable request.timeOfAcknowledgment) :
    ∃ encoded, request.encode = .ok encoded := by
  obtain ⟨stamp, hstamp⟩ := encodeConstructedTimestamp_isOk htimeStamp 3
  obtain ⟨last, hlast⟩ := encodeConstructedTimestamp_isOk hacknowledged 5
  unfold AcknowledgeAlarmRequest.encode encodeContextObjectId
  rw [hobject, hstamp, hlast]
  exact ⟨_, rfl⟩

end BacnetRs.Service
