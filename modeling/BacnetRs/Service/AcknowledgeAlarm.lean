/-
  BacnetRs.Service.AcknowledgeAlarm — an operator saying an alarm has been seen
  (`service/acknowledge_alarm.rs`).
-/
import BacnetRs.Object.Common
import BacnetRs.Property.Complex

namespace BacnetRs.Service

open BacnetRs.Encoding BacnetRs.Object BacnetRs.Property

/-- `AcknowledgeAlarmRequest`. -/
structure AcknowledgeAlarmRequest where
  acknowledgingProcessIdentifier : UInt32
  eventObjectIdentifier : ObjectIdentifier
  /-- The state whose transition is acknowledged. -/
  eventStateAcknowledged : EventState
  /-- The time stamp of that transition, as the acknowledger was told it. -/
  timeStamp : TimestampValue
  acknowledgmentSource : String
  timeOfAcknowledgment : TimestampValue
  deriving Repr, DecidableEq

/-! ## §1. Encoding -/

/-- `encode_context_char_string`: text under a context tag, always as UTF-8. -/
def encodeContextCharString (text : String) (tag : UInt8) : Bytes :=
  encodeContextTag tag (text.toUTF8.toList.length + 1) ++ 0 :: text.toUTF8.toList

/-- A time stamp between the opening and the closing tag `tag`. -/
def encodeConstructedTimestamp (timestamp : TimestampValue) (tag : UInt8) :
    Except EncodingError Bytes := do
  let octets ← timestamp.encode
  return encodeOpeningTag tag ++ octets ++ encodeClosingTag tag

/-- `AcknowledgeAlarmRequest::encode`. -/
def AcknowledgeAlarmRequest.encode (self : AcknowledgeAlarmRequest) :
    Except EncodingError Bytes := do
  let object ← encodeContextObjectId self.eventObjectIdentifier 1
  let timeStamp ← encodeConstructedTimestamp self.timeStamp 3
  let acknowledged ← encodeConstructedTimestamp self.timeOfAcknowledgment 5
  return encodeContextUnsigned self.acknowledgingProcessIdentifier 0 ++ object
    ++ encodeContextEnumerated self.eventStateAcknowledged.value.toUInt32 2 ++ timeStamp
    ++ encodeContextCharString self.acknowledgmentSource 4 ++ acknowledged

/-! ## §2. Decoding -/

/-- The state acknowledged: a number of sixteen bits. -/
def readEventStateAt (data : Bytes) (consumed : Nat) : Decoded (EventState × Nat) := do
  let (state, consumed) ← readAt (decodeContextUnsigned · 2) data consumed
  if state.toNat < 2 ^ 16 then return (⟨state.toUInt16⟩, consumed)
  else Checked.fail .invalidTag

/-- `constructed_timestamp`: a time stamp inside the tags `tag`. -/
def constructedTimestamp (tag : UInt8) (data : Bytes) : Decoded (TimestampValue × Nat) := do
  let consumed ← openAt data 0 tag
  let (timestamp, consumed) ← readAt TimestampValue.decode data consumed
  let consumed ← closeAt data consumed tag
  return (timestamp, consumed)

/-- The source of the acknowledgement: text after an octet for its character set, which
is not looked at. -/
def readSourceAt (data : Bytes) (consumed : Nat) : Decoded (String × Nat) := do
  let rest ← Octets.dropFrom data consumed
  let (tag, length, header) ← Checked.ofExcept (decodeContextTag rest)
  if tag ≠ 4 ∨ length = 0 then Checked.fail .invalidTag
  let text ← Checked.orFail .bufferUnderflow
    (Octets.range? data (consumed + header + 1) (consumed + header + length))
  let source ← Checked.orFail .invalidTag (String.fromUTF8? ⟨text.toArray⟩)
  return (source, consumed + (header + length))

/-- `AcknowledgeAlarmRequest::decode`: what follows the last field is left. -/
def AcknowledgeAlarmRequest.decode (data : Bytes) : Decoded AcknowledgeAlarmRequest := do
  let (acknowledgingProcessIdentifier, consumed) ← decodeContextUnsigned data 0
  let (eventObjectIdentifier, consumed) ← readAt (decodeContextObjectId · 1) data consumed
  let (eventStateAcknowledged, consumed) ← readEventStateAt data consumed
  let (timeStamp, consumed) ← readAt (constructedTimestamp 3) data consumed
  let (acknowledgmentSource, consumed) ← readSourceAt data consumed
  let (timeOfAcknowledgment, _) ← readAt (constructedTimestamp 5) data consumed
  return ⟨acknowledgingProcessIdentifier, eventObjectIdentifier, eventStateAcknowledged, timeStamp,
    acknowledgmentSource, timeOfAcknowledgment⟩

/-! ## §3. Decoding does not panic -/

section Meets

open Checked

theorem readEventStateAt_meets {data : Bytes} {consumed : Nat} (h : consumed ≤ data.length) :
    Meets (readEventStateAt data consumed) (Advances data consumed) := by
  refine (readAt_meets (decodeContextUnsigned_takes · 2) h).bind ?_
  rintro ⟨state, next⟩ hnext
  simp only
  split
  · exact meets_ok hnext
  · exact meets_fail _

theorem constructedTimestamp_takes (tag : UInt8) (data : Bytes) :
    Meets (constructedTimestamp tag data) (Takes data) := by
  refine (openAt_meets tag (Nat.zero_le _)).bind (fun opened hopened => ?_)
  refine (readAt_meets TimestampValue.decode_takes hopened.2).bind ?_
  rintro ⟨timestamp, consumed⟩ htimestamp
  refine (closeAt_meets tag htimestamp.2).bind (fun closed hclosed => ?_)
  exact meets_ok ⟨Nat.lt_of_le_of_lt (Nat.zero_le _) hclosed.1, hclosed.2⟩

theorem readSourceAt_meets {data : Bytes} {consumed : Nat} (h : consumed ≤ data.length) :
    Meets (readSourceAt data consumed) (Advances data consumed) := by
  refine (Octets.dropFrom_meets h).bind (fun rest _ => ?_)
  refine (meets_ofExcept (P := fun tag => 1 ≤ tag.2.2 ∧ tag.2.2 ≤ rest.length)
    (fun _ htag => decodeContextTag_takes htag)).bind ?_
  rintro ⟨tag, length, header⟩ ⟨hheader, _⟩
  refine meets_guard (fun _ => ?_)
  refine (meets_orFail (P := fun _ => consumed + header + length ≤ data.length)
    (fun _ hrange => (Octets.range?_within hrange).2)).bind (fun text hwithin => ?_)
  refine (meets_orFail (P := fun _ => True) (fun _ _ => trivial)).bind (fun _ _ => ?_)
  refine meets_ok ⟨?_, ?_⟩ <;> simp only at * <;> omega

/-- **Decoding an AcknowledgeAlarm does not panic.** -/
theorem AcknowledgeAlarmRequest.decode_meets (data : Bytes) :
    Meets (AcknowledgeAlarmRequest.decode data) (fun _ => True) := by
  refine (decodeContextUnsigned_takes data 0).bind ?_
  rintro ⟨process, p₁⟩ ⟨_, hprocess⟩
  refine (readAt_meets (decodeContextObjectId_takes · 1) hprocess).bind ?_
  rintro ⟨object, p₂⟩ hobject
  refine (readEventStateAt_meets hobject.2).bind ?_
  rintro ⟨state, p₃⟩ hstate
  refine (readAt_meets (constructedTimestamp_takes 3) hstate.2).bind ?_
  rintro ⟨timeStamp, p₄⟩ htimeStamp
  refine (readSourceAt_meets htimeStamp.2).bind ?_
  rintro ⟨source, p₅⟩ hsource
  refine (readAt_meets (constructedTimestamp_takes 5) hsource.2).bind ?_
  rintro ⟨time, _⟩ _
  exact meets_ok trivial

end Meets

end BacnetRs.Service
