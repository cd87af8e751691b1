/-
  BacnetRs.Service.TimeSynchronization — what time it is, as one device tells
  another (`service/mod.rs`).

  Either request is a date and a time, local or UTC; what follows them is left.
-/
import BacnetRs.Encoding.Consumption

namespace BacnetRs.Service

open BacnetRs.Encoding

/-- `BacnetDateTime`. -/
structure BacnetDateTime where
  date : DateValue
  time : TimeValue
  deriving Repr, DecidableEq

/-- `BacnetDateTime::decode`. -/
def BacnetDateTime.decode (data : Bytes) : Decoded (BacnetDateTime × Nat) := do
  let (date, consumed) ← decodeDate data
  let (time, consumed) ← readAt decodeTime data consumed
  return (⟨date, time⟩, consumed)

/-- `TimeSynchronizationRequest`. -/
structure TimeSynchronizationRequest where
  dateTime : BacnetDateTime
  deriving Repr, DecidableEq

/-- `TimeSynchronizationRequest::decode`. -/
def TimeSynchronizationRequest.decode (data : Bytes) : Decoded TimeSynchronizationRequest := do
  let (dateTime, _) ← BacnetDateTime.decode data
  return ⟨dateTime⟩

/-- `UtcTimeSynchronizationRequest`. -/
structure UtcTimeSynchronizationRequest where
  utcDateTime : BacnetDateTime
  deriving Repr, DecidableEq

/-- `UtcTimeSynchronizationRequest::decode`. -/
def UtcTimeSynchronizationRequest.decode (data : Bytes) :
    Decoded UtcTimeSynchronizationRequest := do
  let (utcDateTime, _) ← BacnetDateTime.decode data
  return ⟨utcDateTime⟩

open Checked

theorem BacnetDateTime.decode_takes (data : Bytes) :
    Meets (BacnetDateTime.decode data) (Takes data) := by
  refine (decodeDate_takes data).bind ?_
  rintro ⟨date, consumed⟩ ⟨_, hdate⟩
  refine (readAt_meets decodeTime_takes hdate).bind ?_
  rintro ⟨time, next⟩ ⟨htime, hwithin⟩
  exact meets_ok ⟨Nat.lt_of_le_of_lt (Nat.zero_le _) htime, hwithin⟩

theorem TimeSynchronizationRequest.decode_meets (data : Bytes) :
    Meets (TimeSynchronizationRequest.decode data) (fun _ => True) := by
  refine (BacnetDateTime.decode_takes data).bind ?_
  rintro ⟨dateTime, _⟩ _
  exact meets_ok trivial

theorem UtcTimeSynchronizationRequest.decode_meets (data : Bytes) :
    Meets (UtcTimeSynchronizationRequest.decode data) (fun _ => True) := by
  refine (BacnetDateTime.decode_takes data).bind ?_
  rintro ⟨dateTime, _⟩ _
  exact meets_ok trivial

end BacnetRs.Service
