/-
  BacnetRs.Server.Echoing — requests about changes and alarms say what they were
  written to say.

  A subscription is told from its cancellation by what is left out.  An alarm is
  acknowledged by the time stamp it was told with, which has been written and
  read twice by the time it is compared with the one that was recorded.

    * `recorded_of_mem_tick` — a tick records the time stamp it tells.
    * `requests_say_what_they_said` — so it comes back as the one recorded; with the round
                            trips of the three requests.
-/
import BacnetRs.Server.Acknowledging
import BacnetRs.Service.AlarmCodec
import BacnetRs.Service.SubscriptionCodec

namespace BacnetRs.Server

open BacnetRs.Encoding BacnetRs.Event BacnetRs.Object BacnetRs.Property BacnetRs.Service

/-! ## §1. What is told is what is recorded -/

section Told

variable {engine : EventEngine} {database : ObjectDatabase} {nowSeconds : Nat}
  {timestamp : TimestampValue} {addressed : AddressedNotification}

/-- **A tick records the time stamp it tells.** -/
theorem recorded_of_mem_tick
    (h : addressed ∈ (engine.tick database nowSeconds timestamp).2.2) :
    ∃ r, reportingOf (engine.tick database nowSeconds timestamp).2.1
        addressed.notification.eventObject = some r
      ∧ r.eventTimeStamps.get (EventTransition.forState addressed.notification.toState).bitIndex
        = addressed.notification.timestamp := by
  obtain ⟨identifier, object, hobject, htold⟩ := EventEngine.mem_tick.mp h
  unfold told at htold
  cases hdue : due (engine.pending.lookup identifier) nowSeconds object with
  | none =>
      rw [hdue] at htold
      cases htold
  | some seen =>
      rw [hdue] at htold
      obtain ⟨destination, _, rfl⟩ := List.mem_map.mp htold
      obtain ⟨r, hr, _⟩ := observe_intrinsic (demand_eq_some.mp (due_eq_some.mp hdue).1).1
      refine ⟨_, reportingOf_tick.mpr ⟨object, r, hobject, hr, rfl⟩, ?_⟩
      rw [hdue, timeStamp_recorded, if_pos rfl]

end Told

/-! ## §2. What is written is what is read -/

/-- **Subscriptions, their cancellations and acknowledgements are read as they were written**, and
the time stamp of a notification that is acknowledged with it is the one recorded. -/
theorem requests_say_what_they_said :
    (∀ (request : SubscribeCovRequest) (number : UInt32),
        request.monitoredObjectIdentifier.toUInt32 = .ok number →
          ∃ encoded, request.encode = .ok encoded
            ∧ SubscribeCovRequest.decode encoded = .ok request)
      ∧ (∀ (request : SubscribeCovPropertyRequest) (number : UInt32),
        request.monitoredObjectIdentifier.toUInt32 = .ok number →
          ∃ encoded, request.encode = .ok encoded
            ∧ SubscribeCovPropertyRequest.decode encoded = .ok request)
      ∧ (∀ (request read : SubscribeCovRequest) (encoded : Bytes), request.encode = .ok encoded →
        SubscribeCovRequest.decode encoded = .ok read →
          read.isCancellation = request.isCancellation)
      ∧ (∀ (request read : SubscribeCovPropertyRequest) (encoded : Bytes),
        request.encode = .ok encoded → SubscribeCovPropertyRequest.decode encoded = .ok read →
          read.isCancellation = request.isCancellation)
      ∧ (∀ (request : AcknowledgeAlarmRequest) (number : UInt32),
        request.eventObjectIdentifier.toUInt32 = .ok number → Writable request.timeStamp →
          Writable request.timeOfAcknowledgment →
            request.acknowledgmentSource.toUTF8.toList.length + 1 < 2 ^ 32 →
              ∃ encoded, request.encode = .ok encoded
                ∧ AcknowledgeAlarmRequest.decode encoded = .ok request)
      ∧ (∀ (notification : EventNotification) (encoded : Bytes),
        notification.encode = .ok encoded →
          EventNotification.readTimestamp encoded = .ok notification.timestamp)
      ∧ (∀ (engine : EventEngine) (database : ObjectDatabase) (nowSeconds : Nat)
          (timestamp : TimestampValue) (addressed : AddressedNotification) (encoded : Bytes),
        addressed ∈ (engine.tick database nowSeconds timestamp).2.2 →
          addressed.notification.encode = .ok encoded →
            ∃ stamp r, EventNotification.readTimestamp encoded = .ok stamp
              ∧ reportingOf (engine.tick database nowSeconds timestamp).2.1
                addressed.notification.eventObject = some r
              ∧ ∀ (request read : AcknowledgeAlarmRequest) (octets : Bytes),
                request.timeStamp = stamp → request.encode = .ok octets →
                  AcknowledgeAlarmRequest.decode octets = .ok read →
                    r.eventTimeStamps.get
                        (EventTransition.forState addressed.notification.toState).bitIndex
                      = read.timeStamp) := by
  refine ⟨?_, ?_, ?_, ?_, ?_, fun _ _ => EventNotification.readTimestamp_encode, ?_⟩
  · intro request number hobject
    obtain ⟨encoded, hencoded⟩ := SubscriptionHeader.encode_isOk hobject
    exact ⟨encoded, hencoded, SubscribeCovRequest.decode_encode hencoded⟩
  · intro request number hobject
    obtain ⟨encoded, hencoded⟩ := SubscribeCovPropertyRequest.encode_isOk hobject
    exact ⟨encoded, hencoded, SubscribeCovPropertyRequest.decode_encode hencoded⟩
  · intro request read encoded hencoded hread
    rw [SubscribeCovRequest.decode_encode hencoded] at hread
    cases hread
    rfl
  · intro request read encoded hencoded hread
    rw [SubscribeCovPropertyRequest.decode_encode hencoded] at hread
    cases hread
    rfl
  · intro request number hobject htimeStamp hacknowledged hsource
    obtain ⟨encoded, hencoded⟩ :=
      AcknowledgeAlarmRequest.encode_isOk hobject htimeStamp hacknowledged
    exact ⟨encoded, hencoded, AcknowledgeAlarmRequest.decode_encode hsource hencoded⟩
  -- The notification carries the stamp that was recorded; the acknowledgement carries it back.
  · intro engine database nowSeconds timestamp addressed encoded htold hencoded
    obtain ⟨r, hr, hstamp⟩ := recorded_of_mem_tick htold
    refine ⟨_, r, EventNotification.readTimestamp_encode hencoded, hr, ?_⟩
    intro request read octets hsame hoctets hread
    rw [AcknowledgeAlarmRequest.timeStamp_of_decode hoctets hread, hsame, hstamp]

/-- An acknowledgement, by the source given. -/
def acknowledgeFrom (source : String) : AcknowledgeAlarmRequest :=
  ⟨7, ⟨.analogValue, 1⟩, .fault, .sequenceNumber 3, source, .sequenceNumber 4⟩

/-- A source that fills the length field is written, and not read back.  It stays a variable here:
one of that length is not to be evaluated. -/
theorem full_source_not_read_back {source : String}
    (hsource : source.toUTF8.toList.length = 2 ^ 32 - 1) :
    (∃ number, (acknowledgeFrom source).eventObjectIdentifier.toUInt32 = .ok number)
      ∧ Writable (acknowledgeFrom source).timeStamp
      ∧ Writable (acknowledgeFrom source).timeOfAcknowledgment
      ∧ ∃ encoded, (acknowledgeFrom source).encode = .ok encoded
        ∧ AcknowledgeAlarmRequest.decode encoded ≠ .ok (acknowledgeFrom source) := by
  have hobject : (acknowledgeFrom source).eventObjectIdentifier.toUInt32 = .ok 0x00800001 := by
    show (⟨.analogValue, 1⟩ : ObjectIdentifier).toUInt32 = .ok 0x00800001
    decide
  refine ⟨⟨_, hobject⟩, trivial, trivial, ?_⟩
  obtain ⟨encoded, hencoded⟩ := AcknowledgeAlarmRequest.encode_isOk hobject trivial trivial
  have hlength : (acknowledgeFrom source).acknowledgmentSource.toUTF8.toList.length + 1
      = 2 ^ 32 := by
    show source.toUTF8.toList.length + 1 = 2 ^ 32
    omega
  refine ⟨encoded, hencoded, ?_⟩
  rw [AcknowledgeAlarmRequest.decode_wrapped hlength hencoded]
  intro h
  cases h

/-- An acknowledgement by a source of 2^32 - 1 octets. -/
def acknowledgeAtLength : AcknowledgeAlarmRequest := acknowledgeFrom (textOf (2 ^ 32 - 1))

theorem long_source_not_read_back :
    (∃ number, acknowledgeAtLength.eventObjectIdentifier.toUInt32 = .ok number)
      ∧ Writable acknowledgeAtLength.timeStamp
      ∧ Writable acknowledgeAtLength.timeOfAcknowledgment
      ∧ ∃ encoded, acknowledgeAtLength.encode = .ok encoded
        ∧ AcknowledgeAlarmRequest.decode encoded ≠ .ok acknowledgeAtLength :=
  full_source_not_read_back (length_textOf (2 ^ 32 - 1))

end BacnetRs.Server
