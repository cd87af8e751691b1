/-
  BacnetRs.Server.Announcing — can the client of this stack read what a tick
  announces?

  A subscription may watch any property that can be read, and the engine
  announces what it reads.  The decoder knows no datatypes: it takes each value
  for an application-tagged one.  A Date_List or an Event_Time_Stamps is
  announced and encoded, and is not what the client makes of it.

    * `announced_readable_iff` — the client reads every notification of a run
                                 exactly when what is read for them says what
                                 it is.
    * `dateList_unreadable`    — a subscription to a Date_List.
-/
import BacnetRs.Object.Store
import BacnetRs.Server.Reporting
import BacnetRs.Service.CovCodec

namespace BacnetRs.Server

open BacnetRs.Encoding BacnetRs.Object BacnetRs.Property BacnetRs.Service BacnetRs.Network BacnetRs.Cov

namespace Reporting

/-! ## §1. What is read for a subscription -/

/-- The device, the object and every value read for a subscription have an encoding. -/
def Encodable (reporting : Reporting) (subscription : Subscription) : Prop :=
  reporting.engine.device.fits = true ∧ subscription.key.monitoredObject.fits = true
    ∧ ∀ read ∈ observed reporting.database subscription, encodable read.2 = true

/-- What is read for a subscription says what it is, collections aside. -/
def DescribesItself (reporting : Reporting) (subscription : Subscription) : Prop :=
  ∀ read ∈ observed reporting.database subscription, ∀ value ∈ flatten read.2,
    selfDescribing value = true

/-- At a tick, what is read for every subscription that is worth sending to, and can be encoded,
says what it is. -/
def ReadsSelfDescribing (reporting : Reporting) : Event → Prop
  | .tick now =>
      ∀ key subscription, (reporting.subscriptions.advanceTo now).held key = some subscription →
        reporting.engine.worthSending reporting.database subscription = true →
        reporting.Encodable subscription → reporting.DescribesItself subscription
  | .subscribeCov _ _ => True
  | .subscribeCovProperty _ _ => True
  | .write _ => True

/-- Every notification of a tick that has an encoding is read from it by the client: the same
identifiers and time, and the same properties with the same values, collections flattened. -/
def ClientReads (reporting : Reporting) : Event → Prop
  | .tick now =>
      ∀ sent ∈ (reporting.ticked now).notifications, ∀ encoded,
        sent.notification.encode = .ok encoded →
          CovNotification.decode encoded = .ok sent.notification.flattened
  | .subscribeCov _ _ => True
  | .subscribeCovProperty _ _ => True
  | .write _ => True

/-! ## §2. One tick -/

theorem mem_notifications_iff {reporting : Reporting} {now : Nat}
    {sent : AddressedCovNotification} :
    sent ∈ (reporting.ticked now).notifications
      ↔ ∃ key subscription, (reporting.subscriptions.advanceTo now).held key = some subscription
        ∧ reporting.engine.worthSending reporting.database subscription = true
        ∧ sent = reporting.engine.announcement reporting.database now subscription := by
  unfold Ticked.notifications
  rw [List.mem_map]
  constructor
  · rintro ⟨⟨key, notification⟩, hmem, rfl⟩
    exact ⟨key, (CovEngine.sent_iff _ _ _ _).mp hmem⟩
  · rintro ⟨key, hsubscription⟩
    exact ⟨(key, sent), (CovEngine.sent_iff _ _ _ _).mpr hsubscription, rfl⟩

/-- An announcement has an encoding exactly when all it is made of has. -/
theorem encodable_iff (reporting : Reporting) (now : Nat) (subscription : Subscription) :
    (∃ encoded, (reporting.engine.announcement reporting.database now
        subscription).notification.encode = .ok encoded) ↔ reporting.Encodable subscription := by
  rw [← isOk_iff, CovNotification.encode_isOk]
  unfold Encodable CovEngine.announcement
  simp [CovPropertyValue.new, allEncodable]

/-- The client reads an announcement exactly when what was read for it says what it is. -/
theorem decode_announcement_iff {reporting : Reporting} {now : Nat} {subscription : Subscription}
    {encoded : Bytes}
    (h : (reporting.engine.announcement reporting.database now subscription).notification.encode
      = .ok encoded) :
    CovNotification.decode encoded = .ok (reporting.engine.announcement reporting.database now
        subscription).notification.flattened
      ↔ reporting.DescribesItself subscription := by
  rw [← CovNotification.encode_flattened] at h
  rw [CovNotification.decode_encode_iff h]
  unfold DescribesItself CovEngine.announcement CovNotification.flattened
  simp only [List.map_map, List.forall_mem_map, Function.comp, CovPropertyValue.new,
    CovPropertyValue.flattened, flattenAll, List.append_nil]

theorem readsSelfDescribing_iff (reporting : Reporting) (event : Event) :
    reporting.ReadsSelfDescribing event ↔ reporting.ClientReads event := by
  cases event with
  | subscribeCov request source => exact Iff.rfl
  | subscribeCovProperty request source => exact Iff.rfl
  | write database => exact Iff.rfl
  | tick now =>
      constructor
      · intro hreads sent hsent encoded hencoded
        obtain ⟨key, subscription, hheld, hworth, rfl⟩ := mem_notifications_iff.mp hsent
        have hencodable := (encodable_iff reporting now subscription).mp ⟨encoded, hencoded⟩
        exact (decode_announcement_iff hencoded).mpr (hreads key subscription hheld hworth hencodable)
      · intro hclient key subscription hheld hworth hencodable
        obtain ⟨encoded, hencoded⟩ := (encodable_iff reporting now subscription).mpr hencodable
        exact (decode_announcement_iff hencoded).mp (hclient _
          (mem_notifications_iff.mpr ⟨key, subscription, hheld, hworth, rfl⟩) encoded hencoded)

/-! ## §3. Every run -/

/-- **The client reads every notification of a run exactly when what is read for them says what
it is.**  Whatever is subscribed, cancelled and written, and whenever the ticks come. -/
theorem announced_readable_iff (database : DatabaseView) (limits : CovLimits)
    (events : List Event) :
    Machine.Throughout step ReadsSelfDescribing (start database limits) events
      ↔ Machine.Throughout step ClientReads (start database limits) events :=
  Machine.throughout_iff (P := fun _ => True)
    (fun reporting event _ => readsSelfDescribing_iff reporting event)
    (fun _ _ _ _ _ _ => trivial) trivial

/-! ## §4. A Date_List -/

/-- A device with a calendar that has an entry for one day. -/
def oneHoliday : ObjectDatabase :=
  ((ObjectDatabase.new (.new 1234 "Test device")).addObject
    ⟨.calendar, ⟨⟨.calendar, 1⟩, "Holidays", "", [.date (2024, 12, 25, 3)], false, none⟩⟩).1

/-- A request to be told of its Date_List. -/
def watchesDateList : Event :=
  .subscribeCovProperty ⟨1, ⟨.calendar, 1⟩, some false, none, ⟨.dateList, none⟩, none⟩
    (some (.v4 0 47808))

/-- **A Date_List is announced as what the client does not read.**  Its entry is written with
context tag 0, where the client looks for an application tag. -/
theorem dateList_unreadable :
    ∃ reporting, Machine.run step (start oneHoliday.view ⟨none, none⟩) [watchesDateList]
        = some reporting
      ∧ ¬ reporting.ClientReads (.tick 0) := by
  have hrun : (Machine.run step (start oneHoliday.view ⟨none, none⟩) [watchesDateList]).map
      (fun reporting => (reporting.ticked 0).notifications.map (fun sent =>
        sent.notification.encode.toOption.map (fun encoded =>
          (CovNotification.decode encoded).isOk)))
      = some [some false] := by
    decide +kernel
  obtain ⟨reporting, hreached, hone⟩ := Option.map_eq_some_iff.mp hrun
  refine ⟨reporting, hreached, fun hclient => ?_⟩
  obtain ⟨sent, hsent, hread⟩ := List.map_eq_singleton_iff.mp hone
  obtain ⟨encoded, hencoded, hrefused⟩ := Option.map_eq_some_iff.mp hread
  have hok : sent.notification.encode = .ok encoded := by
    cases hencode : sent.notification.encode with
    | error e => rw [hencode] at hencoded; cases hencoded
    | ok octets => rw [hencode] at hencoded; cases hencoded; rfl
  rw [hclient sent (by rw [hsent]; exact List.mem_singleton.mpr rfl) encoded hok] at hrefused
  cases hrefused

end Reporting

end BacnetRs.Server
