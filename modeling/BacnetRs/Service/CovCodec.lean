/-
  BacnetRs.Service.CovCodec — a notification is read as it was written, when its
  values say what they are.

  The decoder takes every value for an application-tagged one, whatever the
  property.  What is written of a constructed value is never read as that
  value, so what is read back is a notification of self-describing values.

    * `decodeEntry_encode`       — an entry of such values is read back, and
    * `selfDescribing_of_decodeEntry` — only one of such values is.
    * `CovNotification.decode_encode_iff` — and so is a notification.
-/
import BacnetRs.Property.ValueCodec
import BacnetRs.Service.CovNotification

namespace BacnetRs.Service

open BacnetRs.Encoding BacnetRs.Object BacnetRs.Property Checked Octets

/-! ## §1. Values -/

section Values

variable {rest : Bytes}

/-- **Self-describing values are read back up to the closing tag.** -/
theorem decodeValues_encodeValues : ∀ {values : List PropertyValue} {encoded : Bytes} {fuel : Nat},
    (∀ value ∈ values, selfDescribing value = true) → encodeValues values = .ok encoded →
    encoded.length < fuel →
      decodeValues fuel (encoded ++ (encodeClosingTag 2 ++ rest)) = .ok (values, rest)
  | _, _, 0, _, _, hfuel => absurd hfuel (Nat.not_lt_zero _)
  | [], encoded, fuel + 1, _, h, _ => by
      cases h
      have hdrop : (dropFrom (encodeClosingTag 2 ++ rest) 1 : Decoded Bytes) = .ok rest := rfl
      unfold decodeValues
      rw [List.nil_append, if_pos isClosingTag_closing, hdrop]
      rfl
  | value :: values, encoded, fuel + 1, hvalues, h, hfuel => by
      obtain ⟨octets, more, hoctets, hmore, rfl⟩ := encodeValues_cons h
      obtain ⟨hvalue, hothers⟩ := List.forall_mem_cons.mp hvalues
      rw [List.append_assoc]
      have hread : decodePropertyValue (octets ++ (more ++ (encodeClosingTag 2 ++ rest)))
          = .ok (value, octets.length) := (decodePropertyValue_encoded_iff hoctets).mpr ⟨hvalue, rfl⟩
      have htakes : 1 ≤ octets.length := ((decodePropertyValue_takes _).2 _ hread).1
      have hfewer : more.length < fuel := by
        rw [List.length_append] at hfuel
        omega
      have hleft := (left_zero (octets ++ (more ++ (encodeClosingTag 2 ++ rest)))).next
      rw [Nat.zero_add] at hleft
      unfold decodeValues
      rw [if_neg (by rw [isClosingTag_of_value hread]; decide)]
      simp only [hread, ok_bind, hleft.dropFrom, decodeValues_encodeValues hothers hmore hfewer]
      rfl

/-- **And only self-describing ones.** -/
theorem selfDescribing_of_decodeValues :
    ∀ {values : List PropertyValue} {encoded left : Bytes} {fuel : Nat},
    encodeValues values = .ok encoded →
    decodeValues fuel (encoded ++ (encodeClosingTag 2 ++ rest)) = .ok (values, left) →
      ∀ value ∈ values, selfDescribing value = true
  | [], _, _, _, _, _ => fun _ h => absurd h List.not_mem_nil
  | _ :: _, _, _, 0, _, hread => by cases hread
  | value :: values, encoded, left, fuel + 1, h, hread => by
      obtain ⟨octets, more, hoctets, hmore, rfl⟩ := encodeValues_cons h
      rw [List.append_assoc] at hread
      unfold decodeValues at hread
      split at hread
      · -- The closing tag would have ended the values before this one.
        simp only [bind_eq_ok, pure_eq_ok] at hread
        obtain ⟨_, _, hsame⟩ := hread
        cases hsame
      · simp only [bind_eq_ok, pure_eq_ok, Prod.exists] at hread
        obtain ⟨first, consumed, hfirst, after, hafter, others, left', hothers, hsame⟩ := hread
        cases hsame
        obtain ⟨hvalue, rfl⟩ := (decodePropertyValue_encoded_iff hoctets).mp hfirst
        have hleft := (left_zero (octets ++ (more ++ (encodeClosingTag 2 ++ rest)))).next
        rw [Nat.zero_add] at hleft
        rw [hleft.dropFrom] at hafter
        cases hafter
        exact List.forall_mem_cons.mpr ⟨hvalue, selfDescribing_of_decodeValues hmore hothers⟩

end Values

/-! ## §2. Entries -/

/-- An optional field is read back before anything that is not it. -/
theorem decodeOptionalUnsigned_encode (value : Option UInt32) (tag : UInt8) {rest : Bytes}
    (hrest : isContextTag rest tag = false) :
    decodeOptionalUnsigned (encodeOptionalUnsigned value tag ++ rest) tag = .ok (value, rest) := by
  unfold decodeOptionalUnsigned
  cases value with
  | none =>
      simp only [encodeOptionalUnsigned, List.nil_append, hrest, Bool.false_eq_true, if_false]
      rfl
  | some value =>
      have hread : decodeContextUnsigned (encodeContextUnsigned value tag ++ rest) tag
          = .ok (value, (encodeContextUnsigned value tag).length) :=
        reads_contextUnsigned value tag rest
      have hleft := (left_zero (encodeContextUnsigned value tag ++ rest)).next
      rw [Nat.zero_add] at hleft
      have hpresent : isContextTag (encodeContextUnsigned value tag ++ rest) tag = true := by
        rw [isContextTag_contextUnsigned]
        exact beq_self_eq_true tag
      simp only [encodeOptionalUnsigned, hpresent, if_true, hread, ok_bind, hleft.dropFrom]
      rfl

section Entry

variable {entry : CovPropertyValue} {encoded rest : Bytes}

/-- Up to its values an entry is read back, whatever they are. -/
theorem decodeEntry_front (rest : Bytes) (h : entry.encode = .ok encoded) :
    ∃ octets fuel, encodeValues entry.values = .ok octets ∧ octets.length < fuel
      ∧ decodeEntry (encoded ++ rest) = do
        let (values, rest) ← decodeValues fuel
          (octets ++ (encodeClosingTag 2 ++ (encodeOptionalUnsigned entry.priority 3 ++ rest)))
        let (priority, rest) ← decodeOptionalUnsigned rest 3
        return (⟨entry.propertyIdentifier, entry.propertyArrayIndex, values, priority⟩, rest) := by
  simp only [CovPropertyValue.encode, bind_eq_ok, pure_eq_ok] at h
  obtain ⟨octets, hoctets, rfl⟩ := h
  refine ⟨octets, (octets ++ (encodeClosingTag 2
    ++ (encodeOptionalUnsigned entry.priority 3 ++ rest))).length + 1, hoctets, ?_, ?_⟩
  · rw [List.length_append]
    omega
  · obtain ⟨⟨property⟩, arrayIndex, values, priority⟩ := entry
    simp only [List.append_assoc, encodeContextEnumerated]
    have hproperty := reads_contextUnsigned property 0 (encodeOptionalUnsigned arrayIndex 1
      ++ (encodeOpeningTag 2 ++ (octets ++ (encodeClosingTag 2
        ++ (encodeOptionalUnsigned priority 3 ++ rest)))))
    have h₁ := (left_zero (encodeContextUnsigned property 0 ++ (encodeOptionalUnsigned arrayIndex 1
      ++ (encodeOpeningTag 2 ++ (octets ++ (encodeClosingTag 2
        ++ (encodeOptionalUnsigned priority 3 ++ rest))))))).next
    rw [Nat.zero_add] at h₁
    have hopened : (dropFrom (encodeOpeningTag 2 ++ (octets ++ (encodeClosingTag 2
        ++ (encodeOptionalUnsigned priority 3 ++ rest)))) 1 : Decoded Bytes)
          = .ok (octets ++ (encodeClosingTag 2 ++ (encodeOptionalUnsigned priority 3 ++ rest))) :=
      rfl
    unfold decodeEntry
    simp only [hproperty, ok_bind, h₁.dropFrom,
      decodeOptionalUnsigned_encode arrayIndex 1 isContextTag_opening, isOpeningTag_opening,
      Bool.not_true, Bool.false_eq_true, if_false, hopened]

theorem decodeEntry_encode (hvalues : ∀ value ∈ entry.values, selfDescribing value = true)
    (h : entry.encode = .ok encoded) (hrest : isContextTag rest 3 = false) :
    decodeEntry (encoded ++ rest) = .ok (entry, rest) := by
  obtain ⟨octets, fuel, hoctets, hfuel, heq⟩ := decodeEntry_front rest h
  rw [heq, decodeValues_encodeValues hvalues hoctets hfuel]
  simp only [ok_bind, decodeOptionalUnsigned_encode entry.priority 3 hrest]
  rfl

theorem selfDescribing_of_decodeEntry {left : Bytes} (h : entry.encode = .ok encoded)
    (hread : decodeEntry (encoded ++ rest) = .ok (entry, left)) :
    ∀ value ∈ entry.values, selfDescribing value = true := by
  obtain ⟨octets, fuel, hoctets, _, heq⟩ := decodeEntry_front rest h
  rw [heq] at hread
  simp only [bind_eq_ok, pure_eq_ok, Prod.exists] at hread
  obtain ⟨values, after, hvalues, priority, left', _, hsame⟩ := hread
  have hentry : values = entry.values :=
    congrArg (fun found => found.1.values) hsame
  rw [hentry] at hvalues
  exact selfDescribing_of_decodeValues hoctets hvalues

end Entry

/-- An entry starts with the tag of its property. -/
theorem encode_entry_head {entry : CovPropertyValue} {encoded : Bytes}
    (h : entry.encode = .ok encoded) :
    ∃ after, encoded = encodeContextUnsigned entry.propertyIdentifier.value 0 ++ after := by
  simp only [CovPropertyValue.encode, bind_eq_ok, pure_eq_ok] at h
  obtain ⟨octets, _, rfl⟩ := h
  simp only [List.append_assoc]
  exact ⟨_, rfl⟩

theorem encodeEntries_cons {entry : CovPropertyValue} {entries : List CovPropertyValue}
    {encoded : Bytes} (h : encodeEntries (entry :: entries) = .ok encoded) :
    ∃ octets more, entry.encode = .ok octets ∧ encodeEntries entries = .ok more
      ∧ encoded = octets ++ more := by
  simp only [encodeEntries, bind_eq_ok, pure_eq_ok] at h
  obtain ⟨octets, hoctets, more, hmore, rfl⟩ := h
  exact ⟨octets, more, hoctets, hmore, rfl⟩

/-- Neither the next entry nor the end of the list is a priority. -/
theorem encodeEntries_no_priority {entries : List CovPropertyValue} {encoded rest : Bytes}
    (h : encodeEntries entries = .ok encoded) :
    isContextTag (encoded ++ (encodeClosingTag 4 ++ rest)) 3 = false := by
  cases entries with
  | nil =>
      cases h
      rw [List.nil_append]
      exact isContextTag_closing
  | cons entry entries =>
      obtain ⟨octets, more, hoctets, _, rfl⟩ := encodeEntries_cons h
      obtain ⟨after, rfl⟩ := encode_entry_head hoctets
      rw [List.append_assoc, List.append_assoc, isContextTag_contextUnsigned]
      rfl

theorem decodeEntries_encodeEntries :
    ∀ {entries : List CovPropertyValue} {encoded rest : Bytes} {fuel : Nat},
    (∀ entry ∈ entries, ∀ value ∈ entry.values, selfDescribing value = true) →
    encodeEntries entries = .ok encoded → encoded.length < fuel →
      decodeEntries fuel (encoded ++ (encodeClosingTag 4 ++ rest)) = .ok entries
  | _, _, _, 0, _, _, hfuel => absurd hfuel (Nat.not_lt_zero _)
  | [], encoded, _, fuel + 1, _, h, _ => by
      cases h
      unfold decodeEntries
      rw [List.nil_append, if_pos isClosingTag_closing]
      rfl
  | entry :: entries, encoded, rest, fuel + 1, hvalues, h, hfuel => by
      obtain ⟨octets, more, hoctets, hmore, rfl⟩ := encodeEntries_cons h
      obtain ⟨hentry, hothers⟩ := List.forall_mem_cons.mp hvalues
      rw [List.append_assoc]
      have hread : decodeEntry (octets ++ (more ++ (encodeClosingTag 4 ++ rest)))
          = .ok (entry, more ++ (encodeClosingTag 4 ++ rest)) :=
        decodeEntry_encode hentry hoctets (encodeEntries_no_priority hmore)
      have hfewer : more.length < fuel := by
        have hshorter := decodeEntry_shortens _ _ hread
        unfold Shortens at hshorter
        simp only [List.length_append] at hshorter hfuel
        omega
      have hgo : isClosingTag (octets ++ (more ++ (encodeClosingTag 4 ++ rest))) 4 = false := by
        obtain ⟨after, rfl⟩ := encode_entry_head hoctets
        rw [List.append_assoc, isClosingTag_contextUnsigned]
      unfold decodeEntries
      rw [if_neg (by rw [hgo]; decide)]
      simp only [hread, ok_bind, decodeEntries_encodeEntries hothers hmore hfewer]
      rfl

theorem selfDescribing_of_decodeEntries :
    ∀ {entries : List CovPropertyValue} {encoded rest : Bytes} {fuel : Nat},
    encodeEntries entries = .ok encoded →
    decodeEntries fuel (encoded ++ (encodeClosingTag 4 ++ rest)) = .ok entries →
      ∀ entry ∈ entries, ∀ value ∈ entry.values, selfDescribing value = true
  | [], _, _, _, _, _ => fun _ h => absurd h List.not_mem_nil
  | _ :: _, _, _, 0, _, hread => by cases hread
  | entry :: entries, encoded, rest, fuel + 1, h, hread => by
      obtain ⟨octets, more, hoctets, hmore, rfl⟩ := encodeEntries_cons h
      rw [List.append_assoc] at hread
      unfold decodeEntries at hread
      split at hread
      · cases hread
      · simp only [bind_eq_ok, pure_eq_ok, Prod.exists] at hread
        obtain ⟨first, left, hfirst, others, hothers, hsame⟩ := hread
        cases hsame
        have hentry := selfDescribing_of_decodeEntry hoctets hfirst
        -- So the first entry ends where it was written to end.
        rw [decodeEntry_encode hentry hoctets (encodeEntries_no_priority hmore)] at hfirst
        cases hfirst
        exact List.forall_mem_cons.mpr ⟨hentry, selfDescribing_of_decodeEntries hmore hothers⟩

/-! ## §3. Notifications -/

namespace CovNotification

variable {notification : CovNotification} {encoded : Bytes}

/-- Up to its list of values a notification is read back, whatever they are. -/
theorem decode_front (h : notification.encode = .ok encoded) :
    ∃ octets fuel, encodeEntries notification.listOfValues = .ok octets ∧ octets.length < fuel
      ∧ CovNotification.decode encoded = do
        let listOfValues ← decodeEntries fuel (octets ++ (encodeClosingTag 4 ++ []))
        return { notification with listOfValues := listOfValues } := by
  obtain ⟨process, initiating, monitored, time, entries⟩ := notification
  simp only [CovNotification.encode, bind_eq_ok, pure_eq_ok] at h
  obtain ⟨device, hdevice, object, hobject, octets, hoctets, rfl⟩ := h
  refine ⟨octets, (octets ++ (encodeClosingTag 4 ++ [])).length + 1, hoctets, ?_, ?_⟩
  · rw [List.length_append]
    omega
  · rw [← List.append_nil (_ ++ encodeClosingTag 4)]
    simp only [List.append_assoc]
    have hprocess : ∀ rest, decodeContextUnsigned (encodeContextUnsigned process 0 ++ rest) 0
        = .ok (process, (encodeContextUnsigned process 0).length) := reads_contextUnsigned process 0
    have hinitiating : ∀ rest, decodeContextObjectId (device ++ rest) 1
        = .ok (initiating, device.length) := reads_contextObjectId hdevice
    have hmonitored : ∀ rest, decodeContextObjectId (object ++ rest) 2
        = .ok (monitored, object.length) := reads_contextObjectId hobject
    have htime : ∀ rest, decodeContextUnsigned (encodeContextUnsigned time 3 ++ rest) 3
        = .ok (time, (encodeContextUnsigned time 3).length) := reads_contextUnsigned time 3
    have hdropped : ∀ front rest : Bytes,
        (dropFrom (front ++ rest) front.length : Decoded Bytes) = .ok rest := by
      intro front rest
      exact dropFrom_eq_ok.mpr ⟨by simp, by simp⟩
    have hopened : (dropFrom (encodeOpeningTag 4 ++ (octets ++ (encodeClosingTag 4 ++ []))) 1
        : Decoded Bytes) = .ok (octets ++ (encodeClosingTag 4 ++ [])) := rfl
    unfold CovNotification.decode
    simp only [hprocess, hinitiating, hmonitored, htime, hdropped, ok_bind, isOpeningTag_opening,
      Bool.not_true, Bool.false_eq_true, if_false, hopened]

/-- **A notification is read back exactly when all its values describe themselves.** -/
theorem decode_encode_iff (h : notification.encode = .ok encoded) :
    CovNotification.decode encoded = .ok notification
      ↔ ∀ entry ∈ notification.listOfValues, ∀ value ∈ entry.values,
        selfDescribing value = true := by
  obtain ⟨octets, fuel, hoctets, hfuel, heq⟩ := decode_front h
  rw [heq]
  constructor
  · intro hread
    simp only [bind_eq_ok, pure_eq_ok] at hread
    obtain ⟨entries, hentries, hsame⟩ := hread
    have hlist : entries = notification.listOfValues := congrArg CovNotification.listOfValues hsame
    rw [hlist] at hentries
    exact selfDescribing_of_decodeEntries hoctets hentries
  · intro hvalues
    rw [decodeEntries_encodeEntries hvalues hoctets hfuel]
    rfl

end CovNotification

/-! ## §4. Collections -/

/-- An entry without the collections around its values. -/
def CovPropertyValue.flattened (entry : CovPropertyValue) : CovPropertyValue :=
  { entry with values := flattenAll entry.values }

/-- A notification without the collections around its values. -/
def CovNotification.flattened (notification : CovNotification) : CovNotification :=
  { notification with listOfValues := notification.listOfValues.map CovPropertyValue.flattened }

theorem CovPropertyValue.encode_flattened (entry : CovPropertyValue) :
    entry.flattened.encode = entry.encode := by
  unfold CovPropertyValue.encode CovPropertyValue.flattened
  rw [encodeValues_flattenAll]

theorem encodeEntries_flattened : ∀ entries : List CovPropertyValue,
    encodeEntries (entries.map CovPropertyValue.flattened) = encodeEntries entries
  | [] => rfl
  | entry :: entries => by
      rw [List.map_cons, encodeEntries, encodeEntries, CovPropertyValue.encode_flattened,
        encodeEntries_flattened entries]

theorem CovNotification.encode_flattened (notification : CovNotification) :
    notification.flattened.encode = notification.encode := by
  unfold CovNotification.encode CovNotification.flattened
  rw [encodeEntries_flattened]

/-! ## §5. Which notifications are encoded -/

theorem CovPropertyValue.encode_isOk (entry : CovPropertyValue) :
    entry.encode.isOk = allEncodable entry.values :=
  (isOk_bind_pure (fun _ => rfl)).trans (encodeValues_isOk entry.values)

theorem encodeEntries_isOk : ∀ entries : List CovPropertyValue,
    (encodeEntries entries).isOk = entries.all (fun entry => allEncodable entry.values)
  | [] => rfl
  | entry :: entries => by
      rw [List.all_cons, ← CovPropertyValue.encode_isOk, ← encodeEntries_isOk entries]
      exact isOk_bind (fun _ => isOk_bind_pure (fun _ => rfl))

/-- **A notification is encoded exactly when its identifiers and its values are encodable.** -/
theorem CovNotification.encode_isOk (notification : CovNotification) :
    notification.encode.isOk
      = (notification.initiatingDevice.fits && (notification.monitoredObject.fits
        && notification.listOfValues.all (fun entry => allEncodable entry.values))) := by
  rw [← encodeContextObjectId_isOk _ 1, ← encodeContextObjectId_isOk _ 2, ← encodeEntries_isOk]
  exact isOk_bind (fun _ => isOk_bind (fun _ => isOk_bind_pure (fun _ => rfl)))

end BacnetRs.Service
