/-
  BacnetRs.Service.CovNotification — the change-of-value notification
  (`service/cov_notification.rs`).

  The confirmed and the unconfirmed form share one parameter list.  Its list
  of values has no count: it runs until the closing tag, and so does each
  entry's list, which makes the decoder two nested loops.  They are structural
  on a fuel the length of what is left to read, and more fuel never changes
  the result (`decodeValues_succ`, `decodeEntries_succ`), since every round
  consumes at least one octet.
-/
import BacnetRs.Property.Encode
import BacnetRs.Service.Choice

namespace BacnetRs.Service

open BacnetRs.Encoding BacnetRs.Object BacnetRs.Property

/-- One entry of a notification's list of values. -/
structure CovPropertyValue where
  propertyIdentifier : PropertyIdentifier
  propertyArrayIndex : Option UInt32
  values : List PropertyValue
  priority : Option UInt32

/-- `CovPropertyValue::new`: a single-valued entry. -/
def CovPropertyValue.new (property : PropertyIdentifier) (value : PropertyValue) :
    CovPropertyValue :=
  ⟨property, none, [value], none⟩

/-- A change-of-value notification. -/
structure CovNotification where
  subscriberProcessIdentifier : UInt32
  initiatingDevice : ObjectIdentifier
  monitoredObject : ObjectIdentifier
  /-- Seconds left on the subscription; 0 means it does not expire. -/
  timeRemaining : UInt32
  listOfValues : List CovPropertyValue

/-- A notification carries `value` for `property`, as the only value of an entry. -/
def CovNotification.Carries (notification : CovNotification) (property : PropertyIdentifier)
    (value : PropertyValue) : Prop :=
  CovPropertyValue.new property value ∈ notification.listOfValues

/-! ## §1. Encoding -/

/-- `CovPropertyValue::encode`. -/
def CovPropertyValue.encode (self : CovPropertyValue) : Except EncodingError Bytes := do
  let values ← encodeValues self.values
  return encodeContextEnumerated self.propertyIdentifier.value 0
    ++ encodeOptionalUnsigned self.propertyArrayIndex 1
    ++ encodeOpeningTag 2 ++ values ++ encodeClosingTag 2
    ++ encodeOptionalUnsigned self.priority 3

/-- The entries of a notification, one after another. -/
def encodeEntries : List CovPropertyValue → Except EncodingError Bytes
  | [] => .ok []
  | entry :: rest => do
      let octets ← entry.encode
      let more ← encodeEntries rest
      return octets ++ more

/-- `CovNotification::encode`: what the confirmed and the unconfirmed form share. -/
def CovNotification.encode (self : CovNotification) : Except EncodingError Bytes := do
  let device ← encodeContextObjectId self.initiatingDevice 1
  let object ← encodeContextObjectId self.monitoredObject 2
  let listOfValues ← encodeEntries self.listOfValues
  return encodeContextUnsigned self.subscriberProcessIdentifier 0 ++ device ++ object
    ++ encodeContextUnsigned self.timeRemaining 3
    ++ encodeOpeningTag 4 ++ listOfValues ++ encodeClosingTag 4

/-! ## §2. Decoding -/

/-- The application-tagged values up to closing tag 2, and what follows it. -/
def decodeValues : Nat → Bytes → Decoded (List PropertyValue × Bytes)
  | 0, _ => Checked.fail .unexpectedEndOfData
  | fuel + 1, rest =>
      if isClosingTag rest 2 then do
        let rest ← Octets.dropFrom rest 1
        return ([], rest)
      else do
        let (value, consumed) ← decodePropertyValue rest
        let rest ← Octets.dropFrom rest consumed
        let (values, rest) ← decodeValues fuel rest
        return (value :: values, rest)

/-- An optional context-tagged unsigned field, and what follows it. -/
def decodeOptionalUnsigned (rest : Bytes) (tag : UInt8) : Decoded (Option UInt32 × Bytes) :=
  if isContextTag rest tag then do
    let (value, consumed) ← decodeContextUnsigned rest tag
    let rest ← Octets.dropFrom rest consumed
    return (some value, rest)
  else return (none, rest)

/-- One `BACnetPropertyValue`, and what follows it. -/
def decodeEntry (rest : Bytes) : Decoded (CovPropertyValue × Bytes) := do
  let (property, consumed) ← decodeContextUnsigned rest 0
  let rest ← Octets.dropFrom rest consumed
  let (arrayIndex, rest) ← decodeOptionalUnsigned rest 1
  if !isOpeningTag rest 2 then Checked.fail .invalidTag
  let rest ← Octets.dropFrom rest 1
  let (values, rest) ← decodeValues (rest.length + 1) rest
  let (priority, rest) ← decodeOptionalUnsigned rest 3
  return (⟨⟨property⟩, arrayIndex, values, priority⟩, rest)

/-- The entries up to closing tag 4. -/
def decodeEntries : Nat → Bytes → Decoded (List CovPropertyValue)
  | 0, _ => Checked.fail .unexpectedEndOfData
  | fuel + 1, rest =>
      if isClosingTag rest 4 then return []
      else do
        let (entry, rest) ← decodeEntry rest
        let entries ← decodeEntries fuel rest
        return entry :: entries

/-- `CovNotification::decode`: either notification form. -/
def CovNotification.decode (data : Bytes) : Decoded CovNotification := do
  let (subscriberProcessIdentifier, consumed) ← decodeContextUnsigned data 0
  let rest ← Octets.dropFrom data consumed
  let (initiatingDevice, consumed) ← decodeContextObjectId rest 1
  let rest ← Octets.dropFrom rest consumed
  let (monitoredObject, consumed) ← decodeContextObjectId rest 2
  let rest ← Octets.dropFrom rest consumed
  let (timeRemaining, consumed) ← decodeContextUnsigned rest 3
  let rest ← Octets.dropFrom rest consumed
  if !isOpeningTag rest 4 then Checked.fail .invalidTag
  let rest ← Octets.dropFrom rest 1
  let listOfValues ← decodeEntries (rest.length + 1) rest
  return ⟨subscriberProcessIdentifier, initiatingDevice, monitoredObject, timeRemaining,
    listOfValues⟩

/-! ## §3. Enough fuel -/

/-- What is left is shorter than `data`. -/
def Shortens {α : Type} (data : Bytes) (decoded : α × Bytes) : Prop :=
  decoded.2.length < data.length

/-- What is left is no longer than `data`. -/
def KeepsWithin {α : Type} (data : Bytes) (decoded : α × Bytes) : Prop :=
  decoded.2.length ≤ data.length

theorem decodeValues_keepsWithin :
    ∀ (fuel : Nat) (rest : Bytes), Checked.Ensures (decodeValues fuel rest) (KeepsWithin rest)
  | 0, _ => Checked.ensures_fail _
  | fuel + 1, rest => by
      unfold decodeValues
      split
      · refine (Octets.dropFrom_ensures rest 1).bind (fun left hleft => Checked.ensures_ok ?_)
        show left.length ≤ rest.length
        omega
      · refine Checked.ensures_bind ?_
        rintro ⟨value, consumed⟩
        refine (Octets.dropFrom_ensures rest consumed).bind (fun left hleft => ?_)
        refine (decodeValues_keepsWithin fuel left).bind ?_
        rintro ⟨values, left'⟩ hleft'
        refine Checked.ensures_ok (Nat.le_trans hleft' ?_)
        show left.length ≤ rest.length
        omega

theorem decodeOptionalUnsigned_keepsWithin (rest : Bytes) (tag : UInt8) :
    Checked.Ensures (decodeOptionalUnsigned rest tag) (KeepsWithin rest) := by
  unfold decodeOptionalUnsigned
  split
  · refine Checked.ensures_bind ?_
    rintro ⟨value, consumed⟩
    refine (Octets.dropFrom_ensures rest consumed).bind (fun left hleft => Checked.ensures_ok ?_)
    show left.length ≤ rest.length
    omega
  · exact Checked.ensures_ok (Nat.le_refl _)

/-- An entry takes at least the octet of its first tag. -/
theorem decodeEntry_shortens (rest : Bytes) :
    Checked.Ensures (decodeEntry rest) (Shortens rest) := by
  unfold decodeEntry
  refine (movesOn_of_takes (decodeContextUnsigned_takes rest 0)).bind ?_
  rintro ⟨property, consumed⟩ (hconsumed : 1 ≤ consumed)
  refine (Octets.dropFrom_ensures rest consumed).bind (fun afterProperty hproperty => ?_)
  refine (decodeOptionalUnsigned_keepsWithin afterProperty 1).bind ?_
  rintro ⟨arrayIndex, afterIndex⟩ (hindex : afterIndex.length ≤ afterProperty.length)
  refine Checked.ensures_guard ?_
  refine (Octets.dropFrom_ensures afterIndex 1).bind (fun opened hopened => ?_)
  refine (decodeValues_keepsWithin (opened.length + 1) opened).bind ?_
  rintro ⟨values, afterValues⟩ (hvalues : afterValues.length ≤ opened.length)
  refine (decodeOptionalUnsigned_keepsWithin afterValues 3).bind ?_
  rintro ⟨priority, afterPriority⟩ (hpriority : afterPriority.length ≤ afterValues.length)
  refine Checked.ensures_ok ?_
  show afterPriority.length < rest.length
  omega

/-- **More fuel never changes the values read**, once there is a unit for each octet. -/
theorem decodeValues_succ :
    ∀ {fuel : Nat} {rest : Bytes}, rest.length < fuel →
      decodeValues (fuel + 1) rest = decodeValues fuel rest
  | 0, _, h => absurd h (Nat.not_lt_zero _)
  | fuel + 1, rest, h => by
      unfold decodeValues
      split
      · rfl
      · refine bind_congr_of_ensures (movesOn_of_takes (decodePropertyValue_takes rest)) ?_
        rintro ⟨value, consumed⟩ (hconsumed : 1 ≤ consumed)
        refine bind_congr_of_ensures (Octets.dropFrom_ensures rest consumed) (fun left hleft => ?_)
        simp only
        rw [decodeValues_succ (by omega)]

/-- **More fuel never changes the entries read**, once there is a unit for each octet. -/
theorem decodeEntries_succ :
    ∀ {fuel : Nat} {rest : Bytes}, rest.length < fuel →
      decodeEntries (fuel + 1) rest = decodeEntries fuel rest
  | 0, _, h => absurd h (Nat.not_lt_zero _)
  | fuel + 1, rest, h => by
      unfold decodeEntries
      split
      · rfl
      · refine bind_congr_of_ensures (decodeEntry_shortens rest) ?_
        rintro ⟨entry, left⟩ (hleft : left.length < rest.length)
        simp only
        rw [decodeEntries_succ (by omega)]

/-! ## §4. Decoding does not panic -/

section Meets

open Checked

/-- An octet that a tag takes can be dropped. -/
theorem dropFrom_one_meets {rest : Bytes} {isTag : Bytes → UInt8 → Bool} {tag : UInt8}
    (htag : ∀ tag, isTag [] tag = false) (h : isTag rest tag = true) :
    Meets (Octets.dropFrom rest 1 : Decoded Bytes) (fun left => left.length + 1 = rest.length) := by
  apply Octets.dropFrom_meets
  cases rest with
  | nil =>
      rw [htag] at h
      cases h
  | cons _ _ => exact Nat.succ_le_succ (Nat.zero_le _)

theorem decodeValues_meets : ∀ (fuel : Nat) (rest : Bytes),
    Meets (decodeValues fuel rest) (fun _ => True)
  | 0, _ => meets_fail _
  | fuel + 1, rest => by
      unfold decodeValues
      split
      · next hclosing =>
          refine (dropFrom_one_meets (fun _ => rfl) hclosing).bind (fun left _ => ?_)
          exact meets_ok trivial
      · refine (decodePropertyValue_takes rest).bind ?_
        rintro ⟨value, consumed⟩ ⟨_, hvalue⟩
        refine (Octets.dropFrom_meets hvalue).bind (fun left _ => ?_)
        refine (decodeValues_meets fuel left).bind ?_
        rintro ⟨values, left'⟩ _
        exact meets_ok trivial

theorem decodeOptionalUnsigned_meets (rest : Bytes) (tag : UInt8) :
    Meets (decodeOptionalUnsigned rest tag) (fun _ => True) := by
  unfold decodeOptionalUnsigned
  split
  · refine (decodeContextUnsigned_takes rest tag).bind ?_
    rintro ⟨value, consumed⟩ ⟨_, hvalue⟩
    refine (Octets.dropFrom_meets hvalue).bind (fun left _ => ?_)
    exact meets_ok trivial
  · exact meets_ok trivial

theorem decodeEntry_meets (rest : Bytes) : Meets (decodeEntry rest) (fun _ => True) := by
  refine (decodeContextUnsigned_takes rest 0).bind ?_
  rintro ⟨property, consumed⟩ ⟨_, hproperty⟩
  refine (Octets.dropFrom_meets hproperty).bind (fun afterProperty _ => ?_)
  refine (decodeOptionalUnsigned_meets afterProperty 1).bind ?_
  rintro ⟨arrayIndex, afterIndex⟩ _
  refine meets_guard (fun hopening => ?_)
  refine (dropFrom_one_meets (fun _ => rfl) (by simpa using hopening)).bind (fun opened _ => ?_)
  refine (decodeValues_meets (opened.length + 1) opened).bind ?_
  rintro ⟨values, afterValues⟩ _
  refine (decodeOptionalUnsigned_meets afterValues 3).bind ?_
  rintro ⟨priority, afterPriority⟩ _
  exact meets_ok trivial

theorem decodeEntries_meets : ∀ (fuel : Nat) (rest : Bytes),
    Meets (decodeEntries fuel rest) (fun _ => True)
  | 0, _ => meets_fail _
  | fuel + 1, rest => by
      unfold decodeEntries
      split
      · exact meets_ok trivial
      · refine (decodeEntry_meets rest).bind ?_
        rintro ⟨entry, left⟩ _
        refine (decodeEntries_meets fuel left).bind (fun entries _ => ?_)
        exact meets_ok trivial

theorem CovNotification.decode_meets (data : Bytes) :
    Meets (CovNotification.decode data) (fun _ => True) := by
  refine (decodeContextUnsigned_takes data 0).bind ?_
  rintro ⟨process, consumed⟩ ⟨_, hprocess⟩
  refine (Octets.dropFrom_meets hprocess).bind (fun afterProcess _ => ?_)
  refine (decodeContextObjectId_takes afterProcess 1).bind ?_
  rintro ⟨device, consumed⟩ ⟨_, hdevice⟩
  refine (Octets.dropFrom_meets hdevice).bind (fun afterDevice _ => ?_)
  refine (decodeContextObjectId_takes afterDevice 2).bind ?_
  rintro ⟨object, consumed⟩ ⟨_, hobject⟩
  refine (Octets.dropFrom_meets hobject).bind (fun afterObject _ => ?_)
  refine (decodeContextUnsigned_takes afterObject 3).bind ?_
  rintro ⟨time, consumed⟩ ⟨_, htime⟩
  refine (Octets.dropFrom_meets htime).bind (fun afterTime _ => ?_)
  refine meets_guard (fun hopening => ?_)
  refine (dropFrom_one_meets (fun _ => rfl) (by simpa using hopening)).bind (fun opened _ => ?_)
  refine (decodeEntries_meets (opened.length + 1) opened).bind (fun values _ => ?_)
  exact meets_ok trivial

end Meets

end BacnetRs.Service
