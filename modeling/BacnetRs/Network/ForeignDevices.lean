/-
  BacnetRs.Network.ForeignDevices — foreign devices and the time they have (`network/mod.rs`).

  A device that registers is granted a time to live, and is dropped when as
  many seconds have gone by.  The table counts down what is left, in steps of
  any length.  That this comes to the same as a history of what was granted
  and what has elapsed since is the content of this file.

    * `Kept`, `kept_step`        — the table against the history.
    * `Kept.lawful_iff_positive` — the table follows the history while no entry is at zero.
    * `registrations_iff`        — in which runs it does throughout.
-/
import BacnetRs.Network.Npdu
import BacnetRs.Library.Attempt
import BacnetRs.Library.FirstMatch
import BacnetRs.Library.Machine

namespace BacnetRs.Network

open Attempt

/-! ## §1. The table -/

/-- A registered device, what it was granted and what is left of it. -/
structure ForeignDeviceTable.FdtEntry where
  address : NetworkAddress
  ttl : UInt16
  remainingTime : UInt16
  deriving Repr, DecidableEq

structure ForeignDeviceTable where
  entries : List ForeignDeviceTable.FdtEntry
  maxEntries : Nat
  deriving Repr, DecidableEq

namespace ForeignDeviceTable

def new (maxEntries : Nat) : ForeignDeviceTable := ⟨[], maxEntries⟩

/-- `is_registered`. -/
def isRegistered (table : ForeignDeviceTable) (address : NetworkAddress) : Bool :=
  table.entries.any (fun entry => entry.address == address)

/-- `register`. -/
def register (table : ForeignDeviceTable) (address : NetworkAddress) (ttl : UInt16) :
    Attempt NetworkError ForeignDeviceTable :=
  match table.entries.find? (fun entry => entry.address == address) with
  | some _ =>
      -- A renewal needs no room.
      done { table with
        entries := FirstMatch.update (fun entry => entry.address == address)
          (fun entry => { entry with ttl := ttl, remainingTime := ttl }) table.entries }
  | none =>
      if table.entries.length < table.maxEntries then
        done { table with entries := table.entries ++ [⟨address, ttl, ttl⟩] }
      else refused table (.invalidNpdu "FDT full")

/-- `delete`. -/
def delete (table : ForeignDeviceTable) (address : NetworkAddress) : ForeignDeviceTable :=
  { table with entries := table.entries.filter (fun entry => entry.address != address) }

/-- What is left of an entry's time, if anything is. -/
def FdtEntry.elapse (elapsedSeconds : UInt16) (entry : FdtEntry) : Option FdtEntry :=
  if entry.remainingTime > elapsedSeconds then
    some { entry with remainingTime := entry.remainingTime - elapsedSeconds }
  else none

/-- `update_times`. -/
def updateTimes (table : ForeignDeviceTable) (elapsedSeconds : UInt16) : ForeignDeviceTable :=
  { table with entries := table.entries.filterMap (FdtEntry.elapse elapsedSeconds) }

/-- What the table may be asked. -/
inductive Call where
  | register (address : NetworkAddress) (ttl : UInt16)
  | delete (address : NetworkAddress)
  | updateTimes (elapsedSeconds : UInt16)
  deriving DecidableEq

/-- What a call leaves, and whether it failed. -/
def call (table : ForeignDeviceTable) : Call → Attempt NetworkError ForeignDeviceTable
  | .register address ttl => table.register address ttl
  | .delete address => done (table.delete address)
  | .updateTimes elapsedSeconds => done (table.updateTimes elapsedSeconds)

theorem isRegistered_iff {table : ForeignDeviceTable} {address : NetworkAddress} :
    table.isRegistered address = true ↔ ∃ entry ∈ table.entries, entry.address = address := by
  unfold isRegistered
  rw [List.any_eq_true]
  simp only [beq_iff_eq]

/-- No two entries have one address. -/
def Unique (table : ForeignDeviceTable) : Prop :=
  (table.entries.map FdtEntry.address).Nodup

/-- An entry as a registration of `address` leaves it. -/
def FdtEntry.renew (address : NetworkAddress) (ttl : UInt16) (entry : FdtEntry) : FdtEntry :=
  if entry.address == address then { entry with ttl := ttl, remainingTime := ttl } else entry

theorem FdtEntry.renew_self {ttl : UInt16} {entry : FdtEntry} :
    entry.renew entry.address ttl = { entry with ttl := ttl, remainingTime := ttl } :=
  if_pos (beq_self_eq_true _)

theorem FdtEntry.renew_of_ne {address : NetworkAddress} {entry : FdtEntry}
    (h : entry.address ≠ address) (ttl : UInt16) : entry.renew address ttl = entry :=
  if_neg fun hmatch => h (beq_iff_eq.mp hmatch)

theorem FdtEntry.renew_address (address : NetworkAddress) (ttl : UInt16) (entry : FdtEntry) :
    (entry.renew address ttl).address = entry.address := by
  unfold renew
  split
  · rfl
  · rfl

/-- A device that is registered is granted its time anew. -/
theorem register_of_registered {table : ForeignDeviceTable} (h : table.Unique)
    {address : NetworkAddress} (hheld : table.isRegistered address = true) (ttl : UInt16) :
    table.register address ttl
      = done { table with entries := table.entries.map (FdtEntry.renew address ttl) } := by
  unfold register
  obtain ⟨entry, hmem, haddress⟩ := isRegistered_iff.mp hheld
  cases hfound : table.entries.find? (fun entry => entry.address == address) with
  | none =>
      rw [List.find?_eq_none] at hfound
      exact absurd (beq_iff_eq.mpr haddress) (hfound entry hmem)
  | some found =>
      dsimp only
      -- No other entry has the address, so that the first match is the only one.
      rw [FirstMatch.update_eq_map]
      · rfl
      refine (List.pairwise_map.mp h).imp ?_
      rintro a b hne ⟨ha, hb⟩
      exact hne ((beq_iff_eq.mp ha).trans (beq_iff_eq.mp hb).symm)

/-- A device that is not is added, if there is room. -/
theorem register_of_new {table : ForeignDeviceTable} {address : NetworkAddress}
    (hnew : table.isRegistered address = false) (ttl : UInt16) :
    table.register address ttl =
      if table.entries.length < table.maxEntries then
        done { table with entries := table.entries ++ [⟨address, ttl, ttl⟩] }
      else refused table (.invalidNpdu "FDT full") := by
  unfold register
  cases hfound : table.entries.find? (fun entry => entry.address == address) with
  | none => rfl
  | some found =>
      have hheld : table.isRegistered address = true :=
        List.any_eq_true.mpr ⟨found, List.mem_of_find?_eq_some hfound,
          List.find?_some (p := fun entry : FdtEntry => entry.address == address) hfound⟩
      rw [hnew] at hheld
      cases hheld

theorem atomic_register (table : ForeignDeviceTable) (address : NetworkAddress) (ttl : UInt16) :
    Atomic table (table.register address ttl) := by
  unfold register
  split
  · exact atomic_done _ _
  · split
    · exact atomic_done _ _
    · exact atomic_refused _ _

theorem FdtEntry.elapse_eq_some {elapsedSeconds : UInt16} {entry left : FdtEntry} :
    entry.elapse elapsedSeconds = some left ↔ entry.remainingTime > elapsedSeconds ∧
      left = { entry with remainingTime := entry.remainingTime - elapsedSeconds } := by
  unfold elapse
  split
  · rename_i hleft
    rw [Option.some.injEq, eq_comm]
    exact (and_iff_right hleft).symm
  · rename_i hgone
    exact iff_of_false (fun h => nomatch h) fun h => hgone h.1

/-- What is left and what elapsed is what there was. -/
theorem FdtEntry.elapse_remaining {elapsedSeconds : UInt16} {entry left : FdtEntry}
    (h : entry.elapse elapsedSeconds = some left) :
    left.remainingTime.toNat + elapsedSeconds.toNat = entry.remainingTime.toNat ∧
      0 < left.remainingTime.toNat := by
  obtain ⟨hleft, rfl⟩ := elapse_eq_some.mp h
  have hlt : elapsedSeconds.toNat < entry.remainingTime.toNat := UInt16.lt_iff_toNat_lt.mp hleft
  show (entry.remainingTime - elapsedSeconds).toNat + _ = _ ∧
    0 < (entry.remainingTime - elapsedSeconds).toNat
  rw [UInt16.toNat_sub_of_le _ _ (UInt16.le_iff_toNat_le.mpr (Nat.le_of_lt hlt))]
  omega

/-- Devices are dropped, never moved or doubled. -/
theorem map_elapse_sublist (elapsedSeconds : UInt16) : ∀ entries : List FdtEntry,
    List.Sublist ((entries.filterMap (FdtEntry.elapse elapsedSeconds)).map FdtEntry.address)
      (entries.map FdtEntry.address)
  | [] => .slnil
  | entry :: entries => by
      cases helapse : entry.elapse elapsedSeconds with
      | none =>
          rw [List.filterMap_cons_none helapse, List.map_cons]
          exact (map_elapse_sublist elapsedSeconds entries).cons _
      | some left =>
          obtain ⟨-, rfl⟩ := FdtEntry.elapse_eq_some.mp helapse
          rw [List.filterMap_cons_some helapse, List.map_cons, List.map_cons]
          exact (map_elapse_sublist elapsedSeconds entries).cons_cons _

/-! ## §2. The history -/

/-- A call, and whether it was accepted. -/
structure Moment where
  call : Call
  accepted : Bool
  deriving DecidableEq

/-- What `address` was granted last, and the seconds elapsed since; nothing, if it was deleted
after that or never registered.  The newest moment comes first. -/
def lastGrant (address : NetworkAddress) : List Moment → Option (Nat × Nat)
  | [] => none
  | ⟨.register other ttl, accepted⟩ :: past =>
      if other = address ∧ accepted = true then some (ttl.toNat, 0) else lastGrant address past
  | ⟨.delete other, _⟩ :: past => if other = address then none else lastGrant address past
  | ⟨.updateTimes elapsedSeconds, _⟩ :: past =>
      (lastGrant address past).map (Prod.map id (· + elapsedSeconds.toNat))

/-- Fewer seconds have elapsed than `address` was granted. -/
def TimeLeft (history : List Moment) (address : NetworkAddress) : Prop :=
  ∃ ttl elapsed, lastGrant address history = some (ttl, elapsed) ∧ elapsed < ttl

/-- The table, with what was asked of it. -/
structure Tracked where
  table : ForeignDeviceTable
  history : List Moment

namespace Tracked

def new (maxEntries : Nat) : Tracked := ⟨.new maxEntries, []⟩

def step (tracked : Tracked) (made : Call) : Option Tracked :=
  let attempt := tracked.table.call made
  some ⟨attempt.1, ⟨made, attempt.2.isOk⟩ :: tracked.history⟩

/-- Every entry counts down from what its device was granted, and a device with time left has
an entry. -/
structure Kept (maxEntries : Nat) (tracked : Tracked) : Prop where
  unique : tracked.table.Unique
  bound : tracked.table.maxEntries = maxEntries
  within : tracked.table.entries.length ≤ maxEntries
  granted : ∀ entry ∈ tracked.table.entries, ∃ elapsed,
    lastGrant entry.address tracked.history = some (entry.ttl.toNat, elapsed) ∧
      entry.remainingTime.toNat + elapsed = entry.ttl.toNat
  present : ∀ address, TimeLeft tracked.history address →
    tracked.table.isRegistered address = true

theorem new_kept (maxEntries : Nat) : (new maxEntries).Kept maxEntries where
  unique := List.nodup_nil
  bound := rfl
  within := Nat.zero_le _
  granted := by
    intro entry hmem
    cases hmem
  present := by
    rintro address ⟨ttl, elapsed, hgrant, -⟩
    cases hgrant

section Steps

variable {maxEntries : Nat} {tracked : Tracked}

/-- What was granted to the others is granted to them still. -/
theorem lastGrant_register_of_ne {address other : NetworkAddress} (h : other ≠ address)
    (ttl : UInt16) (accepted : Bool) (past : List Moment) :
    lastGrant address (⟨.register other ttl, accepted⟩ :: past) = lastGrant address past :=
  if_neg fun hsame => h hsame.1

theorem lastGrant_register_self (address : NetworkAddress) (ttl : UInt16) (past : List Moment) :
    lastGrant address (⟨.register address ttl, true⟩ :: past) = some (ttl.toNat, 0) :=
  if_pos ⟨rfl, rfl⟩

theorem step_register_held (h : tracked.table.Unique) {address : NetworkAddress}
    (hheld : tracked.table.isRegistered address = true) (ttl : UInt16) :
    tracked.step (.register address ttl) = some
      ⟨{ tracked.table with entries := tracked.table.entries.map (FdtEntry.renew address ttl) },
        ⟨.register address ttl, true⟩ :: tracked.history⟩ := by
  have hcall : tracked.table.call (.register address ttl) = _ := register_of_registered h hheld ttl
  unfold step
  rw [hcall]
  rfl

theorem step_register_room {address : NetworkAddress}
    (hnew : tracked.table.isRegistered address = false)
    (hroom : tracked.table.entries.length < tracked.table.maxEntries) (ttl : UInt16) :
    tracked.step (.register address ttl) = some
      ⟨{ tracked.table with entries := tracked.table.entries ++ [⟨address, ttl, ttl⟩] },
        ⟨.register address ttl, true⟩ :: tracked.history⟩ := by
  have hcall : tracked.table.call (.register address ttl) = _ := register_of_new hnew ttl
  unfold step
  rw [hcall, if_pos hroom]
  rfl

theorem step_register_full {address : NetworkAddress}
    (hnew : tracked.table.isRegistered address = false)
    (hfull : ¬ tracked.table.entries.length < tracked.table.maxEntries) (ttl : UInt16) :
    tracked.step (.register address ttl)
      = some ⟨tracked.table, ⟨.register address ttl, false⟩ :: tracked.history⟩ := by
  have hcall : tracked.table.call (.register address ttl) = _ := register_of_new hnew ttl
  unfold step
  rw [hcall, if_neg hfull]
  rfl

/-- A registration anew. -/
theorem Kept.renewed (h : tracked.Kept maxEntries) {address : NetworkAddress}
    (hheld : tracked.table.isRegistered address = true) (ttl : UInt16) {after : Tracked}
    (hstep : tracked.step (.register address ttl) = some after) : after.Kept maxEntries := by
  cases (step_register_held h.unique hheld ttl).symm.trans hstep
  refine ⟨?unique, h.bound, ?within, ?granted, ?present⟩
  case unique =>
    show List.Nodup (List.map FdtEntry.address (List.map _ _))
    have hkeys : FdtEntry.address ∘ FdtEntry.renew address ttl = FdtEntry.address :=
      funext (FdtEntry.renew_address address ttl)
    rw [List.map_map, hkeys]
    exact h.unique
  case within =>
    show (List.map _ _).length ≤ maxEntries
    rw [List.length_map]
    exact h.within
  case granted =>
    intro entry hmem
    obtain ⟨before, hbefore, rfl⟩ := List.mem_map.mp hmem
    rw [FdtEntry.renew_address]
    by_cases hsame : before.address = address
    · subst hsame
      rw [FdtEntry.renew_self]
      exact ⟨0, lastGrant_register_self before.address ttl tracked.history, rfl⟩
    · rw [FdtEntry.renew_of_ne hsame, lastGrant_register_of_ne (Ne.symm hsame)]
      exact h.granted before hbefore
  case present =>
    intro other hleft
    have hregistered : tracked.table.isRegistered other = true := by
      by_cases hsame : other = address
      · rw [hsame]
        exact hheld
      · unfold TimeLeft at hleft
        rw [lastGrant_register_of_ne (Ne.symm hsame)] at hleft
        exact h.present other hleft
    obtain ⟨entry, hmem, rfl⟩ := isRegistered_iff.mp hregistered
    exact isRegistered_iff.mpr
      ⟨_, List.mem_map_of_mem hmem, FdtEntry.renew_address address ttl entry⟩

/-- A first registration. -/
theorem Kept.admitted (h : tracked.Kept maxEntries) {address : NetworkAddress}
    (hnew : tracked.table.isRegistered address = false)
    (hroom : tracked.table.entries.length < tracked.table.maxEntries) (ttl : UInt16)
    {after : Tracked} (hstep : tracked.step (.register address ttl) = some after) :
    after.Kept maxEntries := by
  have hfresh : ∀ entry ∈ tracked.table.entries, entry.address ≠ address := by
    intro entry hmem hsame
    have hheld := isRegistered_iff.mpr ⟨entry, hmem, hsame⟩
    rw [hnew] at hheld
    cases hheld
  cases (step_register_room hnew hroom ttl).symm.trans hstep
  refine ⟨?unique, h.bound, ?within, ?granted, ?present⟩
  case unique =>
    show List.Nodup (List.map FdtEntry.address (_ ++ _))
    rw [List.map_append]
    refine List.nodup_append.mpr ⟨h.unique, List.pairwise_singleton _ _, ?_⟩
    intro a ha b hb
    obtain ⟨entry, hmem, rfl⟩ := List.mem_map.mp ha
    rw [List.mem_singleton.mp hb]
    exact hfresh entry hmem
  case within =>
    show (_ ++ [_]).length ≤ maxEntries
    rw [List.length_append, ← h.bound]
    exact hroom
  -- The old entries keep the time granted last; the new one has just been granted its own.
  case granted =>
    intro entry hmem
    obtain hbefore | hadded := List.mem_append.mp hmem
    · rw [lastGrant_register_of_ne (Ne.symm (hfresh entry hbefore))]
      exact h.granted entry hbefore
    · rw [List.mem_singleton.mp hadded]
      exact ⟨0, lastGrant_register_self address ttl tracked.history, rfl⟩
  case present =>
    intro other hleft
    by_cases hsame : other = address
    · rw [hsame]
      exact isRegistered_iff.mpr ⟨_, List.mem_append_right _ (List.mem_singleton_self _), rfl⟩
    · unfold TimeLeft at hleft
      rw [lastGrant_register_of_ne (Ne.symm hsame)] at hleft
      obtain ⟨entry, hmem, haddress⟩ := isRegistered_iff.mp (h.present other hleft)
      exact isRegistered_iff.mpr ⟨entry, List.mem_append_left _ hmem, haddress⟩

/-- A registration that is refused grants nothing. -/
theorem Kept.refused (h : tracked.Kept maxEntries) {address : NetworkAddress}
    (hnew : tracked.table.isRegistered address = false)
    (hfull : ¬ tracked.table.entries.length < tracked.table.maxEntries) (ttl : UInt16)
    {after : Tracked} (hstep : tracked.step (.register address ttl) = some after) :
    after.Kept maxEntries := by
  cases (step_register_full hnew hfull ttl).symm.trans hstep
  have hsame (other : NetworkAddress) :
      lastGrant other (⟨.register address ttl, false⟩ :: tracked.history)
        = lastGrant other tracked.history := if_neg fun hsame => Bool.noConfusion hsame.2
  refine ⟨h.unique, h.bound, h.within, ?granted, ?present⟩
  case granted =>
    intro entry hmem
    rw [hsame]
    exact h.granted entry hmem
  case present =>
    intro other hleft
    unfold TimeLeft at hleft
    rw [hsame] at hleft
    exact h.present other hleft

theorem Kept.deleted (h : tracked.Kept maxEntries) {address : NetworkAddress} {after : Tracked}
    (hstep : tracked.step (.delete address) = some after) : after.Kept maxEntries := by
  cases hstep
  have hother {other : NetworkAddress} (hne : other ≠ address) :
      lastGrant other (⟨.delete address, true⟩ :: tracked.history)
        = lastGrant other tracked.history := if_neg (Ne.symm hne)
  refine ⟨?unique, h.bound, ?within, ?granted, ?present⟩
  case unique => exact h.unique.sublist (List.Sublist.map FdtEntry.address List.filter_sublist)
  case within => exact Nat.le_trans (List.length_filter_le _ _) h.within
  case granted =>
    intro entry hmem
    obtain ⟨hbefore, hne⟩ := List.mem_filter.mp hmem
    show ∃ elapsed, lastGrant entry.address (⟨_, true⟩ :: _) = _ ∧ _
    rw [hother (bne_iff_ne.mp hne)]
    exact h.granted entry hbefore
  case present =>
    rintro other ⟨ttl, elapsed, hgrant, hlt⟩
    by_cases hsame : other = address
    · rw [hsame] at hgrant
      have hnone : lastGrant address (⟨.delete address, true⟩ :: tracked.history) = none :=
        if_pos rfl
      cases hnone.symm.trans hgrant
    · have hleft : TimeLeft tracked.history other :=
        ⟨ttl, elapsed, (hother hsame).symm.trans hgrant, hlt⟩
      obtain ⟨entry, hmem, rfl⟩ := isRegistered_iff.mp (h.present other hleft)
      exact isRegistered_iff.mpr
        ⟨entry, List.mem_filter.mpr ⟨hmem, bne_iff_ne.mpr hsame⟩, rfl⟩

theorem Kept.elapsed (h : tracked.Kept maxEntries) {elapsedSeconds : UInt16} {after : Tracked}
    (hstep : tracked.step (.updateTimes elapsedSeconds) = some after) :
    after.Kept maxEntries := by
  cases hstep
  have hgrant (address : NetworkAddress) :
      lastGrant address (⟨.updateTimes elapsedSeconds, true⟩ :: tracked.history)
        = (lastGrant address tracked.history).map (Prod.map id (· + elapsedSeconds.toNat)) := rfl
  refine ⟨?unique, h.bound, ?within, ?granted, ?present⟩
  case unique => exact h.unique.sublist (map_elapse_sublist elapsedSeconds _)
  case within => exact Nat.le_trans (List.length_filterMap_le _ _) h.within
  case granted =>
    intro entry hmem
    obtain ⟨before, hbefore, helapse⟩ := List.mem_filterMap.mp hmem
    have hremaining := (FdtEntry.elapse_remaining helapse).1
    obtain ⟨-, rfl⟩ := FdtEntry.elapse_eq_some.mp helapse
    obtain ⟨elapsed, hbeforeGrant, hsum⟩ := h.granted before hbefore
    refine ⟨elapsed + elapsedSeconds.toNat, ?_, ?_⟩
    · show lastGrant before.address (⟨_, true⟩ :: _) = _
      rw [hgrant, hbeforeGrant]
      rfl
    · show _ = before.ttl.toNat
      omega
  case present =>
    rintro other ⟨ttl, elapsed, hafter, hlt⟩
    -- There was time left before, and so an entry, which has as much left as the history says.
    have hafter' := (hgrant other).symm.trans hafter
    obtain ⟨⟨ttl', elapsed'⟩, hbeforeGrant, hmapped⟩ := Option.map_eq_some_iff.mp hafter'
    cases hmapped
    have hsum : elapsed' + elapsedSeconds.toNat < ttl' := hlt
    have hregistered := h.present other ⟨_, elapsed', hbeforeGrant, by
      show elapsed' < ttl'
      omega⟩
    obtain ⟨entry, hmem, rfl⟩ := isRegistered_iff.mp hregistered
    obtain ⟨elapsed'', hentryGrant, hentry⟩ := h.granted entry hmem
    rw [hbeforeGrant] at hentryGrant
    cases hentryGrant
    have hleft : entry.remainingTime > elapsedSeconds := UInt16.lt_iff_toNat_lt.mpr (by omega)
    exact isRegistered_iff.mpr
      ⟨_, List.mem_filterMap.mpr ⟨entry, hmem, FdtEntry.elapse_eq_some.mpr ⟨hleft, rfl⟩⟩, rfl⟩

theorem kept_step (h : tracked.Kept maxEntries) {made : Call} {after : Tracked}
    (hstep : tracked.step made = some after) : after.Kept maxEntries := by
  cases made with
  | register address ttl =>
      cases hheld : tracked.table.isRegistered address with
      | true => exact h.renewed hheld ttl hstep
      | false =>
          by_cases hroom : tracked.table.entries.length < tracked.table.maxEntries
          · exact h.admitted hheld hroom ttl hstep
          · exact h.refused hheld hroom ttl hstep
  | delete address => exact h.deleted hstep
  | updateTimes elapsedSeconds => exact h.elapsed hstep

end Steps

/-! ## §3. Whole runs -/

/-- A device is registered exactly when it has time left. -/
def Lawful (tracked : Tracked) : Prop :=
  ∀ address, tracked.table.isRegistered address = true ↔ TimeLeft tracked.history address

/-- **The table follows the history exactly when no entry is at zero.** -/
theorem Kept.lawful_iff_positive {maxEntries : Nat} {tracked : Tracked}
    (h : tracked.Kept maxEntries) :
    tracked.Lawful ↔ ∀ entry ∈ tracked.table.entries, 0 < entry.remainingTime := by
  constructor
  · intro hlaw entry hmem
    obtain ⟨ttl, elapsed, hgrant, hlt⟩ :=
      (hlaw entry.address).mp (isRegistered_iff.mpr ⟨entry, hmem, rfl⟩)
    obtain ⟨elapsed', hgrant', hsum⟩ := h.granted entry hmem
    rw [hgrant] at hgrant'
    cases hgrant'
    apply UInt16.lt_iff_toNat_lt.mpr
    show 0 < entry.remainingTime.toNat
    omega
  · intro hpositive address
    refine ⟨?_, h.present address⟩
    intro hregistered
    obtain ⟨entry, hmem, rfl⟩ := isRegistered_iff.mp hregistered
    obtain ⟨elapsed, hgrant, hsum⟩ := h.granted entry hmem
    have hleft : 0 < entry.remainingTime.toNat := UInt16.lt_iff_toNat_lt.mp (hpositive entry hmem)
    exact ⟨_, elapsed, hgrant, by omega⟩

/-- The law holds of what a call leaves. -/
def LeavesLawful (tracked : Tracked) (made : Call) : Prop :=
  ∀ after, tracked.step made = some after → after.Lawful

/-- A registration that the table has room for, or holds, asks for some time. -/
def GrantsTime (tracked : Tracked) (made : Call) : Prop :=
  ∀ address, made = .register address 0 →
    tracked.table.isRegistered address = false ∧
      tracked.table.maxEntries ≤ tracked.table.entries.length

theorem grantsTime_register_iff {tracked : Tracked} {address : NetworkAddress} {ttl : UInt16} :
    tracked.GrantsTime (.register address ttl) ↔ ttl ≠ 0 ∨
      (tracked.table.isRegistered address = false ∧
        tracked.table.maxEntries ≤ tracked.table.entries.length) := by
  constructor
  · intro hgrants
    by_cases hzero : ttl = 0
    · exact .inr (hgrants address (by rw [hzero]))
    · exact .inl hzero
  · rintro (hgranted | hrefused) other hmade
    · cases hmade
      exact absurd rfl hgranted
    · cases hmade
      exact hrefused

theorem pos_iff_ne_zero {ttl : UInt16} : 0 < ttl ↔ ttl ≠ 0 := by
  rw [UInt16.lt_iff_toNat_lt, ne_eq, ← UInt16.toNat_inj]
  exact Nat.pos_iff_ne_zero

/-- A device that is granted no time has an entry at zero, and no other has. -/
theorem positive_step_iff {maxEntries : Nat} {tracked : Tracked} (h : tracked.Kept maxEntries)
    (hpositive : ∀ entry ∈ tracked.table.entries, 0 < entry.remainingTime) {made : Call}
    {after : Tracked} (hstep : tracked.step made = some after) :
    (∀ entry ∈ after.table.entries, 0 < entry.remainingTime) ↔ tracked.GrantsTime made := by
  cases made with
  -- Deleting and elapsing leave no entry at nothing.
  | delete address =>
      cases hstep
      refine iff_of_true ?_ (fun _ hmade => nomatch hmade)
      intro entry hmem
      exact hpositive entry (List.mem_filter.mp hmem).1
  | updateTimes elapsedSeconds =>
      cases hstep
      refine iff_of_true ?_ (fun _ hmade => nomatch hmade)
      intro entry hmem
      obtain ⟨before, hbefore, helapse⟩ := List.mem_filterMap.mp hmem
      exact UInt16.lt_iff_toNat_lt.mpr (FdtEntry.elapse_remaining helapse).2
  | register address ttl =>
      rw [grantsTime_register_iff]
      cases hheld : tracked.table.isRegistered address with
      -- The station is known: its entry takes the new time, whatever the table's size.
      | true =>
          cases (step_register_held h.unique hheld ttl).symm.trans hstep
          constructor
          · intro hafter
            obtain ⟨held, hmem, rfl⟩ := isRegistered_iff.mp hheld
            have hgranted := hafter _ (List.mem_map_of_mem hmem)
            rw [FdtEntry.renew_self] at hgranted
            exact .inl (pos_iff_ne_zero.mp hgranted)
          · rintro (hgranted | ⟨hnew, -⟩) entry hentry
            · obtain ⟨before, hbefore, rfl⟩ := List.mem_map.mp hentry
              unfold FdtEntry.renew
              split
              · exact pos_iff_ne_zero.mpr hgranted
              · exact hpositive before hbefore
            · cases hnew
      | false =>
          by_cases hroom : tracked.table.entries.length < tracked.table.maxEntries
          · cases (step_register_room hheld hroom ttl).symm.trans hstep
            constructor
            · intro hafter
              have hgranted := hafter _ (List.mem_append_right _ (List.mem_singleton_self _))
              exact .inl (pos_iff_ne_zero.mp hgranted)
            · rintro (hgranted | ⟨-, hfull⟩) entry hentry
              · obtain hbefore | hadded := List.mem_append.mp hentry
                · exact hpositive entry hbefore
                · rw [List.mem_singleton.mp hadded]
                  exact pos_iff_ne_zero.mpr hgranted
              · exact absurd hroom (Nat.not_lt.mpr hfull)
          -- A full table turns a new station away and stays as it is.
          · cases (step_register_full hheld hroom ttl).symm.trans hstep
            exact iff_of_true hpositive (.inr ⟨rfl, Nat.not_lt.mp hroom⟩)

theorem leavesLawful_iff {maxEntries : Nat} {tracked : Tracked} (h : tracked.Kept maxEntries)
    (hpositive : ∀ entry ∈ tracked.table.entries, 0 < entry.remainingTime) (made : Call) :
    tracked.LeavesLawful made ↔ tracked.GrantsTime made := by
  obtain ⟨after, hstep⟩ : ∃ after, tracked.step made = some after := ⟨_, rfl⟩
  rw [← positive_step_iff h hpositive hstep, ← (kept_step h hstep).lawful_iff_positive]
  unfold LeavesLawful
  rw [hstep]
  constructor
  · intro hlaw
    exact hlaw after rfl
  · intro hlaw other hsame
    cases hsame
    exact hlaw

/-- **A device is registered exactly while it has time left, throughout a run in which every
registration that is accepted grants some time**, and in no other.  In every run, addresses are
unique and no more are held than there is room for; a device that is held can register again,
and a registration that is refused changes nothing. -/
theorem registrations_iff (maxEntries : Nat) (calls : List Call) :
    (Machine.Throughout step LeavesLawful (new maxEntries) calls
      ↔ Machine.Throughout step GrantsTime (new maxEntries) calls) ∧
    ∀ after, Machine.run step (new maxEntries) calls = some after →
      after.table.Unique ∧ after.table.entries.length ≤ maxEntries ∧
      ∀ (address : NetworkAddress) (ttl : UInt16),
        (after.table.isRegistered address = true → (after.table.register address ttl).2 = .ok ()) ∧
        ∀ e, (after.table.register address ttl).2 = .error e →
          (after.table.register address ttl).1 = after.table := by
  constructor
  · refine Machine.throughout_iff (P := fun tracked => tracked.Kept maxEntries ∧
        ∀ entry ∈ tracked.table.entries, 0 < entry.remainingTime)
      (fun tracked made h => leavesLawful_iff h.1 h.2 made) ?_
      ⟨new_kept maxEntries, fun entry hmem => nomatch hmem⟩
    rintro tracked made after hgrants ⟨hkept, hpositive⟩ hstep
    exact ⟨kept_step hkept hstep, (positive_step_iff hkept hpositive hstep).mpr hgrants⟩
  · intro after hrun
    have hkept : after.Kept maxEntries :=
      Machine.run_invariant (P := fun tracked => tracked.Kept maxEntries)
        (fun _ _ _ h hstep => kept_step h hstep) (new_kept maxEntries) hrun
    refine ⟨hkept.unique, hkept.within, ?_⟩
    intro address ttl
    refine ⟨?_, atomic_register after.table address ttl⟩
    intro hheld
    rw [register_of_registered hkept.unique hheld]
    rfl

/-- A device registers for no time at all, and is registered. -/
theorem registered_for_nothing :
    Machine.run step (new 1) [.register ⟨1, [7]⟩ 0]
      = some ⟨⟨[⟨⟨1, [7]⟩, 0, 0⟩], 1⟩, [⟨.register ⟨1, [7]⟩ 0, true⟩]⟩ ∧
    ¬ ∀ (maxEntries : Nat) (calls : List Call),
      Machine.Throughout step LeavesLawful (new maxEntries) calls := by
  refine ⟨rfl, ?_⟩
  intro hall
  have hlaw := (hall 1 [.register ⟨1, [7]⟩ 0]).1 _ rfl
  obtain ⟨ttl, elapsed, hgrant, hlt⟩ := (hlaw ⟨1, [7]⟩).mp rfl
  cases hgrant
  exact Nat.not_lt_zero _ hlt

end Tracked

end ForeignDeviceTable

end BacnetRs.Network
