/-
  BacnetRs.App.InvokeIds — the identifiers of requests under way (`app/mod.rs`).

  An identifier is an octet.  The manager looks for a free one from where it
  left off, round the clock, and stops when it is back where it started.

    * `search_ends`            — what the search has come to, from any place on the way.
    * `nextId_cases`           — what asking for an identifier comes to.
    * `tried_before_reissue`   — nothing is issued again before all others were tried.
    * `invoke_ids`             — the same of every run.
-/
import BacnetRs.Library.Machine

namespace BacnetRs.App

/-! ## §1. The manager -/

structure InvokeIdManager where
  /-- Where the search goes on: `next_id`, the field. -/
  next : UInt8
  activeIds : List UInt8
  deriving Repr, DecidableEq

namespace InvokeIdManager

def new : InvokeIdManager := ⟨0, []⟩

/-- What one turn of the search came to. -/
inductive Looked where
  | found (id : UInt8)
  | passed
  | exhausted

/-- One turn of the search that started at `start`. -/
def look (start : UInt8) (manager : InvokeIdManager) : InvokeIdManager × Looked :=
  if manager.activeIds.contains manager.next then
    if manager.next + 1 = start then ({ manager with next := manager.next + 1 }, .exhausted)
    else ({ manager with next := manager.next + 1 }, .passed)
  else (⟨manager.next + 1, manager.activeIds ++ [manager.next]⟩, .found manager.next)

/-- At most so many turns; `none` is a search that has not ended by then. -/
def search (start : UInt8) : Nat → InvokeIdManager → Option (InvokeIdManager × Option UInt8)
  | 0, _ => none
  | turns + 1, manager =>
      match manager.look start with
      | (after, .found id) => some (after, some id)
      | (after, .exhausted) => some (after, none)
      | (after, .passed) => search start turns after

/-- `next_id`. -/
def nextId (manager : InvokeIdManager) : InvokeIdManager × Option UInt8 :=
  (search manager.next 256 manager).getD (manager, none)

/-- The identifiers that so many turns look at. -/
def triedWithin (start : UInt8) : Nat → InvokeIdManager → List UInt8
  | 0, _ => []
  | turns + 1, manager =>
      match manager.look start with
      | (after, .passed) => manager.next :: triedWithin start turns after
      | _ => [manager.next]

/-- The identifiers that `next_id` looks at. -/
def tried (manager : InvokeIdManager) : List UInt8 := triedWithin manager.next 256 manager

/-- `release_id`. -/
def releaseId (manager : InvokeIdManager) (id : UInt8) : InvokeIdManager :=
  { manager with activeIds := manager.activeIds.filter (· ≠ id) }

/-- `is_active`. -/
def isActive (manager : InvokeIdManager) (id : UInt8) : Bool := manager.activeIds.contains id

/-- What the manager may be asked. -/
inductive Call where
  | nextId
  | releaseId (id : UInt8)
  deriving DecidableEq

def step (manager : InvokeIdManager) : Call → Option InvokeIdManager
  | .nextId => some manager.nextId.1
  | .releaseId id => some (manager.releaseId id)

/-! ## §2. Round the clock -/

/-- How far `id` is ahead of `start`, upwards and over the end. -/
def ahead (start id : UInt8) : Nat := (id - start).toNat

theorem ahead_eq (start id : UInt8) : ahead start id = (256 - start.toNat + id.toNat) % 256 :=
  UInt8.toNat_sub id start

theorem ahead_self (start : UInt8) : ahead start start = 0 := by
  unfold ahead
  rw [UInt8.sub_self]
  rfl

theorem ahead_lt (start id : UInt8) : ahead start id < 256 := (id - start).toNat_lt

theorem toNat_succ (id : UInt8) : (id + 1).toNat = (id.toNat + 1) % 256 := UInt8.toNat_add id 1

theorem ahead_inj {start a b : UInt8} (h : ahead start a = ahead start b) : a = b := by
  rw [ahead_eq, ahead_eq] at h
  have ha := a.toNat_lt
  have hb := b.toNat_lt
  have hstart := start.toNat_lt
  apply UInt8.toNat_inj.mp
  omega

/-- The next identifier is one further ahead, or the start. -/
theorem ahead_succ {start id : UInt8} (h : id + 1 ≠ start) :
    ahead start (id + 1) = ahead start id + 1 := by
  have hne : (id + 1).toNat ≠ start.toNat := fun hsame => h (UInt8.toNat_inj.mp hsame)
  rw [toNat_succ] at hne
  rw [ahead_eq, ahead_eq, toNat_succ]
  have hid := id.toNat_lt
  have hstart := start.toNat_lt
  omega

/-- Before the start comes what is furthest ahead. -/
theorem ahead_last {start id : UInt8} (h : id + 1 = start) : ahead start id = 255 := by
  have hsame := congrArg UInt8.toNat h
  rw [toNat_succ] at hsame
  rw [ahead_eq]
  have hid := id.toNat_lt
  omega

/-! ## §3. The search -/

/-- The search from `start` on has come to `id`, which is the first that is free; it has looked
at all from `here` to there. -/
def Finds (start here : UInt8) (active : List UInt8) (id : UInt8) (looked : List UInt8) : Prop :=
  id ∉ active ∧ (∀ other, ahead start other < ahead start id → other ∈ active) ∧
    ∀ other, other ∈ looked ↔ ahead start here ≤ ahead start other ∧
      ahead start other ≤ ahead start id

/-- What is ahead of the place the search is at, and behind the start, is active. -/
def Passed (start : UInt8) (manager : InvokeIdManager) : Prop :=
  ∀ other, ahead start other < ahead start manager.next → other ∈ manager.activeIds

/-- The search has come to the first free identifier, or round to the start again. -/
def Ends (start : UInt8) (turns : Nat) (manager : InvokeIdManager) : Prop :=
  (∃ id, Finds start manager.next manager.activeIds id (triedWithin start turns manager) ∧
    search start turns manager = some (⟨id + 1, manager.activeIds ++ [id]⟩, some id)) ∨
  ((∀ other, other ∈ manager.activeIds) ∧
    (∀ other, other ∈ triedWithin start turns manager
      ↔ ahead start manager.next ≤ ahead start other) ∧
    search start turns manager = some (⟨start, manager.activeIds⟩, none))

section Turns

variable {start : UInt8} {turns : Nat} {manager : InvokeIdManager}

/-- Everything up to the place the search is at. -/
theorem Passed.upTo (h : Passed start manager) (hactive : manager.next ∈ manager.activeIds)
    {other : UInt8} (hle : ahead start other ≤ ahead start manager.next) :
    other ∈ manager.activeIds := by
  obtain hlt | heq := Nat.lt_or_eq_of_le hle
  · exact h other hlt
  · rw [ahead_inj heq]
    exact hactive

/-- What is free is issued. -/
theorem ends_of_free (h : Passed start manager) (hfree : manager.next ∉ manager.activeIds) :
    Ends start (turns + 1) manager := by
  have hlook : manager.look start
      = (⟨manager.next + 1, manager.activeIds ++ [manager.next]⟩, .found manager.next) := by
    unfold look
    rw [if_neg fun hheld => hfree (List.contains_iff_mem.mp hheld)]
  have htried : triedWithin start (turns + 1) manager = [manager.next] := by
    rw [triedWithin, hlook]
  have hsearch : search start (turns + 1) manager
      = some (⟨manager.next + 1, manager.activeIds ++ [manager.next]⟩, some manager.next) := by
    rw [search, hlook]
  refine .inl ⟨manager.next, ⟨hfree, h, ?_⟩, hsearch⟩
  intro other
  rw [htried, List.mem_singleton]
  constructor
  · rintro rfl
    exact ⟨Nat.le_refl _, Nat.le_refl _⟩
  · rintro ⟨hlow, hhigh⟩
    exact ahead_inj (Nat.le_antisymm hhigh hlow)

/-- Back at the start, all are active. -/
theorem ends_of_back (h : Passed start manager) (hactive : manager.next ∈ manager.activeIds)
    (hback : manager.next + 1 = start) : Ends start (turns + 1) manager := by
  have hlook : manager.look start = ({ manager with next := manager.next + 1 }, .exhausted) := by
    unfold look
    rw [if_pos (List.contains_iff_mem.mpr hactive), if_pos hback]
  have htried : triedWithin start (turns + 1) manager = [manager.next] := by
    rw [triedWithin, hlook]
  have hsearch : search start (turns + 1) manager = some (⟨start, manager.activeIds⟩, none) := by
    rw [search, hlook, ← hback]
  have hlast := ahead_last hback
  refine .inr ⟨?_, ?_, hsearch⟩
  · intro other
    have hlt := ahead_lt start other
    exact h.upTo hactive (by omega)
  · intro other
    rw [htried, List.mem_singleton]
    constructor
    · rintro rfl
      exact Nat.le_refl _
    · intro hle
      have hlt := ahead_lt start other
      exact ahead_inj (Nat.le_antisymm (by omega) hle)

/-- Past what is active, the search ends as it does from the next place on. -/
theorem ends_of_passed (h : Passed start manager) (hactive : manager.next ∈ manager.activeIds)
    (hon : manager.next + 1 ≠ start)
    (hrest : Ends start turns { manager with next := manager.next + 1 }) :
    Ends start (turns + 1) manager := by
  have hlook : manager.look start = ({ manager with next := manager.next + 1 }, .passed) := by
    unfold look
    rw [if_pos (List.contains_iff_mem.mpr hactive), if_neg hon]
  have hsearch : search start (turns + 1) manager
      = search start turns { manager with next := manager.next + 1 } := by
    rw [search, hlook]
  have htried : triedWithin start (turns + 1) manager
      = manager.next :: triedWithin start turns { manager with next := manager.next + 1 } := by
    rw [triedWithin, hlook]
  have hnext : ahead start ({ manager with next := manager.next + 1 } : InvokeIdManager).next
      = ahead start manager.next + 1 := ahead_succ hon
  -- What lies ahead is this id or lies ahead of the next one.
  have hsplit (other : UInt8) : ahead start manager.next ≤ ahead start other
      ↔ other = manager.next ∨ ahead start manager.next + 1 ≤ ahead start other := by
    constructor
    · intro hle
      obtain heq | hlt := Nat.eq_or_lt_of_le hle
      · exact .inl (ahead_inj heq.symm)
      · exact .inr hlt
    · rintro (rfl | hlt)
      · exact Nat.le_refl _
      · omega
  unfold Ends
  rw [hsearch, htried]
  obtain ⟨id, ⟨hfree, hfirst, hlooked⟩, hfound⟩ | ⟨hfull, hlooked, hnone⟩ := hrest
  -- A free id was found further on; this one is looked at before it.
  · refine .inl ⟨id, ⟨hfree, hfirst, ?_⟩, hfound⟩
    intro other
    have hid : ahead start manager.next < ahead start id :=
      Nat.lt_of_not_le fun hle => hfree (h.upTo hactive hle)
    rw [List.mem_cons, hlooked, hnext, hsplit]
    constructor
    · rintro (rfl | ⟨hlow, hhigh⟩)
      · exact ⟨.inl rfl, Nat.le_of_lt hid⟩
      · exact ⟨.inr hlow, hhigh⟩
    · rintro ⟨hhere | hlow, hhigh⟩
      · exact .inl hhere
      · exact .inr ⟨hlow, hhigh⟩
  -- Nothing was free further on, and this one is active too.
  · refine .inr ⟨hfull, ?_, hnone⟩
    intro other
    rw [List.mem_cons, hlooked, hnext, hsplit]

end Turns

/-- **The search ends**, with as many turns as there are identifiers left before the start. -/
theorem search_ends (start : UInt8) : ∀ (turns : Nat) (manager : InvokeIdManager),
    256 ≤ turns + ahead start manager.next → Passed start manager → Ends start turns manager
  | 0, manager, hturns, _ => by
      -- Nothing is 256 ahead.
      have hlt := ahead_lt start manager.next
      omega
  | turns + 1, manager, hturns, hpassed => by
      by_cases hactive : manager.next ∈ manager.activeIds
      · by_cases hback : manager.next + 1 = start
        · exact ends_of_back hpassed hactive hback
        · have hnext := ahead_succ hback
          refine ends_of_passed hpassed hactive hback (search_ends start turns _ ?_ ?_)
          · show 256 ≤ turns + ahead start (manager.next + 1)
            omega
          · intro other hlt
            have hlt' : ahead start other < ahead start (manager.next + 1) := hlt
            exact hpassed.upTo hactive (by omega)
      · exact ends_of_free hpassed hactive

/-- From its start on a search has nothing behind it. -/
theorem ends_from_start (manager : InvokeIdManager) {turns : Nat} (h : 256 ≤ turns) :
    Ends manager.next turns manager := by
  apply search_ends
  · omega
  · intro other hlt
    rw [ahead_self] at hlt
    exact absurd hlt (Nat.not_lt_zero _)

/-! ## §4. Asking for an identifier -/

/-- The search for the next identifier ends by itself. -/
theorem search_settles (manager : InvokeIdManager) {turns : Nat} (h : 256 ≤ turns) :
    search manager.next turns manager = some manager.nextId := by
  have hcapped := ends_from_start manager (Nat.le_refl 256)
  have hends := ends_from_start manager h
  unfold nextId
  obtain ⟨id, hfinds, hsearch⟩ | ⟨hfull, -, hsearch⟩ := hends
  · obtain ⟨id', hfinds', hsearch'⟩ | ⟨hfull', -, -⟩ := hcapped
    · -- Both came to the first free identifier.
      have hle : ahead manager.next id ≤ ahead manager.next id' :=
        Nat.le_of_not_lt fun hlt => hfinds'.1 (hfinds.2.1 id' hlt)
      have hge : ahead manager.next id' ≤ ahead manager.next id :=
        Nat.le_of_not_lt fun hlt => hfinds.1 (hfinds'.2.1 id hlt)
      rw [hsearch, hsearch', ahead_inj (Nat.le_antisymm hle hge)]
      rfl
    · exact absurd (hfull' id) hfinds.1
  · obtain ⟨id', hfinds', -⟩ | ⟨-, -, hsearch'⟩ := hcapped
    · exact absurd (hfull id') hfinds'.1
    · rw [hsearch, hsearch']
      rfl

/-- **What asking for an identifier comes to**: the first free one, after those looked at; or
none, when all are active, and then nothing has changed. -/
theorem nextId_cases (manager : InvokeIdManager) :
    (∃ id, Finds manager.next manager.next manager.activeIds id manager.tried ∧
      manager.nextId = (⟨id + 1, manager.activeIds ++ [id]⟩, some id)) ∨
    ((∀ other, other ∈ manager.activeIds) ∧ (∀ other, other ∈ manager.tried) ∧
      manager.nextId = (manager, none)) := by
  have hsettled := search_settles manager (Nat.le_refl 256)
  obtain ⟨id, hfinds, hsearch⟩ | ⟨hfull, hlooked, hsearch⟩ :=
    ends_from_start manager (Nat.le_refl 256)
  · exact .inl ⟨id, hfinds, Option.some.inj (hsettled.symm.trans hsearch)⟩
  · refine .inr ⟨hfull, ?_, Option.some.inj (hsettled.symm.trans hsearch)⟩
    intro other
    refine (hlooked other).mpr ?_
    rw [ahead_self]
    exact Nat.zero_le _

/-- An identifier that was tried is active, or is the one issued. -/
theorem active_of_tried {manager : InvokeIdManager} {other : UInt8} (h : other ∈ manager.tried) :
    other ∈ manager.activeIds ∨ manager.nextId.2 = some other := by
  obtain ⟨id, ⟨_, hfirst, hlooked⟩, hissued⟩ | ⟨hfull, -, -⟩ := nextId_cases manager
  · obtain hlt | heq := Nat.lt_or_eq_of_le ((hlooked other).mp h).2
    · exact .inl (hfirst other hlt)
    · right
      rw [hissued, ahead_inj heq]
  · exact .inl (hfull other)

theorem nextId_eq_none_iff (manager : InvokeIdManager) :
    manager.nextId.2 = none ↔ ∀ id, id ∈ manager.activeIds := by
  obtain ⟨id, hfinds, hissued⟩ | ⟨hfull, -, hnone⟩ := nextId_cases manager
  · rw [hissued]
    exact iff_of_false (fun h => nomatch h) fun hall => hfinds.1 (hall id)
  · rw [hnone]
    exact iff_of_true rfl hfull

/-! ## §5. Whole runs -/

theorem nodup_step {manager after : InvokeIdManager} {made : Call}
    (h : manager.activeIds.Nodup) (hstep : step manager made = some after) :
    after.activeIds.Nodup := by
  cases made with
  | releaseId id =>
      cases hstep
      exact h.filter _
  | nextId =>
      cases hstep
      obtain ⟨id, hfinds, hissued⟩ | ⟨-, -, hnone⟩ := nextId_cases manager
      · rw [hissued]
        refine List.nodup_append.mpr ⟨h, List.pairwise_singleton _ _, ?_⟩
        intro a ha b hb hsame
        rw [List.mem_singleton.mp hb] at hsame
        exact hfinds.1 (hsame ▸ ha)
      · rw [hnone]
        exact h

/-- How far ahead of `base` a search may look without coming past `other`. -/
theorem tried_of_issued {manager : InvokeIdManager} {base issued other : UInt8}
    (hissued : manager.nextId.2 = some issued)
    (hmanager : ahead base manager.next ≤ ahead base other)
    (hother : ahead base other ≤ ahead base issued) : other ∈ manager.tried := by
  obtain ⟨id, ⟨_, _, hlooked⟩, hresult⟩ | ⟨-, hlooked, -⟩ := nextId_cases manager
  · rw [hresult] at hissued
    cases hissued
    refine (hlooked other).mpr ?_
    rw [ahead_self]
    refine ⟨Nat.zero_le _, ?_⟩
    -- Both are at or past where the search starts, seen from `base`: so from there the order is
    -- the same.
    simp only [ahead_eq] at *
    have hbase := base.toNat_lt
    have hnext := manager.next.toNat_lt
    have hissued := issued.toNat_lt
    have hlt := other.toNat_lt
    omega
  · exact hlooked other

/-- Where the search goes on after what it issued, it has not come past what it did not try. -/
theorem ahead_next_of_untried {manager : InvokeIdManager} {base other : UInt8}
    (hmanager : ahead base manager.next ≤ ahead base other) (huntried : other ∉ manager.tried) :
    ahead base manager.nextId.1.next ≤ ahead base other := by
  obtain ⟨id, ⟨_, _, hlooked⟩, hresult⟩ | ⟨-, hlooked, -⟩ := nextId_cases manager
  · rw [hlooked, ahead_self] at huntried
    rw [hresult]
    show ahead base (id + 1) ≤ ahead base other
    simp only [ahead_eq, toNat_succ] at *
    have hbase := base.toNat_lt
    have hnext := manager.next.toNat_lt
    have hid := id.toNat_lt
    have hlt := other.toNat_lt
    omega
  · exact absurd (hlooked other) huntried

/-- `other` is tried by one of the calls, the last of them included. -/
def TriedBy (other : UInt8) (manager : InvokeIdManager) (calls : List Call) : Prop :=
  ∃ before after state, calls ++ [.nextId] = before ++ .nextId :: after ∧
    Machine.run step manager before = some state ∧ other ∈ state.tried

theorem TriedBy.cons {other : UInt8} {manager next : InvokeIdManager} {call : Call}
    {calls : List Call} (hstep : step manager call = some next) (h : TriedBy other next calls) :
    TriedBy other manager (call :: calls) := by
  obtain ⟨before, after, state, hsplit, hrun, htried⟩ := h
  refine ⟨call :: before, after, state, ?_, Machine.run_cons_eq_some.mpr ⟨next, hstep, hrun⟩,
    htried⟩
  rw [List.cons_append, hsplit, List.cons_append]

/-- **While the search has not come past `other`**, whatever is issued further ahead is issued
after `other` was tried. -/
theorem tried_before_issue {base issued other : UInt8}
    (hother : ahead base other ≤ ahead base issued) :
    ∀ {calls : List Call} {manager last : InvokeIdManager},
      ahead base manager.next ≤ ahead base other → Machine.run step manager calls = some last →
        last.nextId.2 = some issued → TriedBy other manager calls
  | [], manager, last, hmanager, hrun, hissued => by
      cases hrun
      exact ⟨[], [], manager, rfl, rfl, tried_of_issued hissued hmanager hother⟩
  | .releaseId id :: calls, manager, last, hmanager, hrun, hissued => by
      -- The search goes on from where it was.
      obtain ⟨next, hstep, hrest⟩ := Machine.run_cons_eq_some.mp hrun
      refine TriedBy.cons hstep (tried_before_issue hother ?_ hrest hissued)
      cases hstep
      exact hmanager
  | .nextId :: calls, manager, last, hmanager, hrun, hissued => by
      obtain ⟨next, hstep, hrest⟩ := Machine.run_cons_eq_some.mp hrun
      -- Either this search comes to it, or it ends before it and the next goes on from there.
      by_cases htried : other ∈ manager.tried
      · exact ⟨[], calls ++ [.nextId], manager, rfl, rfl, htried⟩
      · refine TriedBy.cons hstep (tried_before_issue hother ?_ hrest hissued)
        cases hstep
        exact ahead_next_of_untried hmanager htried

/-- Between two issues of one identifier every one is tried. -/
theorem tried_before_reissue {manager last : InvokeIdManager} {id : UInt8} {calls : List Call}
    (hissued : manager.nextId.2 = some id)
    (hrun : Machine.run step manager.nextId.1 calls = some last)
    (hagain : last.nextId.2 = some id) (other : UInt8) :
    TriedBy other manager.nextId.1 calls := by
  -- After the identifier itself it is the last to be come to.
  have hlast : ahead (id + 1) id = 255 := by
    rw [ahead_eq, toNat_succ]
    have hid := id.toNat_lt
    omega
  have hother : ahead (id + 1) other ≤ ahead (id + 1) id := by
    have hlt := ahead_lt (id + 1) other
    omega
  refine tried_before_issue hother ?_ hrun hagain
  obtain ⟨found, -, hresult⟩ | ⟨-, -, hnone⟩ := nextId_cases manager
  · rw [hresult] at hissued
    cases hissued
    rw [hresult]
    show ahead (id + 1) (id + 1) ≤ _
    rw [ahead_self]
    exact Nat.zero_le _
  · rw [hnone] at hissued
    cases hissued

/-- **The identifiers of requests under way**, in every run: those active are distinct; one that
is issued was not active; none is issued exactly when all are active, and that changes nothing;
the search ends by itself; and before one is issued again every other one is tried, which is
issued then, if it is free. -/
theorem invoke_ids {calls : List Call} {manager : InvokeIdManager}
    (h : Machine.run step new calls = some manager) :
    manager.activeIds.Nodup ∧
    (∀ id, manager.nextId.2 = some id → id ∉ manager.activeIds ∧
      manager.nextId.1.activeIds = manager.activeIds ++ [id]) ∧
    (manager.nextId.2 = none ↔ ∀ id, id ∈ manager.activeIds) ∧
    (manager.nextId.2 = none → manager.nextId.1 = manager) ∧
    (∀ turns, 256 ≤ turns → search manager.next turns manager = some manager.nextId) ∧
    (∀ (id : UInt8) (later : List Call) (last : InvokeIdManager), manager.nextId.2 = some id →
      Machine.run step manager.nextId.1 later = some last → last.nextId.2 = some id →
        ∀ other, other ≠ id → TriedBy other manager.nextId.1 later) ∧
    ∀ other, other ∈ manager.tried → other ∈ manager.activeIds ∨ manager.nextId.2 = some other := by
  refine ⟨?distinct, ?fresh, nextId_eq_none_iff manager, ?unchanged,
    fun turns => search_settles manager,
    fun id later last hissued hrun hagain other _ =>
      tried_before_reissue hissued hrun hagain other,
    fun other => active_of_tried⟩
  case distinct =>
    exact Machine.run_invariant (P := fun manager => manager.activeIds.Nodup)
      (fun _ _ _ hs hstep => nodup_step hs hstep) List.nodup_nil h
  case fresh =>
    -- An id that was issued was found free by the search.
    intro id hissued
    obtain ⟨found, hfinds, hresult⟩ | ⟨-, -, hnone⟩ := nextId_cases manager
    · rw [hresult] at hissued
      cases hissued
      refine ⟨hfinds.1, ?_⟩
      rw [hresult]
    · rw [hnone] at hissued
      cases hissued
  case unchanged =>
    intro hissued
    obtain ⟨found, -, hresult⟩ | ⟨-, -, hnone⟩ := nextId_cases manager
    · rw [hresult] at hissued
      cases hissued
    · rw [hnone]

/-- Two requests, of which the first is over. -/
theorem invoke_ids_released :
    Machine.run step new [.nextId, .nextId, .releaseId 0] = some ⟨2, [1]⟩ ∧
    ((⟨2, [1]⟩ : InvokeIdManager).nextId.2 = none
      ↔ ∀ id, id ∈ (⟨2, [1]⟩ : InvokeIdManager).activeIds) :=
  have hrun : Machine.run step new [.nextId, .nextId, .releaseId 0] = some ⟨2, [1]⟩ := by decide
  ⟨hrun, (invoke_ids hrun).2.2.1⟩

end InvokeIdManager

end BacnetRs.App
