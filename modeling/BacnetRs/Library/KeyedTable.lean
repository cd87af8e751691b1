/-
  BacnetRs.Library.KeyedTable — finite maps with one entry per key.

  The entries are Mathlib's `AList`, so key-uniqueness is a field of the
  structure and no table with a doubled key can be built.  Mathlib supplies
  `lookup`, `insert` and `erase`; a hash map also offers `retain` and is
  asked how many of its entries satisfy a predicate, and a value is changed in
  place (`adjust`).  This file adds those three, and the laws by which a
  predicate's count moves under each update:

    * `count_keys`      — a key stands once in a table, or not at all.
    * `lookup_retain`   — retaining filters every lookup.
    * `lookup_adjust`, `adjust_eq_self` — a value changed in place, and one that
                          was changed to itself.
    * `count_insert_of_lookup_some`, `count_insert_of_lookup_none`,
      `count_erase`, `count_retain_le`, `count_replaced`
                        — the count is a resource: an update spends exactly
                          what it removes.
    * `count_keys_le_card` — a table whose keys embed in a finite type is no
                          larger than the type.
-/
import Mathlib.Data.List.AList
import Mathlib.Data.Fintype.Card

/-- A finite map holding at most one value for each key. -/
abbrev KeyedTable (κ : Type*) (ν : Type*) := AList (fun _ : κ => ν)

namespace KeyedTable

variable {κ ν : Type*}

/-- Every value of the table, in the table's order. -/
def values (t : KeyedTable κ ν) : List ν := t.entries.map (fun entry => entry.2)

/-- Keep the entries that satisfy `keep`. -/
def retain (keep : κ → ν → Bool) (t : KeyedTable κ ν) : KeyedTable κ ν :=
  ⟨t.entries.filter (fun entry => keep entry.1 entry.2),
    List.NodupKeys.sublist List.filter_sublist t.nodupKeys⟩

/-- Change the value of one key in place, if it has one. -/
def adjust [DecidableEq κ] (k : κ) (f : ν → ν) (t : KeyedTable κ ν) : KeyedTable κ ν :=
  ⟨t.entries.map (fun entry => ⟨entry.1, if entry.1 = k then f entry.2 else entry.2⟩), by
    rw [List.NodupKeys, List.keys, List.map_map]
    exact t.nodupKeys⟩

/-- How many entries satisfy `p`. -/
def count (p : κ → ν → Bool) (t : KeyedTable κ ν) : Nat :=
  t.entries.countP (fun entry => p entry.1 entry.2)

/-! ## §1. How large a table can be -/

/-- A stricter predicate counts no more. -/
theorem count_mono {p q : κ → ν → Bool} (h : ∀ k v, p k v = true → q k v = true)
    (t : KeyedTable κ ν) : count p t ≤ count q t :=
  List.countP_mono_left (fun entry _ => h entry.1 entry.2)

theorem count_retain_le (p keep : κ → ν → Bool) (t : KeyedTable κ ν) :
    count p (retain keep t) ≤ count p t :=
  List.Sublist.countP_le List.filter_sublist

/-- The entries whose keys satisfy `q` are no more than the values of any finite
type that tells those keys apart. -/
theorem count_keys_le_card {ι : Type*} [Fintype ι] (q : κ → Bool) (f : κ → ι)
    (hf : ∀ a b, q a = true → q b = true → f a = f b → a = b) (t : KeyedTable κ ν) :
    count (fun k _ => q k) t ≤ Fintype.card ι := by
  have hcount : count (fun k _ => q k) t = ((t.keys.filter q).map f).length := by
    show List.countP _ t.entries = _
    rw [List.length_map, ← List.countP_eq_length_filter]
    show _ = List.countP q (t.entries.map Sigma.fst)
    rw [List.countP_map]
    rfl
  have hnodup : ((t.keys.filter q).map f).Nodup := by
    refine List.Nodup.map_on ?_ (t.keys_nodup.filter q)
    intro a ha b hb hab
    exact hf a b (List.mem_filter.mp ha).2 (List.mem_filter.mp hb).2 hab
  rw [hcount]
  exact hnodup.length_le_card

/-! ## §2. Lookup after each update -/

variable [DecidableEq κ]

theorem lookup_insert_eq_ite (t : KeyedTable κ ν) (k a : κ) (v : ν) :
    (t.insert k v).lookup a = if a = k then some v else t.lookup a := by
  by_cases h : a = k
  · subst h
    rw [if_pos rfl, AList.lookup_insert]
  · rw [if_neg h, AList.lookup_insert_ne h]

theorem lookup_erase_eq_ite (t : KeyedTable κ ν) (k a : κ) :
    (t.erase k).lookup a = if a = k then none else t.lookup a := by
  by_cases h : a = k
  · subst h
    rw [if_pos rfl, AList.lookup_erase]
  · rw [if_neg h, AList.lookup_erase_ne h]

/-- Erasing a key forgets what was inserted there. -/
theorem erase_insert_self (t : KeyedTable κ ν) (k : κ) (v : ν) :
    (t.insert k v).erase k = t.erase k := by
  apply AList.ext
  show List.kerase k (List.kinsert k v t.entries) = List.kerase k t.entries
  rw [List.kinsert_def]
  exact List.kerase_cons_eq rfl

theorem lookup_eq_some_iff (t : KeyedTable κ ν) (k : κ) (v : ν) :
    t.lookup k = some v ↔ (⟨k, v⟩ : Σ _ : κ, ν) ∈ t.entries :=
  AList.mem_lookup_iff

/-- A key stands once in the table, or not at all. -/
theorem count_keys (t : KeyedTable κ ν) (k : κ) :
    t.keys.count k = (t.lookup k).isSome.toNat := by
  by_cases h : k ∈ t.keys
  · have hsome : (t.lookup k).isSome = true := AList.lookup_isSome.mpr h
    rw [List.count_eq_one_of_mem t.keys_nodup h, hsome]
    rfl
  · have hnone : t.lookup k = none := AList.lookup_eq_none.mpr h
    rw [List.count_eq_zero_of_not_mem h, hnone]
    rfl

/-- Retaining filters every lookup. -/
theorem lookup_retain (keep : κ → ν → Bool) (t : KeyedTable κ ν) (a : κ) :
    (retain keep t).lookup a = (t.lookup a).filter (keep a) := by
  ext v
  rw [lookup_eq_some_iff, Option.filter_eq_some_iff, lookup_eq_some_iff]
  simp [retain]

theorem lookup_retain_eq_some (keep : κ → ν → Bool) (t : KeyedTable κ ν) (a : κ) (v : ν) :
    (retain keep t).lookup a = some v ↔ t.lookup a = some v ∧ keep a v = true := by
  rw [lookup_retain, Option.filter_eq_some_iff]

theorem lookup_adjust (k a : κ) (f : ν → ν) (t : KeyedTable κ ν) :
    (adjust k f t).lookup a = if a = k then (t.lookup a).map f else t.lookup a := by
  have hmap := @List.dlookup_map₂ κ _ (fun _ => ν) (fun _ => ν) t.entries
    (fun b v => if b = k then f v else v) a
  refine hmap.trans ?_
  by_cases h : a = k
  · simp [h, AList.lookup]
  · simp [h, AList.lookup]

/-- What is changed to itself is not changed. -/
theorem adjust_eq_self {k : κ} {f : ν → ν} {t : KeyedTable κ ν}
    (h : ∀ v, t.lookup k = some v → f v = v) : adjust k f t = t := by
  apply AList.ext
  refine (List.map_congr_left ?_).trans (List.map_id _)
  rintro ⟨a, v⟩ hmem
  by_cases hkey : a = k
  · subst hkey
    simp [h v ((lookup_eq_some_iff t a v).mpr hmem)]
  · simp [hkey]

/-! ## §3. The count after each update -/

theorem count_insert (p : κ → ν → Bool) (t : KeyedTable κ ν) (k : κ) (v : ν) :
    count p (t.insert k v) = count p (t.erase k) + if p k v then 1 else 0 := by
  show List.countP _ (List.kinsert k v t.entries) = List.countP _ (List.kerase k t.entries) + _
  rw [List.kinsert_def, List.countP_cons]

/-- Erasing a key gives back exactly what its entry counted for. -/
theorem count_erase (p : κ → ν → Bool) (t : KeyedTable κ ν) (k : κ) (v : ν)
    (h : t.lookup k = some v) :
    count p t = count p (t.erase k) + if p k v then 1 else 0 := by
  obtain ⟨w, l₁, l₂, _, hentries, herase⟩ :=
    List.exists_of_kerase (List.mem_keys_of_mem ((lookup_eq_some_iff t k v).mp h))
  have hw : w = v := by
    have hmem : (⟨k, w⟩ : Σ _ : κ, ν) ∈ t.entries := by simp [hentries]
    have hlookup := (lookup_eq_some_iff t k w).mpr hmem
    rw [h] at hlookup
    exact (Option.some.inj hlookup).symm
  subst hw
  show List.countP _ t.entries = List.countP _ (List.kerase k t.entries) + _
  rw [herase, hentries]
  simp only [List.countP_append, List.countP_cons]
  omega

/-- Inserting at a key that was taken gives back the old entry's share. -/
theorem count_insert_of_lookup_some (p : κ → ν → Bool) (t : KeyedTable κ ν) (k : κ) (v v' : ν)
    (h : t.lookup k = some v) :
    count p (t.insert k v') + (if p k v then 1 else 0) = count p t + if p k v' then 1 else 0 := by
  have hinsert := count_insert p t k v'
  have herase := count_erase p t k v h
  omega

theorem count_erase_of_lookup_none (p : κ → ν → Bool) (t : KeyedTable κ ν) (k : κ)
    (h : t.lookup k = none) : count p (t.erase k) = count p t := by
  have hkeys : k ∉ t.entries.keys := AList.lookup_eq_none.mp h
  show List.countP _ (List.kerase k t.entries) = List.countP _ t.entries
  rw [List.kerase_of_notMem_keys hkeys]

/-- Inserting at a free key adds the new entry's share. -/
theorem count_insert_of_lookup_none (p : κ → ν → Bool) (t : KeyedTable κ ν) (k : κ) (v : ν)
    (h : t.lookup k = none) :
    count p (t.insert k v) = count p t + if p k v then 1 else 0 := by
  rw [count_insert, count_erase_of_lookup_none p t k h]

theorem count_erase_le (p : κ → ν → Bool) (t : KeyedTable κ ν) (k : κ) :
    count p (t.erase k) ≤ count p t := by
  cases h : t.lookup k with
  | none => exact (count_erase_of_lookup_none p t k h).le
  | some v =>
      rw [count_erase p t k v h]
      exact Nat.le_add_right _ _

/-- Overwriting an entry by one that counts the same leaves the count alone. -/
theorem count_replaced (p : κ → ν → Bool) (t : KeyedTable κ ν) (k : κ) (v v' : ν)
    (h : t.lookup k = some v) (hp : p k v' = p k v) :
    count p (t.insert k v') = count p t := by
  rw [count_insert, count_erase p t k v h, hp]

theorem count_pos_of_lookup (p : κ → ν → Bool) (t : KeyedTable κ ν) (k : κ) (v : ν)
    (h : t.lookup k = some v) (hp : p k v = true) : 0 < count p t := by
  rw [count_erase p t k v h, if_pos hp]
  exact Nat.succ_pos _

/-- Two entries that count make the count at least two. -/
theorem eq_key_of_count_le_one (p : κ → ν → Bool) (t : KeyedTable κ ν) {k k' : κ} {v v' : ν}
    (hone : count p t ≤ 1) (h : t.lookup k = some v) (h' : t.lookup k' = some v')
    (hp : p k v = true) (hp' : p k' v' = true) : k = k' := by
  by_contra hne
  have herased : (t.erase k).lookup k' = some v' := by
    rw [lookup_erase_eq_ite, if_neg (Ne.symm hne), h']
  have hpos := count_pos_of_lookup p (t.erase k) k' v' herased hp'
  have hsplit := count_erase p t k v h
  rw [if_pos hp] at hsplit
  omega

end KeyedTable
