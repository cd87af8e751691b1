/-
  BacnetRs.Network.ShortestPath — what `dijkstra_shortest_path` finds (`network/mod.rs`).

  The distances are of sixteen bits and are cut off at the largest, which also
  stands for a network that was not reached.  A label that is no such number is
  exact, so that the search is one of `Library.ShortestPaths` with that number
  as the cap.

    * `visit_visits`      — a round follows the links out of the nearest network.
    * `rounds_ends`       — the loop ends, and what it ends with.
    * `Answers.shortest`  — a path that is returned is a shortest one.
    * `Answers.found`     — a network that can be reached is.
    * `dijkstra_shortest` — the three together.
-/
import BacnetRs.Library.ShortestPaths
import BacnetRs.Network.Paths

namespace BacnetRs.Network

open ShortestPaths

/-! ## §1. Links as arcs -/

/-- There is a link from `u` to `v` of cost `w`. -/
def Linked (topology : List NetworkLink) (u v : UInt16) (w : Nat) : Prop :=
  ∃ link ∈ topology, link.sourceNetwork = u ∧ link.destinationNetwork = v ∧ link.cost.toNat = w

theorem Linked.append {links more : List NetworkLink} {u v : UInt16} {w : Nat}
    (h : Linked links u v w) : Linked (links ++ more) u v w := by
  obtain ⟨link, hmem, hlink⟩ := h
  exact ⟨link, List.mem_append_left more hmem, hlink⟩

theorem mem_insertSorted {network other : UInt16} : ∀ {networks : List UInt16},
    other ∈ insertSorted network networks ↔ other = network ∨ other ∈ networks
  | [] => by
      unfold insertSorted
      rw [List.mem_singleton]
      exact (or_iff_left List.not_mem_nil).symm
  | first :: rest => by
      unfold insertSorted
      split
      · rw [List.mem_cons]
      split
      · rename_i hsame
        rw [hsame, List.mem_cons]
        exact ⟨Or.inr, fun h => h.elim Or.inl id⟩
      · rw [List.mem_cons, mem_insertSorted, List.mem_cons]
        exact or_left_comm

/-- The networks of the links so far, and those of the links to come. -/
theorem mem_networks_foldl {other : UInt16} :
    ∀ {topology : List NetworkLink} {networks : List UInt16},
    other ∈ topology.foldl (fun networks link =>
        insertSorted link.destinationNetwork (insertSorted link.sourceNetwork networks)) networks
      ↔ other ∈ networks ∨
        ∃ link ∈ topology, other = link.sourceNetwork ∨ other = link.destinationNetwork
  | [], networks => by simp
  | link :: topology, networks => by
      rw [List.foldl_cons, mem_networks_foldl, mem_insertSorted, mem_insertSorted]
      simp only [List.mem_cons, exists_eq_or_imp]
      constructor
      · rintro ((hdestination | hsource | hmem) | hlater)
        · exact .inr (.inl (.inr hdestination))
        · exact .inr (.inl (.inl hsource))
        · exact .inl hmem
        · exact .inr (.inr hlater)
      · rintro (hmem | (hsource | hdestination) | hlater)
        · exact .inl (.inr (.inr hmem))
        · exact .inl (.inr (.inl hsource))
        · exact .inl (.inl hdestination)
        · exact .inr hlater

/-- Both ends of a link are networks of the topology. -/
theorem mem_networksOf_of_linked {topology : List NetworkLink} {u v : UInt16} {w : Nat}
    (h : Linked topology u v w) : u ∈ networksOf topology ∧ v ∈ networksOf topology := by
  obtain ⟨link, hmem, rfl, rfl, -⟩ := h
  exact ⟨mem_networks_foldl.mpr (.inr ⟨link, hmem, .inl rfl⟩),
    mem_networks_foldl.mpr (.inr ⟨link, hmem, .inr rfl⟩)⟩

theorem toNat_saturatingAdd (x y : UInt16) :
    (saturatingAdd x y).toNat = min (x.toNat + y.toNat) 65535 := by
  have hx := x.toNat_lt
  have hy := y.toNat_lt
  unfold saturatingAdd
  split
  · rw [UInt16.toNat_add]
    omega
  · show 65535 = _
    omega

/-! ## §2. The search as labels -/

namespace Search

/-- The labels that the search keeps. -/
def labels (self : Search) : Labels UInt16 where
  pending network := network ∈ self.unvisited
  label network := (self.distance network).toNat
  before network := self.previous.lookup network

/-- Every label there is before the source's is the largest number. -/
theorem distances_foldl {network found : UInt16} : ∀ {topology : List NetworkLink}
    {distances : KeyedTable UInt16 UInt16},
    (∀ other, distances.lookup network = some other → other = 0xFFFF) →
      (topology.foldl (fun (distances : KeyedTable UInt16 UInt16) link =>
        (distances.insert link.sourceNetwork 0xFFFF).insert link.destinationNetwork 0xFFFF)
          distances).lookup network = some found → found = 0xFFFF
  | [], distances, hall, hfound => hall found hfound
  | link :: topology, distances, hall, hfound => by
      rw [List.foldl_cons] at hfound
      refine distances_foldl ?_ hfound
      intro other hother
      rw [KeyedTable.lookup_insert_eq_ite, KeyedTable.lookup_insert_eq_ite] at hother
      split at hother
      · exact (Option.some.inj hother).symm
      split at hother
      · exact (Option.some.inj hother).symm
      · exact hall other hother

theorem distance_start (topology : List NetworkLink) (source network : UInt16) :
    (start topology source).distance network = if network = source then 0 else 0xFFFF := by
  unfold distance start
  dsimp only
  rw [KeyedTable.lookup_insert_eq_ite]
  split
  · rfl
  · cases hfound : AList.lookup network _ with
    | none => rfl
    | some found =>
        refine distances_foldl (fun other hother => ?_) hfound
        cases hother

theorem start_sound (topology : List NetworkLink) (source : UInt16) :
    Sound (Linked topology) source 65535 (start topology source).labels := by
  refine sound_start ?_ ?_ (fun _ => rfl) (fun u v w => mem_networksOf_of_linked)
  · show ((start topology source).distance source).toNat = 0
    rw [distance_start, if_pos rfl]
    rfl
  · intro network hne
    show 65535 ≤ ((start topology source).distance network).toNat
    rw [distance_start, if_neg hne]
    exact Nat.le_refl _

/-! ## §3. A round follows the links -/

theorem distance_insert (self : Search) (network found other : UInt16)
    (previous : KeyedTable UInt16 UInt16) :
    distance { self with distances := self.distances.insert network found, previous } other
      = if other = network then found else self.distance other := by
  unfold distance
  dsimp only
  rw [KeyedTable.lookup_insert_eq_ite]
  split
  · rfl
  · rfl

/-- A link out of `current` is the new way to its end, or it is no nearer. -/
theorem relax_cases (current : UInt16) (self : Search) (link : NetworkLink) :
    (link.sourceNetwork = current ∧ link.destinationNetwork ∈ self.unvisited ∧
      saturatingAdd (self.distance current) link.cost < self.distance link.destinationNetwork ∧
      self.relax current link =
        { self with
          distances := self.distances.insert link.destinationNetwork
            (saturatingAdd (self.distance current) link.cost)
          previous := self.previous.insert link.destinationNetwork current }) ∨
    (self.relax current link = self ∧
      (link.sourceNetwork = current → link.destinationNetwork ∈ self.unvisited →
        self.distance link.destinationNetwork
          ≤ saturatingAdd (self.distance current) link.cost)) := by
  unfold relax
  dsimp only
  by_cases hsource : link.sourceNetwork = current
  · rw [if_pos hsource]
    by_cases hneighbor : link.destinationNetwork ∈ self.unvisited
    · rw [if_pos hneighbor]
      by_cases hnearer : saturatingAdd (self.distance current) link.cost
          < self.distance link.destinationNetwork
      · rw [if_pos hnearer]
        exact .inl ⟨hsource, hneighbor, hnearer, rfl⟩
      · rw [if_neg hnearer]
        exact .inr ⟨rfl, fun _ _ => UInt16.not_lt.mp hnearer⟩
    · rw [if_neg hneighbor]
      exact .inr ⟨rfl, fun _ hmem => absurd hmem hneighbor⟩
  · rw [if_neg hsource]
    exact .inr ⟨rfl, fun hsame => absurd hsame hsource⟩

/-- What following `links` out of `current` makes of the search `base`. -/
structure Followed (links : List NetworkLink) (current : UInt16) (base after : Search) : Prop where
  unvisited : after.unvisited = base.unvisited
  changed : ∀ v, (after.distance v = base.distance v ∧
      after.previous.lookup v = base.previous.lookup v) ∨
    (v ∈ base.unvisited ∧ ∃ w, Linked links current v w ∧
      (after.distance v).toNat = (base.distance current).toNat + w ∧
      after.previous.lookup v = some current ∧
      (after.distance v).toNat < (base.distance v).toNat)
  relaxed : ∀ v w, Linked links current v w → v ∈ base.unvisited →
    (base.distance current).toNat + w < 65535 →
      (after.distance v).toNat ≤ (base.distance current).toNat + w

section Following

variable {links : List NetworkLink} {current : UInt16} {base self : Search}

theorem followed_nil : Followed [] current base base where
  unvisited := rfl
  changed := fun _ => .inl ⟨rfl, rfl⟩
  relaxed := by
    rintro v w ⟨link, hmem, -⟩
    cases hmem

theorem Followed.kept (h : Followed links current base self) {v : UInt16}
    (hv : v ∉ base.unvisited) :
    self.distance v = base.distance v ∧ self.previous.lookup v = base.previous.lookup v :=
  (h.changed v).resolve_right fun hmem => hv hmem.1

theorem Followed.distance_le (h : Followed links current base self) (v : UInt16) :
    (self.distance v).toNat ≤ (base.distance v).toNat := by
  obtain ⟨hsame, -⟩ | ⟨-, _, -, -, -, hless⟩ := h.changed v
  · rw [hsame]
  · exact Nat.le_of_lt hless

/-- One link more. -/
theorem Followed.relax (h : Followed links current base self) (hcurrent : current ∉ base.unvisited)
    (link : NetworkLink) :
    Followed (links ++ [link]) current base (self.relax current link) := by
  have hcost := toNat_saturatingAdd (self.distance current) link.cost
  rw [(h.kept hcurrent).1] at hcost
  have hbefore := h.changed
  obtain ⟨hsource, hneighbor, hnearer, hrelax⟩ | ⟨hrelax, hfar⟩ := relax_cases current self link
  · rw [(h.kept hcurrent).1] at hnearer hrelax
    have hless := UInt16.lt_iff_toNat_lt.mp hnearer
    have hbound := (self.distance link.destinationNetwork).toNat_lt
    -- What is less than a distance was not cut off.
    have hexact : (saturatingAdd (base.distance current) link.cost).toNat
        = (base.distance current).toNat + link.cost.toNat := by omega
    rw [h.unvisited] at hneighbor
    rw [hrelax]
    refine ⟨h.unvisited, ?_, ?_⟩
    · intro v
      rw [distance_insert, KeyedTable.lookup_insert_eq_ite]
      by_cases hv : v = link.destinationNetwork
      · rw [if_pos hv, if_pos hv, hv]
        have hlinked : Linked (links ++ [link]) current link.destinationNetwork link.cost.toNat :=
          ⟨link, List.mem_append_right links List.mem_cons_self, hsource, rfl, rfl⟩
        exact .inr ⟨hneighbor, link.cost.toNat, hlinked, hexact, rfl,
          Nat.lt_of_lt_of_le hless (h.distance_le _)⟩
      · rw [if_neg hv, if_neg hv]
        exact (h.changed v).imp_right fun ⟨hmem, w, hlinked, hrest⟩ =>
          ⟨hmem, w, hlinked.append, hrest⟩
    · rintro v w ⟨followed, hmem, hfrom, hto, hw⟩ hv hlt
      rw [distance_insert]
      -- Links that were followed before: the distance has only become less since.
      obtain hold | hnew := List.mem_append.mp hmem
      · have hle := h.relaxed v w ⟨followed, hold, hfrom, hto, hw⟩ hv hlt
        split
        · rename_i hsame
          rw [hsame] at hle
          omega
        · exact hle
      · rw [List.mem_singleton.mp hnew] at hto hw
        rw [if_pos hto.symm, hexact, hw]
  · rw [hrelax]
    refine ⟨h.unvisited, ?_, ?_⟩
    · intro v
      exact (h.changed v).imp_right fun ⟨hmem, w, hlinked, hrest⟩ =>
        ⟨hmem, w, hlinked.append, hrest⟩
    · rintro v w ⟨followed, hmem, hfrom, hto, hw⟩ hv hlt
      obtain hold | hnew := List.mem_append.mp hmem
      · exact h.relaxed v w ⟨followed, hold, hfrom, hto, hw⟩ hv hlt
      · rw [List.mem_singleton.mp hnew] at hfrom hto hw
        have hle := UInt16.le_iff_toNat_le.mp (hfar hfrom (by rwa [hto, h.unvisited]))
        rw [(h.kept hcurrent).1, hto] at hle
        omega

/-- All the links. -/
theorem Followed.follow (h : Followed links current base self)
    (hcurrent : current ∉ base.unvisited) (more : List NetworkLink) :
    Followed (links ++ more) current base (more.foldl (Search.relax current) self) := by
  induction more generalizing links self with
  | nil =>
      rw [List.append_nil]
      exact h
  | cons link rest ih =>
      have hrest := ih (h.relax hcurrent link)
      rwa [List.append_assoc] at hrest

end Following

/-- **A round follows the links out of the network that it visits.** -/
theorem visit_visits (topology : List NetworkLink) (current : UInt16) (self : Search) :
    Visits (Linked topology) 65535 current self.labels (self.visit topology current).labels := by
  have hcurrent : current ∉ self.unvisited.filter (· ≠ current) := by simp
  have hfollowed : Followed ([] ++ topology) current
      { self with unvisited := self.unvisited.filter (· ≠ current) }
      (self.visit topology current) := followed_nil.follow hcurrent topology
  rw [List.nil_append] at hfollowed
  have hkept : ∀ v, v ∉ self.unvisited.filter (· ≠ current) →
      (self.visit topology current).distance v = self.distance v ∧
        (self.visit topology current).previous.lookup v = self.previous.lookup v :=
    fun v hv => hfollowed.kept hv
  have hpending : ∀ v, v ∈ (self.visit topology current).unvisited ↔
      v ∈ self.unvisited.filter (· ≠ current) := fun v =>
    Iff.of_eq (congrArg (v ∈ ·) hfollowed.unvisited)
  refine ⟨?_, ?_, ?_, ?_⟩
  · intro v
    show v ∈ (self.visit topology current).unvisited ↔ v ∈ self.unvisited ∧ v ≠ current
    rw [hpending, List.mem_filter, decide_eq_true_iff]
  · intro v hv
    obtain ⟨hsame, hbefore⟩ := hkept v fun hmem => hv ((hpending v).mpr hmem)
    exact ⟨congrArg UInt16.toNat hsame, hbefore⟩
  · intro v
    obtain ⟨hsame, hbefore⟩ | ⟨-, w, hlinked, hcost, hfrom, hless⟩ := hfollowed.changed v
    · exact .inl ⟨congrArg UInt16.toNat hsame, hbefore⟩
    · exact .inr ⟨w, hlinked, hcost, hfrom, hless⟩
  · intro v w hlinked hv hlt
    exact hfollowed.relaxed v w hlinked ((hpending v).mp hv) hlt

theorem nearest_eq_none {self : Search} (h : self.nearest = none) : self.unvisited = [] :=
  List.argmin_eq_none.mp h

/-- No network that is not visited is nearer than the nearest one. -/
theorem nearest_eq_some {self : Search} {current : UInt16} (h : self.nearest = some current) :
    current ∈ self.unvisited ∧
      ∀ v ∈ self.unvisited, (self.distance current).toNat ≤ (self.distance v).toNat :=
  ⟨List.argmin_mem h, fun _ hmem =>
    List.le_of_mem_argmin (f := fun network => (self.distance network).toNat) hmem h⟩

/-- A distance that is not the largest number is less. -/
theorem toNat_lt_of_ne {distance : UInt16} (h : distance ≠ 0xFFFF) : distance.toNat < 65535 := by
  have hbound := distance.toNat_lt
  have hne : distance.toNat ≠ 65535 := fun heq => h (UInt16.toNat_inj.mp heq)
  omega

/-! ## §4. The way back -/

/-- The way back goes through what was visited before, as far as there is one. -/
theorem walkBack_traces {self : Search} {visited : List UInt16} (h : self.Chained visited)
    {network : UInt16} {later rest : List UInt16} (hvisited : visited = later ++ rest)
    (hfrom : ∀ before, self.previous.lookup network = some before → before ∈ rest)
    {steps : Nat} (hsteps : rest.length ≤ steps) :
    Traces self.labels.before network (walkBack self.previous steps network) := by
  induction steps generalizing network later rest with
  | zero =>
      have hlast : self.previous.lookup network = none := by
        rw [List.eq_nil_of_length_eq_zero (Nat.le_zero.mp hsteps)] at hfrom
        exact Option.eq_none_iff_forall_not_mem.mpr fun before hbefore =>
          List.not_mem_nil (hfrom before hbefore)
      exact .stop hlast
  | succ steps ih =>
      unfold walkBack
      cases hbefore : self.previous.lookup network with
      | none => exact .stop hbefore
      | some before =>
          obtain ⟨later', tail, hsuffix, hshorter, hnext⟩ := h.split hvisited (hfrom before hbefore)
          exact .step hbefore (ih hsuffix hnext (by omega))

/-! ## §5. The loop, with no bound on its passes -/

/-- A pass that goes on to another. -/
def Round (topology : List NetworkLink) (destination : UInt16) (self after : Search) : Prop :=
  ∃ current, self.nearest = some current ∧ self.distance current ≠ 0xFFFF ∧
    current ≠ destination ∧ after = self.visit topology current

/-- What the loop ends with, where it goes on to no other pass. -/
inductive Answers (source destination : UInt16) (self : Search) : Option (List UInt16) → Prop
  | exhausted (h : self.nearest = none) : Answers source destination self none
  | unreachable {current : UInt16} (h : self.nearest = some current)
      (hfar : self.distance current = 0xFFFF) : Answers source destination self none
  | arrived {back : List UInt16} (h : self.nearest = some destination)
      (hreached : self.distance destination ≠ 0xFFFF)
      (hback : Traces self.labels.before destination back) :
      Answers source destination self (some (back ++ [source]).reverse)

/-- The loop comes from `self` to an end, and `result` is its answer there. -/
def Ends (topology : List NetworkLink) (source destination : UInt16) (self : Search)
    (result : Option (List UInt16)) : Prop :=
  ∃ last, Relation.ReflTransGen (Round topology destination) self last ∧
    last.Answers source destination result

section Loop

variable {topology : List NetworkLink} {source destination : UInt16} {self after : Search}

/-- **The loop ends**, and the rounds that were counted out are all that it makes. -/
theorem rounds_ends {visited : List UInt16} {steps left : Nat} (h : self.Chained visited)
    (hleft : self.unvisited.length ≤ left)
    (hsteps : visited.length + self.unvisited.length ≤ steps) :
    Ends topology source destination self
      (rounds topology source destination steps left self) := by
  -- By induction on the rounds left, of which there are as many as networks unvisited.
  induction left generalizing self visited with
  | zero =>
      have hempty := List.eq_nil_of_length_eq_zero (Nat.le_zero.mp hleft)
      refine ⟨self, .refl, .exhausted ?_⟩
      unfold nearest
      rw [hempty]
      rfl
  | succ left ih =>
      unfold rounds
      cases hnearest : self.nearest with
      | none => exact ⟨self, .refl, .exhausted hnearest⟩
      | some current =>
          dsimp only
          split
          · rename_i hfar
            exact ⟨self, .refl, .unreachable hnearest hfar⟩
          rename_i hreached
          split
          · rename_i hsame
            subst hsame
            have hwalk : Traces self.labels.before current (walkBack self.previous steps current) :=
              walkBack_traces h (List.nil_append visited).symm (h.reached current) (by omega)
            exact ⟨self, .refl, .arrived hnearest hreached hwalk⟩
          · rename_i hother
            obtain ⟨hchained, hunvisited⟩ := h.visit topology current
            -- The nearest network is visited now, so one fewer is left.
            have hfewer : (self.unvisited.filter (· ≠ current)).length < self.unvisited.length := by
              apply List.length_filter_lt_length_iff_exists.mpr
              exact ⟨current, (nearest_eq_some hnearest).1, by simp⟩
            obtain ⟨last, hreach, hanswers⟩ := ih hchained (by rw [hunvisited]; omega)
              (by rw [hunvisited, List.length_cons]; omega)
            exact ⟨last, .head ⟨current, hnearest, hreached, hother, rfl⟩ hreach, hanswers⟩

/-- Each pass keeps the labels sound. -/
theorem Round.sound (h : Round topology destination self after)
    (hsound : Sound (Linked topology) source 65535 self.labels) :
    Sound (Linked topology) source 65535 after.labels := by
  obtain ⟨current, hnearest, -, -, rfl⟩ := h
  obtain ⟨hmem, hleast⟩ := nearest_eq_some hnearest
  exact hsound.visit hmem hleast (visit_visits topology current self)

/-- The destination is not visited. -/
theorem Round.awaits (h : Round topology destination self after)
    (hmem : destination ∈ self.unvisited) : destination ∈ after.unvisited := by
  obtain ⟨current, -, -, hother, rfl⟩ := h
  exact ((visit_visits topology current self).pending destination).mpr ⟨hmem, hother.symm⟩

theorem sound_of_reaches (h : Relation.ReflTransGen (Round topology destination) self after)
    (hsound : Sound (Linked topology) source 65535 self.labels) :
    Sound (Linked topology) source 65535 after.labels := by
  induction h with
  | refl => exact hsound
  | tail _ hround ih => exact hround.sound ih

theorem awaits_of_reaches (h : Relation.ReflTransGen (Round topology destination) self after)
    (hmem : destination ∈ self.unvisited) : destination ∈ after.unvisited := by
  induction h with
  | refl => exact hmem
  | tail _ hround ih => exact hround.awaits ih

end Loop

end Search

/-! ## §6. Shortest paths -/

/-- A path of links from `source` to `destination`, and what it costs. -/
structure Leads (topology : List NetworkLink) (source destination : UInt16) (path : List UInt16)
    (cost : Nat) : Prop where
  along : Along (Linked topology) path cost
  head : path.head? = some source
  last : path.getLast? = some destination

/-- A path that repeats no network, and none is cheaper. -/
def Shortest (topology : List NetworkLink) (source destination : UInt16) (path : List UInt16) :
    Prop :=
  path.Nodup ∧ ∃ cost, Leads topology source destination path cost ∧
    ∀ other c, Leads topology source destination other c → cost ≤ c

namespace Search

variable {topology : List NetworkLink} {source destination : UInt16} {self : Search}

/-- **A path that is returned is a shortest one.** -/
theorem Answers.shortest {path : List UInt16} (h : self.Answers source destination (some path))
    (hsound : Sound (Linked topology) source 65535 self.labels) :
    Shortest topology source destination path := by
  cases h with
  | @arrived back hnearest hreached hback =>
      obtain ⟨hmem, hleast⟩ := nearest_eq_some hnearest
      -- The destination is the nearest network, with a distance that was not cut off.
      have hlabel := toNat_lt_of_ne hreached
      obtain ⟨halong, hlast⟩ := hsound.along_of_traces hback hlabel
      have hsource : source ∉ back := fun hmem => hback.before_ne_none hmem hsound.source_before
      have hnodup : (back ++ [source]).Nodup := by
        rw [List.nodup_append]
        refine ⟨hback.nodup, List.pairwise_singleton _ _, ?_⟩
        rintro network hback' other hother rfl
        exact hsource (List.mem_singleton.mp hother ▸ hback')
      refine ⟨List.nodup_reverse.mpr hnodup, _, ⟨halong, by simp, hlast⟩, ?_⟩
      intro other c hother
      exact hsound.nearest_le hmem hlabel hleast hother.along hother.head hother.last

/-- **A network that can be reached for less than the largest number is.** -/
theorem Answers.found {result : Option (List UInt16)} (h : self.Answers source destination result)
    (hsound : Sound (Linked topology) source 65535 self.labels)
    (hmem : destination ∈ self.unvisited) {path : List UInt16} {cost : Nat}
    (hpath : Leads topology source destination path cost) (hcost : cost < 65535) :
    ∃ found, result = some found := by
  cases h with
  | arrived => exact ⟨_, rfl⟩
  | exhausted hnearest =>
      rw [nearest_eq_none hnearest] at hmem
      cases hmem
  | @unreachable current hnearest hfar =>
      -- On the path there is a network that is not visited and nearer than the largest number.
      obtain ⟨y, hy, hle⟩ := hsound.exists_pending_le hpath.along hpath.head hpath.last hmem hcost
      have hleast := (nearest_eq_some hnearest).2 y hy
      rw [hfar] at hleast
      exact absurd (Nat.lt_of_le_of_lt (Nat.le_trans hleast hle) hcost) (Nat.lt_irrefl _)

end Search

/-- A network is at itself. -/
theorem dijkstraShortestPath_same {topology : List NetworkLink} {source destination : UInt16}
    (h : source = destination) :
    dijkstraShortestPath topology source destination = some [source] := by
  unfold dijkstraShortestPath dijkstraWithin
  exact if_pos h

/-- **`dijkstra_shortest_path` finds shortest paths**: its loop ends, a path that it returns is a
shortest one, and there is one if the destination can be reached for less than the largest
number. -/
theorem dijkstra_shortest (topology : List NetworkLink) (source destination : UInt16) :
    (source ≠ destination →
      Search.Ends topology source destination (Search.start topology source)
        (dijkstraShortestPath topology source destination)) ∧
    (∀ path, dijkstraShortestPath topology source destination = some path →
      Shortest topology source destination path) ∧
    ∀ path cost, Leads topology source destination path cost → cost < 65535 →
      ∃ found, dijkstraShortestPath topology source destination = some found := by
  have hends : source ≠ destination →
      Search.Ends topology source destination (Search.start topology source)
        (dijkstraShortestPath topology source destination) := by
    intro hne
    unfold dijkstraShortestPath dijkstraWithin
    dsimp only
    rw [if_neg hne]
    refine Search.rounds_ends (Search.start_chained source) (Nat.le_refl _) ?_
    exact Nat.le_of_eq (Nat.zero_add _)
  have hsound := Search.start_sound topology source
  refine ⟨hends, ?_, ?_⟩
  · intro path hpath
    by_cases hsame : source = destination
    · rw [dijkstraShortestPath_same hsame] at hpath
      cases hpath
      exact ⟨List.pairwise_singleton _ _, 0, ⟨.single source, rfl, congrArg some hsame⟩,
        fun _ _ _ => Nat.zero_le _⟩
    · obtain ⟨last, hreaches, hanswers⟩ := hends hsame
      rw [hpath] at hanswers
      exact hanswers.shortest (Search.sound_of_reaches hreaches hsound)
  · intro path cost hleads hcost
    by_cases hsame : source = destination
    · exact ⟨[source], dijkstraShortestPath_same hsame⟩
    · obtain ⟨last, hreaches, hanswers⟩ := hends hsame
      -- A path to another network ends with a link, so that the search knows of its end.
      obtain ⟨network, w, hlinked⟩ := hleads.along.last_arc hleads.head hleads.last hsame
      exact hanswers.found (Search.sound_of_reaches hreaches hsound)
        (Search.awaits_of_reaches hreaches (mem_networksOf_of_linked hlinked).2) hleads hcost

end BacnetRs.Network
