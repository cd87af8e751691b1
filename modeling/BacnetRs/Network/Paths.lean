/-
  BacnetRs.Network.Paths — the shortest way from one network to another
  (`network/mod.rs`).

  `PathDiscovery` knows directed links with costs, finds shortest paths over
  them, and keeps what it found, by the network it leads to, until a link is
  added.  Where a path starts is not part of the key.

    * `dijkstraWithin_settled` — the loops end by themselves: more rounds change nothing.
    * `head_dijkstra`          — a path found starts at its source.
    * `PathDiscovery.Sound.step` — what is kept is a shortest path over the links there are.
    * `PathDiscovery.paths_current_iff`
                               — the answers of a run are all current exactly when no
                                 destination is asked for again from another source.
-/
import BacnetRs.Library.KeyedTable
import BacnetRs.Library.Machine
import BacnetRs.Network.Npdu
import Mathlib.Data.List.MinMax

namespace BacnetRs.Network

/-! ## §1. Links -/

/-- A directed link between two networks. -/
structure NetworkLink where
  sourceNetwork : UInt16
  destinationNetwork : UInt16
  cost : UInt16
  routerAddress : NetworkAddress
  deriving Repr, DecidableEq

/-- `u16::saturating_add`. -/
def saturatingAdd (x y : UInt16) : UInt16 :=
  if x.toNat + y.toNat < 65536 then x + y else 0xFFFF

/-- `BTreeSet::insert`, the members kept in ascending order. -/
def insertSorted (network : UInt16) : List UInt16 → List UInt16
  | [] => [network]
  | first :: rest =>
      if network < first then network :: first :: rest
      else if network = first then first :: rest
      else first :: insertSorted network rest

/-- The networks the links join. -/
def networksOf (topology : List NetworkLink) : List UInt16 :=
  topology.foldl (fun networks link =>
    insertSorted link.destinationNetwork (insertSorted link.sourceNetwork networks)) []

/-! ## §2. Dijkstra's algorithm -/

/-- The variables of the search. -/
structure Search where
  distances : KeyedTable UInt16 UInt16
  previous : KeyedTable UInt16 UInt16
  unvisited : List UInt16

namespace Search

/-- The search before its first round: every network is as far as can be, but the source. -/
def start (topology : List NetworkLink) (source : UInt16) : Search where
  distances := (topology.foldl (fun (distances : KeyedTable UInt16 UInt16) link =>
    (distances.insert link.sourceNetwork 0xFFFF).insert link.destinationNetwork 0xFFFF) ∅).insert
      source 0
  previous := ∅
  unvisited := networksOf topology

/-- `distances.get(&node).unwrap_or(&u16::MAX)`. -/
def distance (self : Search) (network : UInt16) : UInt16 :=
  (self.distances.lookup network).getD 0xFFFF

/-- The unvisited network that is nearest, the first one of several (`min_by_key`). -/
def nearest (self : Search) : Option UInt16 :=
  self.unvisited.argmin (fun network => (self.distance network).toNat)

/-- Follow one link out of `current`. -/
def relax (current : UInt16) (self : Search) (link : NetworkLink) : Search :=
  if link.sourceNetwork = current then
    let neighbor := link.destinationNetwork
    if neighbor ∈ self.unvisited then
      let newDistance := saturatingAdd (self.distance current) link.cost
      if newDistance < self.distance neighbor then
        { self with
          distances := self.distances.insert neighbor newDistance
          previous := self.previous.insert neighbor current }
      else self
    else self
  else self

/-- Visit `current`: it is done with, and its links are followed. -/
def visit (topology : List NetworkLink) (current : UInt16) (self : Search) : Search :=
  topology.foldl (relax current) { self with unvisited := self.unvisited.filter (· ≠ current) }

/-- The networks on the way back from `network`, for at most `steps` of them. -/
def walkBack (previous : KeyedTable UInt16 UInt16) : Nat → UInt16 → List UInt16
  | 0, _ => []
  | steps + 1, network =>
      match previous.lookup network with
      | none => []
      | some before => network :: walkBack previous steps before

/-- The rounds of the search, at most `rounds` of them, and `steps` on the way back. -/
def rounds (topology : List NetworkLink) (source destination : UInt16) (steps : Nat) :
    Nat → Search → Option (List UInt16)
  | 0, _ => none
  | rest + 1, self =>
      match self.nearest with
      | none => none
      | some current =>
          -- The nearest is out of reach, and so is everything farther.
          if self.distance current = 0xFFFF then none
          else if current = destination then
            some (walkBack self.previous steps destination ++ [source]).reverse
          else rounds topology source destination steps rest (self.visit topology current)

end Search

/-- `dijkstra_shortest_path`, its two loops cut off after `rounds` and `steps` passes. -/
def dijkstraWithin (rounds steps : Nat) (topology : List NetworkLink)
    (source destination : UInt16) : Option (List UInt16) :=
  if source = destination then some [source]
  else Search.rounds topology source destination steps rounds (Search.start topology source)

/-- `dijkstra_shortest_path`.  Each round visits another network, and the way back never
comes to a network twice, so there are as many passes as the loops can make. -/
def dijkstraShortestPath (topology : List NetworkLink) (source destination : UInt16) :
    Option (List UInt16) :=
  let networks := (networksOf topology).length
  dijkstraWithin networks networks topology source destination

/-! ## §3. The loops end by themselves -/

namespace Search

variable {topology : List NetworkLink} {self : Search} {visited : List UInt16}
  {current network : UInt16}

/-- Every network was reached from one that was visited before it; `visited` has the latest
first. -/
structure Chained (search : Search) (visited : List UInt16) : Prop where
  reached : ∀ network before, search.previous.lookup network = some before → before ∈ visited
  earlier : ∀ later network rest, visited = later ++ network :: rest →
    ∀ before, search.previous.lookup network = some before → before ∈ rest
  unvisited : ∀ network ∈ search.unvisited, network ∉ visited

theorem start_chained (source : UInt16) : (start topology source).Chained [] where
  reached := by simp [start]
  earlier := by simp
  unvisited := by simp

/-- Following a link reaches networks that are not visited yet, from the one that is. -/
theorem Chained.relax (h : self.Chained (current :: visited)) (link : NetworkLink) :
    (self.relax current link).Chained (current :: visited)
      ∧ (self.relax current link).unvisited = self.unvisited := by
  unfold Search.relax
  by_cases hsource : link.sourceNetwork = current
  · rw [if_pos hsource]
    simp only
    by_cases hneighbor : link.destinationNetwork ∈ self.unvisited
    · rw [if_pos hneighbor]
      by_cases hnearer : saturatingAdd (self.distance current) link.cost
          < self.distance link.destinationNetwork
      · rw [if_pos hnearer]
        refine ⟨⟨?_, ?_, h.unvisited⟩, rfl⟩
        · intro network before hbefore
          rw [KeyedTable.lookup_insert_eq_ite] at hbefore
          split at hbefore
          · cases hbefore
            exact List.mem_cons_self
          · exact h.reached network before hbefore
        · intro later network rest hvisited before hbefore
          -- What is visited is not reached again.
          have hother : network ≠ link.destinationNetwork := by
            intro heq
            apply h.unvisited link.destinationNetwork hneighbor
            rw [hvisited, ← heq]
            simp
          rw [KeyedTable.lookup_insert_eq_ite, if_neg hother] at hbefore
          exact h.earlier later network rest hvisited before hbefore
      · rw [if_neg hnearer]
        exact ⟨h, rfl⟩
    · rw [if_neg hneighbor]
      exact ⟨h, rfl⟩
  · rw [if_neg hsource]
    exact ⟨h, rfl⟩

theorem Chained.follow (h : self.Chained (current :: visited)) (links : List NetworkLink) :
    (links.foldl (Search.relax current) self).Chained (current :: visited)
      ∧ (links.foldl (Search.relax current) self).unvisited = self.unvisited := by
  induction links generalizing self with
  | nil => exact ⟨h, rfl⟩
  | cons link rest ih =>
      obtain ⟨hchained, hunvisited⟩ := h.relax link
      obtain ⟨hall, hsame⟩ := ih hchained
      exact ⟨hall, hsame.trans hunvisited⟩

/-- **A round visits one more network.** -/
theorem Chained.visit (h : self.Chained visited) (topology : List NetworkLink)
    (current : UInt16) :
    (self.visit topology current).Chained (current :: visited)
      ∧ (self.visit topology current).unvisited = self.unvisited.filter (· ≠ current) := by
  apply Chained.follow
  constructor
  · intro other before hbefore
    exact List.mem_cons_of_mem current (h.reached other before hbefore)
  · intro later network rest hvisited before hbefore
    cases later with
    | nil =>
        cases hvisited
        exact h.reached current before hbefore
    | cons first later =>
        cases hvisited
        exact h.earlier later network rest rfl before hbefore
  · intro network hnetwork
    obtain ⟨hmem, hother⟩ := List.mem_filter.mp hnetwork
    rw [List.mem_cons, not_or]
    exact ⟨of_decide_eq_true hother, h.unvisited network hmem⟩

/-- From a network that was visited the way back goes on through what was visited before it. -/
theorem Chained.split (h : self.Chained visited) {later rest : List UInt16} {before : UInt16}
    (hvisited : visited = later ++ rest) (hmem : before ∈ rest) :
    ∃ later' tail, visited = later' ++ tail ∧ tail.length < rest.length ∧
      ∀ earlier, self.previous.lookup before = some earlier → earlier ∈ tail := by
  obtain ⟨between, tail, hrest⟩ := List.append_of_mem hmem
  have hplace : visited = (later ++ between) ++ before :: tail := by
    rw [hvisited, hrest, List.append_assoc]
  refine ⟨later ++ between ++ [before], tail, ?_, ?_, h.earlier _ before tail hplace⟩
  · rw [hplace, List.append_assoc _ [before] tail]
    rfl
  · rw [hrest, List.length_append, List.length_cons]
    omega

/-- The way back from a network goes through what was visited before it, so it is no longer
than that. -/
theorem walkBack_settled (h : self.Chained visited) {later rest : List UInt16}
    (hvisited : visited = later ++ rest)
    (hfrom : ∀ before, self.previous.lookup network = some before → before ∈ rest)
    {steps : Nat} (hsteps : rest.length ≤ steps) (more : Nat) :
    walkBack self.previous (steps + more) network = walkBack self.previous steps network := by
  induction steps generalizing later rest network with
  | zero =>
      have hlast : self.previous.lookup network = none := by
        cases hbefore : self.previous.lookup network with
        | none => rfl
        | some before =>
            have hmem := hfrom before hbefore
            rw [List.eq_nil_of_length_eq_zero (Nat.le_zero.mp hsteps)] at hmem
            cases hmem
      rw [Nat.zero_add]
      cases more with
      | zero => rfl
      | succ more =>
          unfold walkBack
          rw [hlast]
  | succ steps ih =>
      rw [show steps + 1 + more = (steps + more) + 1 by omega]
      unfold walkBack
      cases hbefore : self.previous.lookup network with
      | none => rfl
      | some before =>
          obtain ⟨later', tail, hsuffix, hshorter, hnext⟩ := h.split hvisited (hfrom before hbefore)
          show network :: walkBack self.previous (steps + more) before = _
          rw [ih hsuffix hnext (by omega)]

/-- The rounds end when there is nothing left to visit. -/
theorem rounds_settled {source destination : UInt16} {steps left : Nat}
    (h : self.Chained visited) (hleft : self.unvisited.length ≤ left)
    (hsteps : visited.length + self.unvisited.length ≤ steps) (more further : Nat) :
    rounds topology source destination (steps + further) (left + more) self
      = rounds topology source destination steps left self := by
  induction left generalizing self visited with
  | zero =>
      have hnone : self.nearest = none := by
        unfold nearest
        rw [List.eq_nil_of_length_eq_zero (Nat.le_zero.mp hleft)]
        rfl
      rw [Nat.zero_add]
      cases more with
      | zero => rfl
      | succ more =>
          unfold rounds
          rw [hnone]
  | succ left ih =>
      rw [show left + 1 + more = (left + more) + 1 by omega]
      unfold rounds
      cases hnearest : self.nearest with
      | none => rfl
      | some current =>
          have hmem : current ∈ self.unvisited := List.argmin_mem hnearest
          obtain ⟨hchained, hunvisited⟩ := h.visit topology current
          have hfewer : (self.unvisited.filter (· ≠ current)).length < self.unvisited.length := by
            apply List.length_filter_lt_length_iff_exists.mpr
            exact ⟨current, hmem, by simp⟩
          -- The destination was reached from what is visited, like any other network.
          have hwalk : walkBack self.previous (steps + further) destination
              = walkBack self.previous steps destination :=
            walkBack_settled h (List.nil_append visited).symm (h.reached destination)
              (by omega) further
          have hrest := ih hchained (by rw [hunvisited]; omega)
            (by rw [hunvisited, List.length_cons]; omega)
          simp only [hwalk, hrest]

end Search

/-- **The loops end by themselves**: they are done after as many passes as there are networks. -/
theorem dijkstraWithin_settled {rounds steps : Nat} (topology : List NetworkLink)
    (source destination : UInt16) (hrounds : (networksOf topology).length ≤ rounds)
    (hsteps : (networksOf topology).length ≤ steps) :
    dijkstraWithin rounds steps topology source destination
      = dijkstraShortestPath topology source destination := by
  obtain ⟨more, rfl⟩ := Nat.le.dest hrounds
  obtain ⟨further, rfl⟩ := Nat.le.dest hsteps
  unfold dijkstraShortestPath dijkstraWithin
  by_cases hsame : source = destination
  · simp only [hsame, if_true]
  · simp only [hsame, if_false]
    have hbound : ([] : List UInt16).length + (Search.start topology source).unvisited.length
        ≤ (networksOf topology).length := by
      simp [Search.start]
    exact Search.rounds_settled (Search.start_chained source) (Nat.le_refl _) hbound more further

/-- Two links, and more passes than there are networks. -/
theorem dijkstraWithin_settled_two :
    dijkstraWithin 7 9 [⟨1, 2, 1, ⟨0, []⟩⟩, ⟨2, 3, 1, ⟨0, []⟩⟩] 1 3
      = dijkstraShortestPath [⟨1, 2, 1, ⟨0, []⟩⟩, ⟨2, 3, 1, ⟨0, []⟩⟩] 1 3 :=
  dijkstraWithin_settled _ 1 3 (by decide) (by decide)

/-! ## §4. Paths start at their source -/

theorem Search.head_rounds {topology : List NetworkLink} {source destination : UInt16}
    {steps left : Nat} {self : Search} {path : List UInt16}
    (h : rounds topology source destination steps left self = some path) :
    path.head? = some source := by
  induction left generalizing self with
  | zero => cases h
  | succ left ih =>
      unfold rounds at h
      cases hnearest : self.nearest with
      | none =>
          rw [hnearest] at h
          cases h
      | some current =>
          rw [hnearest] at h
          simp only at h
          split at h
          · cases h
          · split at h
            · cases h
              simp
            · exact ih h

theorem head_dijkstra {topology : List NetworkLink} {source destination : UInt16}
    {path : List UInt16} (h : dijkstraShortestPath topology source destination = some path) :
    path.head? = some source := by
  unfold dijkstraShortestPath dijkstraWithin at h
  split at h
  · cases h
    rfl
  · exact Search.head_rounds h

/-! ## §5. What is kept -/

/-- `PathDiscovery`: the links, and the paths found, by destination. -/
structure PathDiscovery where
  networkTopology : List NetworkLink
  pathCache : List (UInt16 × List UInt16)
  deriving Repr, DecidableEq

namespace PathDiscovery

/-- `PathDiscovery::new`. -/
def new : PathDiscovery := ⟨[], []⟩

/-- `add_link`: a link replaces the one between the same networks, and what was found is
dropped. -/
def addLink (self : PathDiscovery) (link : NetworkLink) : PathDiscovery where
  networkTopology := self.networkTopology.filter (fun known =>
    !(known.sourceNetwork == link.sourceNetwork
      && known.destinationNetwork == link.destinationNetwork)) ++ [link]
  pathCache := []

/-- The path kept for `destination`. -/
def cached (self : PathDiscovery) (destination : UInt16) : Option (List UInt16) :=
  (self.pathCache.find? (fun entry => entry.1 == destination)).map Prod.snd

/-- `find_path`. -/
def findPath (self : PathDiscovery) (source destination : UInt16) :
    PathDiscovery × Option (List UInt16) :=
  match self.cached destination with
  | some path => (self, some path)
  | none =>
      match dijkstraShortestPath self.networkTopology source destination with
      | some path =>
          ({ self with pathCache := self.pathCache ++ [(destination, path)] }, some path)
      | none => (self, none)

/-- `clear_cache`. -/
def clearCache (self : PathDiscovery) : PathDiscovery := { self with pathCache := [] }

/-- A call on a `PathDiscovery`. -/
inductive Call where
  | addLink (link : NetworkLink)
  | findPath (source destination : UInt16)
  | clearCache
  deriving Repr, DecidableEq

/-- The state after a call; every call can be made. -/
def step (self : PathDiscovery) : Call → Option PathDiscovery
  | .addLink link => some (self.addLink link)
  | .findPath source destination => some (self.findPath source destination).1
  | .clearCache => some self.clearCache

/-- The call answers as the algorithm does on the links there are. -/
def Current (self : PathDiscovery) : Call → Prop
  | .findPath source destination =>
      (self.findPath source destination).2
        = dijkstraShortestPath self.networkTopology source destination
  | _ => True

/-- What is kept for the destination, if anything, starts at the source asked for. -/
def SameSource (self : PathDiscovery) : Call → Prop
  | .findPath source destination =>
      ∀ path ∈ self.cached destination, path.head? = some source
  | _ => True

instance (self : PathDiscovery) : ∀ call : Call, Decidable (self.Current call)
  | .addLink _ => .isTrue trivial
  | .findPath source destination => inferInstanceAs (Decidable
      ((self.findPath source destination).2
        = dijkstraShortestPath self.networkTopology source destination))
  | .clearCache => .isTrue trivial

/-- Every path kept is the shortest one, from some source, over the links there are. -/
def Sound (self : PathDiscovery) : Prop :=
  ∀ entry ∈ self.pathCache, ∃ source,
    dijkstraShortestPath self.networkTopology source entry.1 = some entry.2

theorem Sound.cached {self : PathDiscovery} (h : self.Sound) {destination : UInt16}
    {path : List UInt16} (hcached : self.cached destination = some path) :
    ∃ source, dijkstraShortestPath self.networkTopology source destination = some path := by
  obtain ⟨entry, hfound, rfl⟩ := Option.map_eq_some_iff.mp hcached
  have hkey : entry.1 = destination := by simpa using List.find?_some hfound
  rw [← hkey]
  exact h entry (List.mem_of_find?_eq_some hfound)

/-- **Each call keeps what is kept sound**: a path is kept as it was found, and none survives
a change of the links. -/
theorem Sound.step {self after : PathDiscovery} (h : self.Sound) {call : Call}
    (hstep : self.step call = some after) : after.Sound := by
  cases call with
  | addLink link =>
      cases hstep
      intro entry hentry
      cases hentry
  | clearCache =>
      cases hstep
      intro entry hentry
      cases hentry
  | findPath source destination =>
      cases hstep
      unfold findPath
      cases hcached : self.cached destination with
      | some path => exact h
      | none =>
          cases hpath : dijkstraShortestPath self.networkTopology source destination with
          | none => exact h
          | some path =>
              intro entry hentry
              rcases List.mem_append.mp hentry with hold | hnew
              · exact h entry hold
              · rw [List.mem_singleton.mp hnew]
                exact ⟨source, hpath⟩

/-- An answer is the current one exactly when what is kept starts where it should. -/
theorem Sound.current_iff {self : PathDiscovery} (h : self.Sound) (call : Call) :
    self.Current call ↔ self.SameSource call := by
  cases call with
  | addLink link => exact Iff.rfl
  | clearCache => exact Iff.rfl
  | findPath source destination =>
      show (self.findPath source destination).2 = _ ↔ _
      unfold findPath SameSource
      simp only
      cases hcached : self.cached destination with
      | none =>
          have hnothing : ∀ path ∈ (none : Option (List UInt16)), path.head? = some source := by
            simp
          cases hpath : dijkstraShortestPath self.networkTopology source destination with
          | none => exact ⟨fun _ => hnothing, fun _ => rfl⟩
          | some path => exact ⟨fun _ => hnothing, fun _ => rfl⟩
      | some path =>
          obtain ⟨origin, horigin⟩ := h.cached hcached
          have hhead : path.head? = some origin := head_dijkstra horigin
          simp only [Option.mem_def, Option.some.injEq, forall_eq']
          constructor
          · intro hcurrent
            exact head_dijkstra hcurrent.symm
          · intro hsource
            rw [Option.some.inj (hsource.symm.trans hhead)]
            exact horigin.symm

/-! ## §6. Whole runs -/

/-- **The answers of a run are all current exactly when no destination is asked for again from
another source**, as long as what was found from the first one is kept. -/
theorem paths_current_iff (calls : List Call) :
    Machine.Throughout step Current new calls ↔ Machine.Throughout step SameSource new calls := by
  have hnew : new.Sound := fun entry hentry => by cases hentry
  exact Machine.throughout_iff (fun self call hsound => Sound.current_iff hsound call)
    (fun self call after _ hsound hstep => Sound.step hsound hstep) hnew

/-- Two networks with a link to a third: what was found from the first is given to the second. -/
theorem asked_from_another_source :
    ¬ Machine.Throughout step Current new
      [.addLink ⟨1, 3, 1, ⟨0, []⟩⟩, .addLink ⟨2, 3, 1, ⟨0, []⟩⟩, .findPath 1 3, .findPath 2 3] := by
  decide +kernel

end PathDiscovery

end BacnetRs.Network
