/-
  BacnetRs.Library.ShortestPaths — labels that settle to shortest paths.

  A search for shortest paths gives every vertex a label, the cost of the best
  way to it that was found, and settles the vertices in the order of their
  labels.  What makes this right is said here of labels alone, whatever keeps
  them, for any arcs and costs.  A label of `cap` or more is none: costs may
  be cut off there.

    * `Along`            — a path, vertex by vertex, and its cost.
    * `Sound`            — what holds of the labels between two rounds.
    * `Sound.visit`      — a round that settles a nearest vertex keeps it.
    * `Sound.nearest_le` — no path to a nearest vertex costs less than its label.
    * `Traces.nodup`     — a way back that ends comes to nothing twice.
    * `Sound.along_of_traces`
                         — the way back along what each vertex was reached from
                           is a path that costs as much as the label says.
-/
import Mathlib.Data.List.Basic

namespace ShortestPaths

variable {V : Type*} {arc : V → V → Nat → Prop} {source : V} {cap : Nat}

/-! ## §1. Paths -/

/-- The vertices of a path and what its arcs cost together; `arc u v w` is an arc from `u` to `v`
of cost `w`. -/
inductive Along (arc : V → V → Nat → Prop) : List V → Nat → Prop
  | single (v : V) : Along arc [v] 0
  | cons {u v : V} {rest : List V} {w c : Nat} (first : arc u v w)
      (more : Along arc (v :: rest) c) :
      Along arc (u :: v :: rest) (w + c)

/-- One more arc at the end. -/
theorem Along.concat {path : List V} {c w : Nat} {u v : V} (h : Along arc path c)
    (hlast : path.getLast? = some u) (harc : arc u v w) : Along arc (path ++ [v]) (c + w) := by
  induction h with
  | single x =>
      cases hlast
      have halong : Along arc [x, v] (w + 0) := .cons harc (.single v)
      rw [Nat.add_comm] at halong
      exact halong
  | cons first more ih =>
      rw [Nat.add_assoc]
      exact .cons first (ih hlast)

/-- A path that goes anywhere ends with an arc. -/
theorem Along.last_arc {path : List V} {c : Nat} (h : Along arc path c) : ∀ {u v : V},
    path.head? = some u → path.getLast? = some v → u ≠ v → ∃ x w, arc x v w := by
  induction h with
  | single x =>
      intro u v hhead hlast hne
      cases hhead
      cases hlast
      exact absurd rfl hne
  | @cons x y rest w c first more ih =>
      intro u v _ hlast _
      by_cases hsame : y = v
      · exact ⟨x, w, hsame ▸ first⟩
      · exact ih rfl hlast hsame

/-! ## §2. Labels -/

/-- The vertices that are not settled yet, every vertex's label, and where it was reached from. -/
structure Labels (V : Type*) where
  pending : V → Prop
  label : V → Nat
  before : V → Option V

/-- What holds between two rounds. -/
structure Sound (arc : V → V → Nat → Prop) (source : V) (cap : Nat) (labels : Labels V) :
    Prop where
  source_label : labels.label source = 0
  source_before : labels.before source = none
  /-- Where a vertex was reached from is settled, and one arc away. -/
  traced : ∀ v u, labels.before v = some u →
    ¬ labels.pending u ∧ ∃ w, arc u v w ∧ labels.label v = labels.label u + w
  reached : ∀ v, labels.label v < cap → v ≠ source → ∃ u, labels.before v = some u
  /-- The arcs of what is settled were followed. -/
  relaxed : ∀ u v w, ¬ labels.pending u → arc u v w → labels.label u + w < cap →
    labels.label v ≤ labels.label u + w
  /-- What is settled is as near as anything that is not. -/
  ordered : ∀ x u w v, arc x u w → ¬ labels.pending u → labels.pending v →
    labels.label u ≤ labels.label v

/-- Before the first round only the source has a label. -/
theorem sound_start {labels : Labels V} (hsource : labels.label source = 0)
    (hother : ∀ v, v ≠ source → cap ≤ labels.label v) (hbefore : ∀ v, labels.before v = none)
    (hpending : ∀ u v w, arc u v w → labels.pending u ∧ labels.pending v) :
    Sound arc source cap labels where
  source_label := hsource
  source_before := hbefore source
  traced := by
    intro v u h
    rw [hbefore] at h
    cases h
  reached := by
    intro v hlt hne
    exact absurd hlt (Nat.not_lt.mpr (hother v hne))
  relaxed := by
    intro u v w hsettled harc
    exact absurd (hpending u v w harc).1 hsettled
  ordered := by
    intro x u w v harc hsettled
    exact absurd (hpending x u w harc).2 hsettled

/-! ## §3. A round -/

/-- `current` is settled, and the arcs out of it are followed to what is not. -/
structure Visits (arc : V → V → Nat → Prop) (cap : Nat) (current : V) (labels after : Labels V) :
    Prop where
  pending : ∀ v, after.pending v ↔ labels.pending v ∧ v ≠ current
  kept : ∀ v, ¬ after.pending v →
    after.label v = labels.label v ∧ after.before v = labels.before v
  changed : ∀ v, (after.label v = labels.label v ∧ after.before v = labels.before v) ∨
    ∃ w, arc current v w ∧ after.label v = labels.label current + w ∧
      after.before v = some current ∧ after.label v < labels.label v
  relaxed : ∀ v w, arc current v w → after.pending v → labels.label current + w < cap →
    after.label v ≤ labels.label current + w

section Round

variable {labels after : Labels V} {current : V}

/-- No label grows. -/
theorem Visits.label_le (h : Visits arc cap current labels after) (v : V) :
    after.label v ≤ labels.label v := by
  obtain ⟨hsame, -⟩ | ⟨_, -, -, -, hless⟩ := h.changed v
  · exact Nat.le_of_eq hsame
  · exact Nat.le_of_lt hless

/-- What is settled afterwards is `current`, or was settled before. -/
theorem Visits.settled (h : Visits arc cap current labels after) {v : V}
    (hsettled : ¬ after.pending v) : v = current ∨ ¬ labels.pending v := by
  by_cases hcurrent : v = current
  · exact .inl hcurrent
  · exact .inr fun hpending => hsettled ((h.pending v).mpr ⟨hpending, hcurrent⟩)

/-- **A round that settles a nearest vertex keeps the labels sound.** -/
theorem Sound.visit (h : Sound arc source cap labels) (hcurrent : labels.pending current)
    (hnearest : ∀ v, labels.pending v → labels.label current ≤ labels.label v)
    (hvisits : Visits arc cap current labels after) : Sound arc source cap after := by
  have hsettled : ¬ after.pending current :=
    fun hpending => ((hvisits.pending current).mp hpending).2 rfl
  have hlabel := (hvisits.kept current hsettled).1
  refine ⟨?source_label, ?source_before, ?traced, ?reached, ?relaxed, ?ordered⟩
  case source_label =>
    have hle := hvisits.label_le source
    rw [h.source_label] at hle
    exact Nat.le_zero.mp hle
  case source_before =>
    obtain ⟨-, hsame⟩ | ⟨_, -, -, -, hless⟩ := hvisits.changed source
    · rw [hsame]
      exact h.source_before
    · rw [h.source_label] at hless
      exact absurd hless (Nat.not_lt_zero _)
  case traced =>
    intro v u hbefore
    obtain ⟨hsame, hsameBefore⟩ | ⟨w, harc, hlower, hfrom, -⟩ := hvisits.changed v
    · rw [hsameBefore] at hbefore
      obtain ⟨hdone, w, harc, hcost⟩ := h.traced v u hbefore
      have hdone' : ¬ after.pending u := fun hpending => hdone ((hvisits.pending u).mp hpending).1
      exact ⟨hdone', w, harc, by rw [hsame, (hvisits.kept u hdone').1, hcost]⟩
    · rw [hfrom] at hbefore
      cases hbefore
      exact ⟨hsettled, w, harc, by rw [hlower, hlabel]⟩
  case reached =>
    intro v hlt hne
    obtain ⟨hsame, hsameBefore⟩ | ⟨_, -, -, hfrom, -⟩ := hvisits.changed v
    · rw [hsameBefore]
      exact h.reached v (hsame ▸ hlt) hne
    · exact ⟨current, hfrom⟩
  case relaxed =>
    intro u v w hdone harc hlt
    rw [(hvisits.kept u hdone).1] at hlt ⊢
    obtain rfl | hbefore := hvisits.settled hdone
    · by_cases hpending : after.pending v
      · exact hvisits.relaxed v w harc hpending hlt
      -- What was settled before is no further away than what is settled now.
      rw [(hvisits.kept v hpending).1]
      obtain rfl | hv := hvisits.settled hpending
      · exact Nat.le_add_right _ _
      · exact Nat.le_trans (h.ordered u v w u harc hv hcurrent) (Nat.le_add_right _ _)
    · exact Nat.le_trans (hvisits.label_le v) (h.relaxed u v w hbefore harc hlt)
  case ordered =>
    -- A label that was lowered is no lower than `current`'s, and that is the largest settled.
    intro x u w v harc hdone hpending
    obtain ⟨hv, -⟩ := (hvisits.pending v).mp hpending
    have hu : labels.label u ≤ labels.label current := by
      obtain rfl | hbefore := hvisits.settled hdone
      · exact Nat.le_refl _
      · exact h.ordered x u w current harc hbefore hcurrent
    rw [(hvisits.kept u hdone).1]
    obtain ⟨hsame, -⟩ | ⟨w', -, hlower, -⟩ := hvisits.changed v
    · rw [hsame]
      exact Nat.le_trans hu (hnearest v hv)
    · rw [hlower]
      exact Nat.le_trans hu (Nat.le_add_right _ _)

end Round

/-! ## §4. Shortest paths -/

section Shortest

variable {labels : Labels V}

/-- Along a path from what is settled, the end is settled with a label that is no more than it
costs, or something that is not settled has such a label. -/
theorem Sound.frontier (h : Sound arc source cap labels) {path : List V} {c : Nat}
    (hpath : Along arc path c) : ∀ {u v : V} {paid : Nat}, path.head? = some u →
      path.getLast? = some v → ¬ labels.pending u → labels.label u ≤ paid → paid + c < cap →
        (¬ labels.pending v ∧ labels.label v ≤ paid + c) ∨
          ∃ y, labels.pending y ∧ labels.label y ≤ paid + c := by
  induction hpath with
  | single x =>
      intro u v paid hhead hlast hsettled hle _
      cases hhead
      cases hlast
      exact .inl ⟨hsettled, hle⟩
  | @cons x y rest w c harc _ ih =>
      intro u v paid hhead hlast hsettled hle hlt
      cases hhead
      -- The arc out of `x` was followed; what it leads to is settled, and the path goes on from
      -- there, or it is the frontier.
      have hy : labels.label y ≤ paid + w :=
        Nat.le_trans (h.relaxed x y w hsettled harc (by omega)) (by omega)
      by_cases hpending : labels.pending y
      · exact .inr ⟨y, hpending, by omega⟩
      · have hrest := ih rfl hlast hpending hy (by omega)
        rwa [Nat.add_assoc] at hrest

/-- On a path from the source to what is not settled there is a label no more than its cost. -/
theorem Sound.exists_pending_le (h : Sound arc source cap labels) {path : List V} {c : Nat}
    (hpath : Along arc path c) {v : V} (hhead : path.head? = some source)
    (hlast : path.getLast? = some v) (hv : labels.pending v) (hlt : c < cap) :
    ∃ y, labels.pending y ∧ labels.label y ≤ c := by
  by_cases hsource : labels.pending source
  · exact ⟨source, hsource, by rw [h.source_label]; exact Nat.zero_le _⟩
  · have hfrontier := h.frontier hpath hhead hlast hsource (Nat.le_of_eq h.source_label) (by omega)
    rw [Nat.zero_add] at hfrontier
    exact hfrontier.resolve_left fun hsettled => hsettled.1 hv

/-- **No path to a nearest vertex costs less than its label.** -/
theorem Sound.nearest_le (h : Sound arc source cap labels) {current : V}
    (hcurrent : labels.pending current) (hlabel : labels.label current < cap)
    (hnearest : ∀ v, labels.pending v → labels.label current ≤ labels.label v) {path : List V}
    {c : Nat} (hpath : Along arc path c) (hhead : path.head? = some source)
    (hlast : path.getLast? = some current) : labels.label current ≤ c := by
  by_cases hlt : c < cap
  · obtain ⟨y, hy, hle⟩ := h.exists_pending_le hpath hhead hlast hcurrent hlt
    exact Nat.le_trans (hnearest y hy) hle
  · omega

/-- The vertices on the way back from `v`, but for the one where it ends. -/
inductive Traces (before : V → Option V) : V → List V → Prop
  | stop {v : V} (h : before v = none) : Traces before v []
  | step {v u : V} {back : List V} (h : before v = some u) (more : Traces before u back) :
      Traces before v (v :: back)

/-- Everything on the way back was reached from somewhere. -/
theorem Traces.before_ne_none {before : V → Option V} {v x : V} {back : List V}
    (h : Traces before v back) (hmem : x ∈ back) : before x ≠ none := by
  induction h with
  | stop => cases hmem
  | step hsome _ ih =>
      obtain rfl | hmore := List.mem_cons.mp hmem
      · rw [hsome]
        exact fun h => nomatch h
      · exact ih hmore

theorem Traces.unique {before : V → Option V} {v : V} {back other : List V}
    (h : Traces before v back) (hother : Traces before v other) : back = other := by
  induction h generalizing other with
  | stop hnone =>
      cases hother with
      | stop => rfl
      | step hsome =>
          rw [hnone] at hsome
          cases hsome
  | step hsome _ ih =>
      cases hother with
      | stop hnone =>
          rw [hnone] at hsome
          cases hsome
      | step hsame more =>
          rw [hsome] at hsame
          cases hsame
          rw [ih more]

/-- The way back from what is on it is no longer. -/
theorem Traces.of_mem {before : V → Option V} {v x : V} {back : List V}
    (h : Traces before v back) (hmem : x ∈ back) :
    ∃ rest, Traces before x rest ∧ rest.length ≤ back.length := by
  induction h with
  | stop => cases hmem
  | @step v u back hsome more ih =>
      obtain rfl | hmore := List.mem_cons.mp hmem
      · exact ⟨x :: back, .step hsome more, Nat.le_refl _⟩
      · obtain ⟨rest, hrest, hle⟩ := ih hmore
        exact ⟨rest, hrest, Nat.le_succ_of_le hle⟩

/-- A way back that ends comes to nothing twice. -/
theorem Traces.nodup {before : V → Option V} {v : V} {back : List V}
    (h : Traces before v back) : back.Nodup := by
  induction h with
  | stop => exact List.nodup_nil
  | @step v u back hsome more ih =>
      refine List.nodup_cons.mpr ⟨fun hmem => ?_, ih⟩
      obtain ⟨rest, hrest, hle⟩ := more.of_mem hmem
      rw [← Traces.unique (.step hsome more) hrest, List.length_cons] at hle
      exact absurd hle (Nat.not_succ_le_self _)

/-- **The way back, turned round, is a path from the source that costs as much as the label
says.** -/
theorem Sound.along_of_traces (h : Sound arc source cap labels) {v : V} {back : List V}
    (htraces : Traces labels.before v back) (hv : labels.label v < cap) :
    Along arc (back ++ [source]).reverse (labels.label v) ∧
      (back ++ [source]).reverse.getLast? = some v := by
  induction htraces with
  | @stop v hnone =>
      have hsource : v = source := by
        by_contra hne
        obtain ⟨u, hsome⟩ := h.reached v hv hne
        rw [hnone] at hsome
        cases hsome
      subst hsource
      rw [h.source_label]
      exact ⟨.single v, rfl⟩
  | @step v u back hsome more ih =>
      obtain ⟨-, w, harc, hcost⟩ := h.traced v u hsome
      obtain ⟨halong, hlast⟩ := ih (by omega)
      rw [List.cons_append, List.reverse_cons, hcost]
      exact ⟨halong.concat hlast harc, List.getLast?_concat⟩

end Shortest

end ShortestPaths
