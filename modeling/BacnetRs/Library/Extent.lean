/-
  BacnetRs.Library.Extent — content written to at any offset.

  A content is a list that grows when it is written behind its end: what was
  not written yet and lies before the write is filled with one value.  The
  file says what one write leaves, position by position, and what any
  sequence of writes leaves:

    * `overlaid_iff`      — the rules of one write determine what it leaves.
    * `eq_of_read`        — a content is its length and what its positions read.
    * `read_overlayAll`   — after any writes, a position reads the last value
                            written over it, and otherwise what it read before.
    * `length_overlayAll` — the content then reaches to the farthest end.
-/
import BacnetRs.Library.Octets

namespace Extent

variable {ε α : Type}

/-! ## §1. One write -/

/-- `vec.resize(newLength, fill)`. -/
def resize (content : List α) (newLength : Nat) (fill : α) : List α :=
  content.take newLength ++ List.replicate (newLength - content.length) fill

/-- `content[i..j].copy_from_slice(source)`. -/
def copyInto (content : List α) (i j : Nat) (source : List α) : Checked ε (List α) :=
  if i ≤ j ∧ j ≤ content.length ∧ source.length = j - i then
    .ok (content.take i ++ source ++ content.drop j)
  else .error .panic

/-- The content with `values` from `start` on, and `fill` in the gap before them. -/
def overlay (fill : α) (content : List α) (start : Nat) (values : List α) : List α :=
  content.take start ++ List.replicate (start - content.length) fill
    ++ values ++ content.drop (start + values.length)

/-- `after` is `content` with `values` written from `start` on. -/
structure Overlaid (fill : α) (content : List α) (start : Nat) (values after : List α) :
    Prop where
  held : ∀ i, i < values.length → after[start + i]? = values[i]?
  kept : ∀ i, i < start → i < content.length → after[i]? = content[i]?
  filled : ∀ i, i < start → content.length ≤ i → after[i]? = some fill
  behind : ∀ i, start + values.length ≤ i → after[i]? = content[i]?

/-- What the position `i` reads, with `fill` where the content has not come to. -/
def read (fill : α) (content : List α) (i : Nat) : α := content[i]?.getD fill

theorem length_overlay (fill : α) (content : List α) (start : Nat) (values : List α) :
    (overlay fill content start values).length
      = max content.length (start + values.length) := by
  unfold overlay
  simp only [List.length_append, List.length_take, List.length_replicate, List.length_drop]
  omega

theorem overlaid_overlay (fill : α) (content : List α) (start : Nat) (values : List α) :
    Overlaid fill content start values (overlay fill content start values) := by
  -- The front, with its gap, ends where the values begin.
  have hfront : (content.take start ++ List.replicate (start - content.length) fill).length
      = start := by
    rw [List.length_append, List.length_take, List.length_replicate]
    omega
  constructor
  · intro i hi
    unfold overlay
    rw [List.append_assoc _ values, List.getElem?_append_right (by omega), hfront,
      List.getElem?_append_left (by omega), Nat.add_sub_cancel_left]
  · intro i hi hwithin
    unfold overlay
    rw [List.append_assoc _ values, List.getElem?_append_left (by omega),
      List.getElem?_append_left (by rw [List.length_take]; omega), List.getElem?_take, if_pos hi]
  · intro i hi hgap
    unfold overlay
    rw [List.append_assoc _ values, List.getElem?_append_left (by omega),
      List.getElem?_append_right (by rw [List.length_take]; omega), List.length_take,
      List.getElem?_replicate, if_pos (by omega)]
  · intro i hi
    unfold overlay
    rw [List.getElem?_append_right (by rw [List.length_append]; omega), List.getElem?_drop,
      List.length_append, hfront]
    congr 1
    omega

/-- What was written is cut out again. -/
theorem slice_overlay (fill : α) (content : List α) (start : Nat) (values : List α) :
    ((overlay fill content start values).take (start + values.length)).drop start = values := by
  have hfront : (content.take start ++ List.replicate (start - content.length) fill).length
      = start := by
    rw [List.length_append, List.length_take, List.length_replicate]
    omega
  unfold overlay
  rw [List.take_left' (by rw [List.length_append, hfront]), List.drop_left' hfront]

/-- **The rules of a write determine what it leaves.** -/
theorem overlaid_iff {fill : α} {content : List α} {start : Nat} {values after : List α} :
    Overlaid fill content start values after ↔ after = overlay fill content start values := by
  constructor
  · intro h
    have hoverlay := overlaid_overlay fill content start values
    apply List.ext_getElem?
    intro i
    by_cases hbefore : i < start
    · by_cases hwithin : i < content.length
      · rw [h.kept i hbefore hwithin, hoverlay.kept i hbefore hwithin]
      · rw [h.filled i hbefore (by omega), hoverlay.filled i hbefore (by omega)]
    · by_cases hbehind : start + values.length ≤ i
      · rw [h.behind i hbehind, hoverlay.behind i hbehind]
      · obtain ⟨offset, rfl⟩ := Nat.exists_eq_add_of_le (Nat.le_of_not_lt hbefore)
        rw [h.held offset (by omega), hoverlay.held offset (by omega)]
  · rintro rfl
    exact overlaid_overlay fill content start values

/-- A write made the way a growing vector is written to: extended first, then copied into. -/
theorem copyInto_resize (fill : α) (content : List α) (start : Nat) (values : List α) :
    (copyInto (if start + values.length > content.length
        then resize content (start + values.length) fill else content)
      start (start + values.length) values : Checked ε (List α))
      = .ok (overlay fill content start values) := by
  unfold copyInto overlay
  split
  next hshort =>
    -- What was there ends before the values do.
    have hlength : (resize content (start + values.length) fill).length
        = start + values.length := by
      unfold resize
      rw [List.length_append, List.length_take, List.length_replicate]
      omega
    have hfront : (resize content (start + values.length) fill).take start
        = content.take start ++ List.replicate (start - content.length) fill := by
      unfold resize
      rw [List.take_append, List.take_take, List.take_replicate, List.length_take]
      congr 2 <;> omega
    rw [if_pos (by omega), hfront, List.drop_of_length_le (by omega),
      List.drop_of_length_le (by omega)]
  next hlong =>
    have hnothing : start - content.length = 0 := by omega
    rw [if_pos (by omega), hnothing, List.replicate_zero, List.append_nil]

/-! ## §2. What positions read -/

/-- A content is its length and what its positions read. -/
theorem eq_of_read (fill : α) {content content' : List α}
    (hlength : content.length = content'.length)
    (hread : ∀ i, read fill content i = read fill content' i) : content = content' := by
  apply List.ext_getElem hlength
  intro i hi hi'
  have h := hread i
  unfold read at h
  rwa [List.getElem?_eq_getElem hi, List.getElem?_eq_getElem hi'] at h

/-- A write is read where it was made, and nowhere else. -/
theorem read_overlay (fill : α) (content : List α) (start : Nat) (values : List α) (i : Nat) :
    read fill (overlay fill content start values) i
      = if start ≤ i ∧ i < start + values.length then read fill values (i - start)
        else read fill content i := by
  have h := overlaid_overlay fill content start values
  unfold read
  split
  next hover =>
    obtain ⟨offset, rfl⟩ := Nat.exists_eq_add_of_le hover.1
    rw [h.held offset (by omega), Nat.add_sub_cancel_left]
  next hbeside =>
    by_cases hbefore : i < start
    · by_cases hwithin : i < content.length
      · rw [h.kept i hbefore hwithin]
      · rw [h.filled i hbefore (by omega), List.getElem?_eq_none (by omega)]
        rfl
    · rw [h.behind i (by omega)]

/-- The same write made again leaves what the first one left. -/
theorem overlay_overlay (fill : α) (content : List α) (start : Nat) (values : List α) :
    overlay fill (overlay fill content start values) start values
      = overlay fill content start values := by
  apply eq_of_read fill
  · rw [length_overlay, length_overlay, Nat.max_assoc, Nat.max_self]
  · intro i
    rw [read_overlay, read_overlay]
    split <;> rfl

/-! ## §3. Any sequence of writes -/

/-- Writes, one after another. -/
def overlayAll (fill : α) (content : List α) (writes : List (Nat × List α)) : List α :=
  writes.foldl (fun reached write => overlay fill reached write.1 write.2) content

/-- The last value written over the position `i`, if one was. -/
def lastOver (i : Nat) : List (Nat × List α) → Option α
  | [] => none
  | write :: writes =>
      (lastOver i writes).or (if write.1 ≤ i then write.2[i - write.1]? else none)

/-- The farthest end of the writes. -/
def reach : List (Nat × List α) → Nat
  | [] => 0
  | write :: writes => max (write.1 + write.2.length) (reach writes)

theorem length_overlayAll (fill : α) (content : List α) (writes : List (Nat × List α)) :
    (overlayAll fill content writes).length = max content.length (reach writes) := by
  induction writes generalizing content with
  | nil => exact (Nat.max_eq_left (Nat.zero_le _)).symm
  | cons write writes ih =>
      show (overlayAll fill (overlay fill content write.1 write.2) writes).length = _
      rw [ih, length_overlay, Nat.max_assoc]
      rfl

/-- **A position reads the last value written over it**, and what it read before the writes if
there is none. -/
theorem read_overlayAll (fill : α) (content : List α) (writes : List (Nat × List α)) (i : Nat) :
    read fill (overlayAll fill content writes) i
      = (lastOver i writes).getD (read fill content i) := by
  induction writes generalizing content with
  | nil => rfl
  | cons write writes ih =>
      show read fill (overlayAll fill (overlay fill content write.1 write.2) writes) i
        = ((lastOver i writes).or _).getD _
      rw [ih, read_overlay]
      cases lastOver i writes with
      | some value => rfl
      | none =>
          -- No later write is over the position: this one is the last, or there is none.
          show (if _ then _ else _) = Option.getD (if _ then _ else _) _
          by_cases hstart : write.1 ≤ i
          · by_cases hend : i < write.1 + write.2.length
            · rw [if_pos ⟨hstart, hend⟩, if_pos hstart]
              unfold read
              rw [List.getElem?_eq_getElem (by omega)]
              rfl
            · rw [if_neg (fun h => hend h.2), if_pos hstart, List.getElem?_eq_none (by omega)]
              rfl
          · rw [if_neg (fun h => hstart h.1), if_neg hstart]
            rfl

end Extent
