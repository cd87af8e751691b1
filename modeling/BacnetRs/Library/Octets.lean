/-
  BacnetRs.Library.Octets — octet strings read with checked slices.

  A decoder that indexes a slice can end in three ways: a value, an error it
  reports, or a panic, when an index or a range lies outside the slice.
  `Checked` keeps the three apart, so that "never panics" stays a statement
  about the decoder and is not assumed by its type:

    * `bind_eq_ok`, `guard_eq_ok`  — when a computation returns a value.
    * `Ensures`, with `Ensures.bind` — postconditions of the value returned.
    * `Meets`, with `Meets.bind` — the same, of a computation that never panics.
    * `index`, `dropFrom`, `range` — `data[i]`, `data[i..]`, `data[i..j]`.
    * `beNat`, `beOctets`          — big-endian numerals of any width, each undoing the other.
    * `Reads`                      — a decoder undoes an encoding, with octets after it.
    * `chunks`                     — consecutive pieces of a fixed size.
-/
import Mathlib.Algebra.Group.Nat.Defs
import Mathlib.Data.List.Basic
import Mathlib.Data.List.Induction

/-- An octet string. -/
abbrev Bytes := List UInt8

/-- How a checked computation fails. -/
inductive Fault (ε : Type) where
  /-- An error the code reports. -/
  | error (e : ε)
  /-- An index or a range out of bounds, which unwinds the caller. -/
  | panic
  deriving Repr, DecidableEq

/-- A computation that may report an error or panic. -/
abbrev Checked (ε α : Type) := Except (Fault ε) α

namespace Checked

variable {ε ε' α : Type}

/-- Report an error. -/
def fail (e : ε) : Checked ε α := .error (.error e)

/-- A missing value is the error `e`. -/
def orFail (e : ε) : Option α → Checked ε α
  | some a => .ok a
  | none => fail e

/-- A computation that cannot panic. -/
def ofExcept : Except ε α → Checked ε α
  | .ok a => .ok a
  | .error e => fail e

/-- Translate the reported error; a panic stays a panic. -/
def mapErr (f : ε → ε') : Checked ε α → Checked ε' α
  | .ok a => .ok a
  | .error (.error e) => .error (.error (f e))
  | .error .panic => .error .panic

/-- The value, when there is one and the computation did not panic. -/
def okPart : Checked ε α → Option α
  | .ok a => some a
  | .error _ => none

/-- Whether the computation unwinds its caller. -/
def panics : Checked ε α → Bool
  | .error .panic => true
  | _ => false

/-! ### When a value is returned -/

section EqOk

variable {β : Type}

theorem ok_bind {a : α} {f : α → Except ε β} : ((.ok a : Except ε α) >>= f) = f a := rfl

theorem bind_eq_ok {x : Except ε α} {f : α → Except ε β} {b : β} :
    (x >>= f) = .ok b ↔ ∃ a, x = .ok a ∧ f a = .ok b := by
  cases x with
  | error fault => simp [Bind.bind, Except.bind]
  | ok a => simp [Bind.bind, Except.bind]

theorem guard_eq_ok {c : Prop} [Decidable c] {e : ε} {rest : Checked ε α} {a : α} :
    (if c then (fail e : Checked ε PUnit) >>= fun _ => rest else rest) = .ok a
      ↔ ¬c ∧ rest = .ok a := by
  by_cases h : c
  · simp [h, fail, Bind.bind, Except.bind]
  · simp [h]

theorem pure_eq_ok {a b : α} : (pure a : Except ε α) = .ok b ↔ a = b := by
  simp [pure, Except.pure]

theorem ofExcept_eq_ok {x : Except ε α} {a : α} : ofExcept x = .ok a ↔ x = .ok a := by
  cases x <;> simp [ofExcept, fail]

theorem orFail_eq_ok {o : Option α} {e : ε} {a : α} : orFail e o = .ok a ↔ o = some a := by
  cases o <;> simp [orFail, fail]

theorem map_eq_ok {f : α → β} {x : Except ε α} {b : β} :
    f <$> x = .ok b ↔ ∃ a, x = .ok a ∧ f a = b := by
  cases x <;> simp [Functor.map, Except.map]

theorem okPart_eq_some {x : Checked ε α} {a : α} : x.okPart = some a ↔ x = .ok a := by
  cases x <;> simp [okPart]

theorem mapErr_eq_ok {f : ε → ε'} {x : Checked ε α} {a : α} :
    mapErr f x = .ok a ↔ x = .ok a := by
  match x with
  | .ok _ => simp [mapErr]
  | .error (.error _) => simp [mapErr]
  | .error .panic => simp [mapErr]

end EqOk

/-! ### When there is a panic -/

section EqPanic

variable {β : Type}

theorem ofExcept_ne_panic (x : Except ε α) : ofExcept x ≠ .error .panic := by
  intro h
  cases x with
  | ok a => cases h
  | error e => cases h

theorem bind_eq_panic {x : Checked ε α} {f : α → Checked ε β} :
    (x >>= f) = .error .panic ↔ x = .error .panic ∨ ∃ a, x = .ok a ∧ f a = .error .panic := by
  cases x with
  | error fault => simp [Bind.bind, Except.bind]
  | ok a => simp [Bind.bind, Except.bind]

end EqPanic

/-! ### What a value returned satisfies -/

/-- Every value `x` returns satisfies `P`. -/
def Ensures (x : Checked ε α) (P : α → Prop) : Prop := ∀ a, x = .ok a → P a

section Ensures

variable {β : Type} {x : Checked ε α} {P Q : α → Prop}

theorem ensures_ok {a : α} (h : P a) : Ensures (.ok a : Checked ε α) P := by
  intro b hb
  rw [← Except.ok.inj hb]
  exact h

theorem ensures_error (fault : Fault ε) : Ensures (.error fault : Checked ε α) P := by
  intro a h
  cases h

theorem ensures_fail (e : ε) : Ensures (fail e : Checked ε α) P := ensures_error _

theorem ensures_true (x : Checked ε α) : Ensures x (fun _ => True) := fun _ _ => trivial

theorem Ensures.mono (h : Ensures x P) (hPQ : ∀ a, P a → Q a) : Ensures x Q :=
  fun a ha => hPQ a (h a ha)

/-- A step that ensures `P` makes `P` an assumption for the rest. -/
theorem Ensures.bind {f : α → Checked ε β} {R : β → Prop} (hx : Ensures x P)
    (hf : ∀ a, P a → Ensures (f a) R) : Ensures (x >>= f) R := by
  intro b hb
  cases hxa : x with
  | error fault =>
      rw [hxa] at hb
      cases hb
  | ok a =>
      rw [hxa] at hb
      exact hf a (hx a hxa) b hb

/-- A step nothing is asked of. -/
theorem ensures_bind {f : α → Checked ε β} {R : β → Prop} (hf : ∀ a, Ensures (f a) R) :
    Ensures (x >>= f) R :=
  (ensures_true x).bind (fun a _ => hf a)

/-- A guard that may fail, and whose condition the rest may rely on. -/
theorem ensures_unless {c : Prop} [Decidable c] {e : ε} {rest : Checked ε α}
    (h : ¬ c → Ensures rest P) :
    Ensures (if c then (fail e : Checked ε PUnit) >>= fun _ => rest else rest) P := by
  split
  · exact ensures_error _
  · next hc => exact h hc

/-- A guard that may fail. -/
theorem ensures_guard {c : Prop} [Decidable c] {e : ε} {rest : Checked ε α}
    (h : Ensures rest P) :
    Ensures (if c then (fail e : Checked ε PUnit) >>= fun _ => rest else rest) P :=
  ensures_unless (fun _ => h)

theorem Ensures.map {f : α → β} {R : β → Prop} (hx : Ensures x (fun a => R (f a))) :
    Ensures (f <$> x) R := by
  intro b hb
  cases hxa : x with
  | error fault =>
      rw [hxa] at hb
      cases hb
  | ok a =>
      rw [hxa] at hb
      rw [← Except.ok.inj hb]
      exact hx a hxa

theorem ensures_ofExcept {x : Except ε α} (h : ∀ a, x = .ok a → P a) :
    Ensures (ofExcept x) P := by
  intro a ha
  cases x with
  | error e => cases ha
  | ok b => exact h a (congrArg Except.ok (Except.ok.inj ha))

end Ensures

/-! ### What never panics -/

/-- `x` does not panic, and every value it returns satisfies `P`. -/
def Meets (x : Checked ε α) (P : α → Prop) : Prop := x ≠ .error .panic ∧ Ensures x P

section Meets

variable {β : Type} {x : Checked ε α} {P Q : α → Prop}

theorem Meets.ensures (h : Meets x P) : Ensures x P := h.2

theorem meets_ok {a : α} (h : P a) : Meets (.ok a : Checked ε α) P :=
  ⟨fun hpanic => (by cases hpanic), ensures_ok h⟩

theorem meets_fail (e : ε) : Meets (fail e : Checked ε α) P :=
  ⟨fun hpanic => (by cases hpanic), ensures_fail e⟩

theorem Meets.mono (h : Meets x P) (hPQ : ∀ a, P a → Q a) : Meets x Q :=
  ⟨h.1, h.2.mono hPQ⟩

theorem Meets.and (h : Meets x P) (hQ : Ensures x Q) : Meets x (fun a => P a ∧ Q a) :=
  ⟨h.1, fun a ha => ⟨h.2 a ha, hQ a ha⟩⟩

/-- What follows may assume what the first step ensures. -/
theorem Meets.bind {f : α → Checked ε β} {R : β → Prop} (hx : Meets x P)
    (hf : ∀ a, P a → Meets (f a) R) : Meets (x >>= f) R := by
  refine ⟨?_, hx.2.bind (fun a ha => (hf a ha).2)⟩
  cases hxa : x with
  | error fault =>
      intro hpanic
      have hfault : fault = .panic := by
        cases hpanic
        rfl
      exact hx.1 (by rw [hxa, hfault])
  | ok a => exact (hf a (hx.2 a hxa)).1

/-- A guard that may fail, and whose condition the rest may rely on. -/
theorem meets_guard {c : Prop} [Decidable c] {e : ε} {rest : Checked ε α}
    (h : ¬ c → Meets rest P) :
    Meets (if c then (fail e : Checked ε PUnit) >>= fun _ => rest else rest) P := by
  split
  · exact meets_fail e
  · next hc => exact h hc

theorem Meets.map {f : α → β} {R : β → Prop} (hx : Meets x (fun a => R (f a))) :
    Meets (f <$> x) R := by
  refine ⟨?_, hx.2.map⟩
  cases hxa : x with
  | error fault =>
      intro hpanic
      have hfault : fault = .panic := by
        cases hpanic
        rfl
      exact hx.1 (by rw [hxa, hfault])
  | ok a =>
      intro hpanic
      cases hpanic

theorem meets_ofExcept {x : Except ε α} (h : ∀ a, x = .ok a → P a) : Meets (ofExcept x) P := by
  refine ⟨?_, ensures_ofExcept h⟩
  intro hpanic
  cases x with
  | error e => cases hpanic
  | ok a => cases hpanic

theorem meets_orFail {o : Option α} {e : ε} (h : ∀ a, o = some a → P a) :
    Meets (orFail e o) P := by
  cases o with
  | none => exact meets_fail e
  | some a => exact meets_ok (h a rfl)

theorem Meets.mapErr {f : ε → ε'} (h : Meets x P) : Meets (mapErr f x) P := by
  cases hx : x with
  | ok a => exact meets_ok (h.2 a hx)
  | error fault =>
      cases fault with
      | error e => exact meets_fail (f e)
      | panic => exact absurd hx h.1

theorem Meets.panics_eq (h : Meets x P) : x.panics = false := by
  cases hx : x with
  | ok a => rfl
  | error fault =>
      cases fault with
      | error e => rfl
      | panic => exact absurd hx h.1

/-- A computation that never panics returns a value or reports an error. -/
theorem Meets.cases (h : Meets x P) : (∃ a, x = .ok a ∧ P a) ∨ ∃ e, x = .error (.error e) := by
  cases hx : x with
  | ok a => exact .inl ⟨a, rfl, h.2 a hx⟩
  | error fault =>
      cases fault with
      | error e => exact .inr ⟨e, rfl⟩
      | panic => exact absurd hx h.1

end Meets

end Checked

namespace Octets

variable {ε α : Type}

/-! ## §1. Checked slices -/

/-- `data[i]`. -/
def index (data : List α) (i : Nat) : Checked ε α :=
  match data[i]? with
  | some a => .ok a
  | none => .error .panic

/-- `data[i..]`. -/
def dropFrom (data : List α) (i : Nat) : Checked ε (List α) :=
  if i ≤ data.length then .ok (data.drop i) else .error .panic

/-- What is left after `i` octets are dropped. -/
theorem dropFrom_ensures (data : List α) (i : Nat) :
    Checked.Ensures (dropFrom data i : Checked ε (List α))
      (fun rest => rest.length + i = data.length) := by
  unfold dropFrom
  split
  next h =>
    refine Checked.ensures_ok ?_
    rw [List.length_drop]
    omega
  · exact Checked.ensures_error _

theorem dropFrom_meets {data : List α} {i : Nat} (h : i ≤ data.length) :
    Checked.Meets (dropFrom data i : Checked ε (List α))
      (fun rest => rest.length + i = data.length) := by
  refine ⟨?_, dropFrom_ensures data i⟩
  unfold dropFrom
  rw [if_pos h]
  intro hpanic
  cases hpanic

theorem index_meets {data : List α} {i : Nat} (h : i < data.length) :
    Checked.Meets (index data i : Checked ε α) (fun _ => True) := by
  unfold index
  rw [List.getElem?_eq_getElem h]
  exact Checked.meets_ok trivial

/-- `data[i..j]`. -/
def range (data : List α) (i j : Nat) : Checked ε (List α) :=
  if i ≤ j ∧ j ≤ data.length then .ok ((data.drop i).take (j - i)) else .error .panic

theorem range_meets {data : List α} {i j : Nat} (h : i ≤ j) (hj : j ≤ data.length) :
    Checked.Meets (range data i j : Checked ε (List α)) (fun _ => True) := by
  unfold range
  rw [if_pos ⟨h, hj⟩]
  exact Checked.meets_ok trivial

/-- `data.get(i..j)`. -/
def range? (data : List α) (i j : Nat) : Option (List α) :=
  if i ≤ j ∧ j ≤ data.length then some ((data.drop i).take (j - i)) else none

theorem range?_within {data octets : List α} {i j : Nat} (h : range? data i j = some octets) :
    i ≤ j ∧ j ≤ data.length := by
  unfold range? at h
  split at h
  · next hrange => exact hrange
  · cases h

theorem length_of_range? {data octets : List α} {i j width : Nat}
    (h : range? data i j = some octets) (hwidth : j = i + width) : octets.length = width := by
  have hwithin := range?_within h
  unfold range? at h
  rw [if_pos hwithin] at h
  cases h
  rw [List.length_take, List.length_drop]
  omega

/-! ## §2. Big-endian numerals -/

/-- The number a big-endian octet string denotes. -/
def beNat (octets : Bytes) : Nat :=
  octets.foldl (fun acc octet => acc * 256 + octet.toNat) 0

/-- The low `width` octets of `n`, most significant first. -/
def beOctets : Nat → Nat → Bytes
  | 0, _ => []
  | width + 1, n => beOctets width (n / 256) ++ [UInt8.ofNat n]

/-- The big-endian number in `width` octets from index `i`. -/
def natAt (data : Bytes) (i width : Nat) : Checked ε Nat :=
  beNat <$> range data i (i + width)

theorem natAt_meets {data : Bytes} {i width : Nat} (h : i + width ≤ data.length) :
    Checked.Meets (natAt data i width : Checked ε Nat) (fun _ => True) :=
  (range_meets (Nat.le_add_right i width) h).map

theorem length_beOctets : ∀ width n : Nat, (beOctets width n).length = width
  | 0, _ => rfl
  | width + 1, n => by
      rw [beOctets, List.length_append, length_beOctets width (n / 256)]
      rfl

/-- A numeral of width zero denotes nothing. -/
@[simp] theorem beNat_nil : beNat [] = 0 := rfl

theorem beNat_append_singleton (octets : Bytes) (octet : UInt8) :
    beNat (octets ++ [octet]) = beNat octets * 256 + octet.toNat := by
  unfold beNat
  rw [List.foldl_append]
  rfl

/-- The octets in front carry the higher weights. -/
theorem beNat_append (high low : Bytes) :
    beNat (high ++ low) = beNat high * 256 ^ low.length + beNat low := by
  induction low using List.reverseRecOn with
  | nil => simp
  | append_singleton low octet ih =>
      rw [← List.append_assoc, beNat_append_singleton, ih, beNat_append_singleton,
        List.length_append, List.length_singleton, Nat.pow_succ, Nat.add_mul, Nat.mul_assoc,
        Nat.add_assoc]

theorem beNat_lt (octets : Bytes) : beNat octets < 256 ^ octets.length := by
  induction octets using List.reverseRecOn with
  | nil => simp
  | append_singleton octets octet ih =>
      have hoctet : octet.toNat < 256 := octet.toNat_lt
      rw [beNat_append_singleton, List.length_append, List.length_singleton, Nat.pow_succ]
      omega

/-- **Reading back what was written** in `width` octets loses what is above them. -/
theorem beNat_beOctets : ∀ width n : Nat, beNat (beOctets width n) = n % 256 ^ width
  | 0, n => by rw [beOctets, beNat_nil, Nat.pow_zero, Nat.mod_one]
  | width + 1, n => by
      have hsplit : n % 256 ^ (width + 1) = n % 256 + 256 * (n / 256 % 256 ^ width) := by
        rw [Nat.pow_succ, Nat.mul_comm, Nat.mod_mul]
      rw [beOctets, beNat_append_singleton, beNat_beOctets width (n / 256), UInt8.toNat_ofNat',
        hsplit]
      omega

/-- What was read is written back octet for octet. -/
theorem beOctets_beNat (octets : Bytes) : beOctets octets.length (beNat octets) = octets := by
  induction octets using List.reverseRecOn with
  | nil => rfl
  | append_singleton octets octet ih =>
      have hoctet : octet.toNat < 256 := octet.toNat_lt
      have hhigh : (beNat octets * 256 + octet.toNat) / 256 = beNat octets := by omega
      have hlow : UInt8.ofNat (beNat octets * 256 + octet.toNat) = octet := by
        rw [← UInt8.toNat_inj, UInt8.toNat_ofNat']
        omega
      rw [List.length_append, List.length_singleton, beOctets, beNat_append_singleton, hhigh, hlow,
        ih]

/-! ### Slices of a concatenation -/

theorem range?_append (before middle after : List α) :
    range? (before ++ (middle ++ after)) before.length (before.length + middle.length)
      = some middle := by
  unfold range?
  rw [if_pos (by simp), List.drop_left, Nat.add_sub_cancel_left, List.take_left]

theorem range_append (before middle after : List α) :
    (range (before ++ (middle ++ after)) before.length (before.length + middle.length) :
      Checked ε (List α)) = .ok middle := by
  unfold range
  rw [if_pos (by simp), List.drop_left, Nat.add_sub_cancel_left, List.take_left]

theorem index_append (before : List α) (a : α) (after : List α) :
    (index (before ++ a :: after) before.length : Checked ε α) = .ok a := by
  unfold index
  rw [List.getElem?_append_right (Nat.le_refl _), Nat.sub_self]
  rfl

theorem natAt_append (before middle after : Bytes) :
    (natAt (before ++ (middle ++ after)) before.length middle.length : Checked ε Nat)
      = .ok (beNat middle) := by
  unfold natAt
  rw [range_append]
  rfl

/-! ### What a slice was cut from -/

theorem index_ensures (data : List α) (i : Nat) :
    Checked.Ensures (index data i : Checked ε α)
      (fun a => data[i]? = some a ∧ data.take (i + 1) = data.take i ++ [a]) := by
  unfold index
  cases h : data[i]? with
  | none => exact Checked.ensures_error _
  | some a =>
      apply Checked.ensures_ok
      rw [List.take_add_one, h]
      exact ⟨rfl, rfl⟩

theorem range_ensures (data : List α) {i j : Nat} :
    Checked.Ensures (range data i j : Checked ε (List α))
      (fun octets => data.take j = data.take i ++ octets ∧ i + octets.length = j) := by
  unfold range
  split
  · next h =>
      apply Checked.ensures_ok
      constructor
      · rw [← List.take_add, Nat.add_sub_cancel' h.1]
      · rw [List.length_take, List.length_drop]
        omega
  · exact Checked.ensures_error _

theorem natAt_ensures (data : Bytes) (i width : Nat) :
    Checked.Ensures (natAt data i width : Checked ε Nat)
      (fun n => data.take (i + width) = data.take i ++ beOctets width n ∧ n < 256 ^ width) := by
  unfold natAt
  apply Checked.Ensures.map
  refine (range_ensures data).mono ?_
  intro octets hoctets
  have hwidth : octets.length = width := by omega
  rw [← hwidth, beOctets_beNat, hwidth]
  exact ⟨hoctets.1, hwidth ▸ beNat_lt octets⟩

/-! ### When a slice can be cut -/

theorem index_eq_ok {data : List α} {i : Nat} {a : α} :
    (index data i : Checked ε α) = .ok a ↔ data[i]? = some a := by
  unfold index
  cases data[i]? <;> simp

theorem dropFrom_eq_ok {data rest : List α} {i : Nat} :
    (dropFrom data i : Checked ε (List α)) = .ok rest ↔ i ≤ data.length ∧ rest = data.drop i := by
  unfold dropFrom
  by_cases h : i ≤ data.length
  · simp [h, eq_comm]
  · simp [h]

theorem dropFrom_append (front rest : List α) :
    (dropFrom (front ++ rest) front.length : Checked ε (List α)) = .ok rest := by
  refine dropFrom_eq_ok.mpr ⟨?_, List.drop_left.symm⟩
  rw [List.length_append]
  exact Nat.le_add_right _ _

theorem range_eq_ok {data octets : List α} {i j : Nat} :
    (range data i j : Checked ε (List α)) = .ok octets
      ↔ i ≤ j ∧ j ≤ data.length ∧ octets = (data.drop i).take (j - i) := by
  unfold range
  by_cases h : i ≤ j ∧ j ≤ data.length
  · simp [h, eq_comm]
  · rw [if_neg h]
    constructor
    · intro hread
      cases hread
    · intro hread
      exact absurd ⟨hread.1, hread.2.1⟩ h

theorem natAt_eq_ok {data : Bytes} {i width n : Nat} :
    (natAt data i width : Checked ε Nat) = .ok n
      ↔ i + width ≤ data.length ∧ n = beNat ((data.drop i).take width) := by
  unfold natAt range
  by_cases h : i + width ≤ data.length
  · rw [if_pos ⟨Nat.le_add_right i width, h⟩, Nat.add_sub_cancel_left]
    constructor
    · intro hread
      cases hread
      exact ⟨h, rfl⟩
    · rintro ⟨_, rfl⟩
      rfl
  · rw [if_neg (fun hrange => h hrange.2)]
    constructor
    · intro hread
      cases hread
    · intro hread
      exact absurd hread.1 h

/-! ### Round trips -/

/-- `decode` reads `encoded` as `value`, all of it and nothing more, whatever comes next. -/
def Reads (decode : Bytes → Checked ε (α × Nat)) (encoded : Bytes) (value : α) : Prop :=
  ∀ rest : Bytes, decode (encoded ++ rest) = .ok (value, encoded.length)

/-! ### What is left -/

/-- `rest` is what is left of `data` from `consumed` on. -/
def Left (data : List α) (consumed : Nat) (rest : List α) : Prop :=
  consumed ≤ data.length ∧ data.drop consumed = rest

section Left

variable {data front rest : List α} {consumed : Nat}

theorem left_zero (data : List α) : Left data 0 data := ⟨Nat.zero_le _, List.drop_zero⟩

theorem Left.dropFrom (h : Left data consumed rest) :
    (dropFrom data consumed : Checked ε (List α)) = .ok rest :=
  dropFrom_eq_ok.mpr ⟨h.1, h.2.symm⟩

theorem Left.length (h : Left data consumed rest) : consumed + rest.length = data.length := by
  rw [← h.2, List.length_drop]
  exact Nat.add_sub_cancel' h.1

/-- What is left after what stands in front. -/
theorem Left.next (h : Left data consumed (front ++ rest)) :
    Left data (consumed + front.length) rest := by
  constructor
  · have hlength := h.length
    rw [List.length_append] at hlength
    omega
  · rw [← List.drop_drop, h.2, List.drop_left]

/-- What stands in front is there. -/
theorem Left.range? (h : Left data consumed (front ++ rest)) :
    range? data consumed (consumed + front.length) = some front := by
  have hlength := h.length
  rw [List.length_append] at hlength
  unfold Octets.range?
  rw [if_pos ⟨by omega, by omega⟩, h.2, Nat.add_sub_cancel_left, List.take_left]

theorem Left.range (h : Left data consumed (front ++ rest)) :
    (range data consumed (consumed + front.length) : Checked ε (List α)) = .ok front := by
  have hlength := h.length
  rw [List.length_append] at hlength
  unfold Octets.range
  rw [if_pos ⟨by omega, by omega⟩, h.2, Nat.add_sub_cancel_left, List.take_left]

/-- Only one thing is left at a place. -/
theorem Left.after_eq {after : List α} (h : Left data consumed (front ++ after))
    (hnext : Left data (consumed + front.length) rest) : after = rest := by
  rw [← h.next.2, hnext.2]

end Left

/-! ### What the front decides -/

section Front

variable {data data' : List α} {bound : Nat}

theorem getElem?_of_take (hsame : data.take bound = data'.take bound) {i : Nat} (hi : i < bound) :
    data[i]? = data'[i]? := by
  rw [← List.getElem?_take_of_lt hi, hsame, List.getElem?_take_of_lt hi]

theorem range?_of_take (hsame : data.take bound = data'.take bound) {i j : Nat} (hj : j ≤ bound) :
    range? data i j = range? data' i j := by
  have hlength : min bound data.length = min bound data'.length := by
    rw [← List.length_take, hsame, List.length_take]
  have hoctets : data.take j = data'.take j := by
    have htake := congrArg (List.take j) hsame
    rwa [List.take_take, List.take_take, Nat.min_eq_left hj] at htake
  have hwithin : (i ≤ j ∧ j ≤ data.length) ↔ (i ≤ j ∧ j ≤ data'.length) := by omega
  unfold range?
  by_cases hrange : i ≤ j ∧ j ≤ data.length
  · rw [if_pos hrange, if_pos (hwithin.mp hrange), ← List.drop_take, ← List.drop_take, hoctets]
  · rw [if_neg hrange, if_neg (fun h => hrange (hwithin.mpr h))]

end Front

/-! ## §3. Consecutive pieces -/

/-- Cut `data` into pieces of `size` elements, the last one possibly shorter.
The first argument bounds the number of pieces. -/
def chunksUpTo (size : Nat) : Nat → List α → List (List α)
  | 0, _ => []
  | _ + 1, [] => []
  | bound + 1, a :: rest =>
      (a :: rest).take size :: chunksUpTo size bound ((a :: rest).drop size)

/-- `data.chunks(size)`, for a positive `size`. -/
def chunks (size : Nat) (data : List α) : List (List α) :=
  chunksUpTo size data.length data

theorem flatten_chunksUpTo (size : Nat) (hsize : 0 < size) :
    ∀ (bound : Nat) (data : List α), data.length ≤ bound →
      (chunksUpTo size bound data).flatten = data
  | 0, data, hbound => by
      rw [List.length_eq_zero_iff.mp (Nat.le_zero.mp hbound)]
      rfl
  | _ + 1, [], _ => rfl
  | bound + 1, a :: rest, hbound => by
      have hshorter : ((a :: rest).drop size).length ≤ bound := by
        rw [List.length_drop]
        simp only [List.length_cons] at hbound ⊢
        omega
      rw [chunksUpTo, List.flatten_cons, flatten_chunksUpTo size hsize bound _ hshorter,
        List.take_append_drop]

/-- **The pieces hold exactly the data.** -/
theorem flatten_chunks (size : Nat) (hsize : 0 < size) (data : List α) :
    (chunks size data).flatten = data :=
  flatten_chunksUpTo size hsize data.length data (Nat.le_refl _)

theorem length_le_of_mem_chunksUpTo (size : Nat) :
    ∀ (bound : Nat) (data piece : List α), piece ∈ chunksUpTo size bound data →
      piece.length ≤ size
  | 0, _, _, h => absurd h List.not_mem_nil
  | _ + 1, [], _, h => absurd h List.not_mem_nil
  | bound + 1, a :: rest, piece, h => by
      rw [chunksUpTo] at h
      rcases List.mem_cons.mp h with rfl | h
      · exact List.length_take_le _ _
      · exact length_le_of_mem_chunksUpTo size bound _ piece h

/-- Every piece has at most `size` elements. -/
theorem length_le_of_mem_chunks {size : Nat} {data piece : List α}
    (h : piece ∈ chunks size data) : piece.length ≤ size :=
  length_le_of_mem_chunksUpTo size data.length data piece h

/-- How many pieces there are. -/
theorem length_chunksUpTo (size : Nat) (hsize : 0 < size) :
    ∀ (bound : Nat) (data : List α), data.length ≤ bound →
      (chunksUpTo size bound data).length = (data.length + size - 1) / size
  | 0, data, hbound => by
      rw [List.length_eq_zero_iff.mp (Nat.le_zero.mp hbound)]
      show 0 = (0 + size - 1) / size
      rw [Nat.div_eq_of_lt (by omega)]
  | _ + 1, [], _ => by
      show 0 = (0 + size - 1) / size
      rw [Nat.div_eq_of_lt (by omega)]
  | bound + 1, a :: rest, hbound => by
      have hlength : ((a :: rest).drop size).length = (a :: rest).length - size :=
        List.length_drop
      have hpos : 0 < (a :: rest).length := by simp
      rw [chunksUpTo, List.length_cons,
        length_chunksUpTo size hsize bound _ (by rw [hlength]; omega), hlength]
      rcases Nat.lt_or_ge (a :: rest).length size with hlt | hge
      · have hone : ((a :: rest).length + size - 1) / size = 1 :=
          Nat.div_eq_of_lt_le (by omega) (by omega)
        rw [hone, Nat.sub_eq_zero_of_le (Nat.le_of_lt hlt), Nat.div_eq_of_lt (by omega)]
      · have hsplit : (a :: rest).length + size - 1
            = (a :: rest).length - size + size - 1 + size := by omega
        rw [hsplit, Nat.add_div_right _ hsize]

theorem length_chunks (size : Nat) (hsize : 0 < size) (data : List α) :
    (chunks size data).length = (data.length + size - 1) / size :=
  length_chunksUpTo size hsize data.length data (Nat.le_refl _)

/-- The pieces of data that is put together from pieces of that size. -/
theorem chunksUpTo_flatten {size : Nat} (hsize : 0 < size) :
    ∀ {pieces : List (List α)} (bound : Nat), (∀ piece ∈ pieces, piece.length = size) →
      pieces.flatten.length ≤ bound → chunksUpTo size bound pieces.flatten = pieces
  | [], 0, _, _ => rfl
  | [], _ + 1, _, _ => rfl
  | piece :: pieces, bound, hpieces, hbound => by
      have hpiece : piece.length = size := hpieces piece List.mem_cons_self
      have hmore : ∀ piece ∈ pieces, piece.length = size :=
        fun piece hmem => hpieces piece (List.mem_cons_of_mem _ hmem)
      rw [List.flatten_cons, List.length_append, hpiece] at hbound
      cases piece with
      | nil =>
          rw [List.length_nil] at hpiece
          omega
      | cons a rest =>
          cases bound with
          | zero => omega
          | succ bound =>
              rw [List.flatten_cons, List.cons_append, chunksUpTo, ← List.cons_append,
                List.take_left' hpiece, List.drop_left' hpiece,
                chunksUpTo_flatten hsize bound hmore (by omega)]

/-- **The pieces are the pieces the data is put together from**, if these are of that size. -/
theorem chunks_eq_iff {size : Nat} (hsize : 0 < size) {data : List α} {pieces : List (List α)}
    (hpieces : ∀ piece ∈ pieces, piece.length = size) :
    chunks size data = pieces ↔ data = pieces.flatten := by
  constructor
  · intro h
    rw [← h, flatten_chunks size hsize]
  · intro h
    rw [h]
    exact chunksUpTo_flatten hsize _ hpieces (Nat.le_refl _)

/-- Pieces of one size are together a multiple of it. -/
theorem length_flatten_mod {size : Nat} {pieces : List (List α)}
    (hpieces : ∀ piece ∈ pieces, piece.length = size) : pieces.flatten.length % size = 0 := by
  induction pieces with
  | nil => exact Nat.zero_mod size
  | cons piece pieces ih =>
      rw [List.flatten_cons, List.length_append, hpieces piece List.mem_cons_self,
        Nat.add_mod_left]
      exact ih (fun piece hmem => hpieces piece (List.mem_cons_of_mem _ hmem))

theorem length_of_mem_chunksUpTo {size : Nat} (hsize : 0 < size) :
    ∀ (bound : Nat) {data piece : List α}, data.length % size = 0 →
      piece ∈ chunksUpTo size bound data → piece.length = size
  | 0, _, _, _, h => absurd h List.not_mem_nil
  | _ + 1, [], _, _, h => absurd h List.not_mem_nil
  | bound + 1, a :: rest, piece, hmod, h => by
      have hle : size ≤ (a :: rest).length :=
        Nat.le_of_dvd (by rw [List.length_cons]; omega) (Nat.dvd_of_mod_eq_zero hmod)
      rw [chunksUpTo] at h
      rcases List.mem_cons.mp h with rfl | h
      · exact List.length_take_of_le hle
      · have hrest : ((a :: rest).drop size).length % size = 0 := by
          rw [List.length_drop, ← Nat.mod_eq_sub_mod hle]
          exact hmod
        exact length_of_mem_chunksUpTo hsize bound hrest h

/-- Every piece has `size` elements if they come out even. -/
theorem length_of_mem_chunks {size : Nat} (hsize : 0 < size) {data piece : List α}
    (hmod : data.length % size = 0) (h : piece ∈ chunks size data) : piece.length = size :=
  length_of_mem_chunksUpTo hsize data.length hmod h

end Octets
