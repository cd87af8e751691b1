/-
  BacnetRs.Library.Text — text cut into lines, fields and numbers, and put
  together again (`str::lines`, `str::trim`, `str::split_whitespace`,
  `from_str_radix`).

  A text is the list of its characters.  What a program writes it may have to
  read again:

    * `lines_intercalate`   — lines joined by line feeds.
    * `lines_unlines_iff`   — and when they are as they were.
    * `lines_terminated`    — lines that each end in one.
    * `fields_intercalate`  — fields with a space between each two.
    * `fromStrRadix_toDigits` — a number in any base up to sixteen.
-/
import Mathlib.Data.List.Basic

/-- A text. -/
abbrev Text := List Char

namespace Text

/-! ## §1. Lines -/

/-- A carriage return at the end is taken off. -/
def stripReturn (line : Text) : Text :=
  if line.getLast? = some '\r' then line.dropLast else line

/-- `str::lines`: what stands between line feeds, less a carriage return before each.  After the
last line feed there is a line only if anything is there. -/
def lines (text : Text) : List Text :=
  let pieces := text.splitOn '\n'
  let last := pieces.getLastD []
  pieces.dropLast.map stripReturn ++ if last = [] then [] else [last]

/-- `join("\n")`. -/
def unlines (lines : List Text) : Text := ['\n'].intercalate lines

theorem stripReturn_of_not {line : Text} (h : line.getLast? ≠ some '\r') :
    stripReturn line = line := if_neg h

/-- A carriage return is taken off the lines that have one. -/
theorem stripReturn_eq_self_iff {line : Text} :
    stripReturn line = line ↔ line.getLast? ≠ some '\r' := by
  constructor
  · intro h hlast
    have hlength := congrArg List.length h
    unfold stripReturn at hlength
    rw [if_pos hlast, List.length_dropLast] at hlength
    cases line with
    | nil => cases hlast
    | cons c line =>
        rw [List.length_cons] at hlength
        omega
  · exact stripReturn_of_not

/-- **Lines joined by line feeds** come back less carriage returns, and less the last if it is
empty. -/
theorem lines_intercalate (front : List Text) (last : Text) (h : ∀ line ∈ front, '\n' ∉ line)
    (hlast : '\n' ∉ last) :
    lines (unlines (front ++ [last]))
      = front.map stripReturn ++ if last = [] then [] else [last] := by
  have hall : ∀ line ∈ front ++ [last], '\n' ∉ line := by
    intro line hmem
    obtain hmem | hmem := List.mem_append.mp hmem
    · exact h line hmem
    · rw [List.mem_singleton.mp hmem]
      exact hlast
  have hsplit : (unlines (front ++ [last])).splitOn '\n' = front ++ [last] :=
    List.splitOn_intercalate '\n' hall (List.append_ne_nil_of_right_ne_nil _ (List.cons_ne_nil _ _))
  unfold lines
  simp only [hsplit, List.dropLast_concat, List.getLastD_concat]

/-- Lines that each end in a line feed are joined by line feeds to an empty one. -/
theorem flatMap_terminated (all : List Text) :
    all.flatMap (fun line => line ++ ['\n']) = unlines (all ++ [[]]) := by
  induction all with
  | nil => rfl
  | cons line all ih =>
      rw [List.flatMap_cons, ih]
      unfold unlines
      cases all with
      | nil => simp
      | cons next all => simp [List.append_assoc]

/-- **Lines that each end in a line feed** come back. -/
theorem lines_terminated (all : List Text)
    (h : ∀ line ∈ all, '\n' ∉ line ∧ line.getLast? ≠ some '\r') :
    lines (all.flatMap (fun line => line ++ ['\n'])) = all := by
  rw [flatMap_terminated, lines_intercalate all [] (fun line hmem => (h line hmem).1)
    List.not_mem_nil]
  rw [if_pos rfl, List.append_nil]
  have hstrip : ∀ line ∈ all, stripReturn line = line := by
    intro line hmem
    exact stripReturn_of_not (h line hmem).2
  rw [List.map_congr_left hstrip, List.map_id']

/-- The pieces of a text have no separator in them. -/
theorem not_mem_of_mem_splitOn {separator : Char} {text piece : Text}
    (h : piece ∈ text.splitOn separator) : separator ∉ piece := by
  induction text generalizing piece with
  | nil =>
      rw [List.splitOn_nil, List.mem_singleton] at h
      rw [h]
      exact List.not_mem_nil
  | cons c text ih =>
      rw [List.splitOn_cons_eq_if_modifyHead] at h
      split at h
      · obtain rfl | hmem := List.mem_cons.mp h
        · exact List.not_mem_nil
        · exact ih hmem
      · next hother =>
          obtain ⟨first, pieces, hsplit⟩ := List.exists_cons_of_ne_nil
            (List.splitOn_ne_nil separator text)
          -- A character that is no separator stands in front of the first piece.
          rw [hsplit, List.modifyHead_cons] at h
          obtain rfl | hmem := List.mem_cons.mp h
          · intro hmem
            obtain rfl | hfirst := List.mem_cons.mp hmem
            · exact hother (beq_self_eq_true _)
            · exact ih (hsplit ▸ List.mem_cons_self) hfirst
          · exact ih (hsplit ▸ List.mem_cons_of_mem _ hmem)

/-- Lines have no line feed in them. -/
theorem feed_not_mem_of_mem_lines {text line : Text} (h : line ∈ lines text) : '\n' ∉ line := by
  unfold lines at h
  obtain hfront | hlast := List.mem_append.mp h
  · obtain ⟨piece, hpiece, rfl⟩ := List.mem_map.mp hfront
    have hplain := not_mem_of_mem_splitOn (List.dropLast_subset _ hpiece)
    unfold stripReturn
    split
    · exact fun hmem => hplain (List.dropLast_subset _ hmem)
    · exact hplain
  · split at hlast
    · cases hlast
    · rw [List.mem_singleton.mp hlast]
      have hmem := List.getLast_mem (List.splitOn_ne_nil '\n' text)
      rw [List.getLastD_eq_getLast?, List.getLast?_eq_some_getLast (List.splitOn_ne_nil '\n' text)]
      exact not_mem_of_mem_splitOn hmem

/-- Joined and taken apart, lines are as many as they were, or one less. -/
theorem length_lines_unlines {all : List Text} (h : ∀ line ∈ all, '\n' ∉ line) :
    (lines (unlines all)).length ≤ all.length ∧ all.length ≤ (lines (unlines all)).length + 1 := by
  obtain rfl | ⟨front, last, rfl⟩ := List.eq_nil_or_concat all
  · exact ⟨Nat.le_refl 0, Nat.zero_le _⟩
  · rw [List.concat_eq_append] at h ⊢
    rw [lines_intercalate front last (fun line hmem => h line (List.mem_append_left _ hmem))
      (h last (List.mem_append_right _ (List.mem_singleton_self _)))]
    rw [List.length_append, List.length_append, List.length_map, List.length_singleton]
    split
    · exact ⟨Nat.le_succ _, Nat.le_refl _⟩
    · exact ⟨Nat.le_refl _, Nat.le_succ _⟩

/-- **Joined and taken apart, lines are as they were** if the last is not empty, and no carriage
return would be taken off one before it. -/
theorem lines_unlines_iff {all : List Text} (h : ∀ line ∈ all, '\n' ∉ line) :
    lines (unlines all) = all ↔
      all.getLast? ≠ some [] ∧ ∀ line ∈ all.dropLast, line.getLast? ≠ some '\r' := by
  obtain rfl | ⟨front, last, rfl⟩ := List.eq_nil_or_concat all
  · refine iff_of_true rfl ⟨?_, ?_⟩
    · intro hlast
      cases hlast
    · intro line hmem
      cases hmem
  · rw [List.concat_eq_append] at h ⊢
    rw [lines_intercalate front last (fun line hmem => h line (List.mem_append_left _ hmem))
      (h last (List.mem_append_right _ (List.mem_singleton_self _)))]
    rw [List.getLast?_concat, List.dropLast_concat, ne_eq, Option.some.injEq]
    by_cases hlast : last = []
    · -- Behind the last line feed there is nothing, and that is no line.
      rw [if_pos hlast]
      refine iff_of_false ?_ (fun hends => hends.1 hlast)
      intro hsame
      have hlength := congrArg List.length hsame
      rw [List.length_append, List.length_append, List.length_map, List.length_singleton,
        List.length_nil] at hlength
      omega
    · -- A line feed follows every line but the last, and takes a carriage return with it.
      have hself := List.map_inj_left (l := front) (f := stripReturn) (g := id)
      rw [List.map_id] at hself
      rw [if_neg hlast, List.append_left_inj, hself]
      constructor
      · intro hsame
        refine ⟨hlast, ?_⟩
        intro line hmem
        exact stripReturn_eq_self_iff.mp (hsame line hmem)
      · rintro ⟨_, hends⟩ line hmem
        exact stripReturn_eq_self_iff.mpr (hends line hmem)

/-! ## §2. Fields -/

/-- `char::is_whitespace`. -/
def isWhitespace (c : Char) : Bool :=
  let n := c.toNat
  (9 ≤ n && n ≤ 13) || n == 0x20 || n == 0x85 || n == 0xA0 || n == 0x1680
    || (0x2000 ≤ n && n ≤ 0x200A) || n == 0x2028 || n == 0x2029 || n == 0x202F || n == 0x205F
    || n == 0x3000

/-- `str::trim`. -/
def trim (text : Text) : Text :=
  ((text.dropWhile isWhitespace).reverse.dropWhile isWhitespace).reverse

/-- `str::split_whitespace`. -/
def splitWhitespace (text : Text) : List Text :=
  (text.splitOnP isWhitespace).filter (fun field => field ≠ [])

/-- A field: something, and no white space in it. -/
def IsField (field : Text) : Prop := field ≠ [] ∧ ∀ c ∈ field, isWhitespace c = false

theorem isField_of_all {field : Text} (hsome : field ≠ [])
    (hall : field.all (fun c => !isWhitespace c) = true) : IsField field := by
  refine ⟨hsome, ?_⟩
  intro c hmem
  have hplain := List.all_eq_true.mp hall c hmem
  rwa [Bool.not_eq_true'] at hplain

/-- **Fields with a space between each two** come back. -/
theorem fields_intercalate (fields : List Text) (h : ∀ field ∈ fields, IsField field) :
    splitWhitespace ([' '].intercalate fields) = fields := by
  induction fields with
  | nil => rfl
  | cons field fields ih =>
      obtain ⟨hsome, hplain⟩ := h field List.mem_cons_self
      have hrest := ih fun other hmem => h other (List.mem_cons_of_mem _ hmem)
      unfold splitWhitespace at hrest ⊢
      cases fields with
      | nil =>
          rw [List.intercalate_singleton, List.splitOnP_eq_singleton hplain]
          simp [hsome]
      | cons next fields =>
          have hjoin : [' '].intercalate (field :: next :: fields)
              = field ++ ' ' :: [' '].intercalate (next :: fields) := by
            simp
          rw [hjoin, List.splitOnP_append_cons_of_forall_mem hplain ' ' rfl, List.filter_cons,
            hrest]
          simp [hsome]

/-- What is in a joined text is the separator or in one of the parts. -/
theorem mem_intercalate {separator c : Char} {parts : List Text}
    (h : c ∈ [separator].intercalate parts) : c = separator ∨ ∃ part ∈ parts, c ∈ part := by
  induction parts with
  | nil => cases h
  | cons part parts ih =>
      cases parts with
      | nil =>
          rw [List.intercalate_singleton] at h
          exact .inr ⟨part, List.mem_singleton_self _, h⟩
      | cons next parts =>
          rw [List.intercalate_cons_cons, List.append_assoc, List.mem_append, List.mem_append,
            List.mem_singleton] at h
          obtain hfirst | rfl | hrest := h
          · exact .inr ⟨part, List.mem_cons_self, hfirst⟩
          · exact .inl rfl
          · obtain hseparator | ⟨other, hmem, hc⟩ := ih hrest
            · exact .inl hseparator
            · exact .inr ⟨other, List.mem_cons_of_mem _ hmem, hc⟩

/-- What ends a joined text ends a field, and what begins it begins one. -/
theorem ends_intercalate {fields : List Text} (h : ∀ field ∈ fields, IsField field) {c : Char}
    (hends : ([' '].intercalate fields).head? = some c
      ∨ ([' '].intercalate fields).getLast? = some c) : isWhitespace c = false := by
  -- By induction on the fields: the head is the first field's, the last is the last one's.
  induction fields with
  | nil =>
      obtain hhead | hlast := hends
      · cases hhead
      · cases hlast
  | cons field fields ih =>
      obtain ⟨hsome, hplain⟩ := h field List.mem_cons_self
      have htail : ∀ other ∈ fields, IsField other := by
        intro other hmem
        exact h other (List.mem_cons_of_mem _ hmem)
      cases fields with
      | nil =>
          rw [List.intercalate_singleton] at hends
          obtain hhead | hlast := hends
          · exact hplain c (List.mem_of_head? hhead)
          · exact hplain c (List.mem_of_getLast? hlast)
      | cons next fields =>
          rw [List.intercalate_cons_cons, List.append_assoc] at hends
          obtain hhead | hlast := hends
          · rw [List.head?_append_of_ne_nil _ hsome] at hhead
            exact hplain c (List.mem_of_head? hhead)
          · have hnext : [' '].intercalate (next :: fields) ≠ [] := by
              have hfirst := (htail next List.mem_cons_self).1
              cases fields with
              | nil => rwa [List.intercalate_singleton]
              | cons other fields =>
                  rw [List.intercalate_cons_cons, List.append_assoc]
                  exact List.append_ne_nil_of_left_ne_nil hfirst _
            rw [List.getLast?_append_of_ne_nil _ (List.append_ne_nil_of_right_ne_nil _ hnext),
              List.getLast?_append_of_ne_nil _ hnext] at hlast
            exact ih htail (.inr hlast)

/-- A text that neither begins nor ends with white space is not trimmed. -/
theorem trim_of_plain_ends {text : Text}
    (hfirst : ∀ c, text.head? = some c → isWhitespace c = false)
    (hlast : ∀ c, text.getLast? = some c → isWhitespace c = false) : trim text = text := by
  have hdrop (l : Text) (h : ∀ c, l.head? = some c → isWhitespace c = false) :
      l.dropWhile isWhitespace = l := by
    cases l with
    | nil => rfl
    | cons c l => rw [List.dropWhile_cons_of_neg (by rw [h c rfl]; exact Bool.false_ne_true)]
  unfold trim
  rw [hdrop text hfirst, hdrop text.reverse (by rw [List.head?_reverse]; exact hlast),
    List.reverse_reverse]

/-- A text that begins otherwise than with white space has its beginning in its first field. -/
theorem splitWhitespace_cons {c : Char} (h : isWhitespace c = false) (text : Text) :
    ∃ field fields, splitWhitespace (c :: text) = (c :: field) :: fields := by
  unfold splitWhitespace
  rw [List.splitOnP_cons_eq_if_modifyHead, if_neg (by rw [h]; exact Bool.false_ne_true)]
  obtain ⟨field, fields, hsplit⟩ := List.exists_cons_of_ne_nil
    (List.splitOnP_ne_nil isWhitespace text)
  refine ⟨field, fields.filter (fun field => field ≠ []), ?_⟩
  rw [hsplit]
  simp

/-! ## §3. Numbers -/

/-- `char::to_digit`. -/
def toDigit (radix : Nat) (c : Char) : Option Nat :=
  let n := c.toNat
  let value :=
    if 48 ≤ n ∧ n ≤ 57 then n - 48
    else if 97 ≤ n ∧ n ≤ 122 then n - 87
    else if 65 ≤ n ∧ n ≤ 90 then n - 55
    else radix
  if value < radix then some value else none

/-- The number that digits denote, with the value of those before them. -/
def digitsValue (radix : Nat) (before : Nat) (digits : Text) : Option Nat :=
  digits.foldlM (fun n c => (toDigit radix c).map (fun digit => n * radix + digit)) before

/-- `from_str_radix` of an unsigned type whose greatest number is `max`: a plus sign, perhaps, and
at least one digit. -/
def fromStrRadix (max radix : Nat) (text : Text) : Option Nat :=
  let digits := if text.head? = some '+' then text.tail else text
  if digits = [] then none else (digitsValue radix 0 digits).filter (fun n => n ≤ max)

/-- A digit up to sixteen is read as it is written. -/
theorem toDigit_digitChar {radix n : Nat} (hradix : radix ≤ 16) (h : n < radix) :
    toDigit radix n.digitChar = some n := by
  have hall : ∀ radix : Fin 17, ∀ n : Fin 16, n.val < radix.val →
      toDigit radix (Nat.digitChar n) = some n.val := by
    decide +kernel
  exact hall ⟨radix, by omega⟩ ⟨n, by omega⟩ h

/-- The digits of a number denote it, by the recursion that writes them. -/
theorem digitsValue_toDigits {radix : Nat} (hradix : 1 < radix) (hbase : radix ≤ 16) (n : Nat) :
    digitsValue radix 0 (Nat.toDigits radix n) = some n := by
  induction n using Nat.strongRecOn with
  | ind n ih =>
      unfold digitsValue at ih ⊢
      rw [Nat.toDigits_eq_if hradix]
      split
      · next hdigit =>
          rw [List.foldlM_cons, toDigit_digitChar hbase hdigit]
          simp
      · next hmore =>
          have hdiv : n / radix < n := Nat.div_lt_self (by omega) hradix
          have hmod : n % radix < radix := Nat.mod_lt n (by omega)
          rw [List.foldlM_append, ih _ hdiv]
          show (toDigit radix (n % radix).digitChar).map _ >>= pure = _
          rw [toDigit_digitChar hbase hmod]
          show some (n / radix * radix + n % radix) = some n
          rw [Nat.mul_comm, Nat.div_add_mod]

/-- A plus sign and a colon are no digits in any base. -/
theorem toDigit_plus (radix : Nat) : toDigit radix '+' = none := if_neg (Nat.lt_irrefl radix)

theorem toDigit_colon (radix : Nat) : toDigit radix ':' = none := if_neg (Nat.lt_irrefl radix)

/-- What a number is written with is digits. -/
theorem mem_toDigits {radix : Nat} (hradix : 1 < radix) {n : Nat} {c : Char}
    (h : c ∈ Nat.toDigits radix n) : ∃ d, d < radix ∧ c = d.digitChar := by
  induction n using Nat.strongRecOn with
  | ind n ih =>
      rw [Nat.toDigits_eq_if hradix] at h
      split at h
      · next hdigit => exact ⟨n, hdigit, List.mem_singleton.mp h⟩
      · next hmore =>
          obtain hfront | hlast := List.mem_append.mp h
          · exact ih (n / radix) (Nat.div_lt_self (by omega) hradix) hfront
          · exact ⟨n % radix, Nat.mod_lt n (by omega), List.mem_singleton.mp hlast⟩

/-- What a number is written with is read as digits, so no other character is. -/
theorem not_mem_toDigits {radix n : Nat} (hradix : 1 < radix) (hbase : radix ≤ 16) {c : Char}
    (h : toDigit radix c = none) : c ∉ Nat.toDigits radix n := by
  intro hmem
  obtain ⟨d, hd, rfl⟩ := mem_toDigits hradix hmem
  cases h.symm.trans (toDigit_digitChar hbase hd)

/-- Digits up to sixteen are no white space. -/
theorem isWhitespace_digitChar {d : Nat} (h : d < 16) : isWhitespace d.digitChar = false := by
  have hall : ∀ d : Fin 16, isWhitespace (Nat.digitChar d) = false := by decide +kernel
  exact hall ⟨d, h⟩

/-- A number is a field. -/
theorem isField_toDigits {radix : Nat} (hradix : 1 < radix) (hbase : radix ≤ 16) (n : Nat) :
    IsField (Nat.toDigits radix n) := by
  refine ⟨Nat.toDigits_ne_nil, ?_⟩
  intro c hmem
  obtain ⟨d, hd, rfl⟩ := mem_toDigits hradix hmem
  exact isWhitespace_digitChar (by omega)

/-- **A number is read as it is written**, in any base up to sixteen. -/
theorem fromStrRadix_toDigits {max radix n : Nat} (hradix : 1 < radix) (hbase : radix ≤ 16)
    (h : n ≤ max) : fromStrRadix max radix (Nat.toDigits radix n) = some n := by
  have hplus : (Nat.toDigits radix n).head? ≠ some '+' := by
    intro hhead
    exact not_mem_toDigits hradix hbase (toDigit_plus radix) (List.mem_of_head? hhead)
  unfold fromStrRadix
  rw [if_neg hplus]
  show (if Nat.toDigits radix n = [] then none
    else (digitsValue radix 0 (Nat.toDigits radix n)).filter (fun n => n ≤ max)) = _
  rw [if_neg Nat.toDigits_ne_nil, digitsValue_toDigits hradix hbase]
  simp [Option.filter, h]

end Text
