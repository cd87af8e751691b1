/-
  BacnetRs.Service.Nesting — what stands in front of the tag that closes a value.

  The octets of a property are application values, context-tagged primitives and
  brackets, which hold the same again.  The end is found exactly where octets of
  this form stand, but for three forms of an application value that the decoder
  takes and that are not well formed.

    * `findConstructedValueEnd_eq_ok_iff` — an end is found after what is taken, and
                             after nothing else.
    * `end_of_nesting_iff` — it is the end of well-formed octets, unless one of the
                             three stands there.
-/
import BacnetRs.Property.Contents
import BacnetRs.Service.Balance

namespace BacnetRs.Service

open BacnetRs.Encoding BacnetRs.Object BacnetRs.Property Checked Octets

/-! ## §1. Values, primitives and brackets -/

/-- Values, context-tagged primitives and brackets, one after the other.  An application value
has the contents that `contents` allows its tag. -/
inductive Nested (contents : ApplicationTag → Nat → Bytes → Prop) : Bytes → Prop
  | nil : Nested contents []
  | value {tag : ApplicationTag} {length : Nat} {header content rest : Bytes}
      (hheader : IsTag header (.application tag) length) (hcontent : contents tag length content)
      (hrest : Nested contents rest) : Nested contents (header ++ content ++ rest)
  | primitive {number : UInt8} {length : Nat} {header content rest : Bytes}
      (hheader : IsTag header (.context number) length) (hcontent : content.length = length)
      (hrest : Nested contents rest) : Nested contents (header ++ content ++ rest)
  -- The number may be that of a bracket around it.
  | brackets {number : UInt8} {before after : Nat} {opening inner closing rest : Bytes}
      (hopening : IsTag opening (.opening number) before) (hinner : Nested contents inner)
      (hclosing : IsTag closing (.closing number) after) (hrest : Nested contents rest) :
      Nested contents (opening ++ inner ++ closing ++ rest)

section Nested

variable {contents looser : ApplicationTag → Nat → Bytes → Prop} {front back : Bytes}

theorem Nested.append (hfront : Nested contents front) (hback : Nested contents back) :
    Nested contents (front ++ back) := by
  induction hfront with
  | nil => exact hback
  | value hheader hcontent _ ih =>
      rw [List.append_assoc]
      exact .value hheader hcontent ih
  | primitive hheader hcontent _ ih =>
      rw [List.append_assoc]
      exact .primitive hheader hcontent ih
  | brackets hopening hinner hclosing _ _ ih =>
      rw [List.append_assoc]
      exact .brackets hopening hinner hclosing ih

theorem Nested.mono (h : Nested contents front)
    (hlooser : ∀ tag length content, contents tag length content → looser tag length content) :
    Nested looser front := by
  induction h with
  | nil => exact .nil
  | value hheader hcontent _ ih => exact .value hheader (hlooser _ _ _ hcontent) ih
  | primitive hheader hcontent _ ih => exact .primitive hheader hcontent ih
  | brackets hopening _ hclosing _ ihinner ih => exact .brackets hopening ihinner hclosing ih

end Nested

/-! ## §2. An end is found after what is taken -/

/-- A value that is taken is crossed. -/
theorem balanced_taken {tag : ApplicationTag} {length : Nat} {header content : Bytes}
    (hheader : IsTag header (.application tag) length) (hcontent : Taken tag length content) :
    Balanced (header ++ content) := by
  intro data rest position openTags h _
  rw [List.append_assoc] at h
  have htag := decodeApplicationTag_eq_ok.mpr (hheader.decodes (content ++ rest))
  have hleft : Left (header ++ (content ++ rest)) header.length (content ++ rest) :=
    ⟨by rw [List.length_append]; omega, List.drop_left⟩
  obtain ⟨value, hvalue⟩ := (decodePropertyValue_accepts htag).mpr
    ⟨content, rest, hleft, hcontent, rfl⟩
  apply findFrom_of_step (lt_of_left h hheader.length_pos)
  rw [findStep_of_left h (hheader.decodes _)]
  simp only [hvalue, List.length_append]
  rfl

theorem Nested.balanced {octets : Bytes} (h : Nested Taken octets) : Balanced octets := by
  induction h with
  | nil => exact balanced_nil
  | value hheader hcontent _ ih => exact (balanced_taken hheader hcontent).append ih
  | primitive hheader hcontent _ ih => exact (balanced_field hheader hcontent).append ih
  | brackets hopening _ hclosing _ ihinner ih => exact (ihinner.between hopening hclosing).append ih

/-! ## §3. And after nothing else -/

section Step

variable {data rest : Bytes} {position : Nat} {openTags : List UInt8}

/-- **What a round comes past**: a value or a primitive, a tag that opens, or the one that closes
the last that was opened. -/
theorem findStep_cases {step : Option (Nat × List UInt8)} (h : Left data position rest)
    (hstep : findStep data position openTags = .ok step) :
    (∃ item after, rest = item ++ after ∧ Nested Taken item
        ∧ step = some (position + item.length, openTags))
      ∨ (∃ number length opening after, rest = opening ++ after
        ∧ IsTag opening (.opening number) length
        ∧ step = some (position + opening.length, number :: openTags))
      ∨ (∃ number length closing after outer, rest = closing ++ after
        ∧ IsTag closing (.closing number) length ∧ openTags = number :: outer
        ∧ step = if outer.isEmpty then none else some (position + closing.length, outer)) := by
  unfold findStep at hstep
  rw [h.dropFrom, ok_bind] at hstep
  obtain ⟨⟨tag, length, headerLength⟩, htag, hstep⟩ := bind_eq_ok.mp hstep
  rw [ofExcept_eq_ok] at htag
  obtain ⟨header, after, rfl, rfl, hheader⟩ := isTag_of_decodeTag htag
  cases tag with
  -- An application value is a whole item, which its decoder accepts.
  | application tag =>
      obtain ⟨⟨value, consumed⟩, hvalue, hstep⟩ := bind_eq_ok.mp hstep
      obtain ⟨content, behind, hleft, hcontent, rfl⟩ :=
        (decodePropertyValue_accepts (decodeApplicationTag_eq_ok.mpr htag)).mp ⟨value, hvalue⟩
      have hafter : after = content ++ behind := by
        rw [← hleft.2, List.drop_left]
      refine .inl ⟨header ++ content ++ [], behind, ?_, .value hheader hcontent .nil, ?_⟩
      · rw [hafter, List.append_nil, List.append_assoc]
      · rw [pure_eq_ok] at hstep
        rw [← hstep, List.append_nil, List.length_append]
  -- A context value is passed over by its length, content unseen.
  | context number =>
      obtain ⟨hwithin, hstep⟩ := guard_eq_ok.mp hstep
      have hlength := h.length
      rw [List.length_append] at hlength
      have hcontent : (after.take length).length = length := by
        rw [List.length_take]
        omega
      refine .inl ⟨header ++ after.take length ++ [], after.drop length, ?_,
        .primitive hheader hcontent .nil, ?_⟩
      · rw [List.append_nil, List.append_assoc, List.take_append_drop]
      · rw [pure_eq_ok] at hstep
        rw [← hstep, List.append_nil, List.length_append, hcontent, Nat.add_assoc]
  | opening number =>
      rw [pure_eq_ok] at hstep
      exact .inr (.inl ⟨number, length, header, after, rfl, hheader, hstep.symm⟩)
  -- A closing tag must be the one last opened; the outermost ends the search.
  | closing number =>
      cases openTags with
      | nil => cases hstep
      | cons last outer =>
          obtain ⟨hlast, hclosed⟩ := guard_eq_ok.mp hstep
          rw [not_not] at hlast
          subst hlast
          refine .inr (.inr ⟨last, length, header, after, outer, rfl, hheader, rfl, ?_⟩)
          cases outer with
          | nil =>
              cases hclosed
              rfl
          | cons next outer =>
              cases hclosed
              rfl

end Step

/-- Octets that close `tags`, the first of them first, and nothing they did not open. -/
inductive Closes : List UInt8 → Bytes → Prop
  | nil {octets : Bytes} (hoctets : Nested Taken octets) : Closes [] octets
  | cons {number : UInt8} {tags : List UInt8} {length : Nat} {octets closing rest : Bytes}
      (hoctets : Nested Taken octets) (hclosing : IsTag closing (.closing number) length)
      (hrest : Closes tags rest) : Closes (number :: tags) (octets ++ (closing ++ rest))

theorem Closes.prepend {tags : List UInt8} {front octets : Bytes} (h : Closes tags octets)
    (hfront : Nested Taken front) : Closes tags (front ++ octets) := by
  cases h with
  | nil hoctets => exact .nil (hfront.append hoctets)
  | cons hoctets hclosing hrest =>
      rw [← List.append_assoc]
      exact .cons (hfront.append hoctets) hclosing hrest

/-- What the loop comes past closes the tags that are open, all but the outermost. -/
theorem findEnd_closes {data : Bytes} {outermost : UInt8} :
    ∀ (fuel position : Nat) (tags : List UInt8) {found : Nat},
      findEnd data fuel position (tags ++ [outermost]) = .ok found →
        ∃ octets closing rest length, Left data position (octets ++ (closing ++ rest))
          ∧ Closes tags octets ∧ IsTag closing (.closing outermost) length
          ∧ found = position + octets.length
  | 0, _, _, _, h => by cases h
  | fuel + 1, position, tags, found, h => by
      unfold findEnd at h
      by_cases hposition : position < data.length
      · rw [if_pos hposition] at h
        obtain ⟨step, hstep, h⟩ := bind_eq_ok.mp h
        have hleft : Left data position (data.drop position) := ⟨by omega, rfl⟩
        rcases findStep_cases hleft hstep with ⟨item, after, hrest, hitem, rfl⟩
          | ⟨number, length, opening, after, hrest, hopening, rfl⟩
          | ⟨number, length, closing, after, outer, hrest, hclosing, htags, rfl⟩
        · rw [hrest] at hleft
          obtain ⟨octets, closing, rest, length, hnext, hcloses, hclosing, rfl⟩ :=
            findEnd_closes fuel _ tags h
          obtain rfl := hleft.after_eq hnext
          refine ⟨item ++ octets, closing, rest, length, ?_, hcloses.prepend hitem, hclosing, ?_⟩
          · rwa [List.append_assoc]
          · rw [List.length_append, Nat.add_assoc]
        · -- What closes the new bracket first closes the others after it.
          rw [hrest] at hleft
          obtain ⟨octets, closing, rest, length', hnext, hcloses, hclosing, rfl⟩ :=
            findEnd_closes fuel _ (number :: tags) h
          obtain rfl := hleft.after_eq hnext
          cases hcloses with
          | @cons _ _ _ inner innerClosing behind hinner hinnerClosing hbehind =>
              have hbracket : Nested Taken (opening ++ inner ++ innerClosing ++ []) :=
                .brackets hopening hinner hinnerClosing .nil
              refine ⟨opening ++ inner ++ innerClosing ++ [] ++ behind, closing, rest, length', ?_,
                hbehind.prepend hbracket, hclosing, ?_⟩
              · simpa only [List.append_assoc, List.nil_append] using hleft
              · simp only [List.length_append, List.length_nil, Nat.add_assoc, Nat.zero_add]
        · rw [hrest] at hleft
          cases tags with
          | nil =>
              -- The outermost bracket: its tag is the end.
              cases htags
              cases h
              exact ⟨[], closing, after, length, hleft, .nil .nil, hclosing, rfl⟩
          | cons first tags =>
              have hnumber : first = number := (List.cons.inj htags).1
              have houter : tags ++ [outermost] = outer := (List.cons.inj htags).2
              subst hnumber
              subst houter
              have hopen : (tags ++ [outermost]).isEmpty = false := by
                cases tags <;> rfl
              rw [hopen] at h
              obtain ⟨octets, last, rest, length', hnext, hcloses, hlast, rfl⟩ :=
                findEnd_closes fuel _ tags h
              obtain rfl := hleft.after_eq hnext
              refine ⟨[] ++ (closing ++ octets), last, rest, length', ?_, .cons .nil hclosing hcloses,
                hlast, ?_⟩
              · rwa [List.nil_append, List.append_assoc]
              · rw [List.nil_append, List.length_append, Nat.add_assoc]
      · rw [if_neg hposition] at h
        cases h

/-- **An end is found where what is taken ends**, before a tag that closes the bracket. -/
theorem findConstructedValueEnd_eq_ok_iff {data : Bytes} {position found : Nat} {outerTag : UInt8} :
    findConstructedValueEnd data position outerTag = .ok found
      ↔ ∃ octets closing rest length, Left data position (octets ++ (closing ++ rest))
        ∧ Nested Taken octets ∧ IsTag closing (.closing outerTag) length
        ∧ found = position + octets.length := by
  constructor
  · intro h
    obtain ⟨octets, closing, rest, length, hleft, hcloses, hclosing, hfound⟩ :=
      findEnd_closes _ position [] h
    cases hcloses with
    | nil hoctets => exact ⟨octets, closing, rest, length, hleft, hoctets, hclosing, hfound⟩
  · rintro ⟨octets, closing, rest, length, hleft, hoctets, hclosing, rfl⟩
    show findFrom data position [outerTag] = _
    rw [hoctets.balanced _ _ _ _ hleft (List.cons_ne_nil _ _), findFrom_closed hclosing hleft.next]

/-! ## §4. Octets are read in one way -/

/-- What stands behind the tag that comes first. -/
theorem Nested.behind {contents : ApplicationTag → Nat → Bytes → Prop} {header after : Bytes}
    {tag : BACnetTag} {length : Nat} (h : Nested contents (header ++ after))
    (hheader : IsTag header tag length) :
    (∃ type content rest, tag = .application type ∧ after = content ++ rest
        ∧ contents type length content ∧ Nested contents rest)
      ∨ (∃ number content rest, tag = .context number ∧ after = content ++ rest
        ∧ content.length = length ∧ Nested contents rest)
      ∨ (∃ number inner closing rest closingLength, tag = .opening number
        ∧ after = inner ++ (closing ++ rest) ∧ Nested contents inner
        ∧ IsTag closing (.closing number) closingLength ∧ Nested contents rest) := by
  generalize hoctets : header ++ after = octets at h
  cases h with
  | nil =>
      have hempty := congrArg List.length hoctets
      have hpositive := hheader.length_pos
      rw [List.length_append, List.length_nil] at hempty
      omega
  | value hheader' hcontent hrest =>
      rw [List.append_assoc] at hoctets
      obtain ⟨rfl, rfl, rfl, rfl⟩ := isTag_unique hheader hheader' hoctets
      exact .inl ⟨_, _, _, rfl, rfl, hcontent, hrest⟩
  | primitive hheader' hcontent hrest =>
      rw [List.append_assoc] at hoctets
      obtain ⟨rfl, rfl, rfl, rfl⟩ := isTag_unique hheader hheader' hoctets
      exact .inr (.inl ⟨_, _, _, rfl, rfl, hcontent, hrest⟩)
  | brackets hopening hinner hclosing hrest =>
      simp only [List.append_assoc] at hoctets
      obtain ⟨rfl, rfl, rfl, rfl⟩ := isTag_unique hheader hopening hoctets
      exact .inr (.inr ⟨_, _, _, _, _, rfl, rfl, hinner, hclosing, hrest⟩)

/-- Where a bracket closes is one place. -/
theorem inner_unique {number : UInt8} {length length' : Nat}
    {inner inner' closing closing' rest rest' : Bytes}
    (hinner : Nested Taken inner) (hclosing : IsTag closing (.closing number) length)
    (hinner' : Nested Taken inner') (hclosing' : IsTag closing' (.closing number) length')
    (hsame : inner ++ (closing ++ rest) = inner' ++ (closing' ++ rest')) :
    inner = inner' ∧ rest = rest' := by
  have hfound := findConstructedValueEnd_eq_ok_iff.mpr
    ⟨inner, closing, rest, length, left_zero _, hinner, hclosing, rfl⟩
  have hfound' := findConstructedValueEnd_eq_ok_iff.mpr
    ⟨inner', closing', rest', length', left_zero _, hinner', hclosing', rfl⟩
  rw [hsame, hfound', Except.ok.injEq] at hfound
  obtain ⟨hfront, hbehind⟩ := List.append_inj hsame (by omega)
  exact ⟨hfront, (isTag_unique hclosing hclosing' hbehind).2.2.2⟩

/-- Octets that are taken and hold a value of one of the three forms. -/
inductive Slackened : Bytes → Prop
  | here {tag : ApplicationTag} {length : Nat} {header content rest : Bytes}
      (hheader : IsTag header (.application tag) length) (hcontent : Slack tag length content)
      (hrest : Nested Taken rest) : Slackened (header ++ content ++ rest)
  | value {tag : ApplicationTag} {length : Nat} {header content rest : Bytes}
      (hheader : IsTag header (.application tag) length) (hcontent : WellFormed tag length content)
      (hrest : Slackened rest) : Slackened (header ++ content ++ rest)
  | primitive {number : UInt8} {length : Nat} {header content rest : Bytes}
      (hheader : IsTag header (.context number) length) (hcontent : content.length = length)
      (hrest : Slackened rest) : Slackened (header ++ content ++ rest)
  | inside {number : UInt8} {before after : Nat} {opening inner closing rest : Bytes}
      (hopening : IsTag opening (.opening number) before) (hinner : Slackened inner)
      (hclosing : IsTag closing (.closing number) after) (hrest : Nested Taken rest) :
      Slackened (opening ++ inner ++ closing ++ rest)
  | behind {number : UInt8} {before after : Nat} {opening inner closing rest : Bytes}
      (hopening : IsTag opening (.opening number) before) (hinner : Nested WellFormed inner)
      (hclosing : IsTag closing (.closing number) after) (hrest : Slackened rest) :
      Slackened (opening ++ inner ++ closing ++ rest)

theorem taken_of_wellFormed (tag : ApplicationTag) (length : Nat) (content : Bytes)
    (h : WellFormed tag length content) : Taken tag length content := .inl h

theorem Slackened.taken {octets : Bytes} (h : Slackened octets) : Nested Taken octets := by
  induction h with
  | here hheader hcontent hrest => exact .value hheader (.inr hcontent) hrest
  | value hheader hcontent _ ih => exact .value hheader (.inl hcontent) ih
  | primitive hheader hcontent _ ih => exact .primitive hheader hcontent ih
  | inside hopening _ hclosing hrest ih => exact .brackets hopening ih hclosing hrest
  | behind hopening hinner hclosing _ ih =>
      exact .brackets hopening (hinner.mono taken_of_wellFormed) hclosing ih

/-- What is taken is well formed, or holds one of the three. -/
theorem Nested.wellFormed_or_slackened {octets : Bytes} (h : Nested Taken octets) :
    Nested WellFormed octets ∨ Slackened octets := by
  induction h with
  | nil => exact .inl .nil
  | value hheader hcontent hrest ih =>
      rcases hcontent with hcontent | hcontent
      · rcases ih with ih | ih
        · exact .inl (.value hheader hcontent ih)
        · exact .inr (.value hheader hcontent ih)
      · exact .inr (.here hheader hcontent hrest)
  | primitive hheader hcontent _ ih =>
      rcases ih with ih | ih
      · exact .inl (.primitive hheader hcontent ih)
      · exact .inr (.primitive hheader hcontent ih)
  | brackets hopening _ hclosing hrest ihinner ih =>
      rcases ihinner with ihinner | ihinner
      · rcases ih with ih | ih
        · exact .inl (.brackets hopening ihinner hclosing ih)
        · exact .inr (.behind hopening ihinner hclosing ih)
      · exact .inr (.inside hopening ihinner hclosing hrest)

/-- **And never both**: octets are read in one way. -/
theorem Slackened.not_wellFormed {octets : Bytes} (h : Slackened octets) :
    ¬ Nested WellFormed octets := by
  -- A header has one type, so both readings give the item at the front the same shape.
  induction h with
  | here hheader hcontent _ =>
      intro hformed
      rw [List.append_assoc] at hformed
      rcases hformed.behind hheader with ⟨_, _, _, htype, hafter, hcontent', _⟩
        | ⟨_, _, _, htype, _⟩ | ⟨_, _, _, _, _, htype, _⟩
      · cases htype
        obtain ⟨rfl, _⟩ := Taken.unique (.inr hcontent) (.inl hcontent') hafter
        exact hcontent.not_wellFormed hcontent'
      · cases htype
      · cases htype
  | value hheader hcontent _ ih =>
      intro hformed
      rw [List.append_assoc] at hformed
      rcases hformed.behind hheader with ⟨_, _, _, htype, hafter, hcontent', hrest⟩
        | ⟨_, _, _, htype, _⟩ | ⟨_, _, _, _, _, htype, _⟩
      · cases htype
        obtain ⟨_, rfl⟩ := Taken.unique (.inl hcontent) (.inl hcontent') hafter
        exact ih hrest
      · cases htype
      · cases htype
  | primitive hheader hcontent _ ih =>
      intro hformed
      rw [List.append_assoc] at hformed
      rcases hformed.behind hheader with ⟨_, _, _, htype, _⟩
        | ⟨_, _, _, _, hafter, hcontent', hrest⟩ | ⟨_, _, _, _, _, htype, _⟩
      · cases htype
      · obtain ⟨_, rfl⟩ := List.append_inj hafter (hcontent.trans hcontent'.symm)
        exact ih hrest
      · cases htype
  -- The slack is inside the brackets: both readings close them at the same tag.
  | inside hopening hinner hclosing _ ih =>
      intro hformed
      simp only [List.append_assoc] at hformed
      rcases hformed.behind hopening with ⟨_, _, _, htype, _⟩ | ⟨_, _, _, htype, _⟩
        | ⟨_, _, _, _, _, htype, hafter, hinner', hclosing', _⟩
      · cases htype
      · cases htype
      · cases htype
        obtain ⟨rfl, _⟩ := inner_unique hinner.taken hclosing
          (hinner'.mono taken_of_wellFormed) hclosing' hafter
        exact ih hinner'
  | behind hopening hinner hclosing _ ih =>
      intro hformed
      simp only [List.append_assoc] at hformed
      rcases hformed.behind hopening with ⟨_, _, _, htype, _⟩ | ⟨_, _, _, htype, _⟩
        | ⟨_, _, _, _, _, htype, hafter, hinner', hclosing', hrest⟩
      · cases htype
      · cases htype
      · cases htype
        obtain ⟨_, rfl⟩ := inner_unique (hinner.mono taken_of_wellFormed) hclosing
          (hinner'.mono taken_of_wellFormed) hclosing' hafter
        exact ih hrest

/-! ## §5. Where a value ends -/

/-- The end is found behind well-formed octets in front of a tag that closes `outerTag`, wherever
such octets begin, and nowhere else; and the search comes to an end of its own. -/
def FindsEnd (data : Bytes) (position : Nat) (outerTag : UInt8) : Prop :=
  (∀ octets closing rest length, Left data position (octets ++ (closing ++ rest)) →
      Nested WellFormed octets → IsTag closing (.closing outerTag) length →
        findConstructedValueEnd data position outerTag = .ok (position + octets.length))
    ∧ (∀ found, findConstructedValueEnd data position outerTag = .ok found →
        ∃ octets closing rest length, Left data position (octets ++ (closing ++ rest))
          ∧ Nested WellFormed octets ∧ IsTag closing (.closing outerTag) length
          ∧ found = position + octets.length)
    ∧ (∀ fuel, data.length < fuel → findEnd data fuel position [outerTag]
        = findConstructedValueEnd data position outerTag)
    ∧ findConstructedValueEnd data position outerTag ≠ .error .panic

/-- **The end found is that of well-formed octets**, but where a Null with a length, an Unsigned
of no octets or unused bits of no octet stand among them. -/
theorem end_of_nesting_iff (data : Bytes) (position : Nat) (outerTag : UInt8) :
    FindsEnd data position outerTag
      ↔ ¬ ∃ octets closing rest length, Left data position (octets ++ (closing ++ rest))
        ∧ Slackened octets ∧ IsTag closing (.closing outerTag) length := by
  constructor
  · rintro ⟨_, hsound, _⟩ ⟨octets, closing, rest, length, hleft, hslack, hclosing⟩
    have hfound := findConstructedValueEnd_eq_ok_iff.mpr
      ⟨octets, closing, rest, length, hleft, hslack.taken, hclosing, rfl⟩
    obtain ⟨octets', closing', rest', length', hleft', hformed, hclosing', hsame⟩ :=
      hsound _ hfound
    -- Both start at one place and are of one length.
    have hoctets : octets = octets' :=
      (List.append_inj (hleft.2.symm.trans hleft'.2) (by omega)).1
    exact hslack.not_wellFormed (hoctets ▸ hformed)
  · intro hnone
    refine ⟨?_, ?_, fun fuel hfuel => findEnd_of_lt hfuel position outerTag,
      (findConstructedValueEnd_meets data position outerTag).1⟩
    · intro octets closing rest length hleft hformed hclosing
      exact findConstructedValueEnd_eq_ok_iff.mpr
        ⟨octets, closing, rest, length, hleft, hformed.mono taken_of_wellFormed, hclosing, rfl⟩
    · intro found hfound
      obtain ⟨octets, closing, rest, length, hleft, htaken, hclosing, hsame⟩ :=
        findConstructedValueEnd_eq_ok_iff.mp hfound
      rcases htaken.wellFormed_or_slackened with hformed | hslack
      · exact ⟨octets, closing, rest, length, hleft, hformed, hclosing, hsame⟩
      · exact absurd ⟨octets, closing, rest, length, hleft, hslack, hclosing⟩ hnone

/-- A Null that declares an octet, in front of the tag that closes bracket 3. -/
theorem null_with_a_length : ¬ FindsEnd [0x01, 0x3F] 0 3 := by
  rintro ⟨_, hsound, _⟩
  have hfound : findConstructedValueEnd [0x01, 0x3F] 0 3 = .ok 1 := by rfl
  obtain ⟨octets, closing, rest, _, hleft, hformed, _, hsame⟩ := hsound 1 hfound
  have hoctets : [0x01] = octets :=
    (List.append_inj (show [0x01] ++ [0x3F] = octets ++ (closing ++ rest) from hleft.2)
      (by rw [List.length_singleton]; omega)).1
  have hslack : Slackened ([0x01] ++ [] ++ []) :=
    @Slackened.here .null 1 _ _ _ rfl ⟨by decide, rfl⟩ .nil
  rw [← hoctets] at hformed
  exact hslack.not_wellFormed hformed

end BacnetRs.Service
