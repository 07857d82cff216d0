/-
InlineSearch.Proofs.Text.Cut — cutting a text at a separator.

A cut succeeds exactly where the separator occurs (`cut_eq_none_iff`). In
a text of two parts the first part decides, if the separator occurs there
(`cut_append`), so a cut is made at the earliest occurrence there is
(`cut_eq_some_iff`). A character that the separator lacks keeps the parts
apart: no occurrence reaches across it (`cut_append_cons`,
`infix_append_cons`).
-/
import InlineSearch.Text.Basic
import Mathlib.Data.List.Basic

namespace InlineSearch.Text

/-! ## Occurrences -/

theorem dropSuffix?_eq_some_iff {p t rest : Text} :
    dropSuffix? p t = some rest ↔ t = rest ++ p := by
  unfold dropSuffix?
  rw [Option.map_eq_some_iff]
  constructor
  · rintro ⟨before, hbefore, rfl⟩
    rw [← List.reverse_reverse t, dropPrefix?_eq_some_iff.1 hbefore, List.reverse_append,
      List.reverse_reverse]
  · rintro rfl
    exact ⟨rest.reverse, dropPrefix?_eq_some_iff.2 (List.reverse_append ..),
      List.reverse_reverse rest⟩

theorem dropPrefix?_eq_none_iff {p t : Text} : dropPrefix? p t = none ↔ ¬ p <+: t := by
  rw [Option.eq_none_iff_forall_not_mem]
  constructor
  · rintro hnone ⟨rest, hrest⟩
    exact hnone rest (dropPrefix?_eq_some_iff.2 hrest.symm)
  · intro h rest hrest
    exact h ⟨rest, (dropPrefix?_eq_some_iff.1 hrest).symm⟩

/-- A text that cannot be cut does not hold the separator, and the other
way round. -/
theorem cut_eq_none_iff {sep t : Text} : cut sep t = none ↔ ¬ sep <:+: t := by
  induction t with
  | nil => cases sep <;> simp [cut]
  | cons c t ih =>
    rw [List.infix_cons_iff, cut]
    split
    · next rest hrest =>
      have hstart : sep <+: c :: t := ⟨rest, (dropPrefix?_eq_some_iff.1 hrest).symm⟩
      simp [hstart]
    · next hnone =>
      rw [Option.map_eq_none_iff, ih, not_or]
      exact ⟨fun h => ⟨dropPrefix?_eq_none_iff.1 hnone, h⟩, And.right⟩

theorem contains_eq_false_iff {part t : Text} : contains part t = false ↔ ¬ part <:+: t := by
  rw [contains, Option.isSome_eq_false_iff, Option.isNone_iff_eq_none, cut_eq_none_iff]

/-! ## Ends -/

theorem endsWith_eq_isSome (sign t : Text) : endsWith sign t = (dropSuffix? sign t).isSome := by
  rw [Bool.eq_iff_iff, endsWith, List.isSuffixOf_iff_suffix, Option.isSome_iff_exists]
  exact exists_congr fun rest => by rw [dropSuffix?_eq_some_iff, eq_comm]

theorem endsWith_feed_iff {t : Text} : endsWith "\n" t = true ↔ t.getLast? = some '\n' := by
  rw [endsWith, List.isSuffixOf_iff_suffix]
  exact List.singleton_suffix_iff_getLast?_eq_some

/-- A text does not end with a sign if it ends with another character. -/
theorem endsWith_eq_false {sign t : Text} {c : Char} (hsign : sign.getLast? = some c)
    (h : t.getLast? ≠ some c) : endsWith sign t = false := by
  rw [endsWith, Bool.eq_false_iff, ne_eq, List.isSuffixOf_iff_suffix]
  rintro ⟨before, rfl⟩
  have hne : sign ≠ [] := by
    rintro rfl
    simp at hsign
  rw [List.getLast?_append_of_ne_nil _ hne] at h
  exact h hsign

theorem dropSuffix?_eq_none {sign t : Text} {c : Char} (hsign : sign.getLast? = some c)
    (h : t.getLast? ≠ some c) : dropSuffix? sign t = none := by
  rw [Option.eq_none_iff_forall_ne_some]
  intro rest hrest
  have hends : endsWith sign t = true :=
    List.isSuffixOf_iff_suffix.2 ⟨rest, (dropSuffix?_eq_some_iff.1 hrest).symm⟩
  rw [endsWith_eq_false hsign h] at hends
  simp at hends

/-! ## Two parts -/

/-- The first occurrence in the first part of a text is the first one in the
text: an occurrence that begins earlier ends earlier too. -/
theorem cut_append {sep a before after : Text} (h : cut sep a = some (before, after)) (b : Text) :
    cut sep (a ++ b) = some (before, after ++ b) := by
  induction a generalizing before after with
  | nil =>
    cases sep with
    | nil =>
      obtain ⟨rfl, rfl⟩ : [] = before ∧ [] = after := by simpa [cut] using h
      cases b <;> rfl
    | cons s sep => simp [cut] at h
  | cons c a ih =>
    rw [List.cons_append, cut]
    rw [cut] at h
    split at h
    · next rest hrest =>
      obtain ⟨rfl, rfl⟩ : [] = before ∧ rest = after := by simpa using h
      have hstart : dropPrefix? sep (c :: (a ++ b)) = some (rest ++ b) := by
        rw [dropPrefix?_eq_some_iff, ← List.cons_append, dropPrefix?_eq_some_iff.1 hrest,
          List.append_assoc]
      rw [hstart]
    · next hnone =>
      obtain ⟨⟨x, y⟩, hcut, he⟩ := Option.map_eq_some_iff.1 h
      obtain ⟨rfl, rfl⟩ : c :: x = before ∧ y = after := by simpa using he
      have hnot : dropPrefix? sep (c :: (a ++ b)) = none := by
        rw [dropPrefix?_eq_none_iff]
        intro hstart
        have hshort : sep.length ≤ (c :: a).length := by
          have := length_of_cut hcut
          rw [List.length_cons]
          omega
        exact dropPrefix?_eq_none_iff.1 hnone
          (List.prefix_of_prefix_length_le hstart (List.prefix_append (c :: a) b) hshort)
      rw [hnot, ih hcut]
      rfl

/-- The separator occurs behind `before` and in front of `after`, and nowhere
earlier in the text. -/
structure CutAt (sep t before after : Text) : Prop where
  parts : t = before ++ sep ++ after
  earliest : ∀ before' after', t = before' ++ sep ++ after' → before.length ≤ before'.length

theorem exists_cut {sep t : Text} (h : sep <:+: t) :
    ∃ before after, cut sep t = some (before, after) := by
  obtain ⟨⟨before, after⟩, hcut⟩ : ∃ parts, cut sep t = some parts := by
    rw [← Option.ne_none_iff_exists', Ne, cut_eq_none_iff, not_not]
    exact h
  exact ⟨before, after, hcut⟩

/-- A text is cut at the earliest occurrence of the separator. -/
theorem cut_eq_some_iff {sep t before after : Text} :
    cut sep t = some (before, after) ↔ CutAt sep t before after := by
  have hearliest : ∀ {x y}, cut sep t = some (x, y) →
      ∀ before' after', t = before' ++ sep ++ after' → x.length ≤ before'.length := by
    intro x y hcut before' after' ht
    obtain ⟨u, v, hfound⟩ := exists_cut (List.suffix_append before' sep).isInfix
    have hall := cut_append hfound after'
    rw [← ht, hcut] at hall
    obtain ⟨rfl, -⟩ := Prod.mk.inj (Option.some.inj hall)
    have hlength := length_of_cut hfound
    rw [List.length_append] at hlength
    omega
  constructor
  · exact fun h => ⟨eq_of_cut h, hearliest h⟩
  · rintro ⟨ht, hfirst⟩
    have hin : sep <:+: t := ⟨before, after, ht.symm⟩
    obtain ⟨x, y, hcut⟩ := exists_cut hin
    have hxy := eq_of_cut hcut
    have hlength : x.length = before.length :=
      Nat.le_antisymm (hearliest hcut before after ht) (hfirst x y hxy)
    have hsame : x ++ (sep ++ y) = before ++ (sep ++ after) := by
      rw [← List.append_assoc, ← hxy, ht, List.append_assoc]
    obtain ⟨rfl, hrest⟩ := List.append_inj hsame hlength
    obtain rfl : y = after := List.append_cancel_left hrest
    exact hcut

/-- A separator that the second part of a text does not hold begins in the
first part. -/
theorem length_lt_of_cut_append {sep a b before after : Text}
    (h : cut sep (a ++ b) = some (before, after)) (hb : ¬ sep <:+: b) :
    before.length < a.length := by
  have hsplit := eq_of_cut h
  rw [List.append_assoc] at hsplit
  refine Nat.lt_of_not_le fun hlong => ?_
  have hstart : a <+: before :=
    List.prefix_of_prefix_length_le (List.prefix_append a b) ⟨_, hsplit.symm⟩ hlong
  obtain ⟨x, rfl⟩ := hstart
  rw [List.append_assoc, List.append_cancel_left_eq] at hsplit
  exact hb ⟨x, after, by rw [hsplit, List.append_assoc]⟩

/-- What a cut finds does not depend on what follows the separator. -/
theorem cut_of_cut {sep t before after : Text} (h : cut sep t = some (before, after)) (b : Text) :
    cut sep (before ++ sep ++ b) = some (before, b) := by
  obtain ⟨x, y, hfound⟩ := exists_cut (List.suffix_append before sep).isInfix
  have hall := cut_append hfound after
  rw [← eq_of_cut h, h, Option.some.injEq, Prod.mk.injEq] at hall
  obtain ⟨rfl, hafter⟩ := hall
  have hnil : y = [] := List.append_cancel_right (hafter.symm.trans (List.nil_append after).symm)
  rw [cut_append hfound b, hnil, List.nil_append]

/-- The separator does not occur before its first occurrence. -/
theorem not_infix_of_cut {sep t before after : Text} (hne : sep ≠ [])
    (h : cut sep t = some (before, after)) : ¬ sep <:+: before := by
  intro hin
  obtain ⟨x, y, hfound⟩ := exists_cut hin
  have hall := cut_append hfound (sep ++ after)
  rw [← List.append_assoc, ← eq_of_cut h, h, Option.some.injEq, Prod.mk.injEq] at hall
  obtain ⟨rfl, -⟩ := hall
  have := length_of_cut hfound
  have := List.length_pos_iff.2 hne
  omega

/-- A separator at the start of a text is cut off there. -/
theorem cut_self_append {sep : Text} (hne : sep ≠ []) (t : Text) :
    cut sep (sep ++ t) = some ([], t) := by
  obtain ⟨s, rest, rfl⟩ := List.exists_cons_of_ne_nil hne
  rw [List.cons_append, cut, ← List.cons_append, dropPrefix?_eq_some_iff.2 rfl]

/-- A cut at a separator whose first character is new finds it there. -/
theorem cut_of_not_mem {s : Char} {sep a : Text} (h : s ∉ a) (b : Text) :
    cut (s :: sep) (a ++ (s :: sep ++ b)) = some (a, b) := by
  induction a with
  | nil => exact cut_self_append (by simp) b
  | cons c a ih =>
    rw [List.mem_cons, not_or] at h
    rw [List.cons_append, cut, ih h.2]
    simp [dropPrefix?, h.1]

variable {sep : Text} {c : Char}

/-- A text that begins with the separator holds all of it in front of a
character that the separator lacks. -/
theorem prefix_append_cons (hc : c ∉ sep) {a b : Text} : sep <+: a ++ c :: b ↔ sep <+: a := by
  constructor
  · intro h
    rcases List.prefix_or_prefix_of_prefix h (List.prefix_append a (c :: b)) with hshort | hlong
    · exact hshort
    · obtain ⟨rest, rfl⟩ := hlong
      have hrest : rest <+: c :: b := (List.prefix_append_right_inj a).1 h
      cases rest with
      | nil => exact ⟨[], by rw [List.append_nil, List.append_nil]⟩
      | cons d rest =>
        obtain ⟨rfl, -⟩ := List.cons_prefix_cons.1 hrest
        exact absurd (List.mem_append_right a (List.mem_cons_self ..)) hc
  · exact fun h => h.trans (List.prefix_append a (c :: b))

theorem dropPrefix?_append_cons (hc : c ∉ sep) (a b : Text) :
    dropPrefix? sep (a ++ c :: b) = (dropPrefix? sep a).map (· ++ c :: b) := by
  cases hdrop : dropPrefix? sep a with
  | some rest =>
    rw [Option.map_some, dropPrefix?_eq_some_iff, ← List.append_assoc,
      ← dropPrefix?_eq_some_iff.1 hdrop]
  | none =>
    rw [Option.map_none, dropPrefix?_eq_none_iff, prefix_append_cons hc]
    exact dropPrefix?_eq_none_iff.1 hdrop

/-- No occurrence reaches across a character that the separator lacks. -/
theorem infix_append_cons (hc : c ∉ sep) (hne : sep ≠ []) {a b : Text} :
    sep <:+: a ++ c :: b ↔ sep <:+: a ∨ sep <:+: b := by
  induction a with
  | nil =>
    have hstart : ¬ sep <+: c :: b := by
      rw [← List.nil_append (c :: b), prefix_append_cons hc, List.prefix_nil]
      exact hne
    rw [List.nil_append, List.infix_cons_iff, List.infix_nil, or_iff_right hstart,
      or_iff_right hne]
  | cons d a ih =>
    rw [List.cons_append, List.infix_cons_iff, List.infix_cons_iff, ih, ← List.cons_append,
      prefix_append_cons hc, or_assoc]

/-- Nor does one begin where its first character does not stand. -/
theorem infix_append_of_not_mem {d : Char} {a : Text} (h : d ∉ a) (b : Text) :
    d :: sep <:+: a ++ b ↔ d :: sep <:+: b := by
  induction a with
  | nil => rfl
  | cons e a ih =>
    rw [List.mem_cons, not_or] at h
    have hstart : ¬ d :: sep <+: e :: (a ++ b) := fun hprefix =>
      h.1 (List.cons_prefix_cons.1 hprefix).1
    rw [List.cons_append, List.infix_cons_iff, or_iff_right hstart, ih h.2]

/-- Without an occurrence in front of such a character, the text is cut
behind it. -/
theorem cut_append_cons (hc : c ∉ sep) (hne : sep ≠ []) {a : Text} (h : ¬ sep <:+: a) (b : Text) :
    cut sep (a ++ c :: b) = (cut sep b).map fun (before, after) => (a ++ c :: before, after) := by
  induction a with
  | nil =>
    have hnone : dropPrefix? sep (c :: b) = none := by
      rw [dropPrefix?_eq_none_iff, ← List.nil_append (c :: b), prefix_append_cons hc,
        List.prefix_nil]
      exact hne
    rw [List.nil_append, cut, hnone]
    rfl
  | cons d a ih =>
    have hnone : dropPrefix? sep (d :: (a ++ c :: b)) = none := by
      rw [dropPrefix?_eq_none_iff, ← List.cons_append, prefix_append_cons hc]
      exact fun hstart => h hstart.isInfix
    rw [List.cons_append, cut, hnone, ih fun hin => h (List.infix_cons hin)]
    cases cut sep b <;> rfl

/-- A text that shares no character with the separator adds no occurrence at
the end. -/
theorem cut_append_of_disjoint {b : Text} (hne : sep ≠ []) (h : ∀ c ∈ sep, c ∉ b) (a : Text) :
    cut sep (a ++ b) = (cut sep a).map fun (before, after) => (before, after ++ b) := by
  cases hcut : cut sep a with
  | some parts => exact cut_append hcut b
  | none =>
    rw [Option.map_none, cut_eq_none_iff]
    rw [cut_eq_none_iff] at hcut
    cases b with
    | nil => rwa [List.append_nil]
    | cons d b =>
      have hd : d ∉ sep := fun hmem => h d hmem (List.mem_cons_self ..)
      rw [infix_append_cons hd hne, not_or]
      refine ⟨hcut, fun hin => ?_⟩
      obtain ⟨c, hc⟩ := List.exists_mem_of_ne_nil _ hne
      exact h c hc (List.mem_cons_of_mem _ (hin.subset hc))

end InlineSearch.Text
