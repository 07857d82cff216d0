/-
InlineSearch.Proofs.Text.OneEdit — texts that one edit makes out of each
other.

An edit is a change at one place (`OneEdit`): what stands before the place and
behind it is the same in both texts. The test for it walks along the common
start of the texts, although the edit may lie before the end of that: in
`aab` and `ab` any of the first two characters may be the one that is deleted
(`differByOne_iff`).
-/
import InlineSearch.Text.OneEdit
import Mathlib.Data.List.Basic

namespace InlineSearch.Text

/-- What one edit puts in the place of what. -/
inductive Change : Text → Text → Prop
  | insertion (c : Char) : Change [] [c]
  | deletion (c : Char) : Change [c] []
  | substitution {c d : Char} (differ : c ≠ d) : Change [c] [d]

/-- Texts that differ by exactly one insertion, deletion or substitution. -/
def OneEdit (a b : Text) : Prop :=
  ∃ before x y after, Change x y ∧ a = before ++ (x ++ after) ∧ b = before ++ (y ++ after)

theorem Change.not_both_empty {x y : Text} (h : Change x y) : x ≠ y := by
  cases h with
  | insertion c => exact (List.cons_ne_nil c []).symm
  | deletion c => exact List.cons_ne_nil c []
  | substitution differ => exact fun heq => differ (List.cons.inj heq).1

/-- No text is one edit away from itself. -/
theorem OneEdit.ne {a b : Text} (h : OneEdit a b) : a ≠ b := by
  obtain ⟨before, x, y, after, hchange, rfl, rfl⟩ := h
  rw [ne_eq, List.append_cancel_left_eq, List.append_cancel_right_eq]
  exact hchange.not_both_empty

theorem Change.symm {x y : Text} (h : Change x y) : Change y x := by
  cases h with
  | insertion c => exact .deletion c
  | deletion c => exact .insertion c
  | substitution differ => exact .substitution differ.symm

/-- An edit can be undone by an edit. -/
theorem OneEdit.symm {a b : Text} (h : OneEdit a b) : OneEdit b a := by
  obtain ⟨before, x, y, after, hchange, ha, hb⟩ := h
  exact ⟨before, y, x, after, hchange.symm, hb, ha⟩

theorem oneEdit_comm {a b : Text} : OneEdit a b ↔ OneEdit b a := ⟨.symm, .symm⟩

/-! ## The first characters -/

theorem oneEdit_nil_left {b : Text} : OneEdit [] b ↔ b.length = 1 := by
  rw [List.length_eq_one_iff]
  constructor
  · rintro ⟨before, x, y, after, hchange, ha, rfl⟩
    obtain ⟨rfl, hrest⟩ := List.append_eq_nil_iff.1 ha.symm
    obtain ⟨rfl, rfl⟩ := List.append_eq_nil_iff.1 hrest
    cases hchange with
    | insertion c => exact ⟨c, rfl⟩
  · rintro ⟨c, rfl⟩
    exact ⟨[], [], [c], [], .insertion c, rfl, rfl⟩

theorem oneEdit_nil_right {a : Text} : OneEdit a [] ↔ a.length = 1 :=
  oneEdit_comm.trans oneEdit_nil_left

theorem OneEdit.cons {a b : Text} (h : OneEdit a b) (c : Char) : OneEdit (c :: a) (c :: b) := by
  obtain ⟨before, x, y, after, hchange, rfl, rfl⟩ := h
  exact ⟨c :: before, x, y, after, hchange, rfl, rfl⟩

/-- An edit is behind the first characters, if they are the same, or changes
them. -/
theorem oneEdit_cons {c d : Char} {a b : Text} : OneEdit (c :: a) (d :: b)
    ↔ (c = d ∧ OneEdit a b) ∨ b = c :: a ∨ a = d :: b ∨ (c ≠ d ∧ a = b) := by
  constructor
  · rintro ⟨before, x, y, after, hchange, ha, hb⟩
    cases before with
    | cons e before =>
      obtain ⟨rfl, rfl⟩ := List.cons.inj ha
      obtain ⟨rfl, rfl⟩ := List.cons.inj hb
      exact .inl ⟨rfl, before, x, y, after, hchange, rfl, rfl⟩
    | nil =>
      rw [List.nil_append] at ha hb
      cases hchange with
      | insertion e =>
        obtain ⟨rfl, rfl⟩ := List.cons.inj hb
        exact .inr (.inl ha.symm)
      | deletion e =>
        obtain ⟨rfl, rfl⟩ := List.cons.inj ha
        exact .inr (.inr (.inl hb.symm))
      | substitution differ =>
        obtain ⟨rfl, rfl⟩ := List.cons.inj ha
        obtain ⟨rfl, rfl⟩ := List.cons.inj hb
        exact .inr (.inr (.inr ⟨differ, rfl⟩))
  · rintro (⟨rfl, h⟩ | rfl | rfl | ⟨differ, rfl⟩)
    · exact h.cons c
    · exact ⟨[], [], [d], c :: a, .insertion d, rfl, rfl⟩
    · exact ⟨[], [c], [], d :: b, .deletion c, rfl, rfl⟩
    · exact ⟨[], [c], [d], a, .substitution differ, rfl, rfl⟩

/-- An edit of the first of two equal characters may be made behind it. -/
theorem oneEdit_cons_self {c : Char} {a b : Text} :
    OneEdit (c :: a) (c :: b) ↔ OneEdit a b := by
  rw [oneEdit_cons]
  constructor
  · rintro (⟨-, h⟩ | rfl | rfl | ⟨differ, -⟩)
    · exact h
    · exact ⟨[], [], [c], a, .insertion c, rfl, rfl⟩
    · exact ⟨[], [c], [], b, .deletion c, rfl, rfl⟩
    · exact absurd rfl differ
  · exact fun h => .inl ⟨rfl, h⟩

/-! ## The test -/

/-- The test finds exactly the texts that one edit makes out of each other. -/
theorem differByOne_iff {a b : Text} : differByOne a b = true ↔ OneEdit a b := by
  induction a, b using differByOne.induct with
  | case1 b =>
    unfold differByOne
    rw [beq_iff_eq, oneEdit_nil_left]
  | case2 a hne =>
    cases a with
    | nil => exact absurd rfl hne
    | cons c a =>
      unfold differByOne
      rw [beq_iff_eq, oneEdit_nil_right]
  | case3 a d b ih =>
    unfold differByOne
    rw [if_pos rfl, ih, oneEdit_cons_self]
  | case4 c a d b hne =>
    unfold differByOne
    rw [if_neg hne, oneEdit_cons]
    simp only [Bool.or_eq_true, beq_iff_eq, hne, false_and, false_or, ne_eq, not_false_eq_true,
      true_and]
    rw [eq_comm (a := c :: a)]
    tauto

end InlineSearch.Text
