/-
InlineSearch.Proofs.Text.FoldCase — where a text occurs in another when case
is ignored.

A text occurs where the folded texts do (`OccursFolded`), that is, where one of
the suffixes begins with it (`occursFolded_iff`).
-/
import InlineSearch.Text.FoldCase
import Mathlib.Data.List.Infix

namespace InlineSearch.Text

/-- A text occurs in another when case is ignored. -/
def OccursFolded (part t : Text) : Prop := part.map foldChar <:+: t.map foldChar

instance (part t : Text) : Decidable (OccursFolded part t) :=
  inferInstanceAs (Decidable (_ <:+: _))

/-- The small form of a letter is a small letter, so only the character itself
is folded to any other one. -/
theorem eq_of_foldChar_eq {c d : Char} (h : foldChar c = d) (hd : d.isLower = false) : c = d := by
  unfold foldChar at h
  split at h
  · rw [← h] at hd
    exact absurd hd (by decide)
  · rw [← h] at hd
    exact absurd hd (by decide)
  · unfold Char.toLower at h
    split at h
    · next hcapital =>
      rw [← h] at hd
      replace hd := Bool.and_eq_false_iff.1 hd
      rw [decide_eq_false_iff_not, decide_eq_false_iff_not] at hd
      have hsmall : ('a'.val - 'A'.val).toNat = 32 := rfl
      simp only [ge_iff_le, UInt32.le_iff_toNat_le, UInt32.toNat_add, hsmall] at hcapital hd
      have hA : 'A'.val.toNat = 65 := rfl
      have hZ : 'Z'.val.toNat = 90 := rfl
      have ha : 'a'.val.toNat = 97 := rfl
      have hz : 'z'.val.toNat = 122 := rfl
      omega
    · exact h

/-- What is cut off from the start of a text is a variant of what was looked
for. -/
theorem dropFolded?_eq_some_iff {part t rest : Text} : dropFolded? part t = some rest
    ↔ ∃ start, t = start ++ rest ∧ start.map foldChar = part.map foldChar := by
  induction part generalizing t with
  | nil =>
    simp only [dropFolded?, Option.some.injEq, List.map_nil, List.map_eq_nil_iff,
      exists_eq_right, List.nil_append]
  | cons d part ih =>
    cases t with
    | nil => simp [dropFolded?]
    | cons c t =>
      unfold dropFolded?
      constructor
      · intro h
        split at h
        · next heq =>
          obtain ⟨start, rfl, hfold⟩ := ih.1 h
          exact ⟨c :: start, rfl, by rw [List.map_cons, List.map_cons, heq, hfold]⟩
        · cases h
      · rintro ⟨start, ht, hfold⟩
        cases start with
        | nil => cases hfold
        | cons e start =>
          obtain ⟨rfl, rfl⟩ := List.cons.inj ht
          obtain ⟨heq, hfold⟩ := List.cons.inj hfold
          rw [if_pos heq.symm]
          exact ih.2 ⟨start, rfl, hfold⟩

theorem isSome_dropFolded?_iff {part t : Text} :
    (dropFolded? part t).isSome = true ↔ part.map foldChar <+: t.map foldChar := by
  rw [Option.isSome_iff_exists]
  constructor
  · rintro ⟨rest, h⟩
    obtain ⟨start, rfl, hfold⟩ := dropFolded?_eq_some_iff.1 h
    exact ⟨rest.map foldChar, by rw [← hfold, List.map_append]⟩
  · rintro ⟨rest, h⟩
    obtain ⟨start, rest, rfl, hstart, -⟩ := List.map_eq_append_iff.1 h.symm
    exact ⟨rest, dropFolded?_eq_some_iff.2 ⟨start, rfl, hstart⟩⟩

/-- A text occurs in another where some suffix begins with it. -/
theorem occursFolded_iff {part t : Text} : OccursFolded part t
    ↔ ∃ suf, suf <:+ t ∧ (dropFolded? part suf).isSome = true := by
  constructor
  · rintro ⟨before, after, h⟩
    rw [List.append_assoc] at h
    obtain ⟨pre, suf, rfl, -, hsuf⟩ := List.map_eq_append_iff.1 h.symm
    exact ⟨suf, List.suffix_append pre suf, isSome_dropFolded?_iff.2 ⟨after, hsuf.symm⟩⟩
  · rintro ⟨suf, ⟨pre, rfl⟩, h⟩
    obtain ⟨after, hafter⟩ := isSome_dropFolded?_iff.1 h
    exact ⟨pre.map foldChar, after, by rw [List.map_append, ← hafter, List.append_assoc]⟩

end InlineSearch.Text
