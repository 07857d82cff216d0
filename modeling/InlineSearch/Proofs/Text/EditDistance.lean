/-
InlineSearch.Proofs.Text.EditDistance — the distance of texts, counted in edits.

Two texts lie as far apart as the fewest edits that make the second out of the
first (`Distance`). The test for one edit is the test for the distance one: it
holds for the texts that some insertion, deletion or substitution of one character
turns into each other, and that are not the same anyway
(`differByOne_iff_distance_one`). Where the edit takes place is not determined, and
need not be: the test looks for it behind the common start of both texts only.
-/
import InlineSearch.Proofs.Text.OneEdit
import Mathlib.Order.Bounds.Basic

namespace InlineSearch.Text

/-- The second text is made out of the first by so many edits, one after the
other. -/
inductive Edits : Nat → Text → Text → Prop
  | done (a : Text) : Edits 0 a a
  | edit {n : Nat} {a b c : Text} (first : OneEdit a b) (later : Edits n b c) : Edits (n + 1) a c

/-- How many edits it takes to make the second text out of the first. -/
def Distance (a b : Text) (n : Nat) : Prop := IsLeast {n | Edits n a b} n

theorem edits_zero_iff {a b : Text} : Edits 0 a b ↔ a = b := by
  constructor
  · intro h
    cases h with
    | done => rfl
  · rintro rfl
    exact .done a

theorem edits_one_iff {a b : Text} : Edits 1 a b ↔ OneEdit a b := by
  constructor
  · intro h
    cases h with
    | edit first later =>
      rw [edits_zero_iff] at later
      exact later ▸ first
  · intro h
    exact .edit h (.done b)

/-- Texts lie at the distance one if one edit is enough and none is not. -/
theorem distance_one_iff {a b : Text} : Distance a b 1 ↔ OneEdit a b ∧ a ≠ b := by
  constructor
  · rintro ⟨hone, hleast⟩
    refine ⟨edits_one_iff.1 hone, fun heq => ?_⟩
    exact absurd (hleast (edits_zero_iff.2 heq)) (by decide)
  · rintro ⟨hone, hne⟩
    refine ⟨edits_one_iff.2 hone, fun n hn => ?_⟩
    -- No edits at all make only the same text.
    cases n with
    | zero => exact absurd (edits_zero_iff.1 hn) hne
    | succ n => exact Nat.le_add_left 1 n

/-- **One edit apart.** The test finds exactly the texts at the distance one, that is,
those that one edit makes out of each other and that are not the same. So it does
not matter which of the texts comes first, and no text is found to differ from itself. -/
theorem differByOne_iff_distance_one (a b : Text) :
    (differByOne a b = true ↔ Distance a b 1)
      ∧ (differByOne a b = true ↔ OneEdit a b ∧ a ≠ b)
      ∧ differByOne a b = differByOne b a
      ∧ differByOne a a = false := by
  have hfound : differByOne a b = true ↔ OneEdit a b ∧ a ≠ b := by
    rw [differByOne_iff]
    exact ⟨fun h => ⟨h, h.ne⟩, And.left⟩
  refine ⟨hfound.trans distance_one_iff.symm, hfound, ?_, ?_⟩
  · rw [Bool.eq_iff_iff, differByOne_iff, differByOne_iff, oneEdit_comm]
  · rw [← Bool.not_eq_true, differByOne_iff]
    intro h
    exact h.ne rfl

/-- Two neighbours in the wrong order are two edits apart. -/
example : differByOne "wkii".toList "wiki".toList = false := by decide

end InlineSearch.Text
