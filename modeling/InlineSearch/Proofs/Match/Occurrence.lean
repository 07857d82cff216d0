/-
InlineSearch.Proofs.Match.Occurrence — where terms occur in a text.

A term occurs in a text at the start of a word (`StartsWord`) or anywhere
(`Contains`). The score counts the terms that occur: it is above zero where one
does (`score_pos_iff`), and the highest where all do (`score_eq_fullScore_iff`).
-/
import InlineSearch.Proofs.Match.Words
import InlineSearch.Proofs.Text.FoldCase
import InlineSearch.Proofs.Text.Hits
import Mathlib.Algebra.Order.Field.Rat

namespace InlineSearch.Match

open Text (isBlank foldChar dropFolded? OccursFolded lastOf)

/-! ## Beginnings -/

/-- A text begins with a term when case is ignored. -/
def Begins (term t : Text) : Prop := term.map foldChar <+: t.map foldChar

instance (term t : Text) : Decidable (Begins term t) := inferInstanceAs (Decidable (_ <+: _))

theorem begins_iff {term t : Text} : (dropFolded? term t).isSome = true ↔ Begins term t :=
  Text.isSome_dropFolded?_iff

theorem space_not_mem_fold {w : Text} (h : PlainWord w) : ' ' ∉ w.map foldChar := by
  intro hmem
  obtain ⟨c, hc, hfold⟩ := List.mem_map.1 hmem
  obtain rfl := Text.eq_of_foldChar_eq hfold rfl
  have hspace := h.2 ' ' hc
  cases hspace

/-! ## Positions -/

/-- Somewhere in a text is at the start of one of its suffixes. -/
theorem somewhere_false_iff (starts : Text → Bool) (before : Option Char) (t : Text) :
    somewhere false starts before t = true ↔ ∃ suf, suf <:+ t ∧ starts suf = true := by
  induction t generalizing before with
  | nil => simp [somewhere]
  | cons c t ih =>
    simp only [somewhere, Bool.not_false, Bool.true_or, Bool.true_and, Bool.or_eq_true, ih,
      List.suffix_cons_iff, or_and_right, exists_or, exists_eq_left]

theorem occurs_false_iff (t term : Text) : occurs false t term = true ↔ OccursFolded term t := by
  rw [occurs, somewhere_false_iff, Text.occursFolded_iff]

/-- At the start of a word of a text is behind no word character. -/
theorem somewhere_true_iff (starts : Text → Bool) (before : Option Char) (t : Text) :
    somewhere true starts before t = true
      ↔ ∃ a b, t = a ++ b ∧ Text.isWord? (lastOf before a) = false ∧ starts b = true := by
  induction t generalizing before with
  | nil =>
    simp only [somewhere, Bool.not_true, Bool.false_or, Bool.and_eq_true, Bool.not_eq_true']
    constructor
    · rintro ⟨hword, hstarts⟩
      exact ⟨[], [], rfl, hword, hstarts⟩
    · rintro ⟨a, b, hnil, hword, hstarts⟩
      obtain ⟨rfl, rfl⟩ := List.append_eq_nil_iff.1 hnil.symm
      exact ⟨hword, hstarts⟩
  | cons c t ih =>
    simp only [somewhere, Bool.not_true, Bool.false_or, Bool.or_eq_true, Bool.and_eq_true,
      Bool.not_eq_true', ih]
    constructor
    · rintro (⟨hword, hstarts⟩ | ⟨a, b, rfl, hword, hstarts⟩)
      · exact ⟨[], c :: t, rfl, hword, hstarts⟩
      · exact ⟨c :: a, b, rfl, hword, hstarts⟩
    · rintro ⟨a, b, hsplit, hword, hstarts⟩
      cases a with
      | nil => exact .inl ⟨hword, by rw [hsplit]; exact hstarts⟩
      | cons d a =>
        obtain ⟨rfl, rfl⟩ := List.cons.inj hsplit
        exact .inr ⟨a, b, rfl, hword, hstarts⟩

theorem lastOf_none (a : Text) : lastOf .none a = a.getLast? := by
  rcases List.eq_nil_or_concat a with rfl | ⟨init, c, rfl⟩
  · rfl
  · rw [List.concat_eq_append, Text.lastOf_append, List.getLast?_concat]
    rfl

/-- A term starts a word of a text. -/
def StartsWord (term t : Text) : Prop :=
  ∃ a b, t = a ++ b ∧ Text.isWord? a.getLast? = false ∧ Begins term b

theorem occurs_true_iff {t term : Text} : occurs true t term = true ↔ StartsWord term t := by
  simp only [occurs, somewhere_true_iff, begins_iff, lastOf_none, StartsWord]

instance (term t : Text) : Decidable (StartsWord term t) := decidable_of_iff _ occurs_true_iff

theorem StartsWord.occursFolded {term t : Text} (h : StartsWord term t) : OccursFolded term t := by
  obtain ⟨a, b, rfl, -, hbegins⟩ := h
  unfold OccursFolded
  rw [List.map_append]
  exact hbegins.isInfix.trans (List.suffix_append ..).isInfix

/-- A name contains what is left of the sought text without punctuation, if
anything is left, when case is ignored. -/
def Contains (sought name : Text) : Prop :=
  letters sought ≠ [] ∧ OccursFolded (letters sought) name

instance (sought name : Text) : Decidable (Contains sought name) :=
  inferInstanceAs (Decidable (_ ∧ _))

/-! ## Scores -/

/-- A name has the full score for a text without blanks that it contains, and
no score otherwise. -/
theorem scoreAt_eq {sought : Text} (h : ∀ c ∈ sought, isBlank c = false) (name : Text) :
    scoreAt false name sought = if Contains sought name then fullScore else 0 := by
  unfold scoreAt fraction Contains
  rw [terms_eq h]
  unfold wordOf
  by_cases hnil : letters sought = []
  · simp [hnil]
  · by_cases hoccurs : OccursFolded (letters sought) name
    · simp [hnil, hoccurs, occurs_false_iff]
    · simp [hnil, hoccurs, occurs_false_iff]

/-- The score is above zero where a term starts a word of the text. -/
theorem score_pos_iff {t sought : Text} :
    0 < score t sought ↔ ∃ term ∈ terms sought, StartsWord term t := by
  have hfound : (∃ term ∈ terms sought, StartsWord term t)
      ↔ 0 < (terms sought).countP (occurs true t) := by
    simp only [List.countP_pos_iff, occurs_true_iff]
  rw [hfound, score, scoreAt, fraction, fullScore]
  constructor
  · intro h
    rw [Nat.pos_iff_ne_zero]
    intro hzero
    simp [hzero] at h
  · intro h
    have hlength := h.trans_le List.countP_le_length
    have hcount : (0 : Rat) < (terms sought).countP (occurs true t) := Nat.cast_pos.2 h
    have hall : (0 : Rat) < (terms sought).length := Nat.cast_pos.2 hlength
    exact mul_pos (div_pos hcount hall) (by decide)

/-- Nothing scores where nothing is left to be found. -/
theorem score_of_letters_nil {sought : Text} (h : letters sought = []) (t : Text) :
    score t sought = 0 := by
  unfold score scoreAt fraction
  rw [terms_eq_nil_iff.2 h]
  simp

/-- The score is the highest where every term starts a word of the text. -/
theorem score_eq_fullScore_iff {t sought : Text} (h : terms sought ≠ []) :
    score t sought = fullScore ↔ ∀ term ∈ terms sought, StartsWord term t := by
  have hfound : (∀ term ∈ terms sought, StartsWord term t)
      ↔ (terms sought).countP (occurs true t) = (terms sought).length := by
    simp only [List.countP_eq_length, occurs_true_iff]
  have hall : ((terms sought).length : Rat) ≠ 0 := by
    simpa using h
  have hfull : fullScore ≠ 0 := by decide
  rw [hfound, score, scoreAt, fraction, mul_eq_right₀ hfull, div_eq_one_iff_eq hall, Nat.cast_inj]

end InlineSearch.Match
