/-
InlineSearch.Proofs.Text.Words — the words of a text that is put together.

A blank between two texts keeps their words apart (`words_append_cons`), so
words that are joined by spaces are found again (`words_unwords`).
-/
import InlineSearch.Proofs.Text.Lines
import InlineSearch.Text.Blank

namespace InlineSearch.Text

/-- A text without blanks that is not empty. -/
def Unbroken (t : Text) : Prop := t ≠ [] ∧ ∀ c ∈ t, isBlank c = false

instance : DecidablePred Unbroken := fun t =>
  decidable_of_iff (t ≠ [] ∧ t.all (!isBlank ·) = true) (by simp [Unbroken])

theorem unbroken_of_mem_words {t word : Text} (h : word ∈ words t) : Unbroken word := by
  obtain ⟨hpart, hne⟩ := List.mem_filter.1 h
  rw [Bool.not_eq_true', List.isEmpty_eq_false_iff] at hne
  exact ⟨hne, not_of_mem_splitOnP hpart⟩

theorem words_of_unbroken {t : Text} (h : Unbroken t) : words t = [t] := by
  unfold words
  rw [List.splitOnP_eq_singleton h.2, List.filter_singleton,
    List.isEmpty_eq_false_iff.2 h.1, Bool.not_false, cond_true]

theorem words_append_cons {c : Char} (hc : isBlank c = true) (a b : Text) :
    words (a ++ c :: b) = words a ++ words b := by
  unfold words
  rw [List.splitOnP_append_cons a b hc, List.filter_append]

/-- A blank at the start of a text adds no word. -/
theorem words_cons_blank {c : Char} (hc : isBlank c = true) (t : Text) :
    words (c :: t) = words t := words_append_cons hc [] t

/-- A word at the start of a text that a blank or the end of the text ends. -/
theorem words_append_of_head {w rest : Text} (hw : Unbroken w)
    (hrest : rest.head?.all isBlank = true) : words (w ++ rest) = w :: words rest := by
  cases rest with
  | nil =>
    rw [List.append_nil, words_of_unbroken hw]
    rfl
  | cons c rest =>
    rw [words_append_cons hrest, words_of_unbroken hw, words_cons_blank hrest,
      List.singleton_append]

/-- Blanks at the end of a text add no word. -/
theorem words_append_blank {b : Text} (hb : isBlankText b = true) (a : Text) :
    words (a ++ b) = words a := by
  have hnil : words [] = [] := rfl
  induction b generalizing a with
  | nil => rw [List.append_nil]
  | cons c b ih =>
    have hblank : isBlank c = true ∧ isBlankText b = true := by
      rwa [isBlankText, List.all_cons, Bool.and_eq_true] at hb
    have hwords : words b = [] := by
      rw [← List.nil_append b, ih hblank.2 [], hnil]
    rw [words_append_cons hblank.1, hwords, List.append_nil]

/-- Words that are joined by spaces are the words of the result. -/
theorem words_unwords {ws : List Text} (h : ∀ word ∈ ws, Unbroken word) :
    words (unwords ws) = ws := by
  unfold unwords
  induction ws with
  | nil => rfl
  | cons word ws ih =>
    have hword := words_of_unbroken (h word (List.mem_cons_self ..))
    cases ws with
    | nil => rw [join_singleton, hword]
    | cons next ws =>
      have hlater := ih fun v hv => h v (List.mem_cons_of_mem _ hv)
      have hspace : isBlank ' ' = true := rfl
      rw [join_cons_cons]
      have hsplit : word ++ (" ".toList ++ join " " (next :: ws))
          = word ++ ' ' :: join " " (next :: ws) := rfl
      rw [hsplit, words_append_cons hspace, hword, hlater, List.singleton_append]

end InlineSearch.Text
