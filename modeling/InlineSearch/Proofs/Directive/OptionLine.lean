/-
InlineSearch.Proofs.Directive.OptionLine — option lines as they are read
again.

An option line does not change if the blanks at its end are trimmed
(`assignment?_trimEnd`): they neither make nor hide a word. A line that
begins with a bracket sets nothing.
-/
import InlineSearch.Directive.Flag
import InlineSearch.Proofs.Text.Trim
import InlineSearch.Proofs.Text.Words

namespace InlineSearch

namespace Directive

open Config (Key Value)

/-! ## Values -/

/-- What the part of a line behind the colon sets an option to. -/
def setting? (key : Key) (value : Text) : Option (Key × Value) := do
  guard (value.head?.any Text.isBlank)
  let [word] := Text.words value | none
  return (key, ← Value.read? key word)

theorem assignment?_eq (line : Text) : assignment? line = (do
    let rest := line.dropWhile (· == ' ')
    let key ← Key.ofName? (rest.takeWhile isOptionChar)
    let value ← Text.dropPrefix? ":" (rest.dropWhile isOptionChar)
    setting? key value) := rfl

theorem setting?_append_blank (key : Key) {b : Text} (hb : Text.isBlankText b = true)
    (value : Text) : setting? key (value ++ b) = setting? key value := by
  unfold setting?
  rw [Text.words_append_blank hb]
  cases value with
  | nil =>
    -- Without a word nothing is set, whether or not a blank comes first.
    have hnone : Text.words [] = [] := rfl
    rw [hnone]
    cases ([] ++ b : Text).head?.any Text.isBlank <;> rfl
  | cons c value => rfl

/-! ## Lines -/

/-- Blanks behind the last other character of a line do not decide what it
sets. -/
theorem assignment?_append_blank {c : Char} (hc : Text.isBlank c = false) {b : Text}
    (hb : Text.isBlankText b = true) (a : Text) :
    assignment? (a ++ c :: b) = assignment? (a ++ [c]) := by
  have hhead : ∀ p : Char → Bool, (∀ n ∈ Text.blankCodes, p (Char.ofNat n) = false) →
      b.head?.any p = false := by
    intro p hp
    cases b with
    | nil => rfl
    | cons d b =>
      have hd := List.all_eq_true.1 hb d (List.mem_cons_self ..)
      rw [List.head?_cons, Option.any_some, ← Bool.not_eq_true]
      intro hpd
      rw [Text.isBlank_eq_false_of hp hpd] at hd
      simp at hd
  have hspace : ∀ x : Text,
      (a ++ c :: x).dropWhile (· == ' ') = a.dropWhile (· == ' ') ++ c :: x := by
    intro x
    refine Text.dropWhile_append_of_head ?_ a
    rw [List.head?_cons, Option.any_some, beq_eq_false_iff_ne]
    rintro rfl
    exact absurd hc (by decide)
  have hoption : b.head?.any isOptionChar = false := hhead isOptionChar (by decide)
  have hcolon : ∀ t : Text,
      Text.dropPrefix? ":" (t ++ b) = (Text.dropPrefix? ":" t).map (· ++ b) := by
    intro t
    cases t with
    | nil =>
      have hne := hhead (· == ':') (by decide)
      cases b with
      | nil => rfl
      | cons d b =>
        have hd : ¬ ':' = d := by
          rintro rfl
          simp at hne
        simp [Text.dropPrefix?, hd]
    | cons d t =>
      by_cases hd : ':' = d
      · simp [Text.dropPrefix?]
      · simp [Text.dropPrefix?, hd]
  have hline : a.dropWhile (· == ' ') ++ c :: b = a.dropWhile (· == ' ') ++ [c] ++ b := by simp
  rw [assignment?_eq, assignment?_eq, hspace, hspace, hline]
  generalize a.dropWhile (· == ' ') ++ [c] = rest
  dsimp only
  rw [Text.takeWhile_append_of_head hoption, Text.dropWhile_append_of_head hoption, hcolon]
  cases Key.ofName? (rest.takeWhile isOptionChar) with
  | none => rfl
  | some key =>
    cases Text.dropPrefix? ":" (rest.dropWhile isOptionChar) with
    | none => rfl
    | some value => exact setting?_append_blank key hb value

/-- Trimming the end of a line that is not blank does not change what it
sets. -/
theorem assignment?_trimEnd {line : Text} (h : Text.isBlankText line = false) :
    assignment? (Text.trimEnd line) = assignment? line := by
  obtain ⟨a, c, b, hc, hb, htrim, hline⟩ := Text.exists_last h
  rw [htrim, ← assignment?_append_blank hc hb a, ← hline]

theorem assignment?_bracket (rest : Text) : assignment? ('[' :: rest) = none := rfl

end Directive

end InlineSearch
