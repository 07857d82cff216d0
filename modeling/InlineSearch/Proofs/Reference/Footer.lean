/-
InlineSearch.Proofs.Reference.Footer — the lines of a footer.

A footer is made of the lines it was given and of empty ones
(`mem_of_mem_lines_render`), and every reference stands in it on lines of
its own (`lines_infix_render`, `mem_lines_render`).
-/
import InlineSearch.Proofs.Text.Lines
import InlineSearch.Reference.Footer

namespace InlineSearch.Reference.Footer

variable (footer : Footer)

/-- The references, sorted and one a line. -/
def sorted : Text := Text.join "\n" (footer.references.mergeSort Text.le)

/-- The footnotes with empty lines between them. -/
def spread : Text := Text.join "\n\n" footer.footnotes

theorem render_cases :
    footer.sorted = [] ∧ footer.render = footer.spread
      ∨ footer.spread = [] ∧ footer.render = footer.sorted
      ∨ footer.render = footer.sorted ++ '\n' :: '\n' :: footer.spread := by
  have hrender : footer.render = if !footer.sorted.isEmpty && !footer.spread.isEmpty then
      footer.sorted ++ "\n\n" ++ footer.spread else footer.sorted ++ footer.spread := rfl
  rw [hrender]
  cases hsorted : footer.sorted with
  | nil => exact .inl ⟨rfl, rfl⟩
  | cons c sorted =>
    cases hspread : footer.spread with
    | nil => exact .inr (.inl ⟨rfl, by simp⟩)
    | cons d spread => exact .inr (.inr (by simp))

variable {footer}

/-- The lines of a footer that was given lines. -/
theorem mem_of_mem_lines_render (hrefs : ∀ line ∈ footer.references, '\n' ∉ line)
    (hnotes : ∀ line ∈ footer.footnotes, '\n' ∉ line) {line : Text}
    (h : line ∈ Text.lines footer.render) :
    line = [] ∨ line ∈ footer.references ∨ line ∈ footer.footnotes := by
  let P : Text → Prop := fun line => line = [] ∨ line ∈ footer.references ∨ line ∈ footer.footnotes
  have hnil : P [] := .inl rfl
  have hsorted : Text.AllLines P footer.sorted := by
    refine Text.allLines_join hnil fun line hline => ?_
    have hmem : line ∈ footer.references := List.mem_mergeSort.1 hline
    exact Text.allLines_of_not_mem (hrefs line hmem) (.inr (.inl hmem))
  have hspread : Text.AllLines P footer.spread :=
    Text.allLines_join_apart hnil fun line hline =>
      Text.allLines_of_not_mem (hnotes line hline) (.inr (.inr hline))
  have hall : Text.AllLines P footer.render := by
    rcases footer.render_cases with ⟨-, hrender⟩ | ⟨-, hrender⟩ | hrender
    · rw [hrender]
      exact hspread
    · rw [hrender]
      exact hsorted
    · rw [hrender]
      exact Text.allLines_append.2
        ⟨hsorted, Text.allLines_append.2 ⟨Text.allLines_nil hnil, hspread⟩⟩
  exact hall line h

/-- The lines of a reference stand in its footer, one behind the other. -/
theorem lines_infix_render {reference : Text} (h : reference ∈ footer.references)
    (hne : reference ≠ []) : Text.lines reference <:+: Text.lines footer.render := by
  have hmem : reference ∈ footer.references.mergeSort Text.le := List.mem_mergeSort.2 h
  have hsorted : Text.lines reference <:+: Text.lines footer.sorted := by
    obtain ⟨before, after, hsplit⟩ := List.append_of_mem hmem
    rw [sorted, Text.lines_join (List.ne_nil_of_mem hmem), hsplit, List.flatMap_append,
      List.flatMap_cons]
    exact ⟨before.flatMap Text.lines, after.flatMap Text.lines, List.append_assoc ..⟩
  rcases footer.render_cases with ⟨hempty, -⟩ | ⟨-, hrender⟩ | hrender
  · -- A text whose only line is empty is empty.
    have hnil : Text.lines footer.sorted = [[]] := by rw [hempty]; rfl
    rw [hnil] at hsorted
    have hlines : Text.lines reference = [[]] := hsorted.eq_of_length
      (Nat.le_antisymm hsorted.length_le (List.length_pos_iff.2 (Text.lines_ne_nil reference)))
    have hjoin := Text.join_lines reference
    rw [hlines, Text.join_singleton] at hjoin
    exact absurd hjoin.symm hne
  · rw [hrender]
    exact hsorted
  · rw [hrender, Text.lines_append]
    exact hsorted.trans (List.prefix_append ..).isInfix

/-- A reference of one line stands in its footer on a line of its own. -/
theorem mem_lines_render {line : Text} (h : line ∈ footer.references) (hne : line ≠ [])
    (hline : '\n' ∉ line) : line ∈ Text.lines footer.render := by
  have hlines := lines_infix_render h hne
  rw [Text.lines_eq_singleton hline] at hlines
  exact hlines.subset (List.mem_singleton.2 rfl)

end InlineSearch.Reference.Footer
