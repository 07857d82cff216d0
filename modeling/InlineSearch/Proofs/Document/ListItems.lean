/-
InlineSearch.Proofs.Document.ListItems — list items that are indented as far
as code.

A line is no code if a list marker stands at the depth at which code begins,
four spaces or one tab. Behind a deeper indent the marker does not count: what
stands at that depth is then one more blank of the indent.

* `NestedItem.classify_line` — the kind of such a line.
* `nested_item_iff` — where a list item is read as text, and its directives
  are rewritten.
-/
import InlineSearch.Proofs.Document.Body

namespace InlineSearch

open CodeBlock (classify fenceAfter isIndented)

/-! ## Nested list items -/

/-- What a line is indented with. -/
inductive Indent where
  | spaces
  | tabs
deriving DecidableEq, Repr

namespace Indent

def char : Indent → Char
  | spaces => ' '
  | tabs => '\t'

/-- The depth at which code begins. -/
def codeDepth : Indent → Nat
  | spaces => 4
  | tabs => 1

end Indent

/-- A list item that is indented at least as far as code. -/
structure NestedItem where
  indent : Indent
  depth : Nat
  marker : Char
  text : Text
  deep : indent.codeDepth ≤ depth
  is_marker : marker ∈ ['*', '+', '-']

namespace NestedItem

variable (item : NestedItem)

/-- The item as a line. -/
def line : Text := List.replicate item.depth item.indent.char ++ item.marker :: item.text

/-- The item has its marker at the depth at which code begins. -/
def Shallow : Prop := item.depth = item.indent.codeDepth

instance : Decidable item.Shallow := inferInstanceAs (Decidable (_ = _))

theorem marker_cases : item.marker = '*' ∨ item.marker = '+' ∨ item.marker = '-' := by
  simpa using item.is_marker

/-- What stands behind the indent of code. -/
theorem dropIndent_line :
    (Text.dropPrefix? "    " item.line).or (Text.dropPrefix? "\t" item.line)
      = some (List.replicate (item.depth - item.indent.codeDepth) item.indent.char
        ++ item.marker :: item.text) := by
  obtain ⟨indent, depth, marker, text, deep, is_marker⟩ := item
  obtain ⟨deeper, rfl⟩ := Nat.exists_eq_add_of_le deep
  rw [Nat.add_sub_cancel_left]
  unfold line
  rw [List.replicate_add, List.append_assoc]
  cases indent with
  | spaces => rfl
  | tabs => rfl

/-- A list item is code if it is indented deeper than code has to be. -/
theorem isIndented_line : isIndented item.line = !decide item.Shallow := by
  have hmarker : (!(item.marker == '*' || item.marker == '+' || item.marker == '-')) = false := by
    rcases item.marker_cases with h | h | h
    all_goals simp [h]
  have hindent : ∀ i : Indent, (!(i.char == '*' || i.char == '+' || i.char == '-')) = true := by
    intro i
    cases i <;> decide
  unfold isIndented
  rw [item.dropIndent_line, Option.any_some]
  cases hdeeper : item.depth - item.indent.codeDepth with
  | zero =>
    have hshallow : item.Shallow := by
      have := item.deep
      unfold Shallow
      omega
    simpa [hshallow] using hmarker
  | succ deeper =>
    have hdeep : ¬ item.Shallow := by
      unfold Shallow
      omega
    simpa [hdeep, List.replicate_succ] using hindent item.indent

/-- No marker of a list is blank, marks a fence or begins the name of an
option. -/
theorem marker_other : Text.isBlank item.marker = false ∧ CodeBlock.isMark item.marker = false
    ∧ item.marker ≠ ' ' ∧ Directive.isOptionChar item.marker = false := by
  rcases item.marker_cases with h | h | h
  all_goals
    rw [h]
    decide

theorem plain_line : CodeBlock.Plain item.line := by
  obtain ⟨hblank, hmark, -, -⟩ := item.marker_other
  have hindent : Text.isBlankText (List.replicate item.depth item.indent.char) = true := by
    rw [Text.isBlankText, List.all_replicate]
    cases item.indent <;> simp [Indent.char, Text.isBlank]
  have hstart : Text.trimStart item.line = item.marker :: item.text :=
    Text.dropWhile_append_stop hindent hblank
  rw [CodeBlock.Plain, hstart, List.head?_cons, Option.any_some, hmark]

/-- A list item opens no fence: it is text, or code if it is indented deeper. -/
theorem classify_line :
    classify none item.line = (if item.Shallow then .text else .indented, none) := by
  rw [CodeBlock.classify_none_of_plain item.plain_line, item.isIndented_line]
  by_cases h : item.Shallow <;> simp [h]

/-- A list item sets no option: no name of one stands behind its spaces. -/
theorem assignment?_line : Directive.assignment? item.line = none := by
  obtain ⟨-, -, hspace, hoption⟩ := item.marker_other
  have hname : (item.line.dropWhile (· == ' ')).takeWhile Directive.isOptionChar = [] := by
    obtain ⟨indent, depth, marker, text, deep, is_marker⟩ := item
    cases indent with
    | spaces =>
      have hdrop : (List.replicate depth ' ' ++ marker :: text).dropWhile (· == ' ')
          = marker :: text := Text.dropWhile_append_stop (by simp) (by simpa using hspace)
      unfold line
      rw [Indent.char, hdrop, List.takeWhile_cons, hoption]
      rfl
    | tabs =>
      obtain ⟨deeper, rfl⟩ := Nat.exists_eq_add_of_le deep
      unfold line
      rw [List.replicate_add, List.append_assoc]
      rfl
  unfold Directive.assignment?
  dsimp only
  rw [hname]
  rfl

end NestedItem

namespace Document

/-- The spans of a list item outside fences are all up for replacement if the
item is text, and none is if it is code. -/
theorem spans_of_item {σ : Type} (l : Linker σ) (input : Text) (s : σ) (item : NestedItem) {n : Nat}
    (hline : (Run.lines input)[n]? = some item.line)
    (hfence : fenceAfter none ((Run.lines input).take n) = none) :
    (Run.replacements l input s n).map Prod.fst
      = if item.Shallow then Span.inLine [] item.line else [] := by
  rw [Run.spans_of_line l input s hline, hfence, item.classify_line, item.assignment?_line]
  by_cases h : item.Shallow <;> simp [h, LineKind.isCode]

/-- **A list item is text if its marker stands where code would begin**, and its
directives are rewritten then. Indented any deeper it is code. -/
theorem nested_item_iff (item : NestedItem) :
    (isIndented item.line = false ↔ item.Shallow)
    ∧ (classify none item.line = (.text, none) ↔ item.Shallow)
    ∧ ∀ {σ : Type} (l : Linker σ) (input : Text) (s : σ) (n : Nat),
      (Run.lines input)[n]? = some item.line → fenceAfter none ((Run.lines input).take n) = none →
        (Run.replacements l input s n).map Prod.fst
          = if item.Shallow then Span.inLine [] item.line else [] := by
  refine ⟨?_, ?_, fun l input s n => spans_of_item l input s item⟩
  · rw [item.isIndented_line]
    simp
  · rw [item.classify_line]
    by_cases h : item.Shallow <;> simp [h]

/-- Four spaces before the marker, behind a fence. -/
theorem nested_item_behind_fence :
    let item : NestedItem := ⟨.spaces, 4, '*', " [x](!g rust)", by decide, by decide⟩
    let input : Text := "~~~\na\n~~~\n    * [x](!g rust)"
    (Run.lines input)[3]? = some item.line ∧ fenceAfter none ((Run.lines input).take 3) = none
      ∧ (Run.replacements pageLinker input () 3).map Prod.fst = Span.inLine [] item.line := by
  intro item input
  have hline : (Run.lines input)[3]? = some item.line := by decide +kernel
  have hfence : fenceAfter none ((Run.lines input).take 3) = none := by decide +kernel
  exact ⟨hline, hfence, (nested_item_iff item).2.2 pageLinker input () 3 hline hfence⟩

/-- A marker behind five spaces or two tabs does not make a line text. -/
theorem nested_item_left_alone :
    let spaces : NestedItem := ⟨.spaces, 5, '-', " [x](!g rust)", by decide, by decide⟩
    let tabs : NestedItem := ⟨.tabs, 2, '-', " [x](!g rust)", by decide, by decide⟩
    classify none spaces.line = (.indented, none) ∧ classify none tabs.line = (.indented, none)
      ∧ (link pageLinker spaces.line ()).1.output = spaces.line
      ∧ (link pageLinker tabs.line ()).1.output = tabs.line := by
  decide +kernel

end Document

end InlineSearch
