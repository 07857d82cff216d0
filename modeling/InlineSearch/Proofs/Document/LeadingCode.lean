/-
InlineSearch.Proofs.Document.LeadingCode — lines that begin with inline code.

Inline code at the start of a line is text, but its backticks look like the
opening of a fence: what follows the first run of marks is not read. With three
backticks or more such a line opens a fence that no line may close.

* `LeadingCode.classify_line` — what such a line is taken for.
* `leading_code_iff` — where it is read as text, and what becomes of its
  directives and of those on the lines that follow.
-/
import InlineSearch.Proofs.CodeBlock.Tracking
import InlineSearch.Proofs.Document.Body

namespace InlineSearch

open CodeBlock (classify classifyFrom fenceAfter mayOpen opening?)

/-! ## Leading code -/

/-- Inline code at the start of a line: a run of backticks, text without any, as
many backticks again, and what follows. -/
structure LeadingCode where
  marks : Nat
  content : Text
  rest : Text
  marks_pos : 0 < marks
  content_ne_nil : content ≠ []
  no_mark : '\x60' ∉ content

namespace LeadingCode

variable (code : LeadingCode)

/-- The code as a line. -/
def line : Text :=
  List.replicate code.marks '\x60'
    ++ (code.content ++ (List.replicate code.marks '\x60' ++ code.rest))

/-- The code has fewer backticks than a fence. -/
def Short : Prop := code.marks ≤ 2

instance : Decidable code.Short := inferInstanceAs (Decidable (_ ≤ _))

/-- The fence that the line is taken to open, if any. -/
def fence? : Option Fence := if code.Short then none else some ⟨'\x60', code.marks⟩

theorem exists_line : ∃ later, code.line = '\x60' :: later := by
  obtain ⟨n, hn⟩ := Nat.exists_eq_add_of_lt code.marks_pos
  unfold line
  rw [hn, List.replicate_succ]
  exact ⟨_, rfl⟩

theorem trimStart_line : Text.trimStart code.line = code.line := by
  obtain ⟨later, hline⟩ := code.exists_line
  rw [hline]
  rfl

theorem mayOpen_line : mayOpen code.line = true := by
  obtain ⟨later, hline⟩ := code.exists_line
  rw [hline]
  exact CodeBlock.mayOpen_append_cons (by decide) [] later

/-- Only the first run of backticks counts. -/
theorem opening?_line : opening? code.line = code.fence? := by
  have hstop : (code.content ++ (List.replicate code.marks '\x60' ++ code.rest)).head?
      ≠ some '\x60' := by
    obtain ⟨c, content, hcontent⟩ := List.exists_cons_of_ne_nil code.content_ne_nil
    rw [hcontent]
    intro hhead
    refine code.no_mark ?_
    rw [← Option.some.inj hhead, hcontent]
    exact List.mem_cons_self
  have hrun : code.line.takeWhile (· == '\x60') = List.replicate code.marks '\x60' :=
    Text.takeWhile_append_stop (CodeBlock.all_replicate_beq ..) (CodeBlock.head?_any_beq hstop)
  obtain ⟨later, hline⟩ := code.exists_line
  rw [hline] at hrun ⊢
  rw [CodeBlock.opening?_cons, hrun, List.length_replicate, fence?]
  by_cases h : code.Short
  · have hshort : ¬ 3 ≤ code.marks := Nat.not_le.2 (Nat.lt_succ_of_le h)
    simp [h, hshort]
  · have hlong : 3 ≤ code.marks := Nat.lt_of_not_le h
    simp [h, hlong, CodeBlock.isMark]

/-- Code of one or two backticks is text; any more of them open a fence. -/
theorem classify_line :
    classify none code.line = (if code.Short then .text else .fence, code.fence?) := by
  unfold classify
  dsimp only
  rw [CodeBlock.isIndented_of_mayOpen code.mayOpen_line, code.mayOpen_line, code.trimStart_line,
    code.opening?_line, fence?]
  by_cases h : code.Short <;> simp [h]

theorem assignment?_line : Directive.assignment? code.line = none := by
  obtain ⟨later, hline⟩ := code.exists_line
  rw [hline]
  rfl

end LeadingCode

namespace Document

/-- **Inline code at the start of a line is text if it has one or two
backticks.** Then the directives of the line are rewritten, and the lines that
follow are read as if the document began with them. With more backticks the
lines that follow are read inside a fence. -/
theorem leading_code_iff (code : LeadingCode) :
    (classify none code.line = (.text, none) ↔ code.Short)
    ∧ ∀ {σ : Type} (l : Linker σ) (input : Text) (s : σ) (n : Nat),
      (Run.lines input)[n]? = some code.line → fenceAfter none ((Run.lines input).take n) = none →
        (Run.replacements l input s n).map Prod.fst
            = (if code.Short then Span.inLine [] code.line else [])
        ∧ ∀ (k : Nat) (kind : LineKind) (line : Text),
          (classifyFrom code.fence? ((Run.lines input).drop (n + 1)))[k]? = some kind →
          (Run.lines input)[n + 1 + k]? = some line →
            (Run.replacements l input s (n + 1 + k)).map Prod.fst
              = if kind.isCode || (Directive.assignment? line).isSome then []
                else Span.inLine [] line := by
  refine ⟨?_, fun l input s n hline hfence => ⟨?_, fun k kind line hkind hlater => ?_⟩⟩
  · rw [code.classify_line, LeadingCode.fence?]
    by_cases h : code.Short <;> simp [h]
  · rw [Run.spans_of_line l input s hline, hfence, code.classify_line, code.assignment?_line]
    by_cases h : code.Short <;> simp [h, LineKind.isCode]
  · have hbehind : fenceAfter none ((Run.lines input).take (n + 1)) = code.fence? := by
      rw [CodeBlock.fenceAfter_take_succ hline, hfence, code.classify_line]
    rw [← hbehind, ← CodeBlock.drop_classifyFrom, List.getElem?_drop] at hkind
    exact Run.spans_of_replacements l input s (List.getElem?_zip_eq_some.2 ⟨hkind, hlater⟩)

/-- Two backticks behind a fence, and a line that follows. -/
theorem leading_code_two_backticks :
    let code : LeadingCode := ⟨2, "code", " [x](!g)", by decide, by decide, by decide⟩
    let input : Text := "~~~\n~~~\n``code`` [x](!g)\n[y](!g)"
    (Run.lines input)[2]? = some code.line ∧ fenceAfter none ((Run.lines input).take 2) = none
      ∧ (Run.replacements pageLinker input () 2).map Prod.fst = Span.inLine [] code.line
      ∧ (Run.replacements pageLinker input () 3).map Prod.fst = Span.inLine [] "[y](!g)" := by
  intro code input
  have hline : (Run.lines input)[2]? = some code.line := by decide +kernel
  have hfence : fenceAfter none ((Run.lines input).take 2) = none := by decide +kernel
  obtain ⟨hspans, hlater⟩ := (leading_code_iff code).2 pageLinker input () 2 hline hfence
  exact ⟨hline, hfence, hspans, hlater 0 .text "[y](!g)" (by decide +kernel) (by decide +kernel)⟩

/-- Three backticks open a fence: neither the directive behind the code nor the
one on the next line is replaced. -/
theorem leading_code_opens_fence :
    let code : LeadingCode := ⟨3, "code", " [x](!g rust)", by decide, by decide, by decide⟩
    let input : Text := code.line ++ "\n[y](!g rust)"
    classify none code.line = (.fence, some ⟨'\x60', 3⟩)
      ∧ (link pageLinker input ()).1.output = input := by
  decide +kernel

end Document

end InlineSearch
