/-
InlineSearch.Proofs.Document.InlineCode — directives in inline code.

A span is left alone if inline code is open in front of it. What is in front of
it is counted in delimiters by an author, and in backticks that are seen by the
planner. The two agree up to the delimiters that are seen evenly.

* `action_eq_inlineCode_iff` — what the planner goes by.
* `code_parity_iff` — where it is the parity of the delimiters, and which code
  spans keep their directives.
-/
import InlineSearch.Proofs.Directive.InlineCode
import InlineSearch.Proofs.Document.AtRest

namespace InlineSearch.Document

/-- Spans in inline code are planned to stay, and no others for that reason. -/
theorem action_eq_inlineCode_iff {σ : Type} (r : Search.Registry σ) (config : Config)
    {lines : List Text} {p : PlannedSpan} (h : p ∈ (plan r config lines).1) :
    p.action = .inlineCode ↔ p.span.inCode = true := by
  refine ⟨fun haction => ?_, action_of_inCode r config h⟩
  by_contra hout
  obtain ⟨line, span, scope, -, -, hplan⟩ := exists_planSpan_of_mem r config h
  rw [hplan, span_planSpan] at hout
  rw [hplan, planSpan, if_neg hout] at haction
  exact action_ne_inlineCode r _ _ haction

/-- **Inline code is told by the parity of its delimiters**, as long as those
seen evenly come in pairs. So a directive in a code span stays if the span is
delimited by one or two backticks, five or six, and so on, and is taken for one
in plain text otherwise. -/
theorem code_parity_iff {σ : Type} (l : Linker σ) (input : Text) (s : σ) :
    (∀ t : Text, '\x5c' ∉ t → ((Span.endsInCode t = true ↔ Odd (Span.delimiters t).length)
      ↔ Even ((Span.delimiters t).countP Span.seenEvenly)))
    ∧ ∀ t ∈ Run.steps l input s,
      (∀ n, Span.Within n t.planned.span.before →
        (t.planned.action = .inlineCode ↔ n % 4 = 1 ∨ n % 4 = 2))
      ∧ (t.planned.action = .inlineCode →
        ∃ line, (Run.lines input)[t.planned.line]? = some line
          ∧ (Run.draft l input s).deleted.contains t.planned.line = false
          ∧ t.planned.span.text <:+: Edit.apply
            (((Run.draft l input s).edits.filter (·.1 == t.planned.line)).map Prod.snd) line) := by
  refine ⟨fun t hplain => ?_, fun t ht => ⟨fun n hwithin => ?_, fun haction => ?_⟩⟩
  · rw [Span.endsInCode_iff hplain, Nat.odd_add]
    tauto
  · rw [action_eq_inlineCode_iff _ _ (planned_of_mem ht)]
    exact hwithin.endsInCode_iff
  · have hunwritten := Step.unwritten_of_stays (.inl haction)
    exact text_stays ht hunwritten.edit hunwritten.dropsLine

/-- Five backticks around a directive, behind a pair of three. -/
theorem code_parity_five_backticks :
    let before : Text := "x ```é``` ````` a "
    let input : Text := before ++ "[y](!g rust) `````"
    ((Span.endsInCode before = true ↔ Odd (Span.delimiters before).length)
      ∧ Span.Within 5 before)
    ∧ ∃ t ∈ Run.steps pageLinker input (), t.planned.action = .inlineCode
      ∧ ∃ line, (Run.lines input)[t.planned.line]? = some line
        ∧ (Run.draft pageLinker input ()).deleted.contains t.planned.line = false
        ∧ t.planned.span.text <:+: Edit.apply
          (((Run.draft pageLinker input ()).edits.filter (·.1 == t.planned.line)).map Prod.snd)
          line := by
  intro before input
  have hwithin : Span.Within 5 before := @Span.Within.mk 5 "x ```é``` " " a " (by decide)
    (by decide) (by decide) (by decide) (by decide) (by decide) (by decide)
  have hspans : (Run.steps pageLinker input ()).map (·.planned.span.before) = [before] := by
    decide +kernel
  obtain ⟨t, ht, hbefore⟩ := List.mem_map.1 (hspans ▸ List.mem_singleton_self before)
  obtain ⟨hparity, hsteps⟩ := code_parity_iff pageLinker input ()
  obtain ⟨hcode, hstays⟩ := hsteps t ht
  have haction := (hcode 5 (hbefore ▸ hwithin)).2 (.inl rfl)
  exact ⟨⟨(hparity before (by decide)).2 (by decide), hwithin⟩, t, ht, haction, hstays haction⟩

/-- Three backticks in front of a directive open no code: it is replaced. -/
theorem code_parity_three_backticks :
    '\x5c' ∉ ("x ```" : Text) ∧ Odd (Span.delimiters "x ```").length
      ∧ Span.endsInCode "x ```" = false
      ∧ (link pageLinker "x ```[y](!g rust)```" ()).1.output
        = ("x ```[y][0001]```\n\n[0001]: https://example.org/rust\n" : Text) := by
  decide +kernel

end InlineSearch.Document
