/-
InlineSearch.Proofs.Document.Settings — the configuration in effect for
each span of a document.

`plan_configs` is the main statement. The configuration of a span is the
one that the run began with, changed by the option lines before the line
of the span (`settings`) and then by the inline flags of the line up to
the span (`spanFlags`). The configuration behind the last line has the
option lines in it and no flag.

Planning a line leaves the scope that it found, but for an option line
(`scope_planLine`), and along a line the flags add up (`scope_planSpans`).
-/
import InlineSearch.Proofs.Document.Place
import InlineSearch.Proofs.Scope

namespace InlineSearch.Document

open Config (Key Value)
open Search (Registry)

/-- What a line sets, if it is an option line. A line of code is none. -/
def setting? (line : LineKind × Text) : Option (Key × Value) :=
  if line.1.isCode then none else Directive.assignment? line.2

/-- What the option lines among lines set, in their order. -/
def settings (lines : List (LineKind × Text)) : List (Key × Value) := lines.filterMap setting?

theorem settings_cons (line : LineKind × Text) (rest : List (LineKind × Text)) :
    settings (line :: rest) = (setting? line).toList ++ settings rest := by
  unfold settings
  rw [List.filterMap_cons]
  cases setting? line <;> rfl

variable {σ : Type} (r : Registry σ)

/-- The inline flags that a span brings to its line: those of its info, and
then those in the value that the trigger of its search stands for. In inline
code it brings none. -/
def spanFlags (lineText : Text) (span : Span) : List Directive.Flag :=
  if span.inCode then []
  else Directive.Flag.inText span.info ++ shortcutFlags r
    (Directive.read span.linkText (Directive.Flag.strip span.info)
      (Text.trim lineText == span.text))

/-! ## One line -/

/-- A span is planned in the scope that its own flags lead to, and leaves
that scope behind. -/
theorem scope_planSpan (line : Nat) (lineText : Text) (scope : Scope) (span : Span) :
    (planSpan r line lineText scope span).1.config
        = (scope.setFlags (spanFlags r lineText span)).config
      ∧ (planSpan r line lineText scope span).2
        = scope.setFlags (spanFlags r lineText span) := by
  unfold planSpan spanFlags
  split
  · rw [Scope.setFlags_nil]
    exact ⟨rfl, rfl⟩
  · rw [Scope.setFlags_append]
    exact ⟨rfl, rfl⟩

/-- Along a line the flags of its spans add up. -/
theorem scope_planSpans (line : Nat) (lineText : Text) (scope : Scope) (spans : List Span) :
    (planSpans r line lineText scope spans).2
      = scope.setFlags (spans.flatMap (spanFlags r lineText)) := by
  induction spans generalizing scope with
  | nil => exact (Scope.setFlags_nil scope).symm
  | cons span spans ih =>
    rw [planSpans, List.flatMap_cons, Scope.setFlags_append, ← (scope_planSpan r line ..).2]
    exact ih _

/-- Each span of a line is planned with the flags of the line up to its own. -/
theorem configs_planSpans (line : Nat) (lineText : Text) (scope : Scope) (spans : List Span) :
    (planSpans r line lineText scope spans).1.map (fun p => (p.span, p.config))
      = spans.mapIdx fun i span =>
        (span, (scope.setFlags ((spans.take (i + 1)).flatMap (spanFlags r lineText))).config) := by
  induction spans generalizing scope with
  | nil => rfl
  | cons span spans ih =>
    obtain ⟨hconfig, hscope⟩ := scope_planSpan r line lineText scope span
    rw [planSpans, List.map_cons, List.mapIdx_cons, ih]
    simp only [List.take_succ_cons, List.take_zero, List.flatMap_cons, List.flatMap_nil,
      List.append_nil, Scope.setFlags_append, span_planSpan, hconfig, hscope]

/-- Planning a line leaves the scope that it found, unless the line sets an
option. -/
theorem scope_planLine (line : Nat) (lineText : Text) (scope : Scope) :
    (planLine r line lineText scope).2
      = match Directive.assignment? lineText with
        | some (key, value) => scope.setForGood key value
        | none => scope := by
  unfold planLine
  cases Directive.assignment? lineText with
  | some setting => rfl
  | none =>
    dsimp only
    rw [scope_planSpans]
    exact Scope.restore_setFlags_openLine ..

/-- The search of a span runs with the configuration of the span. -/
theorem config_of_planSpan {line : Nat} {lineText : Text} {scope : Scope} {span : Span}
    {job : Search.Job} {modifiers : Modifiers}
    (h : (planSpan r line lineText scope span).1.action = .search job modifiers) :
    job.config = (planSpan r line lineText scope span).1.config := by
  obtain ⟨d, -, -, -, hconfig, -⟩ := exists_directive_of_search r h
  exact hconfig

/-! ## The document -/

/-- A line leaves its setting behind, if it has one, and no flag. -/
theorem scope_line (line : Nat) (config : Config) (kind : LineKind) (text : Text) :
    (if kind.isCode then ([], { config }) else planLine r line text { config }).2
      = { config := config.withSettings (setting? (kind, text)).toList } := by
  unfold setting?
  cases kind.isCode with
  | true => rfl
  | false =>
    simp only [Bool.false_eq_true, ↓reduceIte, scope_planLine]
    cases Directive.assignment? text <;> rfl

/-- Lines leave their settings behind, and no flag. -/
theorem scope_planFrom (line : Nat) (config : Config) (lines : List (LineKind × Text)) :
    (planFrom r line { config } lines).2 = { config := config.withSettings (settings lines) } := by
  induction lines generalizing line config with
  | nil => rfl
  | cons head rest ih =>
    obtain ⟨kind, text⟩ := head
    rw [planFrom]
    dsimp only
    rw [scope_line, ih, settings_cons, Config.withSettings_append]

/-- **The configuration of each span.** On a line that is neither code nor an
option line every span is planned. Its configuration is that of the run, with
the settings of the option lines before made and with the flags of the line up
to its own span made on top, and its search runs with that configuration.
Behind the last line there are the settings alone. -/
theorem plan_configs (config : Config) (lines : List Text) :
    (∀ n kind text, ((CodeBlock.classifyLines lines).zip lines)[n]? = some (kind, text) →
      ((plan r config lines).1.filter (·.line == n)).map (fun p => (p.span, p.config))
        = if kind.isCode || (Directive.assignment? text).isSome then []
          else (Span.inLine [] text).mapIdx fun i span =>
            (span, (config.withSettings
              (settings (((CodeBlock.classifyLines lines).zip lines).take n))).withFlags
                (((Span.inLine [] text).take (i + 1)).flatMap (spanFlags r text))))
    ∧ (∀ p ∈ (plan r config lines).1, p.line < lines.length
      ∧ ∀ job modifiers, p.action = .search job modifiers → job.config = p.config)
    ∧ (plan r config lines).2
      = config.withSettings (settings ((CodeBlock.classifyLines lines).zip lines)) := by
  refine ⟨?_, ?_, ?_⟩
  · intro n kind text hn
    have hplan := onLine_planFrom r 0 { config } hn
    rw [Nat.zero_add, scope_planFrom] at hplan
    show (List.filter _ (planFrom r 0 { config } _).1).map _ = _
    rw [hplan]
    cases kind.isCode with
    | true => rfl
    | false =>
      unfold planLine
      cases Directive.assignment? text with
      | some setting => rfl
      | none =>
        simp only [configs_planSpans, Scope.config_setFlags_openLine, Bool.false_eq_true,
          Option.isSome_none, Bool.or_self, ↓reduceIte]
  · intro p hp
    obtain ⟨text, span, scope, hline, -, hplan⟩ := exists_planSpan_of_mem r config hp
    refine ⟨(List.getElem?_eq_some_iff.1 hline).1, ?_⟩
    intro job modifiers ha
    rw [hplan] at ha ⊢
    exact config_of_planSpan r ha
  · have hscope := scope_planFrom r 0 config ((CodeBlock.classifyLines lines).zip lines)
    show (planFrom r 0 { config } ((CodeBlock.classifyLines lines).zip lines)).2.settled = _
    rw [hscope]
    rfl

/-- An option line, a line whose spans bring flags in their infos and through
a trigger of the user's own, a line of code, and a line without flags. -/
theorem plan_configs_mixed_lines :
    let r : Registry Unit := { shortcuts := [("rs", "!g rust $term --no-debug")] }
    let lines : List Text :=
      ["inline: true", "[x](!g a ++t) [y](!rs b) [z](!g c ++d)", "    [x](!g a ++t)", "[w](!g d)"]
    (plan r {} lines).1.map (fun p =>
        (p.line, p.config.inline, p.config.includeTitles, p.config.debug))
      = [(1, true, true, true), (1, true, true, false), (1, true, true, true),
        (3, true, false, true)]
    ∧ ((CodeBlock.classifyLines lines).zip lines)[3]? = some (.text, "[w](!g d)".toList)
    ∧ ((plan r {} lines).1.filter (·.line == 3)).map (fun p => (p.span, p.config))
      = (Span.inLine [] "[w](!g d)").mapIdx fun i span =>
        (span, (Config.withSettings {}
          (settings (((CodeBlock.classifyLines lines).zip lines).take 3))).withFlags
            (((Span.inLine [] "[w](!g d)").take (i + 1)).flatMap (spanFlags r "[w](!g d)"))) :=
  ⟨by decide +kernel, by decide +kernel,
    (plan_configs _ {} _).1 3 .text "[w](!g d)" (by decide +kernel)⟩

end InlineSearch.Document
