/-
InlineSearch.Document.Plan — what is to be done with each span of a
document.

Planning walks the lines once. It leaves out code, takes option lines as
settings for the rest of the document, and gives every span an action
together with the configuration in effect for it. Nothing is searched
yet, so a plan does not depend on what searches find.
-/
import InlineSearch.CodeBlock
import InlineSearch.Directive.Basic
import InlineSearch.Directive.Span
import InlineSearch.Report
import InlineSearch.Scope
import InlineSearch.Search.Resolve

namespace InlineSearch.Document

open Search (Job Problem Registry)

/-- What is to be done with a span. -/
inductive Action where
  /-- The span lies inside inline code and stays. -/
  | inlineCode
  /-- The span is an ordinary link and stays. -/
  | link
  /-- The directive fails without a search. -/
  | fail (problem : Problem)
  /-- The span becomes a footnote. -/
  | footnote (linkText note : Text)
  /-- The span becomes what the search finds. -/
  | search (job : Job) (modifiers : Modifiers)
deriving DecidableEq, Repr

/-- A span with what is to be done with it. -/
structure PlannedSpan where
  /-- The line of the span, counted from zero. -/
  line : Nat
  span : Span
  /-- The configuration in effect for the span. -/
  config : Config
  action : Action
deriving DecidableEq, Repr

namespace PlannedSpan

/-- The place of the span as it is reported. -/
def position (p : PlannedSpan) : Position :=
  { line := p.line + 1, column := p.span.start, length := Text.bytes p.span.text }

/-- The search that is planned, if one is. -/
def job? (p : PlannedSpan) : Option Job :=
  match p.action with
  | .search job _ => some job
  | _ => none

end PlannedSpan

section

variable {σ : Type}

/-! ## One span -/

/-- The inline flags in the value that the trigger of a search expands to. -/
def shortcutFlags (r : Registry σ) : Directive.Meaning → List Directive.Flag
  | .search directive =>
    match directive.trigger.bind r.resolve? with
    | some (.shortcut value) => Directive.Flag.inText value
    | _ => []
  | _ => []

/-- Whether a trigger is neither known nor a domain. -/
def isUnknown (r : Registry σ) (trigger : Text) : Bool :=
  !r.knows trigger && !Search.isDomain trigger

/-- The action for a search directive. -/
def searchAction (r : Registry σ) (config : Config) (d : Directive) : Action :=
  match d.trigger.filter (isUnknown r) with
  | some trigger => .fail (.invalidTrigger (r.suggestions trigger))
  | none =>
    .search {
      trigger := d.trigger, terms := d.terms, linkText := d.linkText
      titleize := d.modifiers.titleize || config.emptyUsesPageTitle
      config } d.modifiers

/-- The action for what a span means. -/
def action (r : Registry σ) (config : Config) : Directive.Meaning → Action
  | .link => .link
  | .empty => .fail .emptyInput
  | .missingTrigger => .fail (.invalidTrigger [])
  | .footnote linkText note => .footnote linkText note
  | .search directive => searchAction r config directive

/-- Plans a span, and applies its inline flags and those of its trigger to
the line. -/
def planSpan (r : Registry σ) (line : Nat) (lineText : Text) (scope : Scope) (span : Span) :
    PlannedSpan × Scope :=
  if span.inCode then ({ line, span, config := scope.config, action := .inlineCode }, scope)
  else
    let scope := scope.setFlags (Directive.Flag.inText span.info)
    let wholeLine := Text.trim lineText == span.text
    let meaning := Directive.read span.linkText (Directive.Flag.strip span.info) wholeLine
    let scope := scope.setFlags (shortcutFlags r meaning)
    ({ line, span, config := scope.config, action := action r scope.config meaning }, scope)

/-! ## Lines -/

/-- Plans the spans of a line, left to right. -/
def planSpans (r : Registry σ) (line : Nat) (lineText : Text) (scope : Scope) :
    List Span → List PlannedSpan × Scope
  | [] => ([], scope)
  | span :: spans =>
    let (planned, scope) := planSpan r line lineText scope span
    let (later, scope) := planSpans r line lineText scope spans
    (planned :: later, scope)

/-- Plans a line that is no code: an option line sets its option for good,
and the flags of any other line end with it. -/
def planLine (r : Registry σ) (line : Nat) (lineText : Text) (scope : Scope) :
    List PlannedSpan × Scope :=
  match Directive.assignment? lineText with
  | some (key, value) => ([], scope.setForGood key value)
  | none =>
    let (planned, inner) := planSpans r line lineText scope.openLine (Span.inLine [] lineText)
    (planned, inner.restore scope.depth)

/-- Plans lines with their kinds, of which the first has the number
`line`. -/
def planFrom (r : Registry σ) (line : Nat) (scope : Scope) :
    List (LineKind × Text) → List PlannedSpan × Scope
  | [] => ([], scope)
  | (kind, lineText) :: rest =>
    let (planned, scope) :=
      if kind.isCode then ([], scope) else planLine r line lineText scope
    let (later, scope) := planFrom r (line + 1) scope rest
    (planned ++ later, scope)

/-- Plans the lines of a document, and gives the configuration behind the
last line. -/
def plan (r : Registry σ) (config : Config) (lines : List Text) : List PlannedSpan × Config :=
  let (planned, scope) := planFrom r 0 { config } ((CodeBlock.classifyLines lines).zip lines)
  (planned, scope.settled)

end

end InlineSearch.Document
