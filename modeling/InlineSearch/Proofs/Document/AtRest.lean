/-
InlineSearch.Proofs.Document.AtRest — documents that a run leaves alone.

A line is at rest if all its spans are ordinary links or lie inside inline
code, and if it does not switch the report. On such lines planning gives no
span anything to do (`planSpan_of_stays`), so every step is idle, the draft
gathers nothing, and the lines are joined as they were.

`output_of_atRest` is the main statement: a document at rest is its own
output, in a configuration without a report.
-/
import InlineSearch.Proofs.Directive.OptionLine
import InlineSearch.Proofs.Directive.Rescan
import InlineSearch.Proofs.Document.Errors
import InlineSearch.Proofs.Document.Failure
import InlineSearch.Proofs.Document.Output
import InlineSearch.Proofs.Document.Settings

namespace InlineSearch

/-! ## The report -/

theorem Config.report_set (config : Config) {key : Config.Key} (h : key ≠ .report)
    (value : Config.Value) : (config.set key value).report = config.report := by
  cases key <;> cases value <;> first | rfl | exact absurd rfl h

/-- Settings of other options leave the report as it is. -/
theorem Config.report_withSettings {settings : List (Config.Key × Config.Value)}
    (h : ∀ setting ∈ settings, setting.1 ≠ .report) (config : Config) :
    (config.withSettings settings).report = config.report := by
  induction settings generalizing config with
  | nil => rfl
  | cons setting rest ih =>
    have hlater : ∀ setting ∈ rest, setting.1 ≠ .report := fun later hmem =>
      h later (List.mem_cons_of_mem _ hmem)
    exact (ih hlater _).trans (config.report_set (h setting (List.mem_cons_self ..)) _)

namespace Document

/-! ## Spans without anything to do -/

section

variable {σ : Type} (r : Search.Registry σ)

theorem action_eq_link_iff {config : Config} {meaning : Directive.Meaning} :
    action r config meaning = .link ↔ meaning = .link := by
  cases meaning with
  | search directive =>
    unfold action searchAction
    dsimp only
    split <;> simp
  | footnote linkText note => simp [action]
  | link => simp [action]
  | empty => simp [action]
  | missingTrigger => simp [action]

theorem action_ne_inlineCode (config : Config) (meaning : Directive.Meaning) :
    action r config meaning ≠ .inlineCode := by
  cases meaning with
  | search directive =>
    unfold action searchAction
    dsimp only
    split <;> simp
  | footnote linkText note => simp [action]
  | link => simp [action]
  | empty => simp [action]
  | missingTrigger => simp [action]

/-- Nothing is to be done with a span exactly if it stays on its line. -/
theorem planSpan_stays_iff {n : Nat} {line : Text} {scope : Scope} {span : Span} :
    (planSpan r n line scope span).1.action = .inlineCode
        ∨ (planSpan r n line scope span).1.action = .link
      ↔ span.Stays line := by
  unfold planSpan Span.Stays
  split
  · next hcode => simp [hcode]
  · next hcode =>
    dsimp only
    rw [action_eq_link_iff, or_iff_right (action_ne_inlineCode r _ _), or_iff_right hcode]

/-- The configuration behind a document: the settings of its option lines. -/
theorem plan_lastConfig (config : Config) (lines : List Text) : (plan r config lines).2
    = config.withSettings (settings ((CodeBlock.classifyLines lines).zip lines)) := by
  have hscope := scope_planFrom r 0 config ((CodeBlock.classifyLines lines).zip lines)
  unfold plan
  dsimp only
  rw [hscope]
  rfl

end

/-! ## Lines at rest -/

/-- A line on which there is nothing to do: it does not switch the report, and
its spans stay. -/
structure AtRest (line : LineKind × Text) : Prop where
  report : ∀ value, setting? line ≠ some (.report, value)
  spans : line.1.isCode = false → Directive.assignment? line.2 = none →
    ∀ s ∈ Span.inLine [] line.2, s.Stays line.2

/-- A line without a setting and without a span is at rest, be it code or
not. -/
theorem atRest_of_still {line : Text} (hsetting : Directive.assignment? line = none)
    (hspan : Span.first? [] line = none) (kind : LineKind) : AtRest (kind, line) where
  report value := by
    unfold setting?
    rw [hsetting]
    split <;> simp
  spans _ _ s hs := by
    rw [Span.inLine_of_none hspan] at hs
    simp at hs

/-- Lines, in the fence that is open before them, are all at rest. -/
def AllAtRest (fence? : Option Fence) (t : Text) : Prop :=
  ∀ line ∈ (CodeBlock.classifyFrom fence? (Text.lines t)).zip (Text.lines t), AtRest line

theorem allAtRest_append {fence? : Option Fence} {a b : Text} :
    AllAtRest fence? (a ++ '\n' :: b) ↔ AllAtRest fence? a
      ∧ AllAtRest (CodeBlock.fenceAfter fence? (Text.lines a)) b := by
  unfold AllAtRest
  rw [Text.lines_append, CodeBlock.zip_classifyFrom_append]
  exact List.forall_mem_append

/-- Lines that are at rest whatever they are. -/
theorem allAtRest_of_forall {t : Text} (h : ∀ line ∈ Text.lines t, ∀ kind, AtRest (kind, line))
    (fence? : Option Fence) : AllAtRest fence? t := by
  rintro ⟨kind, line⟩ hmem
  exact h line (List.of_mem_zip hmem).2 kind

/-! ## Documents at rest -/

/-- A draft without edits writes the lines as they are. -/
theorem Draft.editedFrom_eq_self {d : Draft} (hedits : d.edits = [])
    (hdeleted : ∀ n, d.deleted.contains n = false) (n : Nat) (lines : List Text) :
    d.editedFrom n lines = lines := by
  induction lines generalizing n with
  | nil => rfl
  | cons line rest ih =>
    have hsame : Edit.apply [] line = line := (Spliced.rest [] line).apply_eq
    rw [editedFrom, hdeleted, if_neg (by decide), hedits, ih]
    exact congrArg (· :: rest) hsame

section

variable {σ : Type} {l : Linker σ} {t : Text} {s : σ}

/-- A run whose steps have no errors shows none. -/
theorem shown_of_entries (h : ∀ step ∈ Run.steps l t s, step.entries = []) :
    (Run.draft l t s).shown = [] := by
  have hnone : debugged (Run.steps l t s) = [] := by
    rw [debugged, logged, List.flatMap_eq_nil_iff]
    exact fun step hstep => h step (List.mem_filter.1 hstep).1
  have hall : (Run.draft l t s).shown
      = (Run.start l t).shown.pushAll (debugged (Run.steps l t s)) := shown_addAll ..
  rw [hall, hnone]
  rfl

/-- The report stays off where no line switches it. -/
theorem report_lastConfig (hreport : l.config.report = false)
    (h : ∀ line ∈ (CodeBlock.classifyLines (Run.lines t)).zip (Run.lines t),
      ∀ value, setting? line ≠ some (.report, value)) :
    (Run.planned l t).2.report = false := by
  rw [Run.planned, plan_lastConfig, Config.report_withSettings ?_, hreport]
  intro setting hsetting hkey
  obtain ⟨line, hline, hset⟩ := List.mem_filterMap.1 hsetting
  refine h line hline setting.2 ?_
  rw [hset, ← hkey]

/-- Every step over a document at rest finds nothing to do. -/
theorem action_of_atRest (hcomments : withoutReports t = t) (hrest : AllAtRest none t)
    {step : Step} (hstep : step ∈ Run.steps l t s) :
    step.planned.action = .inlineCode ∨ step.planned.action = .link := by
  obtain ⟨line, span, scope, hline, hspan, hplan⟩ :=
    exists_planSpan_of_mem l.resolver.registry l.config (planned_of_mem hstep)
  have hlines : Run.lines t = Text.lines t := congrArg Text.lines hcomments
  obtain ⟨kind, hkind, -⟩ := onLine_plan l.resolver.registry l.config hline
  have hmem : step.planned ∈ (Run.planned l t).1.filter (·.line == step.planned.line) :=
    List.mem_filter.2 ⟨planned_of_mem hstep, by simp⟩
  have hplanned := spans_onLine l.resolver.registry l.config hkind
  have hne : ¬ (kind.isCode || (Directive.assignment? line).isSome) = true := by
    intro hnone
    rw [if_pos hnone, List.map_eq_nil_iff] at hplanned
    exact List.not_mem_nil (hplanned ▸ hmem)
  rw [Bool.or_eq_true, not_or, Bool.not_eq_true, Bool.not_eq_true, Option.isSome_eq_false_iff,
    Option.isNone_iff_eq_none] at hne
  rw [hplan, planSpan_stays_iff]
  rw [hlines] at hkind
  exact (hrest _ (List.mem_of_getElem? hkind)).spans hne.1 hne.2 span hspan

/-- **A document at rest is its own output**, where no report is asked for. -/
theorem output_of_atRest (hreport : l.config.report = false) (hcomments : withoutReports t = t)
    (hrest : AllAtRest none t) : (link l t s).1.output = t := by
  cases hspan : Span.occursIn t with
  | false => rw [link_of_not_occursIn l t s hspan]
  | true =>
  have hlines : Run.lines t = Text.lines t := congrArg Text.lines hcomments
  have hidle : ∀ step ∈ Run.steps l t s, step.Unwritten := fun step hstep =>
    Step.unwritten_of_stays (action_of_atRest hcomments hrest hstep)
  have hentries : ∀ step ∈ Run.steps l t s, step.entries = [] := by
    intro step hstep
    rcases action_of_atRest hcomments hrest hstep with ha | ha
    · simp only [Step.entries, ha]
    · simp only [Step.entries, ha]
  -- The draft at the end has gathered nothing.
  have hedits : (Run.draft l t s).edits = [] := by
    rw [draft_edits, List.filterMap_eq_nil_iff]
    exact fun step hstep => (hidle step hstep).edit
  have hdeleted : ∀ n, (Run.draft l t s).deleted.contains n = false := by
    intro n
    rw [Run.contains_deleted, Run.drops, List.any_eq_false]
    intro step hstep
    simp [(hidle step hstep).dropsLine]
  have hfooter : (Run.draft l t s).footer.isEmpty = true := by
    have hreferences : (Run.draft l t s).footer.references = [] := by
      rw [draft_references, List.filterMap_eq_nil_iff]
      intro step hstep
      simp [(hidle step hstep).definition]
    have hfootnotes : (Run.draft l t s).footer.footnotes = [] := by
      rw [draft_footnotes, List.filterMap_eq_nil_iff]
      exact fun step hstep => (hidle step hstep).note
    simp [Reference.Footer.isEmpty, hreferences, hfootnotes]
  have hconfig : (Run.planned l t).2.report = false :=
    report_lastConfig hreport fun line hline => (hrest line (hlines ▸ hline)).report
  rw [link_eq l t s hspan, Draft.output_of_quiet (.inl (shown_of_entries hentries)), Draft.plainOutput,
    Draft.editedFrom_eq_self hedits hdeleted, hlines, Text.join_lines]
  simp [Draft.withFooter, hfooter, Draft.reportBlock, hconfig]

end

end Document

end InlineSearch
