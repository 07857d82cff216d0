/-
InlineSearch.Proofs.Document.Body — what a run does to the lines of its
document.

`link_rewrites` is the main statement. The lines that a run writes are the
lines of the document without those of reference titles that were found,
with every span that has a replacement replaced by it and with every other
character in its place. What is appended stands behind them, and only
blanks at their very end may be trimmed, before a footer or before errors
that stand on the line.

`replacement?` says what the replacement of a span is, and `Spliced` what
it means to replace the spans of a line.
-/
import InlineSearch.Proofs.Directive.Splice
import InlineSearch.Proofs.Document.Place
import InlineSearch.Proofs.Document.Trace
import InlineSearch.Proofs.Text.Trim
import Mathlib.Data.List.Forall2

namespace InlineSearch.Document

/-! ## What is appended -/

theorem ReportLog.not_blank_block {log : ReportLog} (h : log ≠ []) :
    Text.isBlankText (InlineSearch.ReportLog.block log) = false := by
  have hne : log.isEmpty = false := List.isEmpty_eq_false_iff.2 h
  have hmem : '<' ∈ InlineSearch.ReportLog.block log := by
    simp [InlineSearch.ReportLog.block, hne]
  refine List.all_eq_false.2 ⟨'<', hmem, by decide⟩

namespace Draft

/-- A report that is appended at all is not blank. -/
theorem reportBlock_cases (d : Draft) (config : Config) (single : Bool) (links : Nat) :
    d.reportBlock config single links = []
      ∨ Text.isBlankText (d.reportBlock config single links) = false := by
  unfold reportBlock
  split
  · exact .inr (ReportLog.not_blank_block (by simp))
  · exact .inl rfl

/-- The result begins with the lines that are written. Blanks behind them
are trimmed before a footer, and before errors that stand on the line. -/
theorem output_result (d : Draft) (lines : List Text) (config : Config) (single : Bool)
    (links : Nat) : ∃ tail,
      (d.result lines config single links).output = Text.join "\n" (d.editedFrom 0 lines) ++ tail
        ∨ (d.result lines config single links).output
            = Text.trimEnd (Text.join "\n" (d.editedFrom 0 lines)) ++ tail
          ∧ (d.footer.isEmpty = false ∨ d.shown.trailer ≠ [] ∧ d.shown.trailer <+: tail) := by
  unfold result
  dsimp only
  generalize Text.join "\n" (d.editedFrom 0 lines) = body
  cases hfooter : d.footer.isEmpty with
  | false =>
    unfold withErrors withFooter
    simp only [hfooter, Bool.false_eq_true, ↓reduceIte, Bool.and_false, List.append_assoc]
    split
    · exact ⟨_, .inr ⟨rfl, .inl trivial⟩⟩
    split
    · exact ⟨_, .inr ⟨rfl, .inl trivial⟩⟩
    · exact ⟨_, .inr ⟨rfl, .inl trivial⟩⟩
  | true =>
    have hbody : d.withFooter body = body := by simp [withFooter, hfooter]
    rw [hbody]
    unfold withErrors
    split
    · exact ⟨_, .inl rfl⟩
    split
    · exact ⟨_, .inl rfl⟩
    next hshown =>
    split
    · rcases d.reportBlock_cases config single links with hreport | hreport
      · have htrailer : d.shown.trailer ≠ [] := by
          simp [ErrorLog.trailer, hshown]
        rw [hreport, List.append_nil]
        dsimp only
        rw [List.append_assoc]
        exact ⟨_, .inr ⟨rfl, .inr ⟨htrailer, List.prefix_append ..⟩⟩⟩
      · rw [Text.trimEnd_append body hreport]
        simp only [List.append_assoc]
        exact ⟨_, .inl rfl⟩
    · simp only [List.append_assoc]
      exact ⟨_, .inl rfl⟩

end Draft

/-! ## The lines that are written -/

/-- Lines that are left out belong to steps that drop them. -/
theorem contains_deleted_addAll (d : Draft) (spans : List (PlannedSpan × Option Search.Outcome))
    (n : Nat) : (d.addAll spans).deleted.contains n
      = (d.deleted.contains n
        || (trace d spans).any fun t => t.dropsLine && t.planned.line == n) := by
  rw [addAll_foldl Draft.deleted
    (fun deleted t => if t.dropsLine then t.planned.line :: deleted else deleted)
    Step.deleted_after]
  generalize d.deleted = start
  induction trace d spans generalizing start with
  | nil => simp
  | cons t steps ih =>
    rw [List.foldl_cons, ih, List.any_cons]
    cases t.dropsLine with
    | false => simp
    | true =>
      simp only [↓reduceIte, List.contains_cons, Bool.true_and, Bool.beq_comm (a := n)]
      rw [← Bool.or_assoc, Bool.or_comm (t.planned.line == n)]

namespace Run

variable {σ : Type} (l : Linker σ) (input : Text) (s : σ)

/-- The planned spans of a line, each with its replacement. -/
def replacements (n : Nat) : List (Span × Option Text) :=
  ((steps l input s).filter (·.planned.line == n)).map fun t => (t.planned.span, t.replacement?)

/-- Whether a line is left out: a reference title was found for it. -/
def drops (n : Nat) : Bool := (steps l input s).any fun t => t.dropsLine && t.planned.line == n

/-- The lines that stay, with their numbers. -/
def kept : List (Text × Nat) := (lines input).zipIdx.filter fun line => !drops l input s line.2

theorem contains_deleted (n : Nat) :
    (draft l input s).deleted.contains n = drops l input s n := by
  exact contains_deleted_addAll (start l input) (spans l input s) n

/-- The replacements of a line are given to its planned spans. -/
theorem replacements_map_fst (n : Nat) : (replacements l input s n).map Prod.fst
    = ((planned l input).1.filter (·.line == n)).map PlannedSpan.span := by
  rw [← steps_planned l input s, List.filter_map, List.map_map, replacements, List.map_map]
  rfl

/-- What may be replaced on a line: all its spans, or nothing where the line
is code or sets an option. -/
theorem spans_of_replacements {n : Nat} {kind : LineKind} {line : Text}
    (h : ((CodeBlock.classifyLines (lines input)).zip (lines input))[n]? = some (kind, line)) :
    (replacements l input s n).map Prod.fst
      = if kind.isCode || (Directive.assignment? line).isSome then [] else Span.inLine [] line :=
  (replacements_map_fst l input s n).trans (spans_onLine l.resolver.registry l.config h)

/-- The same, where the fence that is open before the line decides its kind. -/
theorem spans_of_line {n : Nat} {line : Text} (h : (lines input)[n]? = some line) :
    (replacements l input s n).map Prod.fst
      = if (CodeBlock.classify (CodeBlock.fenceAfter none ((lines input).take n)) line).1.isCode
          || (Directive.assignment? line).isSome then [] else Span.inLine [] line := by
  refine spans_of_replacements l input s ?_
  rw [List.getElem?_zip_eq_some, CodeBlock.classifyLines, CodeBlock.getElem?_classifyFrom, h]
  exact ⟨rfl, rfl⟩

/-- The edits of a line are those of its replaced spans. -/
theorem edits_line (n : Nat) : ((draft l input s).edits.filter (·.1 == n)).map Prod.snd
    = (replacements l input s n).filterMap Spliced.edit? := by
  rw [draft_edits, replacements]
  induction steps l input s with
  | nil => rfl
  | cons t rest ih =>
    have he : t.edit?
        = (Spliced.edit? (t.planned.span, t.replacement?)).map (t.planned.line, ·) := by
      simp only [Step.edit?, Spliced.edit?, Option.map_map]
      rfl
    cases hline : t.planned.line == n <;>
      cases hedit : Spliced.edit? (t.planned.span, t.replacement?) <;>
        simp [he, hline, hedit, ih]

/-- A line with its edits applied is the line with its replacements made. -/
theorem spliced_line {n : Nat} {line : Text} (h : (lines input)[n]? = some line) :
    Spliced [] line (replacements l input s n)
      (Edit.apply (((draft l input s).edits.filter (·.1 == n)).map Prod.snd) line) := by
  obtain ⟨kind, hkind⟩ := CodeBlock.getElem?_zip_classifyLines h
  have hspliced : ∃ new, Spliced [] line (replacements l input s n) new := by
    have hspans := spans_of_replacements l input s hkind
    split at hspans
    · rw [List.map_eq_nil_iff.1 hspans]
      exact ⟨line, .rest [] line⟩
    · exact Span.exists_spliced _ _ _ hspans
  obtain ⟨new, hnew⟩ := hspliced
  rw [edits_line, hnew.apply_eq]
  exact hnew

/-- The lines that are written, from line `k` on. -/
theorem forall₂_editedFrom (k : Nat) (rest : List Text)
    (h : ∀ i line, rest[i]? = some line → (lines input)[k + i]? = some line) :
    List.Forall₂ (fun line new => Spliced [] line.1 (replacements l input s line.2) new)
      ((rest.zipIdx k).filter fun line => !drops l input s line.2)
      ((draft l input s).editedFrom k rest) := by
  induction rest generalizing k with
  | nil => exact .nil
  | cons line rest ih =>
    have hlater := ih (k + 1) fun i line hi => by
      rw [Nat.add_assoc, Nat.add_comm 1 i]
      exact h (i + 1) line hi
    rw [List.zipIdx_cons, List.filter_cons, Draft.editedFrom, contains_deleted]
    cases drops l input s k with
    | true => exact hlater
    | false => exact .cons (spliced_line l input s (h 0 line rfl)) hlater

end Run

/-! ## The document that is written -/

/-- The span is a footnote. -/
def Step.IsFootnote (t : Step) : Prop :=
  ∃ linkText note, t.planned.action = .footnote linkText note

/-- The span is a search, and it found something. -/
def Step.IsFound (t : Step) : Prop :=
  ∃ job modifiers f, t.planned.action = .search job modifiers ∧ t.outcome = some (.found f)

/-- The spans that are replaced. -/
theorem Step.isSome_replacement?_iff (t : Step) : t.replacement?.isSome = true
    ↔ t.IsFootnote ∨ t.IsFound ∧ t.dropsLine = false := by
  rcases t with ⟨before, ⟨line, span, config, action⟩, outcome⟩
  cases action with
  | footnote linkText note =>
    exact ⟨fun _ => .inl ⟨linkText, note, rfl⟩, fun _ => rfl⟩
  | search job modifiers =>
    rcases outcome with _ | f | f
    · simp [replacement?, footnote?, found?, IsFootnote, IsFound]
    · cases hstyle : Style.of config modifiers f <;>
        simp [replacement?, footnote?, found?, dropsLine, IsFootnote, IsFound, hstyle]
    · simp [replacement?, footnote?, found?, IsFootnote, IsFound]
  | inlineCode => simp [replacement?, footnote?, found?, IsFootnote, IsFound]
  | link => simp [replacement?, footnote?, found?, IsFootnote, IsFound]
  | fail problem => simp [replacement?, footnote?, found?, IsFootnote, IsFound]

theorem Style.of_eq_title_iff {config : Config} {modifiers : Modifiers} {f : Search.Found} :
    Style.of config modifiers f = .title ↔ f.form = .link ∧ modifiers.refTitle = true := by
  unfold Style.of
  cases f.form with
  | embed => simp
  | correction => simp
  | link =>
    cases modifiers.refTitle with
    | true => simp
    | false =>
      cases modifiers.clipboard || modifiers.urlOnly with
      | true => simp
      | false => cases config.inline <;> simp

/-- A line is dropped for a reference title that found a link. -/
theorem Step.dropsLine_iff (t : Step) : t.dropsLine = true
    ↔ ∃ job modifiers f, t.planned.action = .search job modifiers
      ∧ t.outcome = some (.found f) ∧ f.form = .link ∧ modifiers.refTitle = true := by
  unfold dropsLine found?
  split
  · next job modifiers f ha ho => simp [ha, ho, Style.of_eq_title_iff]
  · next hnone =>
    constructor
    · simp
    · rintro ⟨job, modifiers, f, ha, ho, -⟩
      exact absurd ho (hnone job modifiers f ha)

/-- What a run makes of its document: `new` are the lines that it writes,
and `appended` is what it appends to them. -/
structure Rewritten {σ : Type} (l : Linker σ) (input : Text) (s : σ) (new : List Text)
    (appended : Text) : Prop where
  /-- Each line that stays is written with its replacements made, and
  otherwise unchanged. -/
  lines : List.Forall₂ (fun line rewritten =>
    Spliced [] line.1 (Run.replacements l input s line.2) rewritten) (Run.kept l input s) new
  /-- The replacements of a line are given to its spans, one each. A line
  that is code or sets an option has none. -/
  spans : ∀ n kind line,
    ((CodeBlock.classifyLines (Run.lines input)).zip (Run.lines input))[n]? = some (kind, line) →
      (Run.replacements l input s n).map Prod.fst
        = if kind.isCode || (Directive.assignment? line).isSome then [] else Span.inLine [] line
  /-- A span is replaced if it is a footnote, or a search that found
  something and does not drop its line; in inline code it is not. -/
  replaced : ∀ t ∈ Run.steps l input s,
    (t.replacement?.isSome = true ↔ t.IsFootnote ∨ t.IsFound ∧ t.dropsLine = false)
      ∧ (t.planned.span.inCode = true → t.replacement? = none)
  /-- A line is dropped for a reference title that found a link. -/
  dropped : ∀ n, Run.drops l input s n = true ↔ ∃ t ∈ Run.steps l input s, t.planned.line = n
    ∧ ∃ job modifiers f, t.planned.action = .search job modifiers
      ∧ t.outcome = some (.found f) ∧ f.form = .link ∧ modifiers.refTitle = true
  /-- Each step of the run belongs to a span of a line, and a step that
  drops its line to a span that fills it. -/
  placed : ∀ t ∈ Run.steps l input s, ∃ line, (Run.lines input)[t.planned.line]? = some line
    ∧ t.planned.span ∈ Span.inLine [] line
    ∧ (t.dropsLine = true → Text.trim line = t.planned.span.text)
  /-- The lines are the output as far as they go. At most the blanks at
  their very end are missing, before a footer or errors on the line. -/
  output : (link l input s).1.output = Text.join "\n" new ++ appended
    ∨ (link l input s).1.output = Text.trimEnd (Text.join "\n" new) ++ appended
      ∧ ((Run.draft l input s).footer.isEmpty = false
        ∨ (Run.draft l input s).shown.trailer ≠ []
          ∧ (Run.draft l input s).shown.trailer <+: appended)

/-- **A run rewrites its document in place.** Of a document with spans it
leaves out the lines of reference titles that were found, and nothing else;
it replaces every span that has a replacement, and keeps every character
outside these spans; and it appends what it has to add. -/
theorem link_rewrites {σ : Type} (l : Linker σ) (input : Text) (s : σ)
    (h : Span.occursIn input = true) : ∃ new appended, Rewritten l input s new appended := by
  obtain ⟨appended, houtput⟩ := (Run.draft l input s).output_result (Run.lines input)
    (Run.planned l input).2 ((Text.endedLines input).length ≤ 1) (Run.planned l input).1.length
  rw [← link_eq l input s h] at houtput
  refine ⟨(Run.draft l input s).editedFrom 0 (Run.lines input), appended, ?_,
    fun n kind line => Run.spans_of_replacements l input s, ?_, ?_, ?_, houtput⟩
  · exact Run.forall₂_editedFrom l input s 0 _ fun i line hi => by rwa [Nat.zero_add]
  · intro t ht
    refine ⟨t.isSome_replacement?_iff, fun hcode => ?_⟩
    have ha := action_of_inCode l.resolver.registry l.config (planned_of_mem ht) hcode
    simp [Step.replacement?, Step.footnote?, Step.found?, ha]
  · intro n
    simp only [Run.drops, List.any_eq_true, Bool.and_eq_true, beq_iff_eq, Step.dropsLine_iff,
      and_comm]
  · intro t ht
    obtain ⟨line, hline, hspan, htitle⟩ :=
      exists_line_of_mem l.resolver.registry l.config (planned_of_mem ht)
    refine ⟨line, hline, hspan, ?_⟩
    intro hdrop
    obtain ⟨job, modifiers, f, ha, -, -, hm⟩ := t.dropsLine_iff.1 hdrop
    exact htitle job modifiers ha hm

/-- A span that is replaced, one in inline code and an ordinary link. -/
theorem link_rewrites_mixed_line :
    Span.occursIn "[x](!g rust) `[y](!g c)` [z](/there)" = true
    ∧ ∃ new appended,
      Rewritten pageLinker "[x](!g rust) `[y](!g c)` [z](/there)" () new appended :=
  ⟨by decide, link_rewrites pageLinker _ () (by decide)⟩

end InlineSearch.Document
