/-
InlineSearch.Proofs.Document.Errors — the errors of a run, and where they
point.

A step logs one error if its span fails and one for each note on what it
found (`Step.entries`). The logs of a run are the errors of its steps,
grouped by their labels: all of them in one log, and in the other those of
spans that are debugged (`errors_addAll`, `shown_addAll`). The position of
an error belongs to the text that the run works on, which no substitution
changes, so it always stands for the span itself (`select?_position`).

`errors_logged` puts this together for the result of a run.
-/
import InlineSearch.Proofs.Document.Failure

namespace InlineSearch.Document

open Search (Found Outcome)

/-! ## Errors of a step -/

namespace Step

/-- A span that fails has one error, which quotes the span. -/
theorem entries_of_fails {t : Step} (h : t.fails = true) : ∃ problem message,
    t.entries = [t.planned.entry (Search.Problem.label problem)
      (quoting message t.planned.span.text)] := by
  unfold fails PlannedSpan.fails at h
  split at h
  · next problem ha =>
    refine ⟨problem, [], ?_⟩
    simp only [entries, ha]
  · next job modifiers ha ho =>
    refine ⟨.noResults, [], ?_⟩
    simp only [entries, ha, ho]
    rfl
  · next job modifiers f ha ho =>
    refine ⟨f.problem, f.message, ?_⟩
    simp only [entries, ha, ho]
  · simp at h

/-- A span that neither fails nor has something found for it has none. -/
theorem entries_eq_nil {t : Step} (hfails : t.fails = false) (hfound : ¬ t.IsFound) :
    t.entries = [] := by
  unfold fails PlannedSpan.fails at hfails
  unfold entries
  split
  · next problem ha => simp [ha] at hfails
  · next job modifiers f ha ho => exact absurd ⟨job, modifiers, f, ha, ho⟩ hfound
  · next job modifiers f ha ho => simp [ha, ho] at hfails
  · next job modifiers ha ho => simp [ha, ho] at hfails
  · rfl

theorem position_of_mem_entries {t : Step} {entry : Text × LogEntry} (h : entry ∈ t.entries) :
    entry.2.position = some t.planned.position := by
  cases hfails : t.fails with
  | true =>
    obtain ⟨problem, message, hentries⟩ := entries_of_fails hfails
    rw [hentries, List.mem_singleton] at h
    rw [h]
    rfl
  | false =>
    by_cases hfound : t.IsFound
    · obtain ⟨job, modifiers, f, ha, ho⟩ := hfound
      have hentries : t.entries = t.planned.noteEntries f.notes := by simp only [entries, ha, ho]
      rw [hentries] at h
      obtain ⟨note, -, rfl⟩ := List.mem_map.1 h
      rfl
    · rw [entries_eq_nil hfails hfound] at h
      simp at h

theorem copies_iff (t : Step) : t.copies = true
    ↔ ∃ job modifiers f, t.planned.action = .search job modifiers
      ∧ t.outcome = some (.found f) ∧ modifiers.clipboard = true := by
  unfold copies
  split
  · next job modifiers f ha ho => simp [ha, ho]
  · next hnone =>
    constructor
    · simp
    · rintro ⟨job, modifiers, f, ha, ho, -⟩
      exact absurd ho (hnone job modifiers f ha)

end Step

/-! ## Errors of a run -/

/-- The errors that steps log, behind their labels. -/
def logged (steps : List Step) : List (Text × LogEntry) := steps.flatMap Step.entries

/-- The errors that the output is to show: those of spans that are debugged. -/
def debugged (steps : List Step) : List (Text × LogEntry) :=
  logged (steps.filter (·.planned.config.debug))

theorem errors_addAll (d : Draft) (spans : List (PlannedSpan × Option Outcome)) :
    (d.addAll spans).errors = d.errors.pushAll (logged (trace d spans)) := by
  rw [addAll_foldl Draft.errors (fun log t => log.pushAll t.entries) Step.errors_after, logged,
    ErrorLog.pushAll, List.foldl_flatMap]
  rfl

theorem shown_addAll (d : Draft) (spans : List (PlannedSpan × Option Outcome)) :
    (d.addAll spans).shown = d.shown.pushAll (debugged (trace d spans)) := by
  rw [addAll_foldl Draft.shown
    (fun log t => if t.planned.config.debug then log.pushAll t.entries else log) Step.shown_after,
    debugged, logged, ErrorLog.pushAll, List.foldl_flatMap, List.foldl_filter]
  rfl

theorem clipboard_addAll (d : Draft) (spans : List (PlannedSpan × Option Outcome)) :
    (d.addAll spans).clipboard = (d.clipboard || (trace d spans).any Step.copies) := by
  rw [addAll_foldl Draft.clipboard (fun start t => start || t.copies) Step.clipboard_after]
  generalize d.clipboard = start
  induction trace d spans generalizing start with
  | nil => simp
  | cons t steps ih => rw [List.foldl_cons, ih, List.any_cons, Bool.or_assoc]

section

variable {σ : Type} (l : Linker σ) (input : Text)

/-- The position of a planned span stands for the span, in the text that the
run works on. -/
theorem select?_position {p : PlannedSpan} (hp : p ∈ (Run.planned l input).1) :
    p.position.select? (Run.source input) = some p.span.text := by
  obtain ⟨line, hline, hspan, -⟩ := exists_line_of_mem l.resolver.registry l.config hp
  obtain ⟨gap, rest, hbefore, hsplit⟩ := Span.exists_split_of_mem hspan
  rw [List.nil_append] at hbefore
  rw [← hbefore] at hsplit
  exact Position.select?_of_line hline hsplit

end

/-! ## Results -/

/-- The output of a draft before errors are appended to it. -/
def Draft.plainOutput (d : Draft) (lines : List Text) (config : Config) (single : Bool)
    (links : Nat) : Text :=
  d.withFooter (Text.join "\n" (d.editedFrom 0 lines)) ++ d.reportBlock config single links

/-- An output with a comment behind it that lists errors: on its last line, or
as a block. -/
def withComment (onLine : Bool) (errors : List Text) (output : Text) : Text :=
  if onLine then
    let ending : Text := if Text.endsWith "\n" output then "\n" else []
    Text.trimEnd output ++ (" <!-- Errors: " ++ Text.join "; " errors ++ " -->") ++ ending
  else output ++ ("\n<!-- Errors:\n" ++ Text.join "\n" errors ++ "\n-->\n")

theorem Draft.output_of_quiet {d : Draft} (h : d.shown = [] ∨ d.clipboard = true)
    (lines : List Text) (config : Config) (single : Bool) (links : Nat) :
    (d.result lines config single links).output = d.plainOutput lines config single links := by
  unfold result withErrors plainOutput
  rcases h with hshown | hclipboard
  · simp [hshown]
  · simp [hclipboard]

theorem Draft.output_of_shown {d : Draft} (hshown : d.shown ≠ []) (hclipboard : d.clipboard = false)
    (lines : List Text) (config : Config) (single : Bool) (links : Nat) :
    (d.result lines config single links).output
      = withComment (single && d.footer.isEmpty) d.shown.lines
        (d.plainOutput lines config single links) := by
  have hne : d.shown.isEmpty = false := List.isEmpty_eq_false_iff.2 hshown
  unfold result withErrors plainOutput withComment
  simp only [hclipboard, hne, ErrorLog.trailer, ErrorLog.block, Bool.false_eq_true, ↓reduceIte]

/-- What a run with the given outcomes makes of its errors: `steps` are its
steps, and `draft` is the draft that they lead to. -/
structure ErrorsLogged {σ : Type} (l : Linker σ) (input : Text) (steps : List Step) (draft : Draft)
    (result : Linked) : Prop where
  /-- A span that fails has one error, which quotes the span. -/
  failed : ∀ t ∈ steps, t.fails = true → ∃ problem message,
    t.entries = [t.planned.entry (Search.Problem.label problem)
      (quoting message t.planned.span.text)]
  /-- What was found for a span has one error for each note, and there are
  no other errors. -/
  found : ∀ t ∈ steps, ∀ job modifiers f, t.planned.action = .search job modifiers →
    t.outcome = some (.found f) → t.entries = t.planned.noteEntries f.notes
  silent : ∀ t ∈ steps, t.fails = false → ¬ t.IsFound → t.entries = []
  /-- The position of an error stands for the span, in the text that the run
  works on. -/
  placed : ∀ t ∈ steps, ∀ entry ∈ t.entries, ∃ position, entry.2.position = some position
    ∧ position.select? (Run.source input) = some t.planned.span.text
  /-- All errors are listed, by their labels and otherwise in order, and each
  of them once. -/
  errors : result.errors = (ErrorLog.grouped (logged steps)).lines
  complete : result.errors.Perm ((logged steps).map ErrorLog.line)
  clipboard : result.clipboard = true ↔ ∃ t ∈ steps, ∃ job modifiers f,
    t.planned.action = .search job modifiers ∧ t.outcome = some (.found f)
      ∧ modifiers.clipboard = true
  /-- Without errors of spans that are debugged, or if the output is wanted on
  the clipboard, no comment is appended. -/
  uncommented : debugged steps = [] ∨ result.clipboard = true →
    result.output = draft.plainOutput (Run.lines input) (Run.planned l input).2
      ((Text.endedLines input).length ≤ 1) (Run.planned l input).1.length
  /-- Otherwise a comment with these errors is. -/
  commented : debugged steps ≠ [] → result.clipboard = false →
    result.output = withComment ((Text.endedLines input).length ≤ 1 && draft.footer.isEmpty)
      (ErrorLog.grouped (debugged steps)).lines
      (draft.plainOutput (Run.lines input) (Run.planned l input).2
        ((Text.endedLines input).length ≤ 1) (Run.planned l input).1.length)

section

variable {σ : Type} (l : Linker σ) (input : Text)

/-- The errors of a run, whatever the outcomes of its searches are. -/
theorem errorsLogged_of_spans {spans : List (PlannedSpan × Option Outcome)}
    (hspans : spans.map Prod.fst = (Run.planned l input).1) :
    ErrorsLogged l input (trace (Run.start l input) spans) ((Run.start l input).addAll spans)
      (((Run.start l input).addAll spans).result (Run.lines input) (Run.planned l input).2
        ((Text.endedLines input).length ≤ 1) (Run.planned l input).1.length) := by
  have herrors : ((Run.start l input).addAll spans).errors
      = ErrorLog.grouped (logged (trace (Run.start l input) spans)) :=
    (errors_addAll (Run.start l input) spans).trans (ErrorLog.pushAll_eq_grouped _)
  have hshown : ((Run.start l input).addAll spans).shown
      = ErrorLog.grouped (debugged (trace (Run.start l input) spans)) :=
    (shown_addAll (Run.start l input) spans).trans (ErrorLog.pushAll_eq_grouped _)
  have hempty : ((Run.start l input).addAll spans).shown = []
      ↔ debugged (trace (Run.start l input) spans) = [] := by
    rw [hshown, ← List.isEmpty_iff, ErrorLog.isEmpty_grouped, List.isEmpty_iff]
  refine ⟨fun t _ => Step.entries_of_fails, ?_, fun t _ => Step.entries_eq_nil, ?_, ?_, ?_, ?_,
    ?_, ?_⟩
  · intro t _ job modifiers f ha ho
    simp only [Step.entries, ha, ho]
  · intro t ht entry hentry
    have hplanned : t.planned ∈ (Run.planned l input).1 := by
      rw [← hspans, ← trace_spans (Run.start l input) spans, List.map_map]
      exact List.mem_map_of_mem ht
    exact ⟨_, Step.position_of_mem_entries hentry, select?_position l input hplanned⟩
  · exact congrArg ErrorLog.lines herrors
  · exact (List.Perm.of_eq (congrArg ErrorLog.lines herrors)).trans (ErrorLog.lines_grouped _)
  · have hclipboard : ((Run.start l input).addAll spans).clipboard
        = (trace (Run.start l input) spans).any Step.copies :=
      clipboard_addAll (Run.start l input) spans
    show ((Run.start l input).addAll spans).clipboard = true ↔ _
    rw [hclipboard, List.any_eq_true]
    simp only [Step.copies_iff]
  · intro hquiet
    exact Draft.output_of_quiet (hquiet.imp_left hempty.2) ..
  · intro hdebugged hclipboard
    rw [← hshown]
    exact Draft.output_of_shown (fun h => hdebugged (hempty.1 h)) hclipboard ..

/-- **The errors of a run.** Whatever the outcomes of its searches are, a run
logs one error for each span that fails and one for each note, at the place
of the span. It lists them all by their labels, and shows those of spans that
are debugged. A document without spans has none. -/
theorem errors_logged :
    (∀ spans : List (PlannedSpan × Option Outcome),
      spans.map Prod.fst = (Run.planned l input).1 →
        ErrorsLogged l input (trace (Run.start l input) spans) ((Run.start l input).addAll spans)
          (((Run.start l input).addAll spans).result (Run.lines input) (Run.planned l input).2
            ((Text.endedLines input).length ≤ 1) (Run.planned l input).1.length))
    ∧ ∀ s : σ,
      (Span.occursIn input = true → ErrorsLogged l input (Run.steps l input s)
        (Run.draft l input s) (link l input s).1)
      ∧ (Span.occursIn input = false → (link l input s).1.output = input
        ∧ (link l input s).1.errors = []) := by
  refine ⟨fun spans => errorsLogged_of_spans l input, fun s => ⟨?_, ?_⟩⟩
  · intro hoccurs
    rw [link_eq l input s hoccurs]
    exact errorsLogged_of_spans l input (withOutcomes_map_fst ..)
  · intro hnone
    rw [link_of_not_occursIn l input s hnone]
    exact ⟨rfl, rfl⟩

end

/-- Errors with two labels on one line, behind a link and a character of two
bytes; and a run over that line whose searches all lack an outcome. -/
theorem errors_logged_two_labels :
    let input : Text := "é [x](!g rust) [a](!nope c) []() [b](!nope d)"
    let missing := (Run.planned pageLinker input).1.map fun p => (p, (none : Option Outcome))
    (link pageLinker input ()).1.errors = [
      ("(Invalid search) (1:16:12): [a](!nope c)" : Text),
      ("(Invalid search) (1:34:12): [b](!nope d)" : Text),
      ("(No input) (1:29:4): []()" : Text)]
    ∧ ErrorsLogged pageLinker input (Run.steps pageLinker input ())
      (Run.draft pageLinker input ()) (link pageLinker input ()).1
    ∧ (logged (trace (Run.start pageLinker input) missing)).length = 4
    ∧ ErrorsLogged pageLinker input (trace (Run.start pageLinker input) missing)
      ((Run.start pageLinker input).addAll missing)
      (((Run.start pageLinker input).addAll missing).result (Run.lines input)
        (Run.planned pageLinker input).2 ((Text.endedLines input).length ≤ 1)
        (Run.planned pageLinker input).1.length)
    ∧ (link pageLinker "no link" ()).1.errors = [] :=
  ⟨by decide +kernel, ((errors_logged pageLinker _).2 ()).1 (by decide), by decide +kernel,
    (errors_logged pageLinker _).1 _ (by rw [List.map_map]; exact List.map_id _),
    (((errors_logged pageLinker "no link").2 ()).2 (by decide)).2⟩

end InlineSearch.Document
