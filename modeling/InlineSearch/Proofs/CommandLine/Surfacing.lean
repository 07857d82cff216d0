/-
InlineSearch.Proofs.CommandLine.Surfacing — which errors the user gets to see.

An error can come to the user in two ways: it is told beside the output, or a
comment of the document lists it. Which of them it is to be is decided twice.
The program tells the errors of a text if the configuration of the run is not
debugged; a span writes its errors into the comment if its own configuration
is, and the comment is left out if the output is wanted on the clipboard. The
two configurations differ where a flag or an option line switches debugging.
Lines of a log do not count: a session has none.

* `Origin` — the errors of one span or of a query, with the configuration that
  decides for them. `Pass.origins` are those of a text, and `Pass.lists` says
  how its result lists them.
* `errors_surface_iff` — the errors of a text surface exactly if the run is not
  debugged, or there are none, or every origin of errors is debugged and the
  document is put out with its comment.
-/
import InlineSearch.Proofs.CommandLine.Passes
import InlineSearch.Proofs.Document.Notes
import Mathlib.Data.List.Flatten

namespace InlineSearch

/-! ## Comments -/

/-- A comment that lists errors, on one line or as a block. -/
def errorComment (onLine : Bool) (errors : List Text) : Text :=
  if onLine then "<!-- Errors: " ++ Text.join "; " errors ++ " -->"
  else "<!-- Errors:\n" ++ Text.join "\n" errors ++ "\n-->"

theorem Document.errorComment_infix (onLine : Bool) (errors : List Text) (output : Text) :
    errorComment onLine errors <:+: withComment onLine errors output := by
  unfold errorComment withComment
  cases onLine with
  | true =>
    exact ⟨Text.trimEnd output ++ " ", if Text.endsWith "\n" output then "\n" else [], by simp⟩
  | false => exact ⟨output ++ "\n", "\n", by simp⟩

theorem ErrorLog.errorComment_infix_trailer {log : ErrorLog} (h : log ≠ []) :
    errorComment true log.lines <:+: log.trailer := by
  unfold errorComment trailer
  rw [if_neg (mt List.isEmpty_iff.1 h)]
  exact ⟨" ", [], by simp⟩

/-! ## Origins of errors -/

/-- Errors that are logged in one configuration. -/
structure Origin where
  /-- Whether the configuration is debugged. -/
  debug : Bool
  /-- The errors, behind their labels. -/
  entries : List (Text × LogEntry)

namespace Origin

/-- The errors of several origins, as a log lists them. -/
def lines (origins : List Origin) : List Text :=
  (ErrorLog.grouped (origins.flatMap Origin.entries)).lines

theorem length_lines (origins : List Origin) :
    (lines origins).length = (origins.flatMap Origin.entries).length := by
  rw [lines, (ErrorLog.lines_grouped _).length_eq, List.length_map]

theorem lines_eq_nil_iff (origins : List Origin) :
    lines origins = [] ↔ origins.flatMap Origin.entries = [] := by
  rw [← List.length_eq_zero_iff, length_lines, List.length_eq_zero_iff]

/-- Debugged origins have as many errors as all only if no other has any. -/
theorem length_debug_iff (origins : List Origin) :
    (origins.flatMap Origin.entries).length
        ≤ ((origins.filter Origin.debug).flatMap Origin.entries).length
      ↔ ∀ o ∈ origins, o.entries ≠ [] → o.debug = true := by
  induction origins with
  | nil => simp
  | cons o origins ih =>
    have hsub : (origins.filter Origin.debug).Sublist origins := List.filter_sublist
    have hfewer := (hsub.flatMap Origin.entries).length_le
    rw [List.forall_mem_cons, ← ih, List.filter_cons]
    cases hdebug : o.debug with
    | true =>
      rw [if_pos rfl, List.flatMap_cons, List.flatMap_cons, List.length_append, List.length_append]
      exact ⟨fun h => ⟨fun _ => rfl, by omega⟩, fun h => by omega⟩
    | false =>
      have hnone : (o.entries ≠ [] → false = true) ↔ o.entries.length = 0 := by
        rw [List.length_eq_zero_iff]
        simp
      rw [if_neg Bool.false_ne_true, List.flatMap_cons, List.length_append, hnone]
      omega

/-- All errors are those of debugged origins exactly if no other has any. -/
theorem subperm_debug_iff (origins : List Origin) :
    (lines origins).Subperm (lines (origins.filter Origin.debug))
      ↔ ∀ o ∈ origins, o.entries ≠ [] → o.debug = true := by
  rw [← length_debug_iff]
  constructor
  · intro h
    rw [← length_lines, ← length_lines]
    exact h.length_le
  · intro h
    have hsame : (origins.filter Origin.debug).flatMap Origin.entries
        = origins.flatMap Origin.entries :=
      (List.filter_sublist.flatMap Origin.entries).eq_of_length_le h
    rw [lines, lines, hsame]

end Origin

/-! ## Results -/

/-- The errors that the comment of a result is to list. -/
def Linked.shown (r : Linked) (origins : List Origin) : List Text :=
  if r.clipboard then [] else Origin.lines (origins.filter Origin.debug)

/-- What a result makes of its errors: all of them are listed beside the output,
and a comment lists those that it is to list. Without such errors the output is
`plain`. -/
structure Linked.Lists (r : Linked) (origins : List Origin) (plain : Text) : Prop where
  errors : r.errors = Origin.lines origins
  quiet : r.shown origins = [] → r.output = plain
  comment : r.shown origins ≠ [] → ∃ onLine, errorComment onLine (r.shown origins) <:+: r.output

namespace Document

variable {σ : Type} (l : Linker σ) (input : Text) (s : σ)

/-- A span, as an origin of errors. -/
def Step.origin (t : Step) : Origin := ⟨t.planned.config.debug, t.entries⟩

/-- The spans of a document, as origins of errors. -/
def origins : List Origin :=
  if Span.occursIn input then (Run.steps l input s).map Step.origin else []

/-- A linked document before errors are appended to it. -/
def plain : Text :=
  if Span.occursIn input then
    (Run.draft l input s).plainOutput (Run.lines input) (Run.planned l input).2
      ((Text.endedLines input).length ≤ 1) (Run.planned l input).1.length
  else input

theorem flatMap_origin (steps : List Step) :
    (steps.map Step.origin).flatMap Origin.entries = logged steps :=
  List.flatMap_map ..

theorem flatMap_debug (steps : List Step) :
    ((steps.map Step.origin).filter Origin.debug).flatMap Origin.entries = debugged steps := by
  rw [List.filter_map, flatMap_origin]
  rfl

theorem lists_link : (link l input s).1.Lists (origins l input s) (plain l input s) := by
  obtain ⟨hspans, hnone⟩ := (errors_logged l input).2 s
  unfold origins plain
  cases hoccurs : Span.occursIn input with
  | true =>
    have hlog := hspans hoccurs
    have hshown : (link l input s).1.shown ((Run.steps l input s).map Step.origin)
        = if (link l input s).1.clipboard then []
          else (ErrorLog.grouped (debugged (Run.steps l input s))).lines := by
      rw [Linked.shown, Origin.lines, flatMap_debug]
    have hempty : Origin.lines (((Run.steps l input s).map Step.origin).filter Origin.debug) = []
        ↔ debugged (Run.steps l input s) = [] := by
      rw [Origin.lines_eq_nil_iff, flatMap_debug]
    rw [if_pos rfl, if_pos rfl]
    refine ⟨?_, fun h => hlog.uncommented ?_, fun h => ?_⟩
    · rw [Origin.lines, flatMap_origin]
      exact hlog.errors
    · unfold Linked.shown at h
      split at h
      · next hclipboard => exact .inr hclipboard
      · exact .inl (hempty.1 h)
    · unfold Linked.shown at h ⊢
      split at h
      · exact absurd rfl h
      · next hclipboard =>
        rw [if_neg hclipboard, hlog.commented (mt hempty.2 h) (Bool.eq_false_iff.2 hclipboard),
          Origin.lines, flatMap_debug]
        exact ⟨_, errorComment_infix ..⟩
  | false =>
    obtain ⟨houtput, herrors⟩ := hnone hoccurs
    have hshown : (link l input s).1.shown [] = [] := ite_self _
    exact ⟨herrors, fun _ => houtput, fun h => absurd hshown h⟩

end Document

namespace Query

variable {σ : Type} (l : Linker σ) (query : Text) (s : σ)

/-- A query, as the origin of errors. -/
def origins : List Origin :=
  [⟨(config l query).debug, (answer l query s).1.logged none (Text.trim query)⟩]

/-- What a query becomes before errors are appended to it. -/
def plain : Text :=
  match (answer l query s).1 with
  | .found f => written (config l query) (Text.trim (Directive.Flag.strip (Text.trim query))) f
  | .failed _ => Text.trim query

theorem output_resolve : (resolve l query s).1.output
    = if (config l query).debug && !(resolve l query s).1.clipboard then
        plain l query s ++ (errors (Text.trim query) (answer l query s).1).trailer
      else plain l query s := by
  obtain ⟨reached, hreached⟩ : ∃ reached, answer l query s = reached := ⟨_, rfl⟩
  unfold plain
  rw [hreached]
  unfold answer config at hreached
  unfold resolve config
  simp only [bind, StateT.bind, hreached]
  rfl

/-- A query shows all of its errors or none. -/
theorem shown_resolve : (resolve l query s).1.shown (origins l query s)
    = if (config l query).debug && !(resolve l query s).1.clipboard then
        (errors (Text.trim query) (answer l query s).1).lines
      else [] := by
  unfold Linked.shown origins
  cases (resolve l query s).1.clipboard with
  | true => rw [if_pos rfl, Bool.not_true, Bool.and_false, if_neg Bool.false_ne_true]
  | false =>
    cases hdebug : (config l query).debug with
    | true => simp [Origin.lines, errors_eq_grouped]
    | false =>
      rw [if_neg Bool.false_ne_true, Bool.false_and, if_neg Bool.false_ne_true,
        Origin.lines_eq_nil_iff, List.filter_cons_of_neg Bool.false_ne_true]
      rfl

theorem lists_resolve : (resolve l query s).1.Lists (origins l query s) (plain l query s) := by
  have hlog := errors_eq_grouped (Text.trim query) (answer l query s).1
  have hlines : Origin.lines (origins l query s)
      = (errors (Text.trim query) (answer l query s).1).lines := by
    rw [hlog, Origin.lines, origins, List.flatMap_singleton]
  have hempty : (errors (Text.trim query) (answer l query s).1).lines = []
      ↔ errors (Text.trim query) (answer l query s).1 = [] := by
    rw [← hlines, Origin.lines_eq_nil_iff, origins, List.flatMap_singleton, hlog,
      ← List.isEmpty_iff, ← List.isEmpty_iff, ErrorLog.isEmpty_grouped]
  refine ⟨(errors_resolve l query s).trans hlines.symm, fun h => ?_, fun h => ⟨true, ?_⟩⟩
  · rw [shown_resolve] at h
    rw [output_resolve]
    split
    · next hshows =>
      rw [if_pos hshows, hempty] at h
      rw [h]
      exact List.append_nil _
    · rfl
  · rw [shown_resolve] at h ⊢
    rw [output_resolve]
    split
    · next hshows =>
      rw [if_pos hshows] at h
      exact (ErrorLog.errorComment_infix_trailer (mt hempty.2 h)).trans
        (List.suffix_append ..).isInfix
    · next hquiet =>
      rw [if_neg hquiet] at h
      exact absurd rfl h

end Query

/-! ## Passes -/

namespace CommandLine

namespace Pass

variable (setup : Setup) (options : Options) (config : Config) (p : Pass)

/-- The origins of errors in the text of a pass. -/
def origins : List Origin :=
  match p.path with
  | some _ => Document.origins (Provider.linker config setup.random) p.input p.start.world
  | none =>
    match InputKind.ofText p.input with
    | .query => Query.origins (Provider.linker config setup.random) p.input p.start.world
    | .document inline =>
      Document.origins (Provider.linker { config with inline := config.inline || inline }
        setup.random) p.input p.start.world

/-- What the text becomes before errors are appended to it. -/
def plain : Text :=
  match p.path with
  | some _ => Document.plain (Provider.linker config setup.random) p.input p.start.world
  | none =>
    match InputKind.ofText p.input with
    | .query => Query.plain (Provider.linker config setup.random) p.input p.start.world
    | .document inline =>
      Document.plain (Provider.linker { config with inline := config.inline || inline }
        setup.random) p.input p.start.world

theorem lists : (p.result setup config).Lists (p.origins setup config) (p.plain setup config) := by
  rcases p with ⟨path, input, start⟩
  cases path with
  | some path => exact Document.lists_link (Provider.linker config setup.random) input start.world
  | none =>
    unfold result linking origins plain linkInput
    dsimp only
    cases InputKind.ofText input with
    | query => exact Query.lists_resolve (Provider.linker config setup.random) input start.world
    | document inline =>
      exact Document.lists_link (Provider.linker { config with inline := config.inline || inline }
        setup.random) input start.world

/-- The document that a pass makes is put out: printed, written, or left in its
file. -/
def Displays (document : Text) (after : Session) : Prop :=
  after.output = p.start.output ++ document
    ∨ ∃ path, p.path = some path
      ∧ (document = p.input ∨ after.world.files.read path = .ok document)

/-- The errors that come to the user: those that are told, and those that the
comment of the document lists, if that is put out. -/
def surfaced : List Text :=
  told config (p.result setup config)
    ++ if (p.run setup options config).1.isOk then
        (p.result setup config).shown (p.origins setup config)
      else []

section

variable {setup options config p}

theorem Ends.displays {after : Except Failure Unit × Session} (h : p.Ends setup config after)
    (hdone : after.1.isOk = true) (hprinted : (p.result setup config).clipboard = false) :
    p.Displays (p.result setup config).output after.2 := by
  cases h with
  | printed => exact .inl rfl
  | copied text wanted => simp [hprinted] at wanted
  | uncopied => cases hdone
  | unchanged path onFile same => exact .inr ⟨path, onFile, .inl same⟩
  | unwritten => cases hdone
  | written path files files' world onFile write =>
    exact .inr ⟨path, onFile, .inr (Files.read_write write)⟩

theorem clipboard_of_shown (h : (p.result setup config).shown (p.origins setup config) ≠ []) :
    (p.result setup config).clipboard = false := by
  unfold Linked.shown at h
  cases hclipboard : (p.result setup config).clipboard with
  | false => rfl
  | true =>
    rw [hclipboard] at h
    exact absurd rfl h

/-- If the run is not debugged all errors are told, and otherwise the comment
decides. -/
theorem errors_subperm_surfaced_iff :
    (p.result setup config).errors.Subperm (p.surfaced setup options config)
      ↔ config.debug = false ∨ (p.result setup config).errors = []
        ∨ (p.run setup options config).1.isOk = true ∧ (p.result setup config).clipboard = false
          ∧ ∀ o ∈ p.origins setup config, o.entries ≠ [] → o.debug = true := by
  unfold surfaced told
  cases hdebug : config.debug with
  | false =>
    rw [if_neg Bool.false_ne_true]
    exact iff_of_true (List.sublist_append_left ..).subperm (.inl rfl)
  | true =>
    rw [if_pos rfl, List.nil_append, Bool.true_eq_false, false_or]
    have hnone : (p.result setup config).errors.Subperm [] ↔ (p.result setup config).errors = [] :=
      List.subperm_nil
    cases (p.run setup options config).1.isOk with
    | false => simp [hnone]
    | true =>
      rw [if_pos rfl]
      unfold Linked.shown
      cases (p.result setup config).clipboard with
      | true => simp [hnone]
      | false =>
        rw [if_neg Bool.false_ne_true, (p.lists setup config).errors, Origin.subperm_debug_iff,
          Origin.lines_eq_nil_iff, List.flatMap_eq_nil_iff]
        constructor
        · exact fun h => .inr ⟨rfl, rfl, h⟩
        · rintro (h | ⟨-, -, h⟩)
          · exact fun o ho hne => absurd (h o ho) hne
          · exact h

end

end Pass

variable {setup : Setup} {options : Options} {config : Config}

/-- **Which errors surface.** Of every text that a run deals with, all errors
are told or listed in a comment of a document that is put out, exactly if the
run is not debugged, or the text has no errors, or it is put out with its comment
and every origin of errors is debugged. -/
theorem errors_surface_iff {arguments : List Text} {world : World}
    (h : settings? setup arguments world = some (options, config)) {p : Pass}
    (hp : p ∈ passes setup options config world) :
    p.Ends setup config (p.run setup options config)
      ∧ (p.result setup config).Lists (p.origins setup config) (p.plain setup config)
      ∧ (∀ e ∈ p.surfaced setup options config,
          e ∈ (CommandLine.run setup arguments world).2.messages
          ∨ p.Displays (p.result setup config).output (p.run setup options config).2
            ∧ ∃ errors onLine, e ∈ errors
              ∧ errorComment onLine errors <:+: (p.result setup config).output)
      ∧ (p.run setup options config).2.Grows (CommandLine.run setup arguments world).2
      ∧ ((p.result setup config).errors.Subperm (p.surfaced setup options config)
        ↔ config.debug = false ∨ (p.result setup config).errors = []
          ∨ (p.run setup options config).1.isOk = true ∧ (p.result setup config).clipboard = false
            ∧ ∀ o ∈ p.origins setup config, o.entries ≠ [] → o.debug = true) := by
  have hends := p.ends setup options config (reads_of_mem_passes hp)
  have hlists := p.lists setup config
  refine ⟨hends, hlists, fun e he => ?_, grows_run h hp, Pass.errors_subperm_surfaced_iff⟩
  rcases List.mem_append.1 he with he | he
  · exact .inl ((hends.messages.trans (grows_run h hp).messages).subset
      (List.mem_append_right _ he))
  · split at he
    · next hdone =>
      have hshown := List.ne_nil_of_mem he
      obtain ⟨onLine, hcomment⟩ := hlists.comment hshown
      exact .inr ⟨hends.displays hdone (Pass.clipboard_of_shown hshown), _, onLine, he, hcomment⟩
    · simp at he

/-- A trigger that no one knows, in a run that is debugged: the comment says so. -/
theorem errors_surface_iff_unknown_trigger :
    let setup : Setup := { env := {}, input := "[b](!zzz c)\n", random := 0 }
    let p : Pass := ⟨none, setup.input, { world := {} }⟩
    settings? setup [] {} = some ({}, {}) ∧ p ∈ passes setup {} {} {}
      ∧ (p.result setup {}).errors = ["(Invalid search) (1:0:11): [b](!zzz c)".toList]
      ∧ (p.result setup {}).errors.Subperm (p.surfaced setup {} {}) := by
  intro setup p
  have hsettings : settings? setup [] {} = some ({}, {}) := by decide +kernel
  have hpass : p ∈ passes setup {} {} {} := List.mem_singleton.2 rfl
  obtain ⟨-, -, -, -, hiff⟩ := errors_surface_iff hsettings hpass
  exact ⟨hsettings, hpass, by decide +kernel,
    hiff.2 (.inr (.inr ⟨by decide +kernel, by decide +kernel, by decide +kernel⟩))⟩

/-- With a flag that switches debugging off for its line the error is neither told
nor listed. -/
theorem error_lost_by_flag :
    let setup : Setup := { env := {}, input := "[b](!zzz c --d)\n", random := 0 }
    let p : Pass := ⟨none, setup.input, { world := {} }⟩
    let s := (CommandLine.run setup [] {}).2
    settings? setup [] {} = some ({}, {}) ∧ passes setup {} {} {} = [p]
      ∧ (p.result setup {}).errors = ["(Invalid search) (1:0:15): [b](!zzz c --d)".toList]
      ∧ s.messages = [] ∧ s.output = setup.input ∧ s.clipboard = none
      ∧ ¬ ("(Invalid search) (1:0:15): [b](!zzz c --d)" : Text) <:+: s.output := by
  intro setup p s
  exact ⟨by decide +kernel, rfl, by decide +kernel, by decide +kernel, by decide +kernel,
    by decide +kernel, by decide +kernel⟩

end CommandLine

end InlineSearch
