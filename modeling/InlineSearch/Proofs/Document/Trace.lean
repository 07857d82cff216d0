/-
InlineSearch.Proofs.Document.Trace — a run as the list of its steps.

A run goes through the planned spans once and changes its draft at each.
`Step` is one such moment: the draft before, the span, and the outcome of
its search. `trace` lists the moments of a whole run.

* What a step writes is read off it: `replacement?` is the text that takes
  the place of the span, `reference?` the marker it refers to, `definition?`
  the definition it adds, `generated?` the marker it draws.
* One lemma a field says what a step does to the draft (`edits_after`,
  `deleted_after`, `links_after`, `references_after`, `markers_after`). The
  logs have theirs in `Proofs.Document.Logs`; nothing else unfolds
  `Draft.add`.
* `addAll_foldl` and `addAll_accumulates` turn such a lemma into a fact
  about the run, and `trace_invariant` carries an invariant through it.

`Run.draft`, `Run.steps` and the like take `link` apart; `link_eq` puts it
together again.
-/
import InlineSearch.Document.Linking
import InlineSearch.Proofs.Report

namespace InlineSearch.Document

open Reference (Footer Markers Table)
open Search (Found Outcome)

/-! ## Logging leaves everything else alone -/

namespace PlannedSpan

/-- An error of a span, behind its label. -/
def entry (p : PlannedSpan) (label message : Text) : Text × LogEntry :=
  (label, ⟨some p.position, message⟩)

/-- The notes on what was found for a span, as errors of it. -/
def noteEntries (p : PlannedSpan) (notes : List Search.Note) : List (Text × LogEntry) :=
  notes.map fun note => p.entry note.problem.label note.message

end PlannedSpan

namespace Draft

/-- The draft with errors of a span in its logs. -/
def logAll (d : Draft) (p : PlannedSpan) (entries : List (Text × LogEntry)) : Draft :=
  { d with
    shown := if p.config.debug then d.shown.pushAll entries else d.shown
    errors := d.errors.pushAll entries }

theorem logAll_nil (d : Draft) (p : PlannedSpan) : d.logAll p [] = d := by
  unfold logAll
  split <;> rfl

theorem logError_eq (d : Draft) (p : PlannedSpan) (label message : Text) :
    d.logError p label message = d.logAll p [p.entry label message] := rfl

theorem logNotes_eq (d : Draft) (p : PlannedSpan) (notes : List Search.Note) :
    notes.foldl (fun d note => d.logError p note.problem.label note.message) d
      = d.logAll p (p.noteEntries notes) := by
  induction notes generalizing d with
  | nil => exact (d.logAll_nil p).symm
  | cons note notes ih =>
    rw [List.foldl_cons, ih]
    unfold logAll logError
    split <;> rfl

/-- A draft without its logs: what the body and the footer are made of. -/
def core (d : Draft) : Table × Markers × Footer × List (Nat × Edit) × List Nat :=
  (d.links, d.markers, d.footer, d.edits, d.deleted)

theorem core_logReport (d : Draft) (p : PlannedSpan) (message : Text) :
    (d.logReport p message).core = d.core := by
  unfold logReport
  split <;> rfl

theorem core_logAll (d : Draft) (p : PlannedSpan) (entries : List (Text × LogEntry)) :
    (d.logAll p entries).core = d.core := rfl

/-- What is written does not depend on the logs. -/
theorem core_write {d e : Draft} (h : d.core = e.core) (p : PlannedSpan) (modifiers : Modifiers)
    (f : Found) : (d.write p modifiers f).core = (e.write p modifiers f).core := by
  rcases d with ⟨links, markers, footer, _, _, _, edits, deleted, _⟩
  rcases e with ⟨links', markers', footer', _, _, _, edits', deleted', _⟩
  simp only [core, Prod.mk.injEq] at h
  obtain ⟨rfl, rfl, rfl, rfl, rfl⟩ := h
  unfold write
  split
  · rfl
  split
  · rfl
  split
  · rfl
  split
  · rfl
  · unfold markerOf
    cases links.get? f.url <;> rfl

end Draft

/-! ## Steps -/

/-- How what a search found is written. -/
inductive Style where
  /-- Markup or text without a link around it. -/
  | plain
  /-- A reference definition in place of the line. -/
  | title
  /-- The URL alone. -/
  | url
  /-- A link that holds its target. -/
  | inline
  /-- A link to a marker. -/
  | reference
deriving DecidableEq, Repr

/-- The style that a search asks for. -/
def Style.of (config : Config) (modifiers : Modifiers) (f : Found) : Style :=
  if f.form != .link then .plain
  else if modifiers.refTitle then .title
  else if modifiers.clipboard || modifiers.urlOnly then .url
  else if config.inline then .inline
  else .reference

/-- Writing goes by the style. -/
theorem Draft.write_eq (d : Draft) (p : PlannedSpan) (modifiers : Modifiers) (f : Found) :
    d.write p modifiers f =
      match Style.of p.config modifiers f with
      | .plain => d.replace p f.plainText
      | .title => d.defineTitle p f
      | .url => d.replace p f.url
      | .inline =>
        d.replace p (Reference.inlineLink f.linkText f.url (Draft.writtenTitle p.config f))
      | .reference =>
        (d.markerOf p f).2.replace p (Reference.referenceLink f.linkText (d.markerOf p f).1) := by
  unfold Draft.write Style.of
  split
  · rfl
  split
  · rfl
  split
  · rfl
  split
  · rfl
  · rfl

/-- A reference definition that a run adds. -/
structure NewDefinition where
  label : Text
  url : Text
  title : Option Text
deriving DecidableEq, Repr

/-- The definition as it is written. -/
def NewDefinition.line (n : NewDefinition) : Text :=
  Reference.definitionLine n.label n.url n.title

/-- A planned span, with the outcome of its search and the draft that it
is taken into. -/
structure Step where
  before : Draft
  planned : PlannedSpan
  outcome : Option Outcome
deriving DecidableEq, Repr

namespace Step

/-- The draft that the span has been taken into. -/
def after (s : Step) : Draft := s.before.add s.planned s.outcome

/-- What the search of the span found, and the style to write it in. -/
def found? (s : Step) : Option (Style × Found) :=
  match s.planned.action, s.outcome with
  | .search _ modifiers, some (.found f) => some (Style.of s.planned.config modifiers f, f)
  | _, _ => none

/-- The footnote id that the span is given, if it is a footnote. -/
def footnote? (s : Step) : Option Text :=
  match s.planned.action with
  | .footnote linkText _ => some (s.before.footnoteId s.planned linkText).1
  | _ => none

/-- What the span refers to a marker for, and that marker. -/
def reference? (s : Step) : Option (Found × Text) :=
  match s.found? with
  | some (.reference, f) => some (f, (s.before.markerOf s.planned f).1)
  | _ => none

/-- The text that takes the place of the span. -/
def replacement? (s : Step) : Option Text :=
  match s.footnote?, s.found? with
  | some id, _ => some ("[^" ++ id ++ "]")
  | none, some (.plain, f) => some f.plainText
  | none, some (.url, f) => some f.url
  | none, some (.inline, f) =>
    some (Reference.inlineLink f.linkText f.url (Draft.writtenTitle s.planned.config f))
  | none, some (.reference, f) =>
    some (Reference.referenceLink f.linkText (s.before.markerOf s.planned f).1)
  | none, _ => none

/-- Whether the line of the span is left out: a reference title was found
for it. -/
def dropsLine (s : Step) : Bool := s.found?.any (·.1 == .title)

/-- The marker that is drawn for the URL that was found. -/
def generated? (s : Step) : Option Text :=
  match s.found? with
  | some (.reference, f) =>
    if s.before.links.contains f.url then none
    else some (s.before.markers.freshLink s.planned.config.prefixRandom).1
  | _ => none

/-- The label under which the step would define the URL that it found. -/
def label? (s : Step) : Option (Text × Found) :=
  match s.found? with
  | some (.title, f) => some (f.linkText, f)
  | some (.reference, f) => some ((s.before.markers.freshLink s.planned.config.prefixRandom).1, f)
  | _ => none

/-- The definition that is added to the footer: one for a URL without a
marker, where the style calls for it. -/
def definition? (s : Step) : Option NewDefinition :=
  match s.label? with
  | some (label, f) =>
    if s.before.links.contains f.url then none
    else some ⟨label, f.url, Draft.writtenTitle s.planned.config f⟩
  | none => none

/-- The footnote that is added to the footer. -/
def note? (s : Step) : Option Text :=
  match s.planned.action with
  | .footnote linkText note =>
    some ("[^" ++ (s.before.footnoteId s.planned linkText).1 ++ "]: " ++ note)
  | _ => none

/-- The edit that is made, with its line. -/
def edit? (s : Step) : Option (Nat × Edit) :=
  s.replacement?.map fun text => (s.planned.line, ⟨s.planned.span.start, s.planned.span.stop, text⟩)

/-- The markers that come next: a drawn marker and a drawn footnote id are
not drawn again. -/
def nextMarkers (s : Step) : Markers :=
  match s.planned.action with
  | .footnote linkText _ => (s.before.footnoteId s.planned linkText).2.markers
  | _ =>
    if s.generated?.isSome then (s.before.markers.freshLink s.planned.config.prefixRandom).2
    else s.before.markers

/-! ## What a step does to the draft -/

/-- The draft after a step, up to its logs. -/
def core (s : Step) : Table × Markers × Footer × List (Nat × Edit) × List Nat :=
  (s.before.links ++ (s.definition?.map fun n => (n.url, n.label)).toList,
    s.nextMarkers,
    ⟨s.before.footer.references ++ (s.definition?.map NewDefinition.line).toList,
      s.before.footer.footnotes ++ s.note?.toList⟩,
    s.before.edits ++ s.edit?.toList,
    if s.dropsLine then s.planned.line :: s.before.deleted else s.before.deleted)

theorem footnote?_eq_none {s : Step}
    (ha : ∀ linkText note, s.planned.action ≠ .footnote linkText note) : s.footnote? = none := by
  unfold footnote?
  split
  · next linkText note h => exact absurd h (ha linkText note)
  · rfl

theorem note?_eq_none {s : Step}
    (ha : ∀ linkText note, s.planned.action ≠ .footnote linkText note) : s.note? = none := by
  unfold note?
  split
  · next linkText note h => exact absurd h (ha linkText note)
  · rfl

/-- A step that finds nothing and notes nothing writes nothing. -/
theorem core_of_idle {s : Step} (hf : s.found? = none)
    (ha : ∀ linkText note, s.planned.action ≠ .footnote linkText note) :
    s.core = s.before.core := by
  have hm : s.nextMarkers = s.before.markers := by
    unfold nextMarkers
    split
    · next linkText note h => exact absurd h (ha linkText note)
    · simp [generated?, hf]
  simp [core, Draft.core, note?_eq_none ha, hm, edit?, replacement?, footnote?_eq_none ha, hf,
    definition?, label?, dropsLine]

/-- A footnote keeps everything but the markers, the footer and the edits. -/
theorem core_of_footnote {s : Step} {linkText note : Text}
    (ha : s.planned.action = .footnote linkText note) :
    (s.before.writeFootnote s.planned linkText note).core = s.core := by
  have hf : s.found? = none := by simp only [found?, ha]
  have hd : ∃ markers, (s.before.footnoteId s.planned linkText).2
      = { s.before with markers := markers } := by
    unfold Draft.footnoteId
    dsimp only
    split
    · exact ⟨s.before.markers, rfl⟩
    · exact ⟨_, rfl⟩
  obtain ⟨markers, hd⟩ := hd
  unfold Draft.writeFootnote
  rw [Draft.core_logReport]
  simp [core, Draft.core, Draft.replace, hd, Footer.withFootnote, note?, nextMarkers, edit?,
    replacement?, footnote?, ha, hf, definition?, label?, dropsLine]

/-- A step that replaces its span and touches neither markers, footer nor
lines. -/
theorem core_of_replaced {s : Step} {text : Text} (ha : s.note? = none)
    (hm : s.nextMarkers = s.before.markers) (hr : s.replacement? = some text)
    (hl : s.definition? = none) (hd : s.dropsLine = false) :
    (s.before.replace s.planned text).core = s.core := by
  simp [core, Draft.core, Draft.replace, edit?, ha, hm, hr, hl, hd]

/-- What is written for a found result. -/
theorem core_of_found {s : Step} {modifiers : Modifiers} {f : Found} {job : Search.Job}
    (ha : s.planned.action = .search job modifiers) (ho : s.outcome = some (.found f)) :
    (s.before.write s.planned modifiers f).core = s.core := by
  have hf : s.found? = some (Style.of s.planned.config modifiers f, f) := by
    simp only [found?, ha, ho]
  have hid : s.footnote? = none := by simp only [footnote?, ha]
  have hn : s.note? = none := by simp only [note?, ha]
  -- Markers move on for a reference to a new URL only.
  have hm : s.generated? = none → s.nextMarkers = s.before.markers := by
    intro hg
    simp [nextMarkers, ha, hg]
  rw [Draft.write_eq]
  cases hs : Style.of s.planned.config modifiers f with
  | plain =>
    exact core_of_replaced hn (hm (by simp [generated?, hf, hs]))
      (by simp [replacement?, hid, hf, hs]) (by simp [definition?, label?, hf, hs])
      (by simp [dropsLine, hf, hs])
  | url =>
    exact core_of_replaced hn (hm (by simp [generated?, hf, hs]))
      (by simp [replacement?, hid, hf, hs]) (by simp [definition?, label?, hf, hs])
      (by simp [dropsLine, hf, hs])
  | inline =>
    exact core_of_replaced hn (hm (by simp [generated?, hf, hs]))
      (by simp [replacement?, hid, hf, hs]) (by simp [definition?, label?, hf, hs])
      (by simp [dropsLine, hf, hs])
  | title =>
    have hm := hm (by simp [generated?, hf, hs])
    cases hc : s.before.links.contains f.url <;>
      simp [core, Draft.core, Draft.defineTitle, hn, hm, edit?, replacement?, hid, hf, hs, hc,
        definition?, label?, dropsLine, Table.insert, Footer.withReference, NewDefinition.line]
  | reference =>
    cases hg : s.before.links.get? f.url with
    | some marker =>
      have hc : s.before.links.contains f.url = true := by simp [Table.contains, hg]
      have hk : s.before.markerOf s.planned f = (marker, s.before) := by
        simp only [Draft.markerOf, hg]
      rw [hk]
      exact core_of_replaced hn (hm (by simp [generated?, hf, hs, hc]))
        (by simp [replacement?, hid, hf, hs, hk]) (by simp [definition?, label?, hf, hs, hc])
        (by simp [dropsLine, hf, hs])
    | none =>
      have hc : s.before.links.contains f.url = false := by simp [Table.contains, hg]
      simp [core, Draft.core, Draft.replace, Draft.markerOf, hn, nextMarkers, edit?, replacement?,
        hid, ha, hf, hs, hc, hg, definition?, label?, dropsLine, generated?, Table.insert,
        Footer.withReference, NewDefinition.line]

/-- **What a step does**, up to the logs. -/
theorem core_after (s : Step) : s.after.core = s.core := by
  unfold after Draft.add
  split
  · next ha => exact (core_of_idle (by simp [found?, ha]) (by simp [ha])).symm
  · next ha =>
    rw [Draft.core_logReport]
    exact (core_of_idle (by simp [found?, ha]) (by simp [ha])).symm
  · next problem ha =>
    exact (core_of_idle (by simp [found?, ha]) (by simp [ha])).symm
  · next linkText note ha => exact core_of_footnote ha
  · next job modifiers ha =>
    split
    · next f ho =>
      simp only [Draft.addFound]
      rw [Draft.core_logReport, ← core_of_found ha ho, Draft.logNotes_eq]
      exact Draft.core_write (Draft.core_logAll ..) ..
    · next f ho =>
      exact (core_of_idle (by simp [found?, ha, ho]) (by simp [ha])).symm
    · next ho =>
      exact (core_of_idle (by simp [found?, ha, ho]) (by simp [ha])).symm

theorem links_after (s : Step) : s.after.links
    = s.before.links ++ (s.definition?.map fun n => (n.url, n.label)).toList :=
  congrArg (·.1) s.core_after

theorem markers_after (s : Step) : s.after.markers = s.nextMarkers :=
  congrArg (·.2.1) s.core_after

theorem references_after (s : Step) : s.after.footer.references
    = s.before.footer.references ++ (s.definition?.map NewDefinition.line).toList :=
  congrArg (·.2.2.1.references) s.core_after

theorem footnotes_after (s : Step) :
    s.after.footer.footnotes = s.before.footer.footnotes ++ s.note?.toList :=
  congrArg (·.2.2.1.footnotes) s.core_after

theorem edits_after (s : Step) : s.after.edits = s.before.edits ++ s.edit?.toList :=
  congrArg (·.2.2.2.1) s.core_after

theorem deleted_after (s : Step) : s.after.deleted
    = if s.dropsLine then s.planned.line :: s.before.deleted else s.before.deleted :=
  congrArg (·.2.2.2.2) s.core_after

end Step

/-! ## Traces -/

/-- The steps that take in planned spans with their outcomes. -/
def trace (d : Draft) : List (PlannedSpan × Option Outcome) → List Step
  | [] => []
  | (p, outcome) :: rest => ⟨d, p, outcome⟩ :: trace (d.add p outcome) rest

theorem addAll_cons (d : Draft) (p : PlannedSpan) (outcome : Option Outcome)
    (rest : List (PlannedSpan × Option Outcome)) :
    d.addAll ((p, outcome) :: rest) = (d.add p outcome).addAll rest := rfl

/-- The steps go through the given spans, one each and in their order. -/
theorem trace_spans (d : Draft) (spans : List (PlannedSpan × Option Outcome)) :
    (trace d spans).map (fun s => (s.planned, s.outcome)) = spans := by
  induction spans generalizing d with
  | nil => rfl
  | cons span rest ih => rw [trace, List.map_cons, ih]

/-- What is seen of a draft is led from step to step. -/
theorem addAll_foldl {β : Type} (view : Draft → β) (next : β → Step → β)
    (h : ∀ s : Step, view s.after = next (view s.before) s)
    (d : Draft) (spans : List (PlannedSpan × Option Outcome)) :
    view (d.addAll spans) = (trace d spans).foldl next (view d) := by
  induction spans generalizing d with
  | nil => rfl
  | cons span rest ih =>
    have hstep : view (d.add span.1 span.2) = next (view d) ⟨d, span.1, span.2⟩ :=
      h ⟨d, span.1, span.2⟩
    rw [addAll_cons, ih, hstep]
    rfl

/-- What the steps add at the end of a list, the run adds up. -/
theorem addAll_accumulates {α : Type} (view : Draft → List α) (added : Step → Option α)
    (h : ∀ s : Step, view s.after = view s.before ++ (added s).toList)
    (d : Draft) (spans : List (PlannedSpan × Option Outcome)) :
    view (d.addAll spans) = view d ++ (trace d spans).filterMap added := by
  rw [addAll_foldl view (fun start s => start ++ (added s).toList) h]
  generalize view d = start
  induction trace d spans generalizing start with
  | nil => simp
  | cons s steps ih =>
    rw [List.foldl_cons, ih, List.append_assoc]
    cases hadd : added s <;> simp [hadd]

/-- A property that every step of a run keeps holds before each of them, and
behind the last. -/
theorem trace_invariant {P : Draft → Prop} {d : Draft}
    {spans : List (PlannedSpan × Option Outcome)}
    (keep : ∀ s ∈ trace d spans, P s.before → P s.after) (start : P d) :
    (∀ s ∈ trace d spans, P s.before) ∧ P (d.addAll spans) := by
  induction spans generalizing d with
  | nil => exact ⟨by simp [trace], start⟩
  | cons span rest ih =>
    have hfirst := keep ⟨d, span.1, span.2⟩ (List.mem_cons_self ..) start
    obtain ⟨steps, final⟩ := ih (fun s hs => keep s (List.mem_cons_of_mem _ hs)) hfirst
    refine ⟨?_, final⟩
    intro s hs
    rcases List.mem_cons.1 hs with rfl | hs
    · exact start
    · exact steps s hs

/-- Every step of a run stands between a run that leads up to it and one
that goes on from it. -/
theorem trace_split {d : Draft} {spans : List (PlannedSpan × Option Outcome)} {s : Step}
    (h : s ∈ trace d spans) :
    ∃ earlier later, spans = earlier ++ (s.planned, s.outcome) :: later
      ∧ s.before = d.addAll earlier ∧ d.addAll spans = s.after.addAll later := by
  induction spans generalizing d with
  | nil => simp [trace] at h
  | cons span rest ih =>
    rcases List.mem_cons.1 h with rfl | h
    · exact ⟨[], rest, rfl, rfl, rfl⟩
    · obtain ⟨earlier, later, hspans, hbefore, hafter⟩ := ih h
      refine ⟨span :: earlier, later, ?_, hbefore, hafter⟩
      rw [hspans, List.cons_append]

/-! ## Runs -/

namespace Run

variable {σ : Type} (l : Linker σ) (input : Text) (s : σ)

/-- The text that a run works on. -/
def source : Text := withoutReports input

/-- The lines that a run works on. -/
def lines : List Text := Text.lines (source input)

/-- The planned spans of a run, and the configuration behind its last line. -/
def planned : List PlannedSpan × Config := plan l.resolver.registry l.config (lines input)

/-- The planned spans with the outcomes of their searches. -/
def spans : List (PlannedSpan × Option Outcome) :=
  withOutcomes (resolveJobs l ((planned l input).1.filterMap PlannedSpan.job?) s).1 0
    (planned l input).1

/-- The draft that a run begins with. -/
def start : Draft := Draft.ofDocument l.random (source input)

/-- The steps of a run. -/
def steps : List Step := trace (start l input) (spans l input s)

/-- The draft that a run ends with. -/
def draft : Draft := (start l input).addAll (spans l input s)

end Run

section

variable {σ : Type} (l : Linker σ) (input : Text) (s : σ)

/-- A run turns the draft that it ends with into its result. -/
theorem link_eq (h : Span.occursIn input = true) :
    (link l input s).1 = (Run.draft l input s).result (Run.lines input) (Run.planned l input).2
      ((Text.endedLines input).length ≤ 1) (Run.planned l input).1.length := by
  unfold link
  simp only [h, Bool.not_true, Bool.false_eq_true, ↓reduceIte]
  rfl

/-- A document without spans is its own result. -/
theorem link_of_not_occursIn (h : Span.occursIn input = false) : (link l input s).1
    = { output := input, clipboard := false, links := 0, errors := [] } := by
  unfold link
  simp only [h, Bool.not_false, ↓reduceIte]
  rfl

/-- Outcomes are given to the planned spans, which keep their order. -/
theorem withOutcomes_map_fst (outcomes : List (Nat × Outcome)) (rank : Nat)
    (planned : List PlannedSpan) :
    (withOutcomes outcomes rank planned).map Prod.fst = planned := by
  induction planned generalizing rank with
  | nil => rfl
  | cons p rest ih =>
    unfold withOutcomes
    split <;> rw [List.map_cons, ih]

/-- A run has one step for each planned span. -/
theorem steps_planned : (Run.steps l input s).map Step.planned = (Run.planned l input).1 := by
  have h := congrArg (List.map Prod.fst) (trace_spans (Run.start l input) (Run.spans l input s))
  rw [List.map_map] at h
  exact h.trans (withOutcomes_map_fst ..)

theorem draft_edits :
    (Run.draft l input s).edits = (Run.steps l input s).filterMap Step.edit? := by
  exact addAll_accumulates Draft.edits _ Step.edits_after ..

theorem draft_references : (Run.draft l input s).footer.references
    = (Run.steps l input s).filterMap fun t => t.definition?.map NewDefinition.line := by
  exact addAll_accumulates (·.footer.references) _ Step.references_after ..

theorem draft_links : (Run.draft l input s).links
    = Table.ofDocument (Run.source input)
      ++ (Run.steps l input s).filterMap fun t => t.definition?.map fun n => (n.url, n.label) := by
  exact addAll_accumulates Draft.links _ Step.links_after ..

variable {l input s}

/-- The span of a step is planned. -/
theorem planned_of_mem {t : Step} (ht : t ∈ Run.steps l input s) :
    t.planned ∈ (Run.planned l input).1 := by
  rw [← steps_planned l input s]
  exact List.mem_map_of_mem ht

end

/-- What holds of everything that steps have found can be read off a list. -/
theorem forall_found_iff {steps : List Step} {P : Style × Found → Prop} :
    (∀ t ∈ steps, ∀ found, t.found? = some found → P found)
      ↔ ∀ found ∈ steps.filterMap Step.found?, P found := by
  constructor
  · intro h found hfound
    obtain ⟨t, ht, hstep⟩ := List.mem_filterMap.1 hfound
    exact h t ht found hstep
  · intro h t ht found hstep
    exact h found (List.mem_filterMap.2 ⟨t, ht, hstep⟩)

/-! ## A linker to try runs with -/

/-- A linker that knows one trigger, `g`, and finds a page for whatever it
searches for. -/
def pageLinker : Linker Unit where
  config := {}
  resolver := { registry := { providers := [("g", fun request =>
    pure (.ok (some (.untitled ("https://example.org/" ++ request.terms)))))] } }

end InlineSearch.Document
