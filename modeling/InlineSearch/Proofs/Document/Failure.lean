/-
InlineSearch.Proofs.Document.Failure — a span that fails leaves the others
alone.

A span fails in planning, by its search, or for want of an outcome
(`fails`). Then its step logs an error and does nothing else
(`idle_of_fails`). What a step writes does not depend on the errors that
are logged before it (`quiet`). So a run over some spans and a run over
those of them that do not fail keep in step with each other
(`alike_successes`), and end with drafts that differ in their errors at
most (`failures_isolated`).
-/
import InlineSearch.Proofs.Document.Body
import InlineSearch.Proofs.Document.Logs

namespace InlineSearch.Document

open Search (Found Outcome)

/-- Whether a span fails: in planning, by its search, or without an outcome. -/
def PlannedSpan.fails (p : PlannedSpan) (outcome : Option Outcome) : Bool :=
  match p.action, outcome with
  | .fail _, _ => true
  | .search _ _, none => true
  | .search _ _, some (.failed _) => true
  | _, _ => false

/-- The spans that do not fail, with their outcomes. -/
def successes (spans : List (PlannedSpan × Option Outcome)) :
    List (PlannedSpan × Option Outcome) :=
  spans.filter fun span => !span.1.fails span.2

/-! ## Drafts up to their errors -/

namespace Draft

/-- The draft with no errors in its logs. -/
def withoutErrors (d : Draft) : Draft := { d with shown := [], errors := [] }

theorem withoutErrors_eq_iff {d e : Draft} : d.withoutErrors = e.withoutErrors
    ↔ d.core = e.core ∧ d.report = e.report ∧ d.clipboard = e.clipboard := by
  rcases d with ⟨links, markers, footer, report, shown, errors, edits, deleted, clipboard⟩
  rcases e with ⟨links', markers', footer', report', shown', errors', edits', deleted', clipboard'⟩
  simp only [withoutErrors, core, mk.injEq, Prod.mk.injEq]
  constructor
  · rintro ⟨rfl, rfl, rfl, rfl, -, -, rfl, rfl, rfl⟩
    exact ⟨⟨rfl, rfl, rfl, rfl, rfl⟩, rfl, rfl⟩
  · rintro ⟨⟨rfl, rfl, rfl, rfl, rfl⟩, rfl, rfl⟩
    exact ⟨rfl, rfl, rfl, rfl, trivial, trivial, rfl, rfl, rfl⟩

theorem footnoteId_withoutErrors (d : Draft) (p : PlannedSpan) (linkText : Text) :
    d.withoutErrors.footnoteId p linkText
      = ((d.footnoteId p linkText).1, (d.footnoteId p linkText).2.withoutErrors) := by
  unfold footnoteId
  dsimp only
  split
  · rfl
  · rfl

theorem markerOf_withoutErrors (d : Draft) (p : PlannedSpan) (f : Found) :
    d.withoutErrors.markerOf p f = ((d.markerOf p f).1, (d.markerOf p f).2.withoutErrors) := by
  have hlinks : d.withoutErrors.links = d.links := rfl
  unfold markerOf
  rw [hlinks]
  split
  · rfl
  · rfl

end Draft

/-! ## Steps up to the errors before them -/

namespace Step

/-- The step, with no errors before it. -/
def quiet (t : Step) : Step := { t with before := t.before.withoutErrors }

section

variable (t : Step)

theorem found?_quiet : t.quiet.found? = t.found? := rfl

theorem generated?_quiet : t.quiet.generated? = t.generated? := rfl

theorem definition?_quiet : t.quiet.definition? = t.definition? := rfl

theorem dropsLine_quiet : t.quiet.dropsLine = t.dropsLine := rfl

theorem copies_quiet : t.quiet.copies = t.copies := rfl

theorem footnoteId_quiet (linkText : Text) :
    t.quiet.before.footnoteId t.quiet.planned linkText
      = ((t.before.footnoteId t.planned linkText).1,
        (t.before.footnoteId t.planned linkText).2.withoutErrors) :=
  t.before.footnoteId_withoutErrors t.planned linkText

theorem footnote?_quiet : t.quiet.footnote? = t.footnote? := by
  simp only [footnote?, footnoteId_quiet]
  rfl

theorem note?_quiet : t.quiet.note? = t.note? := by
  simp only [note?, footnoteId_quiet]
  rfl

theorem report?_quiet : t.quiet.report? = t.report? := by
  simp only [report?, footnoteId_quiet]
  rfl

theorem nextMarkers_quiet : t.quiet.nextMarkers = t.nextMarkers := by
  simp only [nextMarkers, footnoteId_quiet]
  rfl

theorem replacement?_quiet : t.quiet.replacement? = t.replacement? := by
  have hmarker : ∀ f, (t.quiet.before.markerOf t.quiet.planned f).1
      = (t.before.markerOf t.planned f).1 := by
    intro f
    show (t.before.withoutErrors.markerOf t.planned f).1 = _
    rw [Draft.markerOf_withoutErrors]
  simp only [replacement?, footnote?_quiet, found?_quiet, hmarker]
  rfl

theorem edit?_quiet : t.quiet.edit? = t.edit? := by
  unfold edit?
  rw [replacement?_quiet]
  rfl

theorem core_quiet : t.quiet.core = t.core := by
  simp only [core, definition?_quiet, nextMarkers_quiet, note?_quiet, edit?_quiet,
    dropsLine_quiet]
  rfl

/-- What a step leads to does not depend on the errors before it, except for
the errors. -/
theorem after_quiet : t.quiet.after.withoutErrors = t.after.withoutErrors := by
  rw [Draft.withoutErrors_eq_iff]
  refine ⟨?_, ?_, ?_⟩
  · rw [core_after, core_after, core_quiet]
  · rw [report_after, report_after, report?_quiet]
    rfl
  · rw [clipboard_after, clipboard_after, copies_quiet]
    rfl

end

/-- Two steps that do the same, except for the errors. -/
structure Alike (t u : Step) : Prop where
  planned : t.planned = u.planned
  outcome : t.outcome = u.outcome
  before : t.before.withoutErrors = u.before.withoutErrors
  after : t.after.withoutErrors = u.after.withoutErrors
  edit : t.edit? = u.edit?
  dropsLine : t.dropsLine = u.dropsLine
  generated : t.generated? = u.generated?
  definition : t.definition? = u.definition?
  note : t.note? = u.note?
  report : t.report? = u.report?

theorem alike_of_quiet_eq {t u : Step} (h : t.quiet = u.quiet) : t.Alike u where
  planned := congrArg (·.planned) h
  outcome := congrArg (·.outcome) h
  before := congrArg (·.before) h
  after := by rw [← after_quiet, h, after_quiet]
  edit := by rw [← edit?_quiet, h, edit?_quiet]
  dropsLine := by rw [← dropsLine_quiet, h, dropsLine_quiet]
  generated := by rw [← generated?_quiet, h, generated?_quiet]
  definition := by rw [← definition?_quiet, h, definition?_quiet]
  note := by rw [← note?_quiet, h, note?_quiet]
  report := by rw [← report?_quiet, h, report?_quiet]

/-- A span that goes into drafts which differ in their errors only. -/
theorem alike_of_before {d e : Draft} (h : d.withoutErrors = e.withoutErrors) (p : PlannedSpan)
    (outcome : Option Outcome) : Alike ⟨d, p, outcome⟩ ⟨e, p, outcome⟩ :=
  alike_of_quiet_eq (by rw [quiet, quiet, h])

/-! ## Steps that write nothing -/

/-- A step that writes nothing: its span and its line stay, and nothing is drawn,
defined or noted for it. -/
structure Unwritten (t : Step) : Prop where
  edit : t.edit? = none
  dropsLine : t.dropsLine = false
  generated : t.generated? = none
  definition : t.definition? = none
  note : t.note? = none

theorem unwritten_of_nothing {t : Step} (hfound : t.found? = none)
    (hnote : ∀ linkText note, t.planned.action ≠ .footnote linkText note) : t.Unwritten where
  edit := by simp [edit?, replacement?, footnote?_eq_none hnote, hfound]
  dropsLine := by simp [dropsLine, hfound]
  generated := by simp [generated?, hfound]
  definition := by simp [definition?, label?, hfound]
  note := note?_eq_none hnote

/-- Nothing is written for a span that is planned to stay. -/
theorem unwritten_of_stays {t : Step}
    (h : t.planned.action = .inlineCode ∨ t.planned.action = .link) : t.Unwritten := by
  rcases h with ha | ha
  · exact unwritten_of_nothing (by simp [found?, ha]) (by simp [ha])
  · exact unwritten_of_nothing (by simp [found?, ha]) (by simp [ha])

/-- Whether the span of the step fails. -/
def fails (t : Step) : Bool := t.planned.fails t.outcome

/-- A step that does nothing but log errors: its span and its line stay,
and nothing is drawn, defined, noted or reported for it. -/
structure Idle (t : Step) : Prop where
  after : t.after.withoutErrors = t.before.withoutErrors
  edit : t.edit? = none
  dropsLine : t.dropsLine = false
  generated : t.generated? = none
  definition : t.definition? = none
  note : t.note? = none
  report : t.report? = none

theorem idle_of_fails {t : Step} (h : t.fails = true) : t.Idle := by
  have hf : t.found? = none ∧ t.report? = none ∧ t.copies = false
      ∧ ∀ linkText note, t.planned.action ≠ .footnote linkText note := by
    unfold fails PlannedSpan.fails at h
    split at h
    · next problem ha => simp [found?, report?, copies, ha]
    · next job modifiers ha ho => simp [found?, report?, copies, ha, ho]
    · next job modifiers f ha ho => simp [found?, report?, copies, ha, ho]
    · simp at h
  obtain ⟨hfound, hreport, hcopies, hnote⟩ := hf
  obtain ⟨hedit, hstay, hgenerated, hdefinition, hnone⟩ := unwritten_of_nothing hfound hnote
  refine ⟨?_, hedit, hstay, hgenerated, hdefinition, hnone, hreport⟩
  rw [Draft.withoutErrors_eq_iff, core_after, core_of_idle hfound hnote, report_after, hreport,
    clipboard_after, hcopies]
  exact ⟨rfl, List.append_nil _, Bool.or_false _⟩

end Step

/-! ## Runs with and without failures -/

/-- A run over some spans and a run over those that do not fail keep in step. -/
theorem alike_successes {d e : Draft} (h : d.withoutErrors = e.withoutErrors)
    (spans : List (PlannedSpan × Option Outcome)) :
    List.Forall₂ Step.Alike ((trace d spans).filter fun t => !t.fails)
        (trace e (successes spans))
      ∧ (d.addAll spans).withoutErrors = (e.addAll (successes spans)).withoutErrors := by
  induction spans generalizing d e with
  | nil => exact ⟨.nil, h⟩
  | cons span rest ih =>
    obtain ⟨p, outcome⟩ := span
    rw [trace, addAll_cons]
    by_cases hfails : Step.fails ⟨d, p, outcome⟩ = true
    · -- The span is in one of the runs only, and there its step is idle.
      have hstep : (d.add p outcome).withoutErrors = d.withoutErrors :=
        (Step.idle_of_fails (t := ⟨d, p, outcome⟩) hfails).after
      have hspans : successes ((p, outcome) :: rest) = successes rest :=
        List.filter_cons_of_neg (by simpa [Step.fails] using hfails)
      have hsteps : ((⟨d, p, outcome⟩ :: trace (d.add p outcome) rest : List Step).filter
          fun t => !t.fails) = (trace (d.add p outcome) rest).filter fun t => !t.fails :=
        List.filter_cons_of_neg (by simpa using hfails)
      rw [hspans, hsteps]
      exact ih (hstep.trans h)
    · have hstep := Step.alike_of_before h p outcome
      have hspans : successes ((p, outcome) :: rest) = (p, outcome) :: successes rest :=
        List.filter_cons_of_pos (by simpa [Step.fails] using hfails)
      have hsteps : ((⟨d, p, outcome⟩ :: trace (d.add p outcome) rest : List Step).filter
          fun t => !t.fails)
          = ⟨d, p, outcome⟩ :: (trace (d.add p outcome) rest).filter fun t => !t.fails :=
        List.filter_cons_of_pos (by simpa using hfails)
      obtain ⟨hlater, hend⟩ := ih hstep.after
      rw [hspans, hsteps]
      exact ⟨.cons hstep hlater, hend⟩

section

variable {σ : Type} {l : Linker σ} {input : Text} {s : σ}

/-- The line of a span that stays is not left out: a reference title that
would drop it fills it, so it would be the only span of the line. -/
theorem drops_eq_false {t : Step} (ht : t ∈ Run.steps l input s) (hstay : t.dropsLine = false) :
    Run.drops l input s t.planned.line = false := by
  by_contra hdrops
  obtain ⟨u, hu, hdrop⟩ := List.any_eq_true.1 (eq_true_of_ne_false hdrops)
  rw [Bool.and_eq_true, beq_iff_eq] at hdrop
  obtain ⟨hdrop, hline⟩ := hdrop
  obtain ⟨line, hget, hspan, hfill⟩ :=
    exists_line_of_mem l.resolver.registry l.config (planned_of_mem hu)
  obtain ⟨job, modifiers, f, ha, -, -, hm⟩ := u.dropsLine_iff.1 hdrop
  have hsingle := Span.inLine_of_trim_eq hspan (hfill job modifiers ha hm)
  obtain ⟨kind, hkind⟩ := CodeBlock.getElem?_zip_classifyLines hget
  have hspans := Run.spans_of_replacements l input s hkind
  have hlength : (Run.replacements l input s u.planned.line).length ≤ 1 := by
    rw [← List.length_map (f := Prod.fst), hspans]
    split
    · simp
    · rw [hsingle]
      simp
  have hmem : ∀ v ∈ Run.steps l input s, v.planned.line = u.planned.line →
      v ∈ (Run.steps l input s).filter (·.planned.line == u.planned.line) := by
    intro v hv hvline
    exact List.mem_filter.2 ⟨hv, by simpa using hvline⟩
  have hsame : t = u := by
    rw [Run.replacements, List.length_map] at hlength
    obtain ⟨v, hv⟩ := List.length_eq_one_iff.1 (Nat.le_antisymm hlength
      (List.length_pos_of_mem (hmem u hu rfl)))
    have htv := hmem t ht hline.symm
    have huv := hmem u hu rfl
    rw [hv, List.mem_singleton] at htv huv
    rw [htv, huv]
  rw [← hsame, hstay] at hdrop
  simp at hdrop

/-- A span that is not replaced stands on its line, which is written. -/
theorem text_stays {t : Step} (ht : t ∈ Run.steps l input s) (hedit : t.edit? = none)
    (hstay : t.dropsLine = false) :
    ∃ line, (Run.lines input)[t.planned.line]? = some line
      ∧ (Run.draft l input s).deleted.contains t.planned.line = false
      ∧ t.planned.span.text <:+: Edit.apply
        (((Run.draft l input s).edits.filter (·.1 == t.planned.line)).map Prod.snd) line := by
  obtain ⟨line, hline, -⟩ :=
    exists_line_of_mem l.resolver.registry l.config (planned_of_mem ht)
  refine ⟨line, hline, ?_, ?_⟩
  · rw [Run.contains_deleted]
    exact drops_eq_false ht hstay
  · have hkept : (t.planned.span, none) ∈ Run.replacements l input s t.planned.line := by
      refine List.mem_map.2 ⟨t, List.mem_filter.2 ⟨ht, by simp⟩, ?_⟩
      rw [Option.map_eq_none_iff.1 hedit]
    exact (Run.spliced_line l input s hline).text_infix_of_kept hkept

end

/-- **A failure stays alone.** A run over some spans, and a run over those of
them that do not fail, end with drafts that differ in their errors at most,
and the spans that do not fail are written alike in both. A span that fails
is not touched: in a run over a document its line is written, with the span
on it. -/
theorem failures_isolated (d : Draft) (spans : List (PlannedSpan × Option Outcome)) :
    (d.addAll spans).withoutErrors = (d.addAll (successes spans)).withoutErrors
    ∧ List.Forall₂ Step.Alike ((trace d spans).filter fun t => !t.fails)
      (trace d (successes spans))
    ∧ (∀ t ∈ trace d spans, t.fails = true → t.Idle)
    ∧ ∀ {σ : Type} (l : Linker σ) (input : Text) (s : σ), ∀ t ∈ Run.steps l input s,
      t.fails = true → ∃ line, (Run.lines input)[t.planned.line]? = some line
        ∧ (Run.draft l input s).deleted.contains t.planned.line = false
        ∧ t.planned.span.text <:+: Edit.apply
          (((Run.draft l input s).edits.filter (·.1 == t.planned.line)).map Prod.snd) line := by
  obtain ⟨hsteps, hdrafts⟩ := alike_successes (d := d) rfl spans
  refine ⟨hdrafts, hsteps, fun t _ => Step.idle_of_fails, ?_⟩
  intro σ l input s t ht hfails
  have hidle := Step.idle_of_fails hfails
  exact text_stays ht hidle.edit hidle.dropsLine

/-- A failure between two links, which have the markers that they would have
without it. -/
theorem failures_isolated_between_links :
    let input : Text := "[x](!g rust) [y](!nope c) [z](!g lean)"
    let steps := Run.steps pageLinker input ()
    steps.map (fun t => (t.fails, t.reference?.map Prod.snd))
      = [(false, some ("0001" : Text)), (true, none), (false, some ("0002" : Text))]
    ∧ (Run.draft pageLinker input ()).withoutErrors = ((Run.start pageLinker input).addAll
      (successes (Run.spans pageLinker input ()))).withoutErrors
    ∧ ∀ t ∈ steps, t.fails = true → t.Idle :=
  ⟨by decide +kernel, (failures_isolated _ _).1, (failures_isolated _ _).2.2.1⟩

end InlineSearch.Document
