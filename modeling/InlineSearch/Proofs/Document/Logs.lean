/-
InlineSearch.Proofs.Document.Logs — what a step logs.

A draft is its core, which `Step.core_after` follows, and its logs: the
report, the two logs of errors, and whether the output is wanted on the
clipboard. `Step.logs_after` follows these. What a step logs is read off
it: `report?` is what the report says about it, `entries` are the errors,
each behind its label, and `copies` is whether it asks for the clipboard.
-/
import InlineSearch.Proofs.Document.Trace

namespace InlineSearch.Document

open Search (Found Outcome)

/-! ## Logs of a draft -/

namespace Draft

/-- What the core of a draft leaves out. -/
def logs (d : Draft) : ReportLog × ErrorLog × ErrorLog × Bool :=
  (d.report, d.shown, d.errors, d.clipboard)

theorem logs_logReport (d : Draft) (p : PlannedSpan) (message : Text) :
    (d.logReport p message).logs
      = (d.report ++ if p.config.report then [⟨some p.position, message⟩] else [],
        d.shown, d.errors, d.clipboard) := by
  unfold logReport
  split
  · rfl
  · rw [List.append_nil]
    rfl

theorem logs_footnoteId (d : Draft) (p : PlannedSpan) (linkText : Text) :
    (d.footnoteId p linkText).2.logs = d.logs := by
  unfold footnoteId
  dsimp only
  split
  · rfl
  · rfl

theorem logs_writeFootnote (d : Draft) (p : PlannedSpan) (linkText note : Text) :
    (d.writeFootnote p linkText note).logs = (d.logReport p
      (p.span.text ++ " => Footnote " ++ (d.footnoteId p linkText).1)).logs := by
  have hid := d.logs_footnoteId p linkText
  simp only [logs, Prod.mk.injEq] at hid
  obtain ⟨hreport, hshown, herrors, hclipboard⟩ := hid
  unfold writeFootnote
  dsimp only
  rw [logs_logReport, logs_logReport]
  simp only [replace, hreport, hshown, herrors, hclipboard]

theorem logs_markerOf (d : Draft) (p : PlannedSpan) (f : Found) :
    (d.markerOf p f).2.logs = d.logs := by
  unfold markerOf
  split
  · rfl
  · rfl

/-- Writing what was found logs nothing yet. -/
theorem logs_write (d : Draft) (p : PlannedSpan) (modifiers : Modifiers) (f : Found) :
    (d.write p modifiers f).logs = d.logs := by
  rw [write_eq]
  cases Style.of p.config modifiers f with
  | plain => rfl
  | title => rfl
  | url => rfl
  | inline => rfl
  | reference => exact d.logs_markerOf p f

end Draft

/-! ## Logs along a step -/

namespace Step

/-- What the report says about the span, if it says anything. -/
def report? (t : Step) : Option Text :=
  if t.planned.config.report then
    match t.planned.action, t.outcome with
    | .inlineCode, _ =>
      some ("Match '" ++ t.planned.span.text ++ "' within an inline code block")
    | .footnote linkText _, _ =>
      some (t.planned.span.text ++ " => Footnote "
        ++ (t.before.footnoteId t.planned linkText).1)
    | .search _ _, some (.found f) => some (t.planned.span.text ++ " => " ++ f.url)
    | _, _ => none
  else none

/-- The errors that are logged about the span, behind their labels. -/
def entries (t : Step) : List (Text × LogEntry) :=
  match t.planned.action, t.outcome with
  | .fail problem, _ =>
    [t.planned.entry problem.label (quoting [] t.planned.span.text)]
  | .search _ _, some (.found f) => t.planned.noteEntries f.notes
  | .search _ _, some (.failed f) =>
    [t.planned.entry f.problem.label (quoting f.message t.planned.span.text)]
  | .search _ _, none => [t.planned.entry Search.Problem.noResults.label t.planned.span.text]
  | _, _ => []

/-- Whether something was found that is wanted on the clipboard. -/
def copies (t : Step) : Bool :=
  match t.planned.action, t.outcome with
  | .search _ modifiers, some (.found _) => modifiers.clipboard
  | _, _ => false

/-- The logs after a step. -/
def logs (t : Step) : ReportLog × ErrorLog × ErrorLog × Bool :=
  (t.before.report
      ++ (t.report?.map fun message => (⟨some t.planned.position, message⟩ : LogEntry)).toList,
    if t.planned.config.debug then t.before.shown.pushAll t.entries else t.before.shown,
    t.before.errors.pushAll t.entries,
    t.before.clipboard || t.copies)

/-- A step that neither reports nor asks for the clipboard logs its errors. -/
theorem logs_of_logAll {t : Step} (hr : t.report? = none) (hc : t.copies = false) :
    (t.before.logAll t.planned t.entries).logs = t.logs := by
  simp [logs, Draft.logs, Draft.logAll, hr, hc]

/-- A step without errors that does not ask for the clipboard makes its report. -/
theorem logs_of_logReport {t : Step} {message : Text} (he : t.entries = []) (hc : t.copies = false)
    (hr : t.report? = if t.planned.config.report then some message else none) :
    (t.before.logReport t.planned message).logs = t.logs := by
  rw [Draft.logs_logReport]
  cases hreport : t.planned.config.report <;>
    simp [logs, he, hc, hr, hreport, ErrorLog.pushAll]

/-- A search that found something logs its notes and makes its report. -/
theorem logs_of_found {t : Step} {modifiers : Modifiers} {f : Found} {job : Search.Job}
    (ha : t.planned.action = .search job modifiers) (ho : t.outcome = some (.found f)) :
    (t.before.addFound t.planned modifiers f).logs = t.logs := by
  have he : t.entries = t.planned.noteEntries f.notes := by simp only [entries, ha, ho]
  have hc : t.copies = modifiers.clipboard := by simp only [copies, ha, ho]
  have hr : t.report? = if t.planned.config.report then
      some (t.planned.span.text ++ " => " ++ f.url) else none := by
    simp only [report?, ha, ho]
  have hwrite := (t.before.logAll t.planned t.entries).logs_write t.planned modifiers f
  simp only [Draft.logs, Prod.mk.injEq] at hwrite
  obtain ⟨hreport, hshown, herrors, -⟩ := hwrite
  unfold Draft.addFound
  dsimp only
  rw [Draft.logNotes_eq, ← he, Draft.logs_logReport]
  simp only [logs, hreport, hshown, herrors, hc, hr]
  cases hconfig : t.planned.config.report <;> simp [Draft.logAll]

/-- **What a step logs.** -/
theorem logs_after (t : Step) : t.after.logs = t.logs := by
  unfold after Draft.add
  split
  · next ha =>
    have he : t.entries = [] := by simp only [entries, ha]
    rw [← logs_of_logAll (by simp [report?, ha]) (by simp [copies, ha]), he, Draft.logAll_nil]
  · next ha =>
    exact logs_of_logReport (by simp only [entries, ha]) (by simp only [copies, ha])
      (by simp only [report?, ha])
  · next problem ha =>
    have he : t.entries
        = [t.planned.entry problem.label (quoting [] t.planned.span.text)] := by
      simp only [entries, ha]
    rw [← logs_of_logAll (by simp [report?, ha]) (by simp [copies, ha]), he, Draft.logError_eq]
  · next linkText note ha =>
    rw [Draft.logs_writeFootnote]
    exact logs_of_logReport (by simp only [entries, ha]) (by simp only [copies, ha])
      (by simp only [report?, ha])
  · next job modifiers ha =>
    split
    · next f ho => exact logs_of_found ha ho
    · next f ho =>
      have he : t.entries
          = [t.planned.entry f.problem.label (quoting f.message t.planned.span.text)] := by
        simp only [entries, ha, ho]
      rw [← logs_of_logAll (by simp [report?, ha, ho]) (by simp [copies, ha, ho]), he,
        Draft.logError_eq]
    · next ho =>
      have he : t.entries
          = [t.planned.entry Search.Problem.noResults.label t.planned.span.text] := by
        simp only [entries, ha, ho]
      rw [← logs_of_logAll (by simp [report?, ha, ho]) (by simp [copies, ha, ho]), he,
        Draft.logError_eq]

theorem report_after (t : Step) : t.after.report = t.before.report
    ++ (t.report?.map fun message => (⟨some t.planned.position, message⟩ : LogEntry)).toList :=
  congrArg (·.1) t.logs_after

theorem shown_after (t : Step) : t.after.shown
    = if t.planned.config.debug then t.before.shown.pushAll t.entries else t.before.shown :=
  congrArg (·.2.1) t.logs_after

theorem errors_after (t : Step) : t.after.errors = t.before.errors.pushAll t.entries :=
  congrArg (·.2.2.1) t.logs_after

theorem clipboard_after (t : Step) : t.after.clipboard = (t.before.clipboard || t.copies) :=
  congrArg (·.2.2.2) t.logs_after

end Step

end InlineSearch.Document
