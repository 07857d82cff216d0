/-
InlineSearch.Document.Draft — putting the outcomes of searches back
into a document.

The planned spans are gone through in document order, each with its
outcome if it is a search. Markers are given, the footer and the logs are
filled, and edits are collected against the unchanged lines. `result` then
applies the edits and appends the footer, the report and the errors.

A span that fails leaves a trace in the error logs and nowhere else.
-/
import InlineSearch.Document.Plan
import InlineSearch.Edit
import InlineSearch.Reference.Footer
import InlineSearch.Reference.Link
import InlineSearch.Reference.Marker
import InlineSearch.Reference.Table

namespace InlineSearch

/-- What a run comes to. -/
structure Linked where
  output : Text
  /-- The output is wanted on the clipboard. -/
  clipboard : Bool
  /-- The number of spans. -/
  links : Nat
  /-- Every error, also those that the output does not show. -/
  errors : List Text
deriving DecidableEq, Repr

/-- What is logged about a span: a message with the span behind it, or the
span alone. -/
def quoting (message span : Text) : Text :=
  if message.isEmpty then span else message ++ " (" ++ span ++ ")"

namespace Document

open Reference (Footer Markers Table)
open Search (Found Outcome)

/-- What has been gathered from the spans so far. -/
structure Draft where
  links : Table
  markers : Markers
  footer : Footer := {}
  report : ReportLog := []
  /-- The errors that the output shows. -/
  shown : ErrorLog := []
  errors : ErrorLog := []
  /-- Edits with the lines they belong to. -/
  edits : List (Nat × Edit) := []
  /-- Lines that are left out. -/
  deleted : List Nat := []
  clipboard : Bool := false
deriving DecidableEq, Repr

namespace Draft

/-- The start of a run over a document, with the run's random number. -/
def ofDocument (random : Nat) (document : Text) : Draft where
  links := Table.ofDocument document
  markers := Markers.ofDocument random document

/-! ## Logs and edits -/

/-- Logs an error of a span. -/
def logError (d : Draft) (p : PlannedSpan) (label message : Text) : Draft :=
  let entry : LogEntry := ⟨some p.position, message⟩
  { d with
    shown := if p.config.debug then d.shown.push label entry else d.shown
    errors := d.errors.push label entry }

/-- Reports on a span, where its configuration asks for a report. -/
def logReport (d : Draft) (p : PlannedSpan) (message : Text) : Draft :=
  if p.config.report then { d with report := d.report ++ [⟨some p.position, message⟩] } else d

/-- Replaces a span. -/
def replace (d : Draft) (p : PlannedSpan) (text : Text) : Draft :=
  { d with edits := d.edits ++ [(p.line, ⟨p.span.start, p.span.stop, text⟩)] }

/-! ## Footnotes -/

/-- The id that a footnote has: its link text where that is one word, and
a generated id otherwise. -/
def footnoteId (d : Draft) (p : PlannedSpan) (linkText : Text) : Text × Draft :=
  let name := Text.trim linkText
  if !name.isEmpty && !name.any Text.isBlank then (name, d)
  else
    let (id, markers) := d.markers.freshFootnote p.config.prefixRandom
    (id, { d with markers })

/-- Turns a span into a footnote. -/
def writeFootnote (d : Draft) (p : PlannedSpan) (linkText note : Text) : Draft :=
  let (id, d) := d.footnoteId p linkText
  let d := { d with footer := d.footer.withFootnote ("[^" ++ id ++ "]: " ++ note) }
  (d.replace p ("[^" ++ id ++ "]")).logReport p (p.span.text ++ " => Footnote " ++ id)

/-! ## Links -/

/-- The title that is written for what was found. -/
def writtenTitle (config : Config) (f : Found) : Option Text :=
  if config.includeTitles || f.showTitle then some f.title else none

/-- Defines the link text as a reference, unless the URL has a marker, and
leaves the line out. -/
def defineTitle (d : Draft) (p : PlannedSpan) (f : Found) : Draft :=
  let line := Reference.definitionLine f.linkText f.url (writtenTitle p.config f)
  { d with
    links := d.links.insert f.url f.linkText
    footer := if d.links.contains f.url then d.footer else d.footer.withReference line
    deleted := p.line :: d.deleted }

/-- The marker of a URL. A URL without a marker gets the next one, and its
definition goes into the footer. -/
def markerOf (d : Draft) (p : PlannedSpan) (f : Found) : Text × Draft :=
  match d.links.get? f.url with
  | some marker => (marker, d)
  | none =>
    let (marker, markers) := d.markers.freshLink p.config.prefixRandom
    let line := Reference.definitionLine marker f.url (writtenTitle p.config f)
    (marker, { d with
      markers, links := d.links.insert f.url marker, footer := d.footer.withReference line })

/-- Writes what a search found in place of the span. -/
def write (d : Draft) (p : PlannedSpan) (modifiers : Modifiers) (f : Found) : Draft :=
  if f.form != .link then d.replace p f.plainText
  else if modifiers.refTitle then d.defineTitle p f
  else if modifiers.clipboard || modifiers.urlOnly then d.replace p f.url
  else if p.config.inline then
    d.replace p (Reference.inlineLink f.linkText f.url (writtenTitle p.config f))
  else
    let (marker, d) := d.markerOf p f
    d.replace p (Reference.referenceLink f.linkText marker)

/-- Logs the notes on what was found, writes it, and reports it. -/
def addFound (d : Draft) (p : PlannedSpan) (modifiers : Modifiers) (f : Found) : Draft :=
  let d := f.notes.foldl (fun d note => d.logError p note.problem.label note.message) d
  let d := { d.write p modifiers f with clipboard := d.clipboard || modifiers.clipboard }
  d.logReport p (p.span.text ++ " => " ++ f.url)

/-! ## Going through the spans -/

/-- Takes in a planned span and the outcome of its search. -/
def add (d : Draft) (p : PlannedSpan) (outcome : Option Outcome) : Draft :=
  match p.action with
  | .link => d
  | .inlineCode =>
    d.logReport p ("Match '" ++ p.span.text ++ "' within an inline code block")
  | .fail problem => d.logError p problem.label (quoting [] p.span.text)
  | .footnote linkText note => d.writeFootnote p linkText note
  | .search _ modifiers =>
    match outcome with
    | some (.found f) => d.addFound p modifiers f
    | some (.failed f) => d.logError p f.problem.label (quoting f.message p.span.text)
    | none => d.logError p Search.Problem.noResults.label p.span.text

/-- Takes in planned spans with their outcomes, in document order. -/
def addAll (d : Draft) (spans : List (PlannedSpan × Option Outcome)) : Draft :=
  spans.foldl (fun d (p, outcome) => d.add p outcome) d

/-! ## The output -/

/-- The lines that stay, from line `n` on, with their edits applied. -/
def editedFrom (d : Draft) (n : Nat) : List Text → List Text
  | [] => []
  | line :: rest =>
    if d.deleted.contains n then d.editedFrom (n + 1) rest
    else
      let edits := (d.edits.filter (·.1 == n)).map Prod.snd
      Edit.apply edits line :: d.editedFrom (n + 1) rest

/-- What stands between a body and the footer behind it. -/
def separator (body : Text) : Text :=
  match (Text.endedLines body).getLast? with
  | none => []
  | some last => if Reference.definesReference last then "\n" else "\n\n"

/-- The body with the footer behind it. -/
def withFooter (d : Draft) (body : Text) : Text :=
  if d.footer.isEmpty then body
  else
    let body := Text.trimEnd body
    body ++ separator body ++ d.footer.render ++ "\n"

/-- The last line of the report. -/
def summary (d : Draft) (links : Nat) : LogEntry :=
  ⟨none, "Processed: " ++ Text.ofNat links ++ " links, " ++ Text.ofNat d.errors.size
    ++ " errors."⟩

/-- The report as it is appended, in a run whose input had at most one
line (`single`) or more. -/
def reportBlock (d : Draft) (config : Config) (single : Bool) (links : Nat) : Text :=
  if config.report && links != 0 && !d.clipboard && !(config.inline && single) then
    ReportLog.block (d.report ++ [d.summary links])
  else []

/-- The output with the errors appended: behind a single line without a
footer on that line, and otherwise as a block. -/
def withErrors (d : Draft) (single : Bool) (output : Text) : Text :=
  if d.clipboard then output
  else if d.shown.isEmpty then output
  else if single && d.footer.isEmpty then
    let ending : Text := if Text.endsWith "\n" output then "\n" else []
    Text.trimEnd output ++ d.shown.trailer ++ ending
  else output ++ d.shown.block

/-- The result of a run over the given lines. -/
def result (d : Draft) (lines : List Text) (config : Config) (single : Bool) (links : Nat) :
    Linked :=
  let body := d.withFooter (Text.join "\n" (d.editedFrom 0 lines))
  { output := d.withErrors single (body ++ d.reportBlock config single links)
    clipboard := d.clipboard
    links
    errors := d.errors.lines }

end Draft

end Document

end InlineSearch
