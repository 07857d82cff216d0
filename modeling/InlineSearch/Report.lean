/-
InlineSearch.Report — what a run reports: positions, the error log and
the report, and the comments that they are written into.

Errors are grouped by their label, the groups in the order in which their
labels were first seen. A run removes the comments that an earlier run
left, so that they do not pile up.
-/
import InlineSearch.Text.Basic

namespace InlineSearch

/-- Where a span is: its line, counted from one, its byte column and its
length in bytes. -/
structure Position where
  line : Nat
  column : Nat
  length : Nat
deriving DecidableEq, Repr

/-- A message, and where it belongs if it belongs to a place. -/
structure LogEntry where
  position : Option Position
  message : Text
deriving DecidableEq, Repr

/-- A position as it is written. -/
def Position.written (p : Position) : Text :=
  Text.join ":" [Text.ofNat p.line, Text.ofNat p.column, Text.ofNat p.length]

/-- An entry as it is written. -/
def LogEntry.written (e : LogEntry) : Text :=
  "(" ++ (e.position.map Position.written).getD "?:?:?" ++ "): " ++ e.message

/-! ## Errors -/

/-- Errors grouped by label, groups in the order of their first entries. -/
abbrev ErrorLog := List (Text × List LogEntry)

namespace ErrorLog

/-- The log with one more entry. -/
def push (label : Text) (entry : LogEntry) : ErrorLog → ErrorLog
  | [] => [(label, [entry])]
  | (l, entries) :: groups =>
    if l = label then (l, entries ++ [entry]) :: groups
    else (l, entries) :: push label entry groups

/-- The number of entries. -/
def size (log : ErrorLog) : Nat := (log.flatMap Prod.snd).length

/-- Every entry behind its label, group by group. -/
def lines (log : ErrorLog) : List Text :=
  log.flatMap fun (label, entries) => entries.map fun e => "(" ++ label ++ ") " ++ e.written

/-- The log as a comment of several lines; nothing if there are no errors. -/
def block (log : ErrorLog) : Text :=
  if log.isEmpty then [] else "\n<!-- Errors:\n" ++ Text.join "\n" log.lines ++ "\n-->\n"

/-- The log as a comment to stand at the end of a line; nothing if there
are no errors. -/
def trailer (log : ErrorLog) : Text :=
  if log.isEmpty then [] else " <!-- Errors: " ++ Text.join "; " log.lines ++ " -->"

end ErrorLog

/-! ## The report -/

/-- What was substituted, in document order. -/
abbrev ReportLog := List LogEntry

/-- The report as a comment; nothing if it has no entries. -/
def ReportLog.block (log : ReportLog) : Text :=
  if log.isEmpty then []
  else "\n<!-- Report:\n" ++ Text.join "\n" (log.map LogEntry.written) ++ "\n-->\n"

/-! ## Comments of earlier runs -/

/-- The text without the first comment that `opening` begins, and without
one line feed on each side of it. -/
def withoutComment (opening t : Text) : Text :=
  match Text.cut opening t with
  | none => t
  | some (before, inside) =>
    match Text.cut "-->" inside with
    | none => t
    | some (_, after) =>
      (Text.dropSuffix? "\n" before).getD before ++ (Text.dropPrefix? "\n" after).getD after

/-- The text without the comments that an earlier run left. -/
def withoutReports (t : Text) : Text :=
  withoutComment "<!-- Errors:" (withoutComment "<!-- Report:" t)

end InlineSearch
