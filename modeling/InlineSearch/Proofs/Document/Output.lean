/-
InlineSearch.Proofs.Document.Output — an output, part by part.

An output is what the lines of the document become (`written`), the footer
(`footerText`) and the comments with the report and the errors
(`output_eq`). The comments begin with a line feed, and their lines look
neither like a fence nor like a definition (`Logged`), as long as nothing
that is logged holds a line feed.
-/
import InlineSearch.Proofs.Document.Body
import InlineSearch.Proofs.Document.Reports
import InlineSearch.Proofs.Text.Lines

namespace InlineSearch.Document

/-! ## Lines of comments -/

/-- A line as it stands in a comment: empty, or one that begins with an
entry or with a mark of the comment. -/
def Logged (line : Text) : Prop := line.head?.all fun c => c == '<' || c == '-' || c == '('

/-- Nothing, or what begins a line of its own. -/
def Apart (t : Text) : Prop := t = [] ∨ ∃ rest, t = '\n' :: rest

theorem Apart.append {a b : Text} (ha : Apart a) (hb : Apart b) : Apart (a ++ b) := by
  rcases ha with rfl | ⟨a, rfl⟩
  · exact hb
  · exact .inr ⟨a ++ b, rfl⟩

/-- Whole lines of comments, or nothing. -/
def Comments (t : Text) : Prop := t = [] ∨ ∃ rest, t = '\n' :: rest ∧ Text.AllLines Logged rest

theorem logged_nil : Logged [] := rfl

theorem Comments.apart {t : Text} (h : Comments t) : Apart t :=
  h.imp_right fun ⟨rest, ht, _⟩ => ⟨rest, ht⟩

theorem Comments.append {a b : Text} (ha : Comments a) (hb : Comments b) : Comments (a ++ b) := by
  rcases ha with rfl | ⟨a, rfl, ha⟩
  · exact hb
  · rcases hb with rfl | ⟨b, rfl, hb⟩
    · rw [List.append_nil]
      exact .inr ⟨a, rfl, ha⟩
    · exact .inr ⟨a ++ '\n' :: b, rfl, Text.allLines_append.2 ⟨ha, hb⟩⟩

/-- Nothing that is logged holds a line feed. -/
structure Draft.OneLined (d : Draft) : Prop where
  report : ∀ entry ∈ d.report, '\n' ∉ entry.message
  shown : ∀ line ∈ d.shown.lines, '\n' ∉ line

theorem feed_not_mem_ofNat (n : Nat) : '\n' ∉ Text.ofNat n := by
  intro h
  exact absurd (Nat.isDigit_of_mem_toDigits (by decide) (by decide) h) (by decide)

theorem feed_not_mem_position (p : Position) : '\n' ∉ p.written := by
  unfold Position.written
  rw [Text.join_cons_cons, Text.join_cons_cons, Text.join_singleton]
  simp [feed_not_mem_ofNat]

theorem feed_not_mem_entry {entry : LogEntry} (h : '\n' ∉ entry.message) :
    '\n' ∉ entry.written := by
  have hplace : '\n' ∉ (entry.position.map Position.written).getD "?:?:?" := by
    cases entry.position with
    | none => decide
    | some p => exact feed_not_mem_position p
  rw [LogEntry.written, List.mem_append, List.mem_append, List.mem_append]
  rintro (((hopen | hmem) | hclose) | hmem)
  · exact absurd hopen (by decide)
  · exact hplace hmem
  · exact absurd hclose (by decide)
  · exact h hmem

/-- Entries between the marks of a comment. -/
theorem allLines_comment (heading closing : Text) (hheading : '\n' ∉ heading ∧ Logged heading)
    (hclosing : '\n' ∉ closing ∧ Logged closing) {entries : List Text}
    (h : ∀ entry ∈ entries, '\n' ∉ entry ∧ Logged entry) :
    Text.AllLines Logged (heading ++ '\n' :: (Text.join "\n" entries ++ '\n' :: closing)) := by
  refine Text.allLines_append.2 ⟨Text.allLines_of_not_mem hheading.1 hheading.2,
    Text.allLines_append.2 ⟨?_, Text.allLines_of_not_mem hclosing.1 hclosing.2⟩⟩
  exact Text.allLines_join logged_nil fun entry hentry =>
    Text.allLines_of_not_mem (h entry hentry).1 (h entry hentry).2

/-- A report up to the mark that closes it. -/
def openReport (log : ReportLog) : Text :=
  "<!-- Report:" ++ '\n' :: (Text.join "\n" (log.map LogEntry.written) ++ '\n' :: [])

theorem block_report {log : ReportLog} (h : log ≠ []) :
    ReportLog.block log = '\n' :: (openReport log ++ "-->\n") := by
  have hne : log.isEmpty = false := List.isEmpty_eq_false_iff.2 h
  have hbegin : ("\n<!-- Report:\n" : Text) = '\n' :: (("<!-- Report:" : Text) ++ ['\n']) := by
    decide
  have hend : ("\n-->\n" : Text) = '\n' :: ("-->\n" : Text) := by decide
  unfold ReportLog.block openReport
  rw [hne, hbegin, hend]
  simp only [Bool.false_eq_true, ↓reduceIte, List.cons_append, List.append_assoc, List.nil_append]

theorem allLines_report {log : ReportLog} (h : ∀ entry ∈ log, '\n' ∉ entry.message)
    {closing : Text} (hfeed : '\n' ∉ closing) (hclosing : Logged closing) :
    Text.AllLines Logged (openReport log ++ closing) := by
  have hopen : openReport log ++ closing = ("<!-- Report:" : Text)
      ++ '\n' :: (Text.join "\n" (log.map LogEntry.written) ++ '\n' :: closing) := by
    unfold openReport
    simp only [List.cons_append, List.append_assoc, List.nil_append]
  rw [hopen]
  refine allLines_comment "<!-- Report:" closing ⟨by decide, rfl⟩ ⟨hfeed, hclosing⟩
    fun line hline => ?_
  obtain ⟨entry, hentry, rfl⟩ := List.mem_map.1 hline
  exact ⟨feed_not_mem_entry (h entry hentry), rfl⟩

theorem apart_report (log : ReportLog) : Apart (ReportLog.block log) := by
  by_cases hlog : log = []
  · rw [hlog]
    exact .inl rfl
  · rw [block_report hlog]
    exact .inr ⟨_, rfl⟩

theorem comments_report {log : ReportLog} (h : ∀ entry ∈ log, '\n' ∉ entry.message) :
    Comments (ReportLog.block log) := by
  by_cases hlog : log = []
  · rw [hlog]
    exact .inl rfl
  · have hline : openReport log ++ ("-->\n" : Text) = (openReport log ++ "-->") ++ '\n' :: [] := by
      simp
    rw [block_report hlog, hline]
    exact .inr ⟨_, rfl, Text.allLines_append.2
      ⟨allLines_report h (by decide) rfl, Text.allLines_nil logged_nil⟩⟩

theorem logged_of_mem_lines {log : ErrorLog} {line : Text} (h : line ∈ log.lines) :
    Logged line := by
  unfold ErrorLog.lines at h
  obtain ⟨⟨label, entries⟩, -, hline⟩ := List.mem_flatMap.1 h
  obtain ⟨entry, -, rfl⟩ := List.mem_map.1 hline
  rfl

theorem apart_errors (log : ErrorLog) : Apart log.block := by
  unfold ErrorLog.block
  split
  · exact .inl rfl
  · exact .inr ⟨_, rfl⟩

section

variable {log : ErrorLog} (h : ∀ line ∈ log.lines, '\n' ∉ line)
include h

theorem comments_errors : Comments log.block := by
  unfold ErrorLog.block
  split
  · exact .inl rfl
  · have hblock : ("\n<!-- Errors:\n" : Text) ++ Text.join "\n" log.lines ++ "\n-->\n"
        = '\n' :: ((("<!-- Errors:" : Text)
          ++ '\n' :: (Text.join "\n" log.lines ++ '\n' :: "-->")) ++ "\n") := by
      simp
    rw [hblock]
    refine .inr ⟨_, rfl, Text.allLines_append.2 ⟨?_, Text.allLines_nil logged_nil⟩⟩
    exact allLines_comment "<!-- Errors:" "-->" ⟨by decide, rfl⟩ ⟨by decide, rfl⟩
      fun line hline => ⟨h line hline, logged_of_mem_lines hline⟩

theorem feed_not_mem_trailer : '\n' ∉ log.trailer := by
  unfold ErrorLog.trailer
  split
  · simp
  · rw [List.mem_append, List.mem_append]
    rintro ((hopen | hmem) | hclose)
    · exact absurd hopen (by decide)
    · rcases Text.mem_join hmem with hsep | ⟨line, hline, hmem⟩
      · exact absurd hsep (by decide)
      · exact h line hline hmem
    · exact absurd hclose (by decide)

end

/-! ## Parts of an output -/

namespace Draft

/-- What the lines of the document become: blanks at their end are trimmed
before a footer, and before errors, which stand behind the last of them
where nothing else does. -/
def written (d : Draft) (body report : Text) (single : Bool) : Text :=
  if !d.footer.isEmpty then Text.trimEnd body
  else if !d.clipboard && !d.shown.isEmpty && single && report.isEmpty then
    Text.trimEnd body ++ d.shown.trailer
  else body

/-- The footer as it stands behind what is written. -/
def footerText (d : Draft) (written : Text) : Text :=
  if d.footer.isEmpty then [] else separator written ++ d.footer.render ++ "\n"

/-- A report that is appended has entries. -/
theorem reportBlock_eq (d : Draft) (config : Config) (single : Bool) (links : Nat) :
    d.reportBlock config single links = []
      ∨ d.reportBlock config single links = ReportLog.block (d.report ++ [d.summary links]) := by
  unfold reportBlock
  split
  · exact .inr rfl
  · exact .inl rfl

theorem OneLined.summary {d : Draft} (h : d.OneLined) (links : Nat) :
    ∀ entry ∈ d.report ++ [d.summary links], '\n' ∉ entry.message := by
  intro entry hentry
  rcases List.mem_append.1 hentry with hentry | hentry
  · exact h.report entry hentry
  · rw [List.mem_singleton.1 hentry]
    simp [Draft.summary, feed_not_mem_ofNat]

theorem apart_reportBlock (d : Draft) (config : Config) (single : Bool) (links : Nat) :
    Apart (d.reportBlock config single links) := by
  rcases d.reportBlock_eq config single links with hreport | hreport
  · rw [hreport]
    exact .inl rfl
  · rw [hreport]
    exact apart_report _

theorem comments_reportBlock {d : Draft} (h : d.OneLined) (config : Config) (single : Bool)
    (links : Nat) : Comments (d.reportBlock config single links) := by
  rcases d.reportBlock_eq config single links with hreport | hreport
  · rw [hreport]
    exact .inl rfl
  · rw [hreport]
    exact comments_report (h.summary links)

/-- A report is trimmed down to the mark that closes it. -/
theorem trimEnd_reportBlock {d : Draft} {config : Config} {single : Bool} {links : Nat}
    (hne : d.reportBlock config single links ≠ []) :
    Text.trimEnd (d.reportBlock config single links)
      = '\n' :: (openReport (d.report ++ [d.summary links]) ++ "-->") := by
  have hblank : Text.isBlankText ("-->\n" : Text) = false := by decide
  have hclose : Text.trimEnd ("-->\n" : Text) = ("-->" : Text) := by decide
  rw [(d.reportBlock_eq config single links).resolve_left hne, block_report (by simp),
    ← List.cons_append, Text.trimEnd_append _ hblank, hclose, List.cons_append]

/-- A report, with the errors behind it on its last line. -/
theorem comments_trailer {d : Draft} (h : d.OneLined) {config : Config} {single : Bool}
    {links : Nat} (hne : d.reportBlock config single links ≠ []) :
    Comments (Text.trimEnd (d.reportBlock config single links) ++ d.shown.trailer) := by
  rw [trimEnd_reportBlock hne, List.cons_append, List.append_assoc]
  refine .inr ⟨_, rfl, allLines_report (h.summary links) ?_ rfl⟩
  rw [List.mem_append]
  rintro (hclose | htrailer)
  · exact absurd hclose (by decide)
  · exact feed_not_mem_trailer h.shown htrailer

/-- The line feed that ends an output is kept. -/
theorem comments_ending (t : Text) : Comments (if Text.endsWith "\n" t then "\n" else []) := by
  split
  · exact .inr ⟨[], rfl, Text.allLines_nil logged_nil⟩
  · exact .inl rfl

/-- **The parts of an output.** What the lines of the document become, the
footer, and comments. -/
theorem output_eq (d : Draft) (lines : List Text) (config : Config) (single : Bool)
    (links : Nat) : ∃ comments, (d.result lines config single links).output
      = d.written (Text.join "\n" (d.editedFrom 0 lines)) (d.reportBlock config single links) single
        ++ d.footerText (d.written (Text.join "\n" (d.editedFrom 0 lines))
          (d.reportBlock config single links) single) ++ comments
      ∧ Apart comments ∧ (d.OneLined → Comments comments) := by
  unfold result
  dsimp only
  generalize Text.join "\n" (d.editedFrom 0 lines) = body
  have hreport := And.intro (d.apart_reportBlock config single links)
    fun h : d.OneLined => comments_reportBlock h config single links
  have hblock := And.intro (hreport.1.append (apart_errors d.shown))
    fun h : d.OneLined => (hreport.2 h).append (comments_errors h.shown)
  cases hfooter : d.footer.isEmpty with
  | false =>
    have hwritten : d.written body (d.reportBlock config single links) single
        = Text.trimEnd body := by
      simp [written, hfooter]
    have hbody : d.withFooter body
        = Text.trimEnd body ++ d.footerText (Text.trimEnd body) := by
      simp [withFooter, footerText, hfooter]
    rw [hwritten, hbody]
    unfold withErrors
    simp only [hfooter, Bool.and_false, Bool.false_eq_true, ↓reduceIte]
    split
    · exact ⟨_, rfl, hreport⟩
    split
    · exact ⟨_, rfl, hreport⟩
    · exact ⟨_, List.append_assoc .., hblock⟩
  | true =>
    have hbody : d.withFooter body = body := by simp [withFooter, hfooter]
    have hnone : ∀ written, d.footerText written = [] := fun _ => by simp [footerText, hfooter]
    rw [hnone, List.append_nil, hbody]
    unfold withErrors written
    simp only [hfooter, Bool.and_true, Bool.not_true, Bool.false_eq_true, ↓reduceIte]
    cases hclipboard : d.clipboard with
    | true => exact ⟨_, rfl, hreport⟩
    | false =>
    cases hshown : d.shown.isEmpty with
    | true => exact ⟨_, rfl, hreport⟩
    | false =>
    cases single with
    | false => exact ⟨_, List.append_assoc .., hblock⟩
    | true =>
      simp only [Bool.not_false, Bool.and_true, Bool.false_eq_true, ↓reduceIte, Bool.true_and]
      cases hempty : (d.reportBlock config true links).isEmpty with
      | true =>
        rw [List.isEmpty_iff.1 hempty, List.append_nil]
        exact ⟨_, rfl, (comments_ending body).apart, fun _ => comments_ending body⟩
      | false =>
        -- The errors go behind the closing mark of the report: what is
        -- trimmed is the line feed of the report, not the body.
        have hne : d.reportBlock config true links ≠ [] := List.isEmpty_eq_false_iff.1 hempty
        have hblank : Text.isBlankText (d.reportBlock config true links) = false :=
          (d.reportBlock_cases config true links).resolve_left hne
        rw [Text.trimEnd_append body hblank]
        have hending := comments_ending (body ++ d.reportBlock config true links)
        have htrailer : Apart (Text.trimEnd (d.reportBlock config true links)
            ++ d.shown.trailer) := by
          rw [trimEnd_reportBlock hne]
          exact .inr ⟨_, rfl⟩
        refine ⟨_, ?_, htrailer.append hending.apart,
          fun h => (comments_trailer h hne).append hending⟩
        simp only [Bool.false_eq_true, ↓reduceIte, List.append_assoc]

end Draft

end InlineSearch.Document
