/-
InlineSearch.Proofs.Document.Reports — what a run reports, and that it says
it on one line.

`Step.report?` is what the report says about a step; the report of a run is
what it says about its steps, in their order (`draft_report`). Spans do not
go over the end of a line, so neither do the notes that become footnotes
(`feed_not_mem_note`) nor the reports on spans (`feed_not_mem_report`).
-/
import InlineSearch.Proofs.Directive.Splice
import InlineSearch.Proofs.Document.Freshness
import InlineSearch.Proofs.Document.Logs
import InlineSearch.Proofs.Document.Place
import InlineSearch.Proofs.Text.Chars
import InlineSearch.Proofs.Text.Lines

namespace InlineSearch

/-! ## Footnotes -/

namespace Directive

/-- What is quoted stands in the text. -/
theorem mem_of_quotedPart {t inner : Text} (h : inner ∈ Text.hits quotedPart t) {c : Char}
    (hc : c ∈ inner) : c ∈ t := by
  obtain ⟨pre, suf, taken, rfl, hmatch⟩ := Text.exists_of_mem_hits h
  unfold quotedPart at hmatch
  split at hmatch
  · next quoted =>
    simp only [Text.cutInLine, Option.bind_eq_bind, Option.bind_eq_some_iff, Option.pure_def,
      Option.some.injEq, Prod.mk.injEq, Prod.exists] at hmatch
    obtain ⟨found, behind, ⟨_, _, hcut, -, -, rfl, rfl⟩, -, rfl⟩ := hmatch
    rw [Text.eq_of_cut hcut]
    simp [hc]
  · simp at hmatch

theorem mem_of_takeQuoted {linkText info : Text} {c : Char}
    (h : c ∈ (takeQuoted linkText info).2) : c ∈ info := by
  unfold takeQuoted at h
  split at h
  · rcases Text.mem_substitute h with h | ⟨inner, hinner, h⟩
    · exact h
    · exact mem_of_quotedPart hinner h
  · exact h

/-- What a footnote is read from, once a quoted part has taken the place of a
blank link text. -/
theorem takeQuoted_of_footnote {linkText info label note : Text} {wholeLine : Bool}
    (h : read linkText info wholeLine = .footnote label note) :
    ∃ rest, takeQuoted linkText (Text.trim info) = (label, rest) ∧ note? rest = some note := by
  unfold read at h
  dsimp only at h
  split at h
  · next found hnote =>
    obtain ⟨rfl, rfl⟩ := Meaning.footnote.inj h
    exact ⟨_, rfl, hnote⟩
  · generalize (if (wholeLine && Text.endsWith ":" (takeQuoted linkText (Text.trim info)).2) = true
      then _ else _) = rest at h
    split at h
    · simp at h
    split at h
    · simp at h
    split at h
    · simp at h
    · simp at h

/-- A note is part of what it is read from. -/
theorem mem_of_note {linkText info label note : Text} {wholeLine : Bool}
    (h : read linkText info wholeLine = .footnote label note) {c : Char} (hc : c ∈ note) :
    c ∈ info := by
  obtain ⟨rest, hquoted, hnote⟩ := takeQuoted_of_footnote h
  unfold note? at hnote
  obtain ⟨behind, hbehind, rfl⟩ :=
    Option.map_eq_some_iff.1 (Option.eq_some_of_filter_eq_some hnote)
  have hinfo : c ∈ (takeQuoted linkText (Text.trim info)).2 := by
    rw [hquoted, Text.dropPrefix?_eq_some_iff.1 hbehind]
    exact List.mem_append_right _ (Text.mem_trim hc)
  exact Text.mem_trim (mem_of_takeQuoted hinfo)

/-- The label of a footnote is the link text, or it is quoted in what the
footnote is read from. -/
theorem label_of_footnote {linkText info label note : Text} {wholeLine : Bool}
    (h : read linkText info wholeLine = .footnote label note) :
    label = linkText ∨ ∀ c ∈ label, c ∈ info := by
  obtain ⟨rest, hquoted, -⟩ := takeQuoted_of_footnote h
  unfold takeQuoted at hquoted
  split at hquoted
  · next inner later _ hhits =>
    obtain ⟨rfl, -⟩ := Prod.mk.inj hquoted
    exact .inr fun c hc => Text.mem_trim (mem_of_quotedPart (hhits ▸ List.mem_cons_self ..) hc)
  · exact .inl (Prod.mk.inj hquoted).1.symm

end Directive

namespace Document

section

variable {σ : Type} {l : Linker σ} {input : Text} {s : σ}

/-- A span does not go over the end of its line. -/
theorem feed_not_mem_span {p : PlannedSpan} (hp : p ∈ (Run.planned l input).1) :
    '\n' ∉ p.span.text := by
  obtain ⟨line, hline, hspan, -⟩ := exists_line_of_mem l.resolver.registry l.config hp
  intro hfeed
  exact Text.not_mem_of_mem_lines (List.mem_of_getElem? hline)
    ((Span.text_infix_of_mem hspan).subset hfeed)

/-- A footnote is one line. -/
theorem feed_not_mem_note {p : PlannedSpan} (hp : p ∈ (Run.planned l input).1)
    {linkText note : Text} (ha : p.action = .footnote linkText note) : '\n' ∉ note := by
  intro hfeed
  have hspan := feed_not_mem_span hp
  obtain ⟨line, span, scope, -, -, heq⟩ :=
    exists_planSpan_of_mem l.resolver.registry l.config hp
  have hread := read_of_footnote l.resolver.registry (heq ▸ ha)
  have hinfo : '\n' ∈ span.info := Text.mem_remove (Directive.mem_of_note hread hfeed)
  rw [heq, span_planSpan] at hspan
  exact hspan (by simp [Span.text, hinfo])

theorem feed_not_mem_fourDigits (n : Nat) : '\n' ∉ Reference.fourDigits n := by
  intro h
  exact absurd (Reference.isDigit_of_mem_fourDigits h) (by decide)

theorem feed_not_mem_randomPrefix {t : Step} (ht : t ∈ Run.steps l input s) :
    '\n' ∉ t.before.markers.randomPrefix := by
  rw [randomPrefix_eq ht]
  intro hfeed
  exact absurd (Reference.Markers.mem_randomPrefix hfeed) (by decide)

/-- The id of a footnote is one line. -/
theorem feed_not_mem_footnoteId {t : Step} (ht : t ∈ Run.steps l input s) (linkText : Text) :
    '\n' ∉ (t.before.footnoteId t.planned linkText).1 := by
  unfold Draft.footnoteId
  dsimp only
  split
  · next hname =>
    intro hfeed
    rw [Bool.and_eq_true, Bool.not_eq_true', Bool.not_eq_true', List.any_eq_false] at hname
    exact hname.2 _ hfeed (by decide)
  · have hstart : '\n' ∉ t.before.markers.start t.planned.config.prefixRandom := by
      unfold Reference.Markers.start
      split
      · exact feed_not_mem_randomPrefix ht
      · simp
    simp [Reference.Markers.freshFootnote, hstart, feed_not_mem_fourDigits]

/-- The footnotes that a run adds, in document order. -/
theorem draft_footnotes :
    (Run.draft l input s).footer.footnotes = (Run.steps l input s).filterMap Step.note? := by
  exact addAll_accumulates (·.footer.footnotes) _ Step.footnotes_after ..

/-- A footnote is written on one line, with its id in brackets. -/
theorem footnote_line {line : Text} (h : line ∈ (Run.draft l input s).footer.footnotes) :
    '\n' ∉ line ∧ ∃ rest, line = '[' :: '^' :: rest := by
  rw [draft_footnotes] at h
  obtain ⟨t, ht, hnote⟩ := List.mem_filterMap.1 h
  unfold Step.note? at hnote
  split at hnote
  · next linkText note ha =>
    have hid := feed_not_mem_footnoteId ht linkText
    have hbody := feed_not_mem_note (planned_of_mem ht) ha
    rw [← Option.some.inj hnote]
    refine ⟨by simp [hid, hbody], _, rfl⟩
  · simp at hnote

/-- The report of a run says what it says about the steps, in their order. -/
theorem draft_report : (Run.draft l input s).report = (Run.steps l input s).filterMap fun t =>
    t.report?.map fun message => ⟨some t.planned.position, message⟩ := by
  exact addAll_accumulates Draft.report _ Step.report_after ..

/-- A report on a span is one line, if the URL that was found is. -/
theorem feed_not_mem_report
    (hurls : ∀ t ∈ Run.steps l input s, ∀ found, t.found? = some found → '\n' ∉ found.2.url)
    {entry : LogEntry} (h : entry ∈ (Run.draft l input s).report) : '\n' ∉ entry.message := by
  rw [draft_report] at h
  obtain ⟨t, ht, hentry⟩ := List.mem_filterMap.1 h
  obtain ⟨message, hmessage, rfl⟩ := Option.map_eq_some_iff.1 hentry
  have hspan := feed_not_mem_span (planned_of_mem ht)
  unfold Step.report? at hmessage
  split at hmessage
  · split at hmessage
    · rw [← Option.some.inj hmessage]
      simp [hspan]
    · next linkText _ _ =>
      rw [← Option.some.inj hmessage]
      simp [hspan, feed_not_mem_footnoteId ht linkText]
    · next job modifiers f ha ho =>
      have hurl := hurls t ht _ (by simp only [Step.found?, ha, ho]; rfl)
      rw [← Option.some.inj hmessage]
      simp [hspan, hurl]
    · simp at hmessage
  · simp at hmessage

end

end Document

end InlineSearch
