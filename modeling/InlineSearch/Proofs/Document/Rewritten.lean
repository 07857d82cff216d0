/-
InlineSearch.Proofs.Document.Rewritten — the lines that a run writes, as
the next run finds them.

A run without errors leaves a span in its place only where it has nothing to
do with it (`action_of_kept`). So the lines that it writes keep their kinds
(`zip_classifyLines_rewritten`), and they are at rest (`atRest_of_mem_rewritten`),
under three conditions:

* what is put in is an `Inset`;
* from the first replaced span of a line on, the new line is read as
  ordinary links and inline code (`Run.StaysBehind`);
* no line that is written switches the report.

The second is a condition on lines that only the next run reads.
`Run.staysBehind_of_clear` derives it from one on the lines of the document.
-/
import InlineSearch.Proofs.Document.AtRest
import InlineSearch.Proofs.Document.Fences

namespace InlineSearch.Document

open CodeBlock (Inset classifyFrom classifyLines)

/-! ## Lines with their kinds -/

theorem classify_of_text {fence? : Option Fence} {line : Text}
    (h : (CodeBlock.classify fence? line).1 = .text) :
    fence? = none ∧ CodeBlock.classify none line = (.text, none) := by
  cases fence? with
  | some fence =>
    unfold CodeBlock.classify at h
    dsimp only at h
    split at h
    · simp at h
    · simp at h
  | none =>
    refine ⟨rfl, Prod.ext h ?_⟩
    exact CodeBlock.fence_of_not_fenced (by rw [h]; rfl)

/-- The kind of a line is what the fences before it make of it. -/
theorem exists_classify {fence? : Option Fence} {lines : List Text} {i : Nat} {kind : LineKind}
    {line : Text} (h : ((classifyFrom fence? lines).zip lines)[i]? = some (kind, line)) :
    ∃ before, kind = (CodeBlock.classify before line).1 := by
  obtain ⟨hkind, hline⟩ := List.getElem?_zip_eq_some.1 h
  rw [CodeBlock.getElem?_classifyFrom, hline, Option.map_some, Option.some.injEq] at hkind
  exact ⟨_, hkind.symm⟩

namespace Draft

/-- A line as a draft writes it. -/
def newLine (d : Draft) (n : Nat) (line : Text) : Text :=
  Edit.apply ((d.edits.filter (·.1 == n)).map Prod.snd) line

/-- A line that is written was a line of the document. -/
theorem mem_rewrittenFrom {d : Draft} {n : Nat} {lines : List (LineKind × Text)}
    {kind : LineKind} {new : Text} (h : (kind, new) ∈ d.rewrittenFrom n lines) :
    ∃ i line, lines[i]? = some (kind, line) ∧ d.deleted.contains (n + i) = false
      ∧ new = d.newLine (n + i) line := by
  induction lines generalizing n with
  | nil => simp [rewrittenFrom] at h
  | cons first rest ih =>
    obtain ⟨firstKind, firstLine⟩ := first
    have hlater : (kind, new) ∈ d.rewrittenFrom (n + 1) rest →
        ∃ i line, ((firstKind, firstLine) :: rest)[i]? = some (kind, line)
          ∧ d.deleted.contains (n + i) = false ∧ new = d.newLine (n + i) line := by
      intro hmem
      obtain ⟨i, line, hline, hdeleted, hnew⟩ := ih hmem
      rw [Nat.add_assoc, Nat.add_comm 1 i] at hdeleted hnew
      exact ⟨i + 1, line, hline, hdeleted, hnew⟩
    rw [rewrittenFrom] at h
    split at h
    · exact hlater h
    · next hkept =>
      rcases List.mem_cons.1 h with hfirst | h
      · obtain ⟨rfl, rfl⟩ := Prod.mk.inj hfirst
        exact ⟨0, firstLine, rfl, by simpa using hkept, rfl⟩
      · exact hlater h

/-- A line that stays is written. -/
theorem mem_rewrittenFrom_of_kept {d : Draft} {n i : Nat} {lines : List (LineKind × Text)}
    {kind : LineKind} {line : Text} (h : lines[i]? = some (kind, line))
    (hdeleted : d.deleted.contains (n + i) = false) :
    (kind, d.newLine (n + i) line) ∈ d.rewrittenFrom n lines := by
  induction lines generalizing n i with
  | nil => simp at h
  | cons first rest ih =>
    obtain ⟨firstKind, firstLine⟩ := first
    rw [rewrittenFrom]
    cases i with
    | zero =>
      obtain ⟨rfl, rfl⟩ : firstKind = kind ∧ firstLine = line := by simpa using h
      rw [Nat.add_zero] at hdeleted
      rw [hdeleted, if_neg (by decide)]
      exact List.mem_cons_self ..
    | succ i =>
      rw [List.getElem?_cons_succ] at h
      have harrange : n + (i + 1) = n + 1 + i := by omega
      rw [harrange] at hdeleted ⊢
      split
      · exact ih h hdeleted
      · exact List.mem_cons_of_mem _ (ih h hdeleted)

/-- Rewriting keeps the kinds of lines, if only lines of text are dropped, and
if a line that changes is text before and after. -/
theorem zip_classifyFrom_editedFrom {d : Draft} {n : Nat} {fence? : Option Fence}
    {lines : List Text}
    (h : ∀ i kind line, ((classifyFrom fence? lines).zip lines)[i]? = some (kind, line) →
      if d.deleted.contains (n + i) then kind = .text
      else d.newLine (n + i) line = line
        ∨ kind = .text ∧ CodeBlock.classify none (d.newLine (n + i) line) = (.text, none)) :
    (classifyFrom fence? (d.editedFrom n lines)).zip (d.editedFrom n lines)
      = d.rewrittenFrom n ((classifyFrom fence? lines).zip lines) := by
  induction lines generalizing n fence? with
  | nil => rfl
  | cons line rest ih =>
    have hfirst := h 0 _ line rfl
    have hlater := @ih (n + 1) (CodeBlock.classify fence? line).2 fun i kind later hi => by
      rw [Nat.add_assoc, Nat.add_comm 1 i]
      exact h (i + 1) kind later hi
    rw [Nat.add_zero] at hfirst
    rw [CodeBlock.classifyFrom_cons, List.zip_cons_cons, editedFrom, rewrittenFrom]
    split at hfirst
    · next hdeleted =>
      obtain ⟨rfl, hclass⟩ := classify_of_text hfirst
      rw [if_pos hdeleted, if_pos hdeleted, ← hlater, hclass]
    · next hkept =>
      have hsame : CodeBlock.classify fence? (d.newLine n line)
          = CodeBlock.classify fence? line := by
        rcases hfirst with hnew | ⟨htext, hnew⟩
        · rw [hnew]
        · obtain ⟨rfl, hclass⟩ := classify_of_text htext
          rw [hnew, hclass]
      change (classifyFrom fence? (if _ then _ else d.newLine n line :: _)).zip
        (if _ then _ else d.newLine n line :: _) = _
      rw [if_neg hkept, if_neg hkept, CodeBlock.classifyFrom_cons, hsame, List.zip_cons_cons,
        hlater]
      rfl

end Draft

/-! ## Spans that a run keeps -/

/-- Of a span that is neither replaced, dropped with its line nor an error, there
is nothing to be done. -/
theorem Step.action_of_kept {t : Step} (hentries : t.entries = []) (hr : t.replacement? = none)
    (hd : t.dropsLine = false) :
    t.planned.action = .inlineCode ∨ t.planned.action = .link := by
  have hnone := t.isSome_replacement?_iff
  rw [hr, Option.isSome_none, Bool.false_eq_true, false_iff, not_or] at hnone
  cases ha : t.planned.action with
  | inlineCode => exact .inl rfl
  | link => exact .inr rfl
  | fail problem => simp [entries, ha] at hentries
  | footnote linkText note => exact absurd ⟨linkText, note, ha⟩ hnone.1
  | search job modifiers =>
    cases ho : t.outcome with
    | none => simp [entries, ha, ho] at hentries
    | some outcome =>
      cases outcome with
      | failed f => simp [entries, ha, ho] at hentries
      | found f => exact absurd ⟨⟨job, modifiers, f, ha, ho⟩, hd⟩ hnone.2

section

variable {σ : Type} (l : Linker σ) (input : Text) (s : σ)

/-- A line as the run writes it. -/
def Run.newLine (n : Nat) (line : Text) : Text := (Run.draft l input s).newLine n line

/-- From its first replaced span on, each line that is written is read as
ordinary links and spans in inline code. -/
def Run.StaysBehind : Prop :=
  ∀ line ∈ Run.kept l input s,
    ∀ first ∈ firstReplaced? (Run.replacements l input s line.2),
      ∀ span ∈ Span.inLine first.before
        ((Run.newLine l input s line.2 line.1).drop first.before.length),
        span.Stays (Run.newLine l input s line.2 line.1)

instance : Decidable (Run.StaysBehind l input s) :=
  inferInstanceAs (Decidable (∀ line ∈ Run.kept l input s, ∀ first ∈ _, _))

/-- Each line that stays is clear from its first replaced span on. -/
def Run.Clear : Prop :=
  ∀ line ∈ Run.kept l input s, Span.ClearBehind line.1 (Run.replacements l input s line.2)

instance : Decidable (Run.Clear l input s) :=
  inferInstanceAs (Decidable (∀ line ∈ Run.kept l input s, _))

end

section

variable {σ : Type} {l : Linker σ} {input : Text} {s : σ}

/-- A run without errors has none at any step. -/
theorem entries_of_errors (hspan : Span.occursIn input = true)
    (herrors : (link l input s).1.errors = []) {t : Step} (ht : t ∈ Run.steps l input s) :
    t.entries = [] := by
  rw [link_eq l input s hspan] at herrors
  have hlog : (Run.draft l input s).errors
      = (Run.start l input).errors.pushAll (logged (Run.steps l input s)) := errors_addAll ..
  have hperm := (Run.start l input).errors.lines_pushAll (logged (Run.steps l input s))
  have hlines : (Run.draft l input s).errors.lines = [] := herrors
  rw [← hlog, hlines] at hperm
  have hnone := List.map_eq_nil_iff.1 (List.append_eq_nil_iff.1 hperm.nil_eq.symm).1
  exact List.flatMap_eq_nil_iff.1 hnone t ht

/-- The replacements of a line are those of steps. -/
theorem exists_step_of_mem_replacements {n : Nat} {span : Span} {r : Option Text}
    (h : (span, r) ∈ Run.replacements l input s n) : ∃ t ∈ Run.steps l input s,
      t.planned.line = n ∧ t.planned.span = span ∧ t.replacement? = r := by
  obtain ⟨t, ht, hpair⟩ := List.mem_map.1 h
  obtain ⟨hmem, hline⟩ := List.mem_filter.1 ht
  obtain ⟨hspan, hr⟩ := Prod.mk.inj hpair
  exact ⟨t, hmem, by simpa using hline, hspan, hr⟩

variable (hinset : ∀ t ∈ Run.steps l input s, ∀ text, t.replacement? = some text → Inset text)

include hinset in
theorem inset_of_mem_replacements {n : Nat} {span : Span} {text : Text}
    (h : (span, some text) ∈ Run.replacements l input s n) : Inset text := by
  obtain ⟨t, ht, -, -, hr⟩ := exists_step_of_mem_replacements h
  exact hinset t ht text hr

/-- On a line that is code or sets an option nothing is replaced. -/
theorem newLine_of_not_planned {n : Nat} {kind : LineKind} {line : Text}
    (h : ((classifyLines (Run.lines input)).zip (Run.lines input))[n]? = some (kind, line))
    (hnone : (kind.isCode || (Directive.assignment? line).isSome) = true) :
    Run.newLine l input s n line = line := by
  have hspans := Run.spans_of_replacements l input s h
  rw [if_pos hnone, List.map_eq_nil_iff] at hspans
  unfold Run.newLine Draft.newLine
  rw [Run.edits_line, hspans]
  exact (Spliced.rest [] line).apply_eq

/-- A line of text, as it is read again. -/
theorem reread_newLine {n : Nat} {line : Text}
    (h : ((classifyLines (Run.lines input)).zip (Run.lines input))[n]? = some (.text, line))
    (hoption : Directive.assignment? line = none) :
    (Run.replacements l input s n).map Prod.fst = Span.inLine [] line
      ∧ Reread [] line (Run.replacements l input s n) (Run.newLine l input s n line) := by
  have hspans := Run.spans_of_replacements l input s h
  rw [hoption, if_neg (by decide)] at hspans
  exact ⟨hspans, (Run.spliced_line l input s (List.getElem?_zip_eq_some.1 h).2).reread hspans⟩

/-- **On clear lines only links are read** from the first replaced span on. -/
theorem Run.staysBehind_of_clear (h : Run.Clear l input s) : Run.StaysBehind l input s := by
  rintro ⟨line, n⟩ hkept first hfirst
  have hold : (Run.lines input)[n]? = some line :=
    List.mem_zipIdx_iff_getElem?.1 (List.mem_of_mem_filter hkept)
  obtain ⟨kind, hline⟩ : ∃ kind,
      ((classifyLines (Run.lines input)).zip (Run.lines input))[n]? = some (kind, line) :=
    CodeBlock.getElem?_zip_classifyLines hold
  cases hnone : kind.isCode || (Directive.assignment? line).isSome with
  | true =>
    -- Nothing is planned on such a line.
    have hspans := Run.spans_of_replacements l input s hline
    rw [if_pos hnone, List.map_eq_nil_iff] at hspans
    simp [hspans, firstReplaced?] at hfirst
  | false =>
    rw [Bool.or_eq_false_iff, Option.isSome_eq_false_iff, Option.isNone_iff_eq_none] at hnone
    obtain rfl : kind = .text := by simpa [LineKind.isCode] using hnone.1
    obtain ⟨hspans, hreread⟩ := reread_newLine (l := l) (s := s) hline hnone.2
    exact hreread.staysBehind hspans (h _ hkept) first hfirst

include hinset in
/-- **The lines that a run writes keep their kinds.** -/
theorem zip_classifyLines_rewritten :
    (classifyLines ((Run.rewritten l input s).map Prod.snd)).zip
      ((Run.rewritten l input s).map Prod.snd) = Run.rewritten l input s := by
  rw [Run.rewritten_map_snd]
  refine Draft.zip_classifyFrom_editedFrom fun n kind line hline => ?_
  rw [Nat.zero_add]
  change ((classifyLines (Run.lines input)).zip (Run.lines input))[n]? = some (kind, line)
    at hline
  split
  · next hdeleted =>
    rw [Run.contains_deleted, Run.drops, List.any_eq_true] at hdeleted
    obtain ⟨t, ht, hdrops⟩ := hdeleted
    rw [Bool.and_eq_true, beq_iff_eq] at hdrops
    by_contra hkind
    have hcode : kind.isCode = true := bne_iff_ne.2 hkind
    exact line_ne_of_isCode l input hline hcode t.planned (planned_of_mem ht) hdrops.2
  · cases hnone : kind.isCode || (Directive.assignment? line).isSome with
    | true => exact .inl (newLine_of_not_planned hline hnone)
    | false =>
      rw [Bool.or_eq_false_iff, Option.isSome_eq_false_iff, Option.isNone_iff_eq_none] at hnone
      obtain rfl : kind = .text := by simpa [LineKind.isCode] using hnone.1
      obtain ⟨before, hbefore⟩ := exists_classify hline
      obtain ⟨-, hclass⟩ := classify_of_text hbefore.symm
      exact .inr ⟨rfl, (reread_newLine hline hnone.2).2.classify
        (fun _ _ => inset_of_mem_replacements hinset) hclass⟩

/-- A line that sets an option is written as it is. -/
theorem mem_rewritten_of_setting {line : LineKind × Text}
    (h : line ∈ (classifyLines (Run.lines input)).zip (Run.lines input))
    (hsetting : setting? line ≠ none) : line ∈ Run.rewritten l input s := by
  obtain ⟨kind, text⟩ := line
  obtain ⟨n, hn⟩ := List.mem_iff_getElem?.1 h
  have hoption : kind.isCode = false ∧ (Directive.assignment? text).isSome = true := by
    unfold setting? at hsetting
    cases hcode : kind.isCode with
    | true => simp [hcode] at hsetting
    | false => simpa [hcode, Option.isSome_iff_ne_none] using hsetting
  have hdeleted : (Run.draft l input s).deleted.contains n = false := by
    rw [Run.contains_deleted, Run.drops, List.any_eq_false]
    intro t ht hdrops
    rw [Bool.and_eq_true, beq_iff_eq] at hdrops
    have hplanned := spans_onLine l.resolver.registry l.config hn
    rw [hoption.2, Bool.or_true, if_pos rfl, List.map_eq_nil_iff] at hplanned
    exact List.filter_eq_nil_iff.1 hplanned t.planned (planned_of_mem ht) (by simpa using hdrops.2)
  have hmem := Draft.mem_rewrittenFrom_of_kept (n := 0) hn (by rwa [Nat.zero_add])
  have hsame : Run.newLine l input s n text = text :=
    newLine_of_not_planned hn (by rw [hoption.2, Bool.or_true])
  rw [Nat.zero_add] at hmem
  change (kind, Run.newLine l input s n text) ∈ Run.rewritten l input s at hmem
  rwa [hsame] at hmem

include hinset in
/-- **The lines that a run writes are at rest**, if it has no errors. -/
theorem atRest_of_mem_rewritten (hspan : Span.occursIn input = true)
    (herrors : (link l input s).1.errors = []) (hbehind : Run.StaysBehind l input s)
    (hreport : ∀ line ∈ Run.rewritten l input s, ∀ value, setting? line ≠ some (.report, value))
    {line : LineKind × Text} (h : line ∈ Run.rewritten l input s) : AtRest line := by
  refine ⟨hreport line h, fun hcode hoption => ?_⟩
  obtain ⟨kind, new⟩ := line
  obtain ⟨n, old, hline, hkept, rfl⟩ := Draft.mem_rewrittenFrom h
  rw [Nat.zero_add] at hkept hoption ⊢
  obtain rfl : kind = .text := by simpa [LineKind.isCode] using hcode
  rw [Run.contains_deleted] at hkept
  change Directive.assignment? (Run.newLine l input s n old) = none at hoption
  have hold : Directive.assignment? old = none := by
    by_contra hsome
    rw [← Ne, ← Option.isSome_iff_ne_none] at hsome
    rw [newLine_of_not_planned hline (by rw [hsome, Bool.or_true])] at hoption
    rw [hoption] at hsome
    simp at hsome
  obtain ⟨hspans, hreread⟩ := reread_newLine (l := l) (s := s) hline hold
  refine hreread.stays (fun _ _ => inset_of_mem_replacements hinset) hspans ?_ ?_
  · -- A span that is not replaced was planned to stay.
    intro span hmem
    obtain ⟨t, ht, hnumber, rfl, hr⟩ := exists_step_of_mem_replacements hmem
    have hdrops : t.dropsLine = false := by
      rw [Run.drops, List.any_eq_false] at hkept
      simpa [hnumber] using hkept t ht
    have haction := t.action_of_kept (entries_of_errors hspan herrors ht) hr hdrops
    obtain ⟨line, span, scope, hat, -, hplan⟩ :=
      exists_planSpan_of_mem l.resolver.registry l.config (planned_of_mem ht)
    have hsame : line = old := by
      rw [hnumber] at hat
      exact Option.some.inj (hat.symm.trans (List.getElem?_zip_eq_some.1 hline).2)
    rw [hplan, planSpan_stays_iff] at haction
    rw [hplan, span_planSpan, ← hsame]
    exact haction
  · refine hbehind (old, n) (List.mem_filter.2 ⟨?_, by simpa using hkept⟩)
    exact List.mem_zipIdx_iff_getElem?.2 (List.getElem?_zip_eq_some.1 hline).2

end

end InlineSearch.Document
