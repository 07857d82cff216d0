/-
InlineSearch.Proofs.Document.Place — which line a planned span stands on.

Planning goes through the lines once, so what is planned for a line can be
read off that line alone, up to the configuration in effect there:

* `onLine_plan` — the planned spans of a line are none if the line is code,
  and else what planning that line gives.
* `spans_onLine` — on a line that is planned they are all spans of the line,
  in order; a line that is code or sets an option has none.
* `exists_line_of_mem` — every planned span stands on a line of the
  document, and a reference title fills its line.

`exists_directive_of_search` says all that is known of a search that is
planned for a span.
-/
import InlineSearch.Document.Plan
import InlineSearch.Proofs.CodeBlock

namespace InlineSearch

/-! ## Reference titles -/

/-- Only a span that fills its line asks for a reference definition. -/
theorem Directive.wholeLine_of_refTitle {linkText info : Text} {wholeLine : Bool} {d : Directive}
    (h : Directive.read linkText info wholeLine = .search d) (ht : d.modifiers.refTitle = true) :
    wholeLine = true := by
  cases wholeLine with
  | true => rfl
  | false =>
    unfold Directive.read at h
    simp only [Bool.false_and, Bool.false_eq_true, ↓reduceIte] at h
    split at h
    · simp at h
    split at h
    · simp at h
    split at h
    · simp at h
    split at h
    · simp at h
    · rw [← Directive.Meaning.search.inj h] at ht
      exact ht

namespace Document

variable {σ : Type} (r : Search.Registry σ)

/-! ## Planned actions -/

theorem PlannedSpan.job?_eq_some_iff {p : PlannedSpan} {job : Search.Job} :
    p.job? = some job ↔ ∃ modifiers, p.action = .search job modifiers := by
  unfold PlannedSpan.job?
  cases p.action <;> simp

/-- A planned search is what the span means, its flags apart. Its trigger is not
unknown, and it has the configuration of the span. -/
theorem exists_directive_of_search {line : Nat} {lineText : Text} {scope : Scope} {span : Span}
    {job : Search.Job} {modifiers : Modifiers}
    (h : (planSpan r line lineText scope span).1.action = .search job modifiers) :
    ∃ d, Directive.read span.linkText (Directive.Flag.strip span.info)
          (Text.trim lineText == span.text) = .search d
      ∧ d.trigger.filter (isUnknown r) = none ∧ job.trigger = d.trigger
      ∧ job.config = (planSpan r line lineText scope span).1.config
      ∧ modifiers = d.modifiers := by
  unfold planSpan at h ⊢
  split at h
  · simp at h
  · next hcode =>
    rw [if_neg hcode]
    dsimp only at h ⊢
    generalize Directive.read span.linkText (Directive.Flag.strip span.info)
      (Text.trim lineText == span.text) = meaning at h ⊢
    cases meaning with
    | search d =>
      refine ⟨d, rfl, ?_⟩
      change searchAction r _ d = _ at h
      unfold searchAction at h
      split at h
      · simp at h
      · next hknown =>
        obtain ⟨rfl, rfl⟩ := Action.search.inj h
        exact ⟨hknown, rfl, rfl, rfl⟩
    | _ => simp [action] at h

/-- A planned reference title fills its line. -/
theorem trim_eq_of_refTitle {line : Nat} {lineText : Text} {scope : Scope} {span : Span}
    {job : Search.Job} {modifiers : Modifiers}
    (h : (planSpan r line lineText scope span).1.action = .search job modifiers)
    (ht : modifiers.refTitle = true) : Text.trim lineText = span.text := by
  obtain ⟨d, hd, -, -, -, rfl⟩ := exists_directive_of_search r h
  simpa using Directive.wholeLine_of_refTitle hd ht

/-- A planned footnote is what the span means, its flags apart. -/
theorem read_of_footnote {line : Nat} {lineText : Text} {scope : Scope} {span : Span}
    {linkText note : Text}
    (h : (planSpan r line lineText scope span).1.action = .footnote linkText note) :
    Directive.read span.linkText (Directive.Flag.strip span.info)
      (Text.trim lineText == span.text) = .footnote linkText note := by
  unfold planSpan at h
  split at h
  · simp at h
  · dsimp only at h
    unfold action at h
    split at h
    · simp at h
    · simp at h
    · simp at h
    · next heq =>
      rw [heq, (Action.footnote.inj h).1, (Action.footnote.inj h).2]
    · unfold searchAction at h
      split at h
      · simp at h
      · simp at h

/-! ## Planned spans of a line -/

theorem line_planSpan (line : Nat) (lineText : Text) (scope : Scope) (span : Span) :
    (planSpan r line lineText scope span).1.line = line := by
  unfold planSpan
  split <;> rfl

theorem span_planSpan (line : Nat) (lineText : Text) (scope : Scope) (span : Span) :
    (planSpan r line lineText scope span).1.span = span := by
  unfold planSpan
  split <;> rfl

/-- The spans of a line are planned one by one, each in some scope. -/
theorem mem_planSpans {line : Nat} {lineText : Text} {scope : Scope} {spans : List Span}
    {p : PlannedSpan} (h : p ∈ (planSpans r line lineText scope spans).1) :
    ∃ span ∈ spans, ∃ scope', p = (planSpan r line lineText scope' span).1 := by
  induction spans generalizing scope with
  | nil => simp [planSpans] at h
  | cons span spans ih =>
    rw [planSpans] at h
    rcases List.mem_cons.1 h with rfl | h
    · exact ⟨span, List.mem_cons_self .., scope, rfl⟩
    · obtain ⟨span', hmem, scope', hp⟩ := ih h
      exact ⟨span', List.mem_cons_of_mem _ hmem, scope', hp⟩

theorem spans_planSpans (line : Nat) (lineText : Text) (scope : Scope) (spans : List Span) :
    (planSpans r line lineText scope spans).1.map PlannedSpan.span = spans := by
  induction spans generalizing scope with
  | nil => rfl
  | cons span spans ih =>
    rw [planSpans, List.map_cons, ih]
    exact congrArg (· :: spans) (span_planSpan ..)

theorem line_of_mem_planLine {line : Nat} {lineText : Text} {scope : Scope} {p : PlannedSpan}
    (h : p ∈ (planLine r line lineText scope).1) : p.line = line := by
  unfold planLine at h
  split at h
  · simp at h
  · obtain ⟨span, _, scope', rfl⟩ := mem_planSpans r h
    exact line_planSpan ..

/-! ## Planned spans of a document -/

/-- What is planned for the lines that remain has their numbers. -/
theorem le_line_of_mem_planFrom {line : Nat} {scope : Scope} {lines : List (LineKind × Text)}
    {p : PlannedSpan} (h : p ∈ (planFrom r line scope lines).1) :
    line ≤ p.line ∧ p.line < line + lines.length := by
  induction lines generalizing line scope with
  | nil => simp [planFrom] at h
  | cons head rest ih =>
    obtain ⟨kind, lineText⟩ := head
    rw [planFrom] at h
    rcases List.mem_append.1 h with h | h
    · split at h
      · simp at h
      · have := line_of_mem_planLine r h
        rw [List.length_cons]
        omega
    · have := ih h
      rw [List.length_cons]
      omega

/-- What is planned for a line, in the scope that the lines before it lead
to: nothing if the line is code. -/
theorem onLine_planFrom (line : Nat) (scope : Scope) {lines : List (LineKind × Text)} {i : Nat}
    {kind : LineKind} {lineText : Text} (h : lines[i]? = some (kind, lineText)) :
    (planFrom r line scope lines).1.filter (·.line == line + i)
      = if kind.isCode then []
        else (planLine r (line + i) lineText (planFrom r line scope (lines.take i)).2).1 := by
  induction lines generalizing line scope i with
  | nil => simp at h
  | cons head rest ih =>
    obtain ⟨headKind, headText⟩ := head
    rw [planFrom]
    dsimp only
    cases i with
    | zero =>
      simp only [List.getElem?_cons_zero, Option.some.injEq, Prod.mk.injEq] at h
      obtain ⟨rfl, rfl⟩ := h
      have hlater : ∀ scope', (planFrom r (line + 1) scope' rest).1.filter (·.line == line + 0)
          = [] := by
        intro scope'
        refine List.filter_eq_nil_iff.2 fun p hp => ?_
        have := le_line_of_mem_planFrom r hp
        simp only [beq_iff_eq]
        omega
      rw [List.filter_append, hlater, List.append_nil, List.take_zero, planFrom]
      split
      · rfl
      · refine List.filter_eq_self.2 fun p hp => ?_
        simpa using line_of_mem_planLine r hp
    | succ i =>
      rw [List.getElem?_cons_succ] at h
      have hhead : ∀ p ∈ (if headKind.isCode then ([], scope)
          else planLine r line headText scope).1, ¬ (p.line == line + (i + 1)) = true := by
        intro p hp
        split at hp
        · simp at hp
        · have := line_of_mem_planLine r hp
          simp only [beq_iff_eq]
          omega
      rw [List.filter_append, List.filter_eq_nil_iff.2 hhead, List.nil_append,
        Nat.add_comm i 1, ← Nat.add_assoc, Nat.add_comm 1 i, List.take_succ_cons, planFrom]
      exact ih _ _ h

section

variable (config : Config) {lines : List Text}

/-- What is planned for a line of a document: nothing if the line is code. -/
theorem onLine_plan {n : Nat} {line : Text} (h : lines[n]? = some line) :
    ∃ kind, ((CodeBlock.classifyLines lines).zip lines)[n]? = some (kind, line)
      ∧ ∃ scope, (plan r config lines).1.filter (·.line == n)
        = if kind.isCode then [] else (planLine r n line scope).1 := by
  obtain ⟨kind, hkind⟩ := CodeBlock.getElem?_zip_classifyLines h
  have hplan := onLine_planFrom r 0 { config } hkind
  rw [Nat.zero_add] at hplan
  exact ⟨kind, hkind, _, hplan⟩

/-- The planned spans of a line: all spans of it, or none where the line is
code or sets an option. -/
theorem spans_onLine {n : Nat} {kind : LineKind} {line : Text}
    (h : ((CodeBlock.classifyLines lines).zip lines)[n]? = some (kind, line)) :
    ((plan r config lines).1.filter (·.line == n)).map PlannedSpan.span
      = if kind.isCode || (Directive.assignment? line).isSome then [] else Span.inLine [] line := by
  have hline : lines[n]? = some line := (List.getElem?_zip_eq_some.1 h).2
  obtain ⟨kind', hkind, scope, hplan⟩ := onLine_plan r config hline
  obtain ⟨rfl, -⟩ := Prod.mk.inj (Option.some.inj (hkind.symm.trans h))
  rw [hplan]
  cases kind'.isCode with
  | true => rfl
  | false =>
    rw [if_neg (by decide), Bool.false_or]
    unfold planLine
    cases Directive.assignment? line with
    | some setting => rfl
    | none => exact spans_planSpans ..

/-- What is planned is planned for a span of a line, in some scope. -/
theorem exists_planSpan_of_mem {p : PlannedSpan} (h : p ∈ (plan r config lines).1) :
    ∃ line span scope, lines[p.line]? = some line ∧ span ∈ Span.inLine [] line
      ∧ p = (planSpan r p.line line scope span).1 := by
  have hlt : p.line < lines.length := by
    have := (le_line_of_mem_planFrom r h).2
    rw [List.length_zip, CodeBlock.length_classifyLines] at this
    omega
  obtain ⟨line, hline⟩ : ∃ line, lines[p.line]? = some line :=
    ⟨_, List.getElem?_eq_getElem hlt⟩
  obtain ⟨kind, -, scope, hplan⟩ := onLine_plan r config hline
  have hp : p ∈ (plan r config lines).1.filter (·.line == p.line) :=
    List.mem_filter.2 ⟨h, by simp⟩
  rw [hplan] at hp
  split at hp
  · simp at hp
  · unfold planLine at hp
    split at hp
    · simp at hp
    · obtain ⟨span, hmem, scope', hspan⟩ := mem_planSpans r hp
      exact ⟨line, span, scope', hline, hmem, hspan⟩

/-- Spans in inline code are planned to stay. -/
theorem action_of_inCode {p : PlannedSpan} (h : p ∈ (plan r config lines).1)
    (hcode : p.span.inCode = true) : p.action = .inlineCode := by
  obtain ⟨line, span, scope, -, -, hp⟩ := exists_planSpan_of_mem r config h
  rw [hp, span_planSpan] at hcode
  rw [hp, planSpan, if_pos hcode]

/-- A planned span stands on a line of the document, and a reference title
fills its line. -/
theorem exists_line_of_mem {p : PlannedSpan} (h : p ∈ (plan r config lines).1) :
    ∃ line, lines[p.line]? = some line ∧ p.span ∈ Span.inLine [] line
      ∧ ∀ job modifiers, p.action = .search job modifiers → modifiers.refTitle = true →
        Text.trim line = p.span.text := by
  obtain ⟨line, span, scope, hline, hmem, hp⟩ := exists_planSpan_of_mem r config h
  have hs : p.span = span := by rw [hp, span_planSpan]
  refine ⟨line, hline, hs ▸ hmem, ?_⟩
  intro job modifiers ha ht
  rw [hp] at ha
  rw [hs]
  exact trim_eq_of_refTitle r ha ht

end

end Document

end InlineSearch
