/-
InlineSearch.Proofs.Document.InertLinks — what an ordinary link does to the
other spans of its line.

A link is planned like any span: the flags in its info go to the line before
it is known to be a link. So a link behind the last span changes nothing for the
others, and a link before the first one changes nothing if its flags make no
difference to the first span (`link_inert_iff`). Besides, a word that an option
line would set its option to is no longer one word with the link, and so the
line is read as text.

The comparison is made on `purposes`: what is planned for the spans of a line,
told from the spans and the configuration that the line begins with.
-/
import InlineSearch.Proofs.Directive.Insertion
import InlineSearch.Proofs.Document.Settings
import InlineSearch.Proofs.Scope.Restore

namespace InlineSearch.Document

open Search (Registry)

/-- What is planned for a span, apart from where the span stands. -/
def PlannedSpan.purpose (p : PlannedSpan) : Text × Config × Action :=
  (p.span.text, p.config, p.action)

variable {σ : Type} (r : Registry σ)

/-- What is planned for the spans of a line that begins with `config`. -/
def purposes (lineText : Text) (config : Config) : List Span → List (Text × Config × Action)
  | [] => []
  | span :: spans =>
    let config := config.withFlags (spanFlags r lineText span)
    let planned :=
      if span.inCode then .inlineCode
      else action r config (Directive.read span.linkText (Directive.Flag.strip span.info)
        (Text.trim lineText == span.text))
    (span.text, config, planned) :: purposes lineText config spans

/-! ## One line -/

theorem action_planSpan (line : Nat) (lineText : Text) (scope : Scope) (span : Span) :
    (planSpan r line lineText scope span).1.action
      = if span.inCode then .inlineCode
        else action r (planSpan r line lineText scope span).1.config
          (Directive.read span.linkText (Directive.Flag.strip span.info)
            (Text.trim lineText == span.text)) := by
  unfold planSpan
  split <;> rfl

/-- In an open scope what is planned depends on the configuration alone. -/
theorem purposes_planSpans (line : Nat) (lineText : Text) {scope : Scope} (h : 0 < scope.depth)
    (spans : List Span) :
    (planSpans r line lineText scope spans).1.map PlannedSpan.purpose
      = purposes r lineText scope.config spans := by
  induction spans generalizing scope with
  | nil => rfl
  | cons span spans ih =>
    obtain ⟨-, hscope⟩ := scope_planSpan r line lineText scope span
    have hopen : 0 < (planSpan r line lineText scope span).2.depth := by
      rwa [hscope, Scope.depth_setFlags]
    have hconfig := (scope_planSpan r line lineText scope span).1
    rw [Scope.config_setFlags _ h] at hconfig
    rw [planSpans, List.map_cons, ih hopen, PlannedSpan.purpose, span_planSpan, action_planSpan,
      hconfig, hscope, Scope.config_setFlags _ h]
    rfl

theorem purposes_append (lineText : Text) (config : Config) (spans later : List Span) :
    purposes r lineText config (spans ++ later) = purposes r lineText config spans
      ++ purposes r lineText (config.withFlags (spans.flatMap (spanFlags r lineText))) later := by
  induction spans generalizing config with
  | nil => rfl
  | cons span spans ih =>
    rw [List.cons_append, purposes, purposes, ih, List.flatMap_cons]
    simp only [Config.withFlags, List.foldl_append, List.cons_append]

theorem length_purposes (lineText : Text) (config : Config) (spans : List Span) :
    (purposes r lineText config spans).length = spans.length := by
  induction spans generalizing config with
  | nil => rfl
  | cons span spans ih => exact congrArg (· + 1) (ih _)

/-- Where two configurations are the same for the first span of a line, they are
so for all. -/
theorem purposes_eq_iff {lineText : Text} {config config' : Config} {span : Span}
    {spans : List Span} :
    purposes r lineText config' (span :: spans) = purposes r lineText config (span :: spans)
      ↔ config'.withFlags (spanFlags r lineText span)
        = config.withFlags (spanFlags r lineText span) := by
  constructor
  · intro h
    exact (Prod.mk.inj (Prod.mk.inj (List.head_eq_of_cons_eq h)).2).1
  · intro h
    rw [purposes, purposes, h]

section

variable {lineText lineText' : Text}

/-- Spans with the same link text and info bring the same flags, and are
planned in the same way, if none of them fills its line. -/
theorem spanFlags_of_alike {s s' : Span} (h : s.Alike s') (hs : Text.trim lineText ≠ s.text)
    (hs' : Text.trim lineText' ≠ s'.text) : spanFlags r lineText' s' = spanFlags r lineText s := by
  unfold spanFlags
  rw [h.inCode, h.linkText, h.info, beq_eq_false_iff_ne.2 hs, beq_eq_false_iff_ne.2 hs']

theorem purposes_of_alike {spans spans' : List Span} (h : List.Forall₂ Span.Alike spans spans')
    (hs : ∀ s ∈ spans, Text.trim lineText ≠ s.text)
    (hs' : ∀ s ∈ spans', Text.trim lineText' ≠ s.text) (config : Config) :
    purposes r lineText' config spans' = purposes r lineText config spans := by
  induction h generalizing config with
  | nil => rfl
  | @cons s s' spans spans' halike _ ih =>
    have hfill : Text.trim lineText ≠ s.text := hs s (List.mem_cons_self ..)
    have hfill' : Text.trim lineText' ≠ s'.text := hs' s' (List.mem_cons_self ..)
    rw [purposes, purposes, spanFlags_of_alike r halike hfill hfill', halike.inCode,
      halike.linkText, halike.info, halike.text, beq_eq_false_iff_ne.2 hfill,
      beq_eq_false_iff_ne.2 (halike.text ▸ hfill'),
      ih (fun t ht => hs t (.tail _ ht)) (fun t ht => hs' t (.tail _ ht))]

end

/-! ## The document -/

/-- The configuration that the line behind `above` begins with. -/
def configBehind (config : Config) (above : List Text) : Config :=
  config.withSettings (settings ((CodeBlock.classifyLines above).zip above))

/-- The plan of a line of text behind `above`. -/
theorem purposes_onLine (config : Config) {above below : List Text} {line : Text}
    (htext : (CodeBlock.classify (CodeBlock.fenceAfter none above) line).1 = .text) :
    ((plan r config (above ++ line :: below)).1.filter (·.line == above.length)).map
        PlannedSpan.purpose
      = if (Directive.assignment? line).isSome then []
        else purposes r line (configBehind config above) (Span.inLine [] line) := by
  have hzip := CodeBlock.zip_classifyFrom_append none above (line :: below)
  have hlength : ((CodeBlock.classifyFrom none above).zip above).length = above.length := by
    rw [List.length_zip, CodeBlock.length_classifyFrom, Nat.min_self]
  have hline : ((CodeBlock.classifyLines (above ++ line :: below)).zip
      (above ++ line :: below))[above.length]? = some (.text, line) := by
    rw [CodeBlock.classifyLines, hzip, List.getElem?_append_right (Nat.le_of_eq hlength), hlength,
      Nat.sub_self, CodeBlock.classifyFrom_cons, htext]
    rfl
  have hplan := onLine_planFrom r 0 { config } hline
  rw [Nat.zero_add, scope_planFrom] at hplan
  have hbefore : ((CodeBlock.classifyLines (above ++ line :: below)).zip
      (above ++ line :: below)).take above.length = (CodeBlock.classifyLines above).zip above := by
    rw [CodeBlock.classifyLines, hzip]
    exact List.take_left' hlength
  rw [hbefore] at hplan
  show (List.filter _ (planFrom r 0 { config } _).1).map _ = _
  rw [hplan]
  unfold planLine
  cases Directive.assignment? line with
  | some setting => rfl
  | none =>
    have hopen : 0 < (Scope.openLine { config := configBehind config above }).depth :=
      Nat.zero_lt_succ 0
    exact purposes_planSpans r _ line hopen _

/-- **What an ordinary link does to the other spans of its line.** Let a line of
text have several spans, or something else beside the only one. With a link
put in, the others are planned as without it exactly when the line is an option
line with the link as without it, and a link before the first span has no flag
that makes a difference to that span. -/
theorem link_inert_iff (config : Config) (link : OrdinaryLink) (place : Place)
    {above below : List Text} {line : Text}
    (htext : (CodeBlock.classify (CodeBlock.fenceAfter none above) line).1 = .text)
    (hspans : Span.inLine [] line ≠ [])
    (hroom : ∀ s, Span.inLine [] line = [s] → Text.trim line ≠ s.text) :
    (place.others ((plan r config (above ++ place.insert link line :: below)).1.filter
          (·.line == above.length))).map PlannedSpan.purpose
        = ((plan r config (above ++ line :: below)).1.filter (·.line == above.length)).map
          PlannedSpan.purpose
      ↔ (Directive.assignment? (place.insert link line)).isSome
          = (Directive.assignment? line).isSome
        ∧ (Directive.assignment? line = none → place = .front →
          ∀ first ∈ (Span.inLine [] line).head?,
            (configBehind config above).withFlags
                (spanFlags r (place.insert link line) (link.span (place.before line))
                  ++ spanFlags r line first)
              = (configBehind config above).withFlags (spanFlags r line first)) := by
  obtain ⟨hnone, hline⟩ := CodeBlock.outside_of_text htext
  have htext' : (CodeBlock.classify (CodeBlock.fenceAfter none above) (place.insert link line)).1
      = .text := by
    rw [hnone, Place.classify_insert hspans place link hline]
  obtain ⟨others, hinsert, halike⟩ := Place.spans_insert hspans place link
  have hmore : others ≠ [] := by
    rintro rfl
    exact hspans (List.forall₂_nil_right_iff.1 halike)
  rw [Place.map_others, purposes_onLine r config htext', purposes_onLine r config htext, hinsert]
  generalize configBehind config above = base
  cases Directive.assignment? line with
  | some setting =>
    -- Without the link nothing is planned for an option line.
    cases Directive.assignment? (place.insert link line) with
    | some setting' => cases place <;> simp [Place.others]
    | none =>
      have hplanned : place.others (purposes r (place.insert link line) base
          (place.add (link.span (place.before line)) others)) ≠ [] := by
        intro h
        have hlength := congrArg List.length h
        rw [Place.length_others, length_purposes, Place.length_add] at hlength
        exact hmore (List.length_eq_zero_iff.1 hlength)
      simpa using hplanned
  | none =>
    obtain ⟨first, later, hfirst⟩ := List.exists_cons_of_ne_nil hspans
    cases Directive.assignment? (place.insert link line) with
    | some setting' => cases place <;> simp [Place.others, hfirst, purposes]
    | none =>
      have hfill : ∀ s ∈ Span.inLine [] line, Text.trim line ≠ s.text := fun s hs h =>
        hroom s (Span.inLine_of_trim_eq hs h) h
      have hothers := purposes_of_alike r halike hfill fun s hs => Place.trim_insert_ne hinsert hs
      cases place with
      | front =>
        have hlater : Place.front.others (purposes r (Place.front.insert link line) base
              (Place.front.add (link.span (Place.before line .front)) others))
            = purposes r line (base.withFlags (spanFlags r (Place.front.insert link line)
              (link.span (Place.before line .front)))) (Span.inLine [] line) := hothers _
        rw [if_neg (by simp), if_neg (by simp), hlater, hfirst, purposes_eq_iff]
        simp [Config.withFlags]
      | back =>
        simp [Place.add, Place.others, purposes_append, hothers, purposes]

/-- A link with a title that holds a flag. -/
def titledLink : OrdinaryLink where
  linkText := "x"
  info := "https://a.example \"the ++i operator\""
  named := by decide
  unbracketed := by decide
  closed := by decide
  targeted := by decide +kernel
  plain := by decide
  unbroken := by decide

/-- Before a span that brings the same flag the title makes no difference. -/
theorem link_inert_same_flag :
    let r : Registry Unit := {}
    let above : List Text := ["Tea"]
    let line : Text := "See [y](!g rust ++i) and [z](!w tea)"
    Place.front.insert titledLink line
      = "See [x](https://a.example \"the ++i operator\")[y](!g rust ++i) and [z](!w tea)".toList
    ∧ (Place.front.others ((plan r {} (above ++ Place.front.insert titledLink line :: [])).1.filter
          (·.line == above.length))).map PlannedSpan.purpose
      = ((plan r {} (above ++ line :: [])).1.filter (·.line == above.length)).map
          PlannedSpan.purpose := by
  intro r above line
  have htwo : (Span.inLine [] line).length = 2 := by decide +kernel
  refine ⟨by decide +kernel, (link_inert_iff r {} titledLink .front (by decide +kernel)
    (by decide +kernel) ?_).2 (by decide +kernel)⟩
  intro s hs
  simp [hs] at htwo

/-- Before any other span it switches the option. -/
theorem link_title_switches_option :
    let r : Registry Unit := {}
    let above : List Text := ["Tea"]
    let line : Text := "See [y](!g rust)"
    (Place.front.others ((plan r {} (above ++ Place.front.insert titledLink line :: [])).1.filter
          (·.line == above.length))).map PlannedSpan.purpose
      ≠ ((plan r {} (above ++ line :: [])).1.filter (·.line == above.length)).map
          PlannedSpan.purpose := by
  decide +kernel

end InlineSearch.Document
