/-
InlineSearch.Proofs.Directive.Decomposition — which places of a line are its
spans.

The scanner takes a line apart from left to right. `Decomposition` says what
it has to find without scanning: a bracket opens a span if a `](` follows it,
and a `)` follows that, and the next span opens at the earliest such bracket
behind the last one. Its parts end at the earliest place where they can.

* `decomposition_iff` — a line has one decomposition, and the scanner gives it.
* `LaidOut` — how the spans of a decomposition lie on the line, and what
  stands between them.
* `occursIn_iff_exists_line`, `occursIn_iff` — a text has a span if one of its
  lines does, that is if some part of it has the shape of a span within a line.
-/
import InlineSearch.Proofs.Directive.Rescan
import InlineSearch.Proofs.Text.Lines

namespace InlineSearch.Span

/-! ## The grammar -/

/-- What stands behind a bracket makes it open a span. -/
def Opens (opened : Text) : Prop :=
  ∃ linkText info rest, opened = linkText ++ "](" ++ info ++ ")" ++ rest

/-- No bracket of a line opens a span. -/
def Unopened (line : Text) : Prop :=
  ∀ gap opened, line = gap ++ '[' :: opened → ¬ Opens opened

/-- The next span of a line that stands behind `before`, and what follows it. -/
inductive Next (before line : Text) : Span → Text → Prop
  | mk {gap opened linkText target info rest : Text}
      (at_gap : line = gap ++ '[' :: opened)
      (earliest : ∀ gap' opened', line = gap' ++ '[' :: opened' → Opens opened' →
        gap.length ≤ gap'.length)
      (turn : Text.CutAt "](" opened linkText target)
      (close : Text.CutAt ")" target info rest) :
      Next before line ⟨before ++ gap, linkText, info⟩ rest

/-- The spans of a line that stands behind `before`, left to right. -/
inductive Decomposition : (before line : Text) → List Span → Prop
  | rest {before line : Text} (unopened : Unopened line) : Decomposition before line []
  | span {before line rest : Text} {s : Span} {spans : List Span}
      (next : Next before line s rest)
      (later : Decomposition (s.before ++ s.text) rest spans) :
      Decomposition before line (s :: spans)

/-! ## The scanner finds the decomposition -/

theorem append_bracket (gap opened : Text) :
    gap ++ ("[" : Text) ++ opened = gap ++ '[' :: opened := List.append_assoc ..

theorem opens_of_cuts {opened linkText target info rest : Text}
    (turn : Text.CutAt "](" opened linkText target) (close : Text.CutAt ")" target info rest) :
    Opens opened :=
  ⟨linkText, info, rest, by rw [turn.parts, close.parts]; simp only [List.append_assoc]⟩

/-- A bracket in front of one that opens a span opens one as well. -/
theorem Opens.earlier {gap gap' opened opened' : Text} (h : Opens opened)
    (hline : gap ++ '[' :: opened = gap' ++ '[' :: opened') (hle : gap'.length ≤ gap.length) :
    Opens opened' := by
  obtain ⟨linkText, info, rest, rfl⟩ := h
  obtain ⟨between, rfl⟩ : gap' <+: gap :=
    List.prefix_of_prefix_length_le ⟨_, hline.symm⟩ ⟨_, rfl⟩ hle
  rw [List.append_assoc] at hline
  have hopened := List.append_cancel_left hline
  cases between with
  | nil => exact ⟨linkText, info, rest, (List.cons.inj hopened).2.symm⟩
  | cons c between =>
    refine ⟨between ++ '[' :: linkText, info, rest, ?_⟩
    rw [← (List.cons.inj hopened).2]
    simp

/-- What opens a span can be cut at the end of its parts. -/
theorem Opens.cuts {opened : Text} (h : Opens opened) : ∃ linkText target info rest,
    Text.cut "](" opened = some (linkText, target) ∧ Text.cut ")" target = some (info, rest) := by
  obtain ⟨linkText, info, rest, hopened⟩ := h
  have hparts : opened = linkText ++ ("](" : Text) ++ (info ++ (")" : Text) ++ rest) := by
    rw [hopened]
    simp only [List.append_assoc]
  obtain ⟨x, target, hcut⟩ := Text.exists_cut ⟨linkText, info ++ (")" : Text) ++ rest, hparts.symm⟩
  -- The first turn stands no later than this one, so the parenthesis follows it.
  have hfirst := Text.cut_eq_some_iff.1 hcut
  have hearly := hfirst.earliest _ _ hparts
  have hlength := congrArg List.length (hfirst.parts.symm.trans hparts)
  simp only [List.length_append] at hlength
  have hbehind : info ++ (")" : Text) ++ rest <:+ target :=
    List.suffix_of_suffix_length_le (hparts ▸ List.suffix_append ..)
      (hfirst.parts ▸ List.suffix_append ..) (by simp only [List.length_append]; omega)
  have hclose : (")" : Text) <:+: target := List.IsInfix.trans ⟨info, rest, rfl⟩ hbehind.isInfix
  obtain ⟨info', rest', hend⟩ := Text.exists_cut hclose
  exact ⟨x, target, info', rest', hcut, hend⟩

theorem first?_eq_none_iff {before line : Text} : first? before line = none ↔ Unopened line := by
  constructor
  · rintro hnone gap opened hline hopens
    -- The first bracket of the line opens a span too.
    have hparts := hline.trans (append_bracket gap opened).symm
    obtain ⟨gap', opened', hcut⟩ := Text.exists_cut ⟨gap, opened, hparts.symm⟩
    have hfirst := Text.cut_eq_some_iff.1 hcut
    have hline' := hline.symm.trans (hfirst.parts.trans (append_bracket gap' opened'))
    obtain ⟨linkText, target, info, rest, hturn, hclose⟩ :=
      (hopens.earlier hline' (hfirst.earliest _ _ hparts)).cuts
    simp only [first?, hcut, hturn, hclose, Option.bind_eq_bind, Option.bind_some,
      Option.pure_def, reduceCtorEq] at hnone
  · intro h
    rw [Option.eq_none_iff_forall_ne_some]
    rintro ⟨s, rest⟩ hfirst
    obtain ⟨gap, -, hline⟩ := eq_of_first? hfirst
    exact h gap _ (by rw [hline]; simp [text]) ⟨s.linkText, s.info, rest, rfl⟩

theorem first?_eq_some_iff {before line rest : Text} {s : Span} :
    first? before line = some (s, rest) ↔ Next before line s rest := by
  constructor
  · intro h
    simp only [first?, Option.bind_eq_bind, Option.bind_eq_some_iff, Prod.exists,
      Option.pure_def, Option.some.injEq, Prod.mk.injEq] at h
    obtain ⟨gap, opened, hopen, linkText, target, hturn, info, _, hclose, rfl, rfl⟩ := h
    have hfirst := Text.cut_eq_some_iff.1 hopen
    refine .mk (hfirst.parts.trans (append_bracket ..)) (fun gap' opened' hline _ => ?_)
      (Text.cut_eq_some_iff.1 hturn) (Text.cut_eq_some_iff.1 hclose)
    exact hfirst.earliest gap' opened' (hline.trans (append_bracket ..).symm)
  · intro h
    cases h with
    | @mk gap opened linkText target info _ hline hearliest hturn hclose =>
      have hopens := opens_of_cuts hturn hclose
      have hfirst : Text.CutAt "[" line gap opened := by
        refine ⟨hline.trans (append_bracket ..).symm, fun gap' opened' hparts => ?_⟩
        have hline' := hparts.trans (append_bracket gap' opened')
        by_contra hlt
        exact hlt (hearliest gap' opened' hline'
          (hopens.earlier (hline.symm.trans hline') (by omega)))
      rw [first?, Text.cut_eq_some_iff.2 hfirst]
      simp only [Option.bind_eq_bind, Option.bind_some, Text.cut_eq_some_iff.2 hturn,
        Text.cut_eq_some_iff.2 hclose, Option.pure_def]

/-- **The scanner finds the one decomposition of a line.** -/
theorem decomposition_iff {before line : Text} {spans : List Span} :
    Decomposition before line spans ↔ spans = inLine before line := by
  constructor
  · intro h
    induction h with
    | rest unopened => exact (inLine_of_none (first?_eq_none_iff.2 unopened)).symm
    | span next later ih => rw [inLine_of_first? (first?_eq_some_iff.2 next), ih]
  · rintro rfl
    induction before, line using inLine.induct with
    | case1 before line s rest hfirst ih =>
      rw [inLine_of_first? hfirst]
      exact .span (first?_eq_some_iff.1 hfirst) ih
    | case2 before line hfirst =>
      rw [inLine_of_none hfirst]
      exact .rest (first?_eq_none_iff.1 hfirst)

theorem unopened_of_inLine {before line : Text} (h : inLine before line = []) : Unopened line := by
  cases decomposition_iff.2 h.symm with
  | rest unopened => exact unopened

/-! ## Where the spans lie -/

/-- What a line has up to the end of spans, if they are all that `before` is
followed by. -/
def endOf (before : Text) : List Span → Text
  | [] => before
  | s :: spans => endOf (s.before ++ s.text) spans

/-- How spans lie on their line. -/
structure LaidOut (line : Text) (spans : List Span) : Prop where
  /-- The range of a span is what the span is written as. -/
  range : ∀ s ∈ spans,
    Text.slice? s.start s.stop line = some ("[" ++ s.linkText ++ "](" ++ s.info ++ ")")
  /-- The line can be cut where a span begins and where it ends. -/
  boundaries : ∀ s ∈ spans, ∃ rest, Text.splitBytes? s.start line = some (s.before, s.text ++ rest)
    ∧ Text.splitBytes? s.stop line = some (s.before ++ s.text, rest)
  /-- No link text turns to an info. -/
  linkText : ∀ s ∈ spans, ¬ ("](" : Text) <:+: s.linkText
  /-- No info is closed before its end. -/
  info : ∀ s ∈ spans, ')' ∉ s.info
  nonempty : ∀ s ∈ spans, s.start < s.stop
  /-- A span ends before the next one begins. -/
  apart : spans.Pairwise fun a b => a.stop ≤ b.start
  /-- No bracket stands between a span and the one before it. -/
  between : ∀ earlier s later, spans = earlier ++ s :: later →
    ∃ gap, s.before = endOf [] earlier ++ gap ∧ '[' ∉ gap
  /-- Behind the last span there is no complete one. -/
  behind : ∃ tail, line = endOf [] spans ++ tail ∧ Unopened tail

theorem exists_first?_of_cons {before line : Text} {s : Span} {spans : List Span}
    (h : inLine before line = s :: spans) :
    ∃ rest, first? before line = some (s, rest) ∧ inLine (s.before ++ s.text) rest = spans := by
  cases hfirst : first? before line with
  | none =>
    rw [inLine_of_none hfirst] at h
    simp at h
  | some found =>
    obtain ⟨t, rest⟩ := found
    rw [inLine_of_first? hfirst] at h
    obtain ⟨rfl, hlater⟩ := List.cons.inj h
    exact ⟨rest, rfl, hlater⟩

/-- Behind some of its spans a line is taken apart like a line of its own. -/
theorem exists_rest_of_append {before line : Text} {earlier later : List Span}
    (h : inLine before line = earlier ++ later) :
    ∃ rest, before ++ line = endOf before earlier ++ rest
      ∧ inLine (endOf before earlier) rest = later := by
  induction earlier generalizing before line with
  | nil => exact ⟨line, rfl, h⟩
  | cons s earlier ih =>
    obtain ⟨rest, hfirst, hlater⟩ := exists_first?_of_cons h
    obtain ⟨gap, hgap, hline⟩ := eq_of_first? hfirst
    obtain ⟨rest', hrest, hspans⟩ := ih hlater
    refine ⟨rest', ?_, hspans⟩
    rw [endOf, ← hrest, hline, hgap]
    simp only [List.append_assoc]

theorem apart_inLine (before line : Text) :
    (inLine before line).Pairwise fun a b => a.stop ≤ b.start := by
  induction before, line using inLine.induct with
  | case1 before line s rest hfirst ih =>
    rw [inLine_of_first? hfirst]
    refine List.pairwise_cons.2 ⟨fun t ht => ?_, ih⟩
    obtain ⟨gap, -, hbefore, -⟩ := exists_split_of_mem ht
    simp only [stop, start, hbefore, Text.bytes_append]
    omega
  | case2 before line hfirst =>
    rw [inLine_of_none hfirst]
    exact .nil

theorem bytes_text_pos (s : Span) : 0 < Text.bytes s.text := by
  have hopen : s.text = '[' :: (s.linkText ++ "](" ++ s.info ++ ")") := by simp [text]
  have hbracket := Char.utf8Size_pos '['
  rw [hopen, Text.bytes_cons]
  omega

theorem laidOut_inLine (line : Text) : LaidOut line (inLine [] line) where
  range s hs := by
    obtain ⟨gap, rest, hbefore, hline⟩ := exists_split_of_mem hs
    obtain rfl : s.before = gap := hbefore
    rw [hline]
    exact Text.slice?_append ..
  boundaries s hs := by
    obtain ⟨gap, rest, hbefore, hline⟩ := exists_split_of_mem hs
    obtain rfl : s.before = gap := hbefore
    refine ⟨rest, ?_, ?_⟩
    · rw [hline]
      exact Text.splitBytes?_append ..
    · rw [hline, ← List.append_assoc, stop, start, ← Text.bytes_append]
      exact Text.splitBytes?_append ..
  linkText s hs := (cut_of_mem hs).parts.1
  info s hs := (cut_of_mem hs).parts.2
  nonempty s _ := Nat.lt_add_of_pos_right s.bytes_text_pos
  apart := apart_inLine [] line
  between earlier s later hspans := by
    obtain ⟨rest, -, hrest⟩ := exists_rest_of_append hspans
    obtain ⟨_, hfirst, -⟩ := exists_first?_of_cons hrest
    obtain ⟨gap, hgap, hnone, -⟩ := exists_of_first? hfirst
    exact ⟨gap, hgap, hnone⟩
  behind := by
    obtain ⟨tail, hline, htail⟩ := exists_rest_of_append (List.append_nil (inLine [] line)).symm
    exact ⟨tail, hline, unopened_of_inLine htail⟩

/-! ## Texts with a span -/

theorem inText_of_line {line : Text} (h : '\n' ∉ line) : inText line = inLine [] line := by
  rw [inText, Text.lines_eq_singleton h, inLines, inLines, List.append_nil]

/-- A text has a span if one of its lines does. -/
theorem occursIn_iff_exists_line (t : Text) :
    occursIn t = true ↔ ∃ line ∈ Text.lines t, inText line ≠ [] := by
  have hline : ∀ line ∈ Text.lines t, (inText line ≠ [] ↔ (first? [] line).isSome = true) := by
    intro line hmem
    rw [inText_of_line (Text.not_mem_of_mem_lines hmem), Ne, inLine_eq_nil_iff, Bool.not_eq_false]
  rw [occursIn, List.any_eq_true]
  exact exists_congr fun line => and_congr_right fun hmem => (hline line hmem).symm

/-- A text has a span if a part of it has the shape of one, on one line. -/
theorem occursIn_iff (t : Text) : occursIn t = true ↔
    ∃ s : Span, s.text <:+: t ∧ '\n' ∉ s.linkText ∧ '\n' ∉ s.info := by
  rw [occursIn_iff_exists_line]
  constructor
  · rintro ⟨line, hmem, hne⟩
    have hfeed := Text.not_mem_of_mem_lines hmem
    rw [inText_of_line hfeed] at hne
    obtain ⟨s, hs⟩ := List.exists_mem_of_ne_nil _ hne
    have hin := text_infix_of_mem hs
    refine ⟨s, hin.trans (Text.infix_of_mem_lines hmem), fun h => ?_, fun h => ?_⟩
    · exact hfeed (hin.subset (by simp [text, h]))
    · exact hfeed (hin.subset (by simp [text, h]))
  · rintro ⟨s, hin, hlinkText, hinfo⟩
    obtain ⟨line, hmem, gap, rest, hline⟩ :=
      Text.exists_line_of_infix (by simp [text]) (by simp [text, hlinkText, hinfo]) hin
    refine ⟨line, hmem, fun hnone => ?_⟩
    rw [inText_of_line (Text.not_mem_of_mem_lines hmem)] at hnone
    exact unopened_of_inLine hnone gap (s.linkText ++ "](" ++ s.info ++ ")" ++ rest)
      (by rw [← hline]; simp [text]) ⟨s.linkText, s.info, rest, rfl⟩

/-- **The spans of a line are its decomposition**, and they lie on it apart,
each as it is written. A text has a span if one of its lines has one. -/
theorem inText_decomposes {line : Text} (h : '\n' ∉ line) :
    (∀ spans, Decomposition [] line spans ↔ spans = inText line)
      ∧ LaidOut line (inText line)
      ∧ ∀ t, (occursIn t = true ↔ ∃ line ∈ Text.lines t, inText line ≠ [])
        ∧ (occursIn t = true ↔
          ∃ s : Span, s.text <:+: t ∧ '\n' ∉ s.linkText ∧ '\n' ∉ s.info) := by
  rw [inText_of_line h]
  exact ⟨fun _ => decomposition_iff, laidOut_inLine line,
    fun t => ⟨occursIn_iff_exists_line t, occursIn_iff t⟩⟩

/-- Of a line with brackets all over. -/
theorem inText_decomposes_brackets :
    '\n' ∉ ("[é [a](b](c) ](d) [](e) [" : Text)
      ∧ Decomposition [] "[é [a](b](c) ](d) [](e) ["
        [⟨[], "é [a", "b](c"⟩, ⟨"[é [a](b](c) ](d) ", [], "e"⟩]
      ∧ LaidOut "[é [a](b](c) ](d) [](e) ["
        [⟨[], "é [a", "b](c"⟩, ⟨"[é [a](b](c) ](d) ", [], "e"⟩] := by
  have hfeed : '\n' ∉ ("[é [a](b](c) ](d) [](e) [" : Text) := by decide
  have hspans : inText "[é [a](b](c) ](d) [](e) ["
      = [⟨[], "é [a", "b](c"⟩, ⟨"[é [a](b](c) ](d) ", [], "e"⟩] := by decide +kernel
  obtain ⟨hdecomposition, hlaid, -⟩ := inText_decomposes hfeed
  rw [hspans] at hdecomposition hlaid
  exact ⟨hfeed, (hdecomposition _).2 rfl, hlaid⟩

end InlineSearch.Span
