/-
InlineSearch.Proofs.Document.Again — a second run changes nothing.

The output of a run is read again line by line. The lines that it has
written are at rest (`Proofs.Document.Rewritten`), also where blanks have
been trimmed at their end (`allAtRest_trimEnd_join`). The lines of a footer
have no span: the bracket of a label is closed before its colon, and a note,
like a URL, closes no parenthesis (`first?_of_footer_lines`). So the whole
output is at rest, and the second run returns it (`output_again`).

Where the first run fails to bring its document to rest is in the links
themselves. What is put in for a span begins with a bracket that nothing
closes for the reader of the next run, who goes on to the next `](` on the
line. If that stands in inline code, or in no span at all, the second run
takes for a directive what the first one left alone
(`rerun_changes_inline_code`). On clear lines this does not happen, and
`rerun_keeps_output` says that little else can go wrong.
-/
import InlineSearch.Proofs.Document.Rewritten

namespace InlineSearch

open CodeBlock (Inset classifyFrom)

namespace Document

/-! ## Lines that are joined -/

theorem atRest_nil (kind : LineKind) : AtRest (kind, []) :=
  atRest_of_still rfl (Span.first?_of_not_mem (by simp) []) kind

theorem allAtRest_nil (fence? : Option Fence) : AllAtRest fence? [] :=
  allAtRest_of_forall (fun line hline kind => by
    rw [Text.lines_eq_singleton (by simp), List.mem_singleton] at hline
    rw [hline]
    exact atRest_nil kind) fence?

/-- A line at rest stays so if the blanks at its end are trimmed. -/
theorem AtRest.trimEnd {kind : LineKind} {line : Text} (h : AtRest (kind, line))
    (hblank : Text.isBlankText line = false) : AtRest (kind, Text.trimEnd line) where
  report value := by
    unfold setting?
    rw [Directive.assignment?_trimEnd hblank]
    exact h.report value
  spans hcode hoption s hs := by
    rw [Directive.assignment?_trimEnd hblank] at hoption
    rw [Span.inLine_trimEnd] at hs
    unfold Span.Stays
    rw [Text.trim_trimEnd]
    exact h.spans hcode hoption s hs

theorem allAtRest_singleton {fence? : Option Fence} {line : Text} (hfeed : '\n' ∉ line)
    (h : AtRest ((CodeBlock.classify fence? line).1, line)) : AllAtRest fence? line := by
  unfold AllAtRest
  rw [Text.lines_eq_singleton hfeed]
  intro other hother
  rw [CodeBlock.classifyFrom_cons, List.zip_cons_cons] at hother
  rw [List.mem_singleton.1 hother]
  exact h

section

variable {lines : List Text} (hfeed : ∀ line ∈ lines, '\n' ∉ line)
include hfeed

/-- Lines at rest are joined to a text at rest. -/
theorem allAtRest_join {fence? : Option Fence}
    (h : ∀ line ∈ (classifyFrom fence? lines).zip lines, AtRest line) :
    AllAtRest fence? (Text.join "\n" lines) := by
  cases lines with
  | nil => exact allAtRest_nil fence?
  | cons line rest =>
    have hsingle : (line :: rest).flatMap Text.lines = line :: rest := by
      rw [List.flatMap_congr fun t ht => Text.lines_eq_singleton (hfeed t ht)]
      exact List.flatMap_singleton' _
    unfold AllAtRest
    rwa [Text.lines_join (by simp), hsingle]

/-- So they are if blanks at the end of the text are trimmed. -/
theorem allAtRest_trimEnd_join {fence? : Option Fence} (hmarked : CodeBlock.Marked fence?)
    (h : ∀ line ∈ (classifyFrom fence? lines).zip lines, AtRest line) :
    AllAtRest fence? (Text.trimEnd (Text.join "\n" lines)) := by
  induction lines generalizing fence? with
  | nil => exact allAtRest_nil fence?
  | cons line rest ih =>
    rw [CodeBlock.classifyFrom_cons, List.zip_cons_cons] at h
    have hline := h _ (List.mem_cons_self ..)
    have hown := hfeed line (List.mem_cons_self ..)
    cases hblank : rest.all Text.isBlankText with
    | true =>
      rw [trimEnd_join_of_blank line hblank]
      cases hempty : Text.isBlankText line with
      | true =>
        rw [Text.trimEnd_of_blank hempty]
        exact allAtRest_nil fence?
      | false =>
        refine allAtRest_singleton (fun hmem => hown (Text.mem_trimEnd hmem)) ?_
        rw [CodeBlock.classify_trimEnd hmarked hempty]
        exact hline.trimEnd hempty
    | false =>
      rw [trimEnd_join_of_not_blank line hblank, allAtRest_append, Text.lines_eq_singleton hown]
      refine ⟨allAtRest_singleton hown hline, ?_⟩
      exact ih (fun later hmem => hfeed later (List.mem_cons_of_mem _ hmem))
        (CodeBlock.marked_classify hmarked line)
        fun later hmem => h later (List.mem_cons_of_mem _ hmem)

end

/-! ## The footer -/

section

variable {σ : Type} {l : Linker σ} {input : Text} {s : σ}

/-- The label of a footnote holds no parenthesis, or no turn from a link text
to an info. -/
theorem label_of_footnoteId {t : Step} (ht : t ∈ Run.steps l input s) {linkText note : Text}
    (ha : t.planned.action = .footnote linkText note) :
    ')' ∉ (t.before.footnoteId t.planned linkText).1
      ∨ ¬ ("](" : Text) <:+: (t.before.footnoteId t.planned linkText).1 := by
  obtain ⟨line, span, scope, -, hspan, hplan⟩ :=
    exists_planSpan_of_mem l.resolver.registry l.config (planned_of_mem ht)
  obtain ⟨hturn, hinfo⟩ := (Span.cut_of_mem hspan).parts
  have hread := read_of_footnote l.resolver.registry (hplan ▸ ha)
  unfold Draft.footnoteId
  dsimp only
  split
  · rcases Directive.label_of_footnote hread with rfl | hlabel
    · exact .inr fun hin => hturn (hin.trans (Text.isInfix_trim _))
    · exact .inl fun hmem => hinfo (Text.mem_remove (hlabel _ (Text.mem_trim hmem)))
  · left
    have hdigits : ∀ n, ')' ∉ Reference.fourDigits n := fun n hmem =>
      absurd (Reference.isDigit_of_mem_fourDigits hmem) (by decide)
    have hstart : ')' ∉ t.before.markers.start t.planned.config.prefixRandom := by
      unfold Reference.Markers.start
      split
      · rw [randomPrefix_eq ht]
        exact fun hmem => absurd (Reference.Markers.mem_randomPrefix hmem) (by decide)
      · simp
    simp [Reference.Markers.freshFootnote, hstart, hdigits]

/-- A footnote that is written has no span. -/
theorem first?_of_mem_footnotes {line : Text}
    (h : line ∈ (Run.draft l input s).footer.footnotes) : Span.first? [] line = none := by
  rw [draft_footnotes] at h
  obtain ⟨t, ht, hnote⟩ := List.mem_filterMap.1 h
  unfold Step.note? at hnote
  split at hnote
  · next linkText note ha =>
    obtain ⟨_, span, scope, -, hspan, hplan⟩ :=
      exists_planSpan_of_mem l.resolver.registry l.config (planned_of_mem ht)
    have hread := read_of_footnote l.resolver.registry (hplan ▸ ha)
    have hclose : ')' ∉ note := fun hmem =>
      (Span.cut_of_mem hspan).parts.2 (Text.mem_remove (Directive.mem_of_note hread hmem))
    have hlabel : ')' ∉ '^' :: (t.before.footnoteId t.planned linkText).1
        ∨ ¬ ("](" : Text) <:+: '^' :: (t.before.footnoteId t.planned linkText).1 := by
      refine (label_of_footnoteId ht ha).imp (fun hid => by simp [hid]) fun hid hin => ?_
      rcases List.infix_cons_iff.1 hin with hstart | hin
      · have hhead := (List.cons_prefix_cons.1 hstart).1
        exact absurd hhead (by decide)
      · exact hid hin
    have hwritten : line = '[' :: ('^' :: (t.before.footnoteId t.planned linkText).1
        ++ ']' :: ':' :: ' ' :: note) := by
      rw [← Option.some.inj hnote]
      simp
    rw [hwritten]
    exact Span.first?_label hlabel (by simp [hclose]) []
  · simp at hnote

/-- The lines of a footer have no span, if its definitions have none. -/
theorem first?_of_footer_lines
    (hdefs : ∀ n ∈ Run.definitions l input s, '\n' ∉ n.line ∧ Span.first? [] n.line = none)
    {line : Text} (h : line ∈ Text.lines (Run.draft l input s).footer.render) :
    Span.first? [] line = none ∧ Directive.assignment? line = none := by
  have hrefs : ∀ line ∈ (Run.draft l input s).footer.references,
      ∃ n ∈ Run.definitions l input s, line = n.line := by
    intro line hline
    rw [draft_definitions] at hline
    obtain ⟨n, hn, rfl⟩ := List.mem_map.1 hline
    exact ⟨n, hn, rfl⟩
  have hfeed : ∀ line ∈ (Run.draft l input s).footer.references, '\n' ∉ line := by
    intro line hline
    obtain ⟨n, hn, rfl⟩ := hrefs line hline
    exact (hdefs n hn).1
  rcases Reference.Footer.mem_of_mem_lines_render hfeed
    (fun line hline => (footnote_line hline).1) h with rfl | href | hnote
  · exact ⟨Span.first?_of_not_mem (by simp) [], rfl⟩
  · obtain ⟨n, hn, rfl⟩ := hrefs line href
    refine ⟨(hdefs n hn).2, ?_⟩
    rw [NewDefinition.line, Reference.definitionLine_eq]
    exact Directive.assignment?_bracket _
  · refine ⟨first?_of_mem_footnotes hnote, ?_⟩
    obtain ⟨rest, rfl⟩ := (footnote_line hnote).2
    exact Directive.assignment?_bracket _

/-! ## The output -/

/-- A text with a footer behind it is at rest if both are. -/
theorem Draft.allAtRest_withFooter {d : Draft} {body : Text}
    (hbody : AllAtRest none body) (htrimmed : AllAtRest none (Text.trimEnd body))
    (hfooter : ∀ line ∈ Text.lines d.footer.render, ∀ kind, AtRest (kind, line)) :
    AllAtRest none (d.withFooter body) := by
  have hrender : ∀ fence?, AllAtRest fence? (d.footer.render ++ '\n' :: []) := fun fence? =>
    allAtRest_append.2 ⟨allAtRest_of_forall hfooter fence?, allAtRest_nil _⟩
  unfold withFooter
  split
  · exact hbody
  · dsimp only
    generalize Text.trimEnd body = trimmed at htrimmed ⊢
    have htext : trimmed ++ separator trimmed ++ d.footer.render ++ ("\n" : Text)
        = trimmed ++ (separator trimmed ++ (d.footer.render ++ '\n' :: [])) := by simp
    rw [htext]
    rcases separator_cases trimmed with ⟨hsep, hnil⟩ | hsep | hsep
    · rw [hsep, hnil]
      exact hrender none
    · rw [hsep]
      exact allAtRest_append.2 ⟨htrimmed, hrender _⟩
    · rw [hsep]
      exact allAtRest_append.2 ⟨htrimmed, allAtRest_append.2 ⟨allAtRest_nil _, hrender _⟩⟩

variable (hinset : ∀ t ∈ Run.steps l input s, ∀ text, t.replacement? = some text → Inset text)

include hinset in
/-- What a run writes of its document are whole lines. -/
theorem feed_not_mem_of_mem_rewritten {kind : LineKind} {new : Text}
    (h : (kind, new) ∈ Run.rewritten l input s) : '\n' ∉ new := by
  obtain ⟨n, line, hline, -, rfl⟩ := Draft.mem_rewrittenFrom h
  rw [Nat.zero_add]
  have hold := (List.getElem?_zip_eq_some.1 hline).2
  intro hfeed
  rcases (Run.spliced_line l input s hold).mem hfeed with hmem | ⟨span, text, hspan, hmem⟩
  · exact Text.not_mem_of_mem_lines (List.mem_of_getElem? hold) hmem
  · exact (inset_of_mem_replacements hinset hspan).unbroken hmem

include hinset in
/-- A run without errors and without a report brings its document to rest. -/
theorem output_again (hconfig : l.config.report = false)
    (hreport : ∀ line ∈ Run.rewritten l input s, ∀ value, setting? line ≠ some (.report, value))
    (hdefs : ∀ n ∈ Run.definitions l input s, '\n' ∉ n.line ∧ Span.first? [] n.line = none)
    (herrors : (link l input s).1.errors = []) (hbehind : Run.StaysBehind l input s)
    (hcomments : withoutReports (link l input s).1.output = (link l input s).1.output) (s' : σ) :
    (link l (link l input s).1.output s').1.output = (link l input s).1.output := by
  cases hspan : Span.occursIn input with
  | false => rw [link_of_not_occursIn l input s hspan, link_of_not_occursIn l input s' hspan]
  | true =>
  refine output_of_atRest hconfig hcomments ?_
  -- The first run appends neither errors nor a report.
  have hshown : (Run.draft l input s).shown = [] :=
    shown_of_entries fun t ht => entries_of_errors hspan herrors ht
  have hlast : (Run.planned l input).2.report = false := by
    refine report_lastConfig hconfig fun line hline value hset => ?_
    exact hreport line (mem_rewritten_of_setting hline (by simp [hset])) value hset
  have hquiet : (link l input s).1.output = (Run.draft l input s).withFooter
      (Text.join "\n" ((Run.rewritten l input s).map Prod.snd)) := by
    rw [link_eq l input s hspan, Draft.output_of_quiet (.inl hshown), Draft.plainOutput,
      Run.rewritten_map_snd]
    simp [Draft.reportBlock, hlast]
  -- Its lines and those of the footer are at rest.
  have hrest : ∀ line ∈ (classifyFrom none ((Run.rewritten l input s).map Prod.snd)).zip
      ((Run.rewritten l input s).map Prod.snd), AtRest line := by
    intro line hline
    refine atRest_of_mem_rewritten hinset hspan herrors hbehind hreport ?_
    rw [← zip_classifyLines_rewritten hinset]
    exact hline
  have hfeed : ∀ line ∈ (Run.rewritten l input s).map Prod.snd, '\n' ∉ line := by
    intro line hline
    obtain ⟨⟨kind, new⟩, hmem, rfl⟩ := List.mem_map.1 hline
    exact feed_not_mem_of_mem_rewritten hinset hmem
  rw [hquiet]
  refine Draft.allAtRest_withFooter (allAtRest_join hfeed hrest)
    (allAtRest_trimEnd_join hfeed CodeBlock.marked_none hrest) fun line hline kind => ?_
  obtain ⟨hfirst, hoption⟩ := first?_of_footer_lines hdefs hline
  exact atRest_of_still hoption hfirst kind

end

/-! ## Pages -/

/-- The URL of a page on the web, as it is written into a line. -/
structure WebUrl (url : Text) : Prop where
  scheme : Text.startsWith "http://" url = true ∨ Text.startsWith "https://" url = true
  bare : url.all (fun c => !Text.isBlank c && !("[]()" : Text).contains c) = true

/-- What a search found fits into a line: a page with a link text of one line,
or markup that may stand in place of a span. -/
structure Fits (f : Search.Found) : Prop where
  page : f.form = .link → WebUrl f.url ∧ '\n' ∉ f.linkText
  embedded : f.form ≠ .link → Inset f.plainText

theorem WebUrl.feed_not_mem {url : Text} (h : WebUrl url) : '\n' ∉ url := fun hmem =>
  absurd (List.all_eq_true.1 h.bare _ hmem) (by decide)

theorem WebUrl.bracket_not_mem {url : Text} (h : WebUrl url) : ']' ∉ url := fun hmem =>
  absurd (List.all_eq_true.1 h.bare _ hmem) (by decide)

theorem WebUrl.inset {url : Text} (h : WebUrl url) : Inset url where
  unbroken := h.feed_not_mem
  begins := by
    have hletter : Text.isBlank 'h' = false ∧ CodeBlock.isMark 'h' = false := by decide
    rcases h.scheme with hstart | hstart
    · obtain ⟨rest, rfl⟩ := List.isPrefixOf_iff_prefix.1 hstart
      exact ⟨'h', _, rfl, hletter⟩
    · obtain ⟨rest, rfl⟩ := List.isPrefixOf_iff_prefix.1 hstart
      exact ⟨'h', _, rfl, hletter⟩

/-- Links and footnotes begin with a bracket. -/
theorem inset_bracket {rest : Text} (h : '\n' ∉ rest) : Inset ('[' :: rest) where
  unbroken := by simp [h]
  begins := ⟨'[', rest, rfl, by decide, by decide⟩

/-- Only what is embedded is written plainly. -/
theorem Step.plain_iff {t : Step} {style : Style} {f : Search.Found}
    (h : t.found? = some (style, f)) : style = .plain ↔ f.form ≠ .link := by
  unfold found? at h
  split at h
  · next job modifiers f _ _ =>
    obtain ⟨rfl, rfl⟩ := Prod.mk.inj (Option.some.inj h)
    unfold Style.of
    split
    · next hform => simpa using hform
    · next hform =>
      have hlink : f.form = .link := by simpa using hform
      split
      · simp [hlink]
      · split
        · simp [hlink]
        · split <;> simp [hlink]
  · simp at h

section

variable {σ : Type} {l : Linker σ} {input : Text} {s : σ}
  (hfound : ∀ t ∈ Run.steps l input s, ∀ found, t.found? = some found → Fits found.2)
include hfound

theorem page_of_found? {t : Step} (ht : t ∈ Run.steps l input s) {style : Style}
    {f : Search.Found} (h : t.found? = some (style, f)) (hstyle : style ≠ .plain) :
    WebUrl f.url ∧ '\n' ∉ f.linkText :=
  (hfound t ht _ h).page (not_not.1 (mt (Step.plain_iff h).2 hstyle))

/-- A definition that is added is one line. Unless its label or its title turns
from a link text to an info, it has no span. -/
theorem first?_of_mem_definitions {n : NewDefinition} (hn : n ∈ Run.definitions l input s)
    (hlabel : ¬ ("](" : Text) <:+: n.label)
    (htitle : ¬ ("](" : Text) <:+: Reference.titlePart n.title) :
    '\n' ∉ n.line ∧ Span.first? [] n.line = none := by
  have hurl : WebUrl n.url := by
    obtain ⟨t, ht, hdefined⟩ := List.mem_filterMap.1 hn
    obtain ⟨f, hurl, ⟨hf, -⟩ | ⟨hf, -⟩⟩ := Step.found?_of_definition? hdefined
    · exact hurl ▸ (page_of_found? hfound ht hf (by decide)).1
    · exact hurl ▸ (page_of_found? hfound ht hf (by decide)).1
  have hfeed : '\n' ∉ n.label :=
    feed_not_mem_label (fun t ht f hf => (page_of_found? hfound ht hf (by decide)).2) hn
  rw [NewDefinition.line, Reference.definitionLine_eq]
  refine ⟨?_, Span.first?_of_no_turn ?_ []⟩
  · simp [hfeed, hurl.feed_not_mem, Reference.feed_not_mem_titlePart]
  · -- Brackets, colon and space cut the line into label, URL and title.
    have hcuts : ∀ c, c ∉ ("](" : Text) → ∀ a b : Text,
        ("](" : Text) <:+: a ++ c :: b ↔ ("](" : Text) <:+: a ∨ ("](" : Text) <:+: b :=
      fun c hc a b => Text.infix_append_cons hc (by decide)
    have hline : '[' :: (n.label ++ ']' :: ':' :: ' ' :: (n.url ++ Reference.titlePart n.title))
        = [] ++ '[' :: (n.label ++ [']'] ++ ':' :: ([] ++ ' ' ::
          (n.url ++ Reference.titlePart n.title))) := by simp
    rw [hline, hcuts '[' (by decide), hcuts ':' (by decide), hcuts ' ' (by decide),
      Span.turn_infix_label_iff]
    rintro (hin | hin | hin | hin)
    · exact absurd hin (by decide)
    · exact hlabel hin
    · exact absurd hin (by decide)
    · exact htitle ((Text.infix_append_of_not_mem hurl.bracket_not_mem _).1 hin)

variable (hlabels : ∀ d ∈ Reference.definitions (Run.source input), '\n' ∉ d.1)
include hlabels

/-- A marker that is referred to is one line. -/
theorem feed_not_mem_marker {t : Step} (ht : t ∈ Run.steps l input s) {f : Search.Found}
    {marker : Text} (h : t.reference? = some (f, marker)) : '\n' ∉ marker := by
  cases hknown : (Reference.Table.ofDocument (Run.source input)).contains f.url with
  | true => exact hlabels _ (mem_definitions_of_contains ht h hknown)
  | false =>
    obtain ⟨n, hn, rfl, -⟩ := exists_definition ht h hknown
    exact feed_not_mem_label (fun t ht f hf => (page_of_found? hfound ht hf (by decide)).2) hn

/-- What takes the place of a span may stand there. -/
theorem inset_of_replacement? {t : Step} (ht : t ∈ Run.steps l input s) {text : Text}
    (h : t.replacement? = some text) : Inset text := by
  unfold Step.replacement? at h
  split at h
  · next id hid =>
    rw [← Option.some.inj h]
    unfold Step.footnote? at hid
    split at hid
    · next linkText note ha =>
      rw [← Option.some.inj hid]
      have hrest : '\n' ∉ '^' :: ((t.before.footnoteId t.planned linkText).1 ++ [']']) := by
        simp [feed_not_mem_footnoteId ht linkText]
      exact inset_bracket hrest
    · simp at hid
  · next f _ hf =>
    rw [← Option.some.inj h]
    exact (hfound t ht _ hf).embedded ((Step.plain_iff hf).1 rfl)
  · next f _ hf =>
    rw [← Option.some.inj h]
    exact (page_of_found? hfound ht hf (by decide)).1.inset
  · next f _ hf =>
    obtain ⟨hurl, hlinkText⟩ := page_of_found? hfound ht hf (by decide)
    rw [← Option.some.inj h]
    refine inset_bracket ?_
    simp [hlinkText, hurl.feed_not_mem, Reference.feed_not_mem_titlePart]
  · next f _ hf =>
    obtain ⟨-, hlinkText⟩ := page_of_found? hfound ht hf (by decide)
    have hmarker : t.reference? = some (f, (t.before.markerOf t.planned f).1) := by
      simp only [Step.reference?, hf]
    rw [← Option.some.inj h]
    refine inset_bracket ?_
    simp [hlinkText, feed_not_mem_marker hfound hlabels ht hmarker]
  · simp at h

end

/-! ## Running again -/

/-- **A second run changes nothing.** Let a run have no errors, let what its
searches find fit into lines, and let no line that it writes switch the report.
Let its lines be clear: behind a span that is replaced, the spans of the line are
replaced as well or ordinary links, and between them stands no `](`. Then the
output of the run is its own output, where

* the labels of the document are one line each, and the labels and titles of
  definitions that are added hold no `](`;
* nothing is left in the output that reads as a comment of an earlier run. -/
theorem rerun_keeps_output {σ : Type} {l : Linker σ} {input : Text} {s : σ}
    (hconfig : l.config.report = false)
    (hreport : ∀ line ∈ Run.rewritten l input s, ∀ value, setting? line ≠ some (.report, value))
    (hfound : ∀ t ∈ Run.steps l input s, ∀ found, t.found? = some found → Fits found.2)
    (herrors : (link l input s).1.errors = []) (hclear : Run.Clear l input s)
    (hlabels : ∀ d ∈ Reference.definitions (Run.source input), '\n' ∉ d.1)
    (hturns : ∀ n ∈ Run.definitions l input s,
      ¬ ("](" : Text) <:+: n.label ∧ ¬ ("](" : Text) <:+: Reference.titlePart n.title)
    (hcomments : withoutReports (link l input s).1.output = (link l input s).1.output) (s' : σ) :
    (link l (link l input s).1.output s').1.output = (link l input s).1.output := by
  refine output_again (fun t ht text => inset_of_replacement? hfound hlabels ht) hconfig hreport
    (fun n hn => ?_) herrors (Run.staysBehind_of_clear hclear) hcomments s'
  obtain ⟨hlabel, htitle⟩ := hturns n hn
  exact first?_of_mem_definitions hfound hn hlabel htitle

/-- A replaced span in front of an ordinary link. The second run reads both as
one link, from the first bracket on, and leaves it alone. -/
theorem rerun_keeps_output_beside_link :
    let input : Text := "See [a](!g rust) and [b](https://x.org)."
    let output := (link pageLinker input ()).1.output
    output = "See [a][0001] and [b](https://x.org).\n\n[0001]: https://example.org/rust\n"
      ∧ (link pageLinker output ()).1.output = output := by
  intro input output
  refine ⟨by decide +kernel, ?_⟩
  have hsettings : ∀ line ∈ Run.rewritten pageLinker input (), setting? line = none := by
    decide +kernel
  have hpages : (Run.steps pageLinker input ()).filterMap Step.found?
      = [(.reference, ⟨"https://example.org/rust", [], "a", .link, false, []⟩)] := by
    decide +kernel
  refine rerun_keeps_output rfl ?_ ?_ (by decide +kernel) (by decide +kernel) (by decide +kernel)
    (by decide +kernel) (by decide +kernel) ()
  · intro line hline value
    rw [hsettings line hline]
    simp
  · refine forall_found_iff.2 fun found hmem => ?_
    rw [hpages] at hmem
    rw [List.mem_singleton.1 hmem]
    exact ⟨fun _ => ⟨⟨by decide, by decide⟩, by decide⟩, fun hform => absurd rfl hform⟩

/-- A replaced span in front of inline code: the second run reads a directive
from the bracket of the first link into the code, and replaces it. -/
theorem rerun_changes_inline_code :
    let first := (link pageLinker "See [a](!g rust) and \x60[b](!g c)\x60." ()).1
    first.errors = [] ∧ first.clipboard = false
      ∧ first.output
        = "See [a][0001] and \x60[b](!g c)\x60.\n\n[0001]: https://example.org/rust\n"
      ∧ (link pageLinker first.output ()).1.output ≠ first.output := by
  decide +kernel

end Document

end InlineSearch
