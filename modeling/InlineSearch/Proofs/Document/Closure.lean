/-
InlineSearch.Proofs.Document.Closure — when a reader finds what a link of a
run refers to.

A link to a marker is good if the output defines the marker outside its code
blocks. `reference_seen_iff` says when that is so. For a URL that the
document did not define the run appends a definition, which is seen unless a
fence is open behind the lines of the document. For a URL that the table took
from the document nothing is appended, so the lines themselves must show the
definition; but the table is filled from the whole document, its code blocks
included.
-/
import InlineSearch.Proofs.Document.Freshness
import InlineSearch.Proofs.Document.Output
import InlineSearch.Proofs.Reference.Footer
import InlineSearch.Proofs.Reference.Visible

namespace InlineSearch.Document

open Reference (Table defines seen seenFrom IsWord)
open CodeBlock (fenceAfter Plain)

/-! ## Lines behind the document -/

/-- Only where nothing is written does nothing stand before a footer. -/
theorem Draft.separator_cases (written : Text) :
    Draft.separator written = [] ∧ written = [] ∨ Draft.separator written = "\n"
      ∨ Draft.separator written = "\n\n" := by
  unfold Draft.separator
  split
  · next hlast =>
    refine .inl ⟨rfl, ?_⟩
    rw [List.getLast?_eq_none_iff, Text.endedLines, List.append_eq_nil_iff,
      List.map_eq_nil_iff] at hlast
    obtain ⟨hdrop, hfilter⟩ := hlast
    have hjoin : written = Text.join "\n" (Text.lines written) :=
      (List.intercalate_splitOn '\n').symm
    obtain ⟨head, rest, hlines⟩ := List.exists_cons_of_ne_nil (List.splitOn_ne_nil '\n' written)
    have hlines : Text.lines written = head :: rest := hlines
    rw [hlines] at hdrop hfilter hjoin
    cases rest with
    | cons next rest => simp at hdrop
    | nil =>
      have hhead : head = [] := by simpa using hfilter
      rw [hjoin, hhead, Text.join_singleton]
  · split
    · exact .inr (.inl rfl)
    · exact .inr (.inr rfl)

/-- The lines of an output are those that are written, those of the footer, and
those of the comments. Where nothing is written, its empty line may be left
out. -/
theorem Draft.lines_parts (d : Draft) (written : Text) {comments : Text} (hapart : Apart comments) :
    ∃ before added logged : List Text,
      Text.lines (written ++ d.footerText written ++ comments) = before ++ (added ++ logged)
      ∧ (before = Text.lines written ∨ before = [] ∧ written = [])
      ∧ (∀ line ∈ added, line = [] ∨ line ∈ Text.lines d.footer.render)
      ∧ (d.footer.isEmpty = false → Text.lines d.footer.render <:+ added)
      ∧ (Comments comments → ∀ line ∈ logged, Logged line) := by
  -- Without a footer the comments come first, and their line feed ends the
  -- last line of the document.
  cases hfooter : d.footer.isEmpty with
  | true =>
    have hnone : d.footerText written = [] := by simp [footerText, hfooter]
    rw [hnone, List.append_nil]
    rcases hapart with rfl | ⟨rest, rfl⟩
    · exact ⟨Text.lines written, [], [], by simp, .inl rfl, by simp, by simp, by simp⟩
    · refine ⟨Text.lines written, [], Text.lines rest, Text.lines_append .., .inl rfl, by simp,
        by simp, ?_⟩
      rintro (hnil | ⟨_, hrest, hall⟩)
      · simp at hnil
      · rw [(List.cons.inj hrest).2]
        exact hall
  | false =>
    have hlogged : Comments comments → ∀ line ∈ Text.lines comments, Logged line := by
      rintro (rfl | ⟨rest, rfl, hall⟩)
      · exact Text.allLines_nil logged_nil
      · exact Text.allLines_append.2 ⟨Text.allLines_nil logged_nil, hall⟩
    have htext : written ++ d.footerText written ++ comments
        = written ++ (separator written ++ (d.footer.render ++ '\n' :: comments)) := by
      simp [footerText, hfooter]
    have hlines : Text.lines (d.footer.render ++ '\n' :: comments)
        = Text.lines d.footer.render ++ Text.lines comments := Text.lines_append ..
    rw [htext]
    rcases separator_cases written with ⟨hsep, rfl⟩ | hsep | hsep
    · refine ⟨[], Text.lines d.footer.render, Text.lines comments, ?_, .inr ⟨rfl, rfl⟩,
        fun _ hline => .inr hline, fun _ => List.suffix_refl _, hlogged⟩
      rw [hsep]
      exact hlines
    · refine ⟨Text.lines written, Text.lines d.footer.render, Text.lines comments, ?_, .inl rfl,
        fun _ hline => .inr hline, fun _ => List.suffix_refl _, hlogged⟩
      rw [hsep, ← hlines]
      exact Text.lines_append ..
    · refine ⟨Text.lines written, [] :: Text.lines d.footer.render, Text.lines comments, ?_,
        .inl rfl, fun _ hline => List.mem_cons.1 hline, fun _ => List.suffix_cons .., hlogged⟩
      rw [hsep]
      refine (Text.lines_append written ('\n' :: (d.footer.render ++ '\n' :: comments))).trans ?_
      exact congrArg (Text.lines written ++ ·)
        ((Text.lines_append [] (d.footer.render ++ '\n' :: comments)).trans
          (congrArg ([[]] ++ ·) hlines))

/-- What is seen in an output is seen in the lines of the document, or from
the fence that is open behind them in the lines of the footer and of the
comments. -/
theorem Draft.seen_parts (d : Draft) {written comments : Text} (hapart : Apart comments) :
    ∃ added logged : List Text,
      (∀ marker url, seen (written ++ d.footerText written ++ comments) marker url
        = (seen written marker url
          || seenFrom (fenceAfter none (Text.lines written)) (added ++ logged) marker url))
      ∧ (∀ line ∈ added, line = [] ∨ line ∈ Text.lines d.footer.render)
      ∧ (d.footer.isEmpty = false → ∀ line ∈ Text.lines d.footer.render, line ∈ added)
      ∧ (Comments comments → ∀ line ∈ logged, Logged line) := by
  obtain ⟨before, added, logged, hlines, hbefore, hadded, hall, hlogged⟩ :=
    d.lines_parts written hapart
  refine ⟨added, logged, fun marker url => ?_, hadded,
    fun hfooter line hline => (hall hfooter).subset hline, hlogged⟩
  rw [seen, hlines]
  rcases hbefore with rfl | ⟨rfl, rfl⟩
  · exact Reference.seenFrom_append ..
  · rfl

/-! ## Lines that a run appends -/

theorem plain_of_logged {line : Text} (h : Logged line) : Plain line := by
  cases line with
  | nil => rfl
  | cons c rest =>
    have hc : c = '<' ∨ c = '-' ∨ c = '(' := by simpa [Logged, or_assoc] using h
    rcases hc with rfl | rfl | rfl
    · rfl
    · rfl
    · rfl

theorem not_defines_of_logged {line : Text} (h : Logged line) (marker url : Text) :
    defines line marker url = false := by
  cases line with
  | nil => rfl
  | cons c rest =>
    have hc : c = '<' ∨ c = '-' ∨ c = '(' := by simpa [Logged, or_assoc] using h
    rcases hc with rfl | rfl | rfl
    · rfl
    · rfl
    · rfl

/-- A bracket at the start of a line opens no fence and is not indented. -/
theorem plain_bracket (rest : Text) : Plain ('[' :: rest) := rfl

theorem isIndented_bracket (rest : Text) : CodeBlock.isIndented ('[' :: rest) = false := rfl

namespace Run

variable {σ : Type} (l : Linker σ) (input : Text) (s : σ)

/-- What the lines of the document become in the output of a run. -/
def written : Text :=
  let body := Text.join "\n" ((draft l input s).editedFrom 0 (lines input))
  let single := decide ((Text.endedLines input).length ≤ 1)
  let report := (draft l input s).reportBlock (planned l input).2 single (planned l input).1.length
  (draft l input s).written body report single

end Run

section

variable {σ : Type} {l : Linker σ} {input : Text} {s : σ}

/-- A URL that is new to the document, and to which a link refers, is defined
by the run. -/
theorem exists_definition {t : Step} (ht : t ∈ Run.steps l input s) {f : Search.Found}
    {marker : Text} (h : t.reference? = some (f, marker))
    (hnew : (Table.ofDocument (Run.source input)).contains f.url = false) :
    ∃ n ∈ Run.definitions l input s, n.label = marker ∧ n.url = f.url := by
  have hget := draft_get? l input s ht h
  have hnone : List.lookup f.url (Table.ofDocument (Run.source input)) = none := by
    simpa [Table.contains, Table.get?] using hnew
  rw [draft_links, Table.get?, List.lookup_append, hnone, Option.none_or] at hget
  obtain ⟨earlier, later, hlinks, -⟩ := List.lookup_eq_some_iff.1 hget
  have hmem : (f.url, marker) ∈ (Run.steps l input s).filterMap fun t =>
      t.definition?.map fun n => (n.url, n.label) := by
    rw [hlinks]
    exact List.mem_append_right _ (List.mem_cons_self ..)
  obtain ⟨u, hu, hdefined⟩ := List.mem_filterMap.1 hmem
  obtain ⟨n, hn, hpair⟩ := Option.map_eq_some_iff.1 hdefined
  obtain ⟨hurl, hlabel⟩ := Prod.mk.inj hpair
  exact ⟨n, List.mem_filterMap.2 ⟨u, hu, hn⟩, hlabel, hurl⟩

/-- A URL that the document defines has the marker of the document. -/
theorem mem_definitions_of_contains {t : Step} (ht : t ∈ Run.steps l input s) {f : Search.Found}
    {marker : Text} (h : t.reference? = some (f, marker))
    (hknown : (Table.ofDocument (Run.source input)).contains f.url = true) :
    (marker, f.url) ∈ Reference.definitions (Run.source input) := by
  have hget := draft_get? l input s ht h
  obtain ⟨label, hlabel⟩ := Option.isSome_iff_exists.1 hknown
  have hkept : (Run.draft l input s).links.get? f.url = some label := by
    rw [draft_links]
    exact Table.get?_of_prefix (List.prefix_append ..) hlabel
  rw [Option.some.inj (hget.symm.trans hkept)]
  obtain ⟨earlier, later, htable, -⟩ := List.lookup_eq_some_iff.1 hlabel
  refine Table.mem_definitions ?_
  rw [htable]
  exact List.mem_append_right _ (List.mem_cons_self ..)

/-- A definition is for a URL that was found. Its label is the link text of a
reference title, or a marker that is drawn. -/
theorem Step.found?_of_definition? {t : Step} {n : NewDefinition} (h : t.definition? = some n) :
    ∃ f, n.url = f.url ∧ (t.found? = some (.title, f) ∧ n.label = f.linkText
      ∨ t.found? = some (.reference, f) ∧ t.generated? = some n.label) := by
  unfold definition? at h
  split at h
  · next label f hlabel =>
    split at h
    · simp at h
    · next hnew =>
      obtain rfl := Option.some.inj h
      refine ⟨f, rfl, ?_⟩
      unfold label? at hlabel
      split at hlabel
      · next g hf =>
        obtain ⟨rfl, rfl⟩ := Prod.mk.inj (Option.some.inj hlabel)
        exact .inl ⟨hf, rfl⟩
      · next g hf =>
        obtain ⟨rfl, rfl⟩ := Prod.mk.inj (Option.some.inj hlabel)
        refine .inr ⟨hf, ?_⟩
        simp only [generated?, hf, if_neg hnew]
      · simp at hlabel
  · simp at h

/-- What a run writes begins its output. -/
theorem output_written (h : Span.occursIn input = true) :
    ∃ comments, (link l input s).1.output = Run.written l input s
        ++ (Run.draft l input s).footerText (Run.written l input s) ++ comments
      ∧ Apart comments ∧ ((Run.draft l input s).OneLined → Comments comments) := by
  rw [link_eq l input s h]
  exact Draft.output_eq ..

/-- What is seen in the lines of the document is seen in the output. -/
theorem seen_of_written (hspan : Span.occursIn input = true) {marker url : Text}
    (h : seen (Run.written l input s) marker url = true) :
    seen (link l input s).1.output marker url = true := by
  obtain ⟨comments, houtput, hapart, -⟩ := output_written (l := l) (s := s) hspan
  obtain ⟨added, logged, hseen, -⟩ := (Run.draft l input s).seen_parts hapart
  rw [houtput, hseen, h, Bool.true_or]

/-- A definition that a run adds is a reference of its footer. -/
theorem mem_references {n : NewDefinition} (hn : n ∈ Run.definitions l input s) :
    n.line ∈ (Run.draft l input s).footer.references
      ∧ (Run.draft l input s).footer.isEmpty = false := by
  have hmem : n.line ∈ (Run.draft l input s).footer.references := by
    rw [draft_definitions]
    exact List.mem_map_of_mem hn
  have hne : (Run.draft l input s).footer.references.isEmpty = false :=
    List.isEmpty_eq_false_iff.2 (List.ne_nil_of_mem hmem)
  exact ⟨hmem, by simp [Reference.Footer.isEmpty, hne]⟩

variable (hurls : ∀ t ∈ Run.steps l input s, ∀ found, t.found? = some found →
    IsWord found.2.url)
  (htitles : ∀ t ∈ Run.steps l input s, ∀ f, t.found? = some (.title, f) → '\n' ∉ f.linkText)

include hurls in
theorem isWord_of_mem_definitions {n : NewDefinition} (hn : n ∈ Run.definitions l input s) :
    IsWord n.url := by
  obtain ⟨t, ht, hdefined⟩ := List.mem_filterMap.1 hn
  obtain ⟨f, hurl, ⟨hfound, -⟩ | ⟨hfound, -⟩⟩ := Step.found?_of_definition? hdefined
  · exact hurl ▸ hurls t ht _ hfound
  · exact hurl ▸ hurls t ht _ hfound

/-- A label that is no link text is a drawn marker. -/
theorem mem_label {p : Char → Prop} (hdrawn : ∀ c, Text.isDecimal c = true ∨ c = '-' → p c)
    (h : ∀ t ∈ Run.steps l input s, ∀ f, t.found? = some (.title, f) → ∀ c ∈ f.linkText, p c)
    {n : NewDefinition} (hn : n ∈ Run.definitions l input s) : ∀ c ∈ n.label, p c := by
  obtain ⟨t, ht, hdefined⟩ := List.mem_filterMap.1 hn
  obtain ⟨f, -, ⟨hfound, hlabel⟩ | ⟨-, hgenerated⟩⟩ := Step.found?_of_definition? hdefined
  · rw [hlabel]
    exact h t ht f hfound
  · exact fun c hc => hdrawn c (mem_of_generated? ht hgenerated hc)

include htitles in
theorem feed_not_mem_label {n : NewDefinition} (hn : n ∈ Run.definitions l input s) :
    '\n' ∉ n.label := by
  have hall : ∀ c ∈ n.label, c ≠ '\n' := by
    refine mem_label (p := (· ≠ '\n')) ?_ ?_ hn
    · rintro c hdrawn rfl
      exact absurd hdrawn (by decide)
    · rintro t ht f hf c hc rfl
      exact htitles t ht f hf hc
  exact fun hfeed => hall '\n' hfeed rfl

/-- Where no link text of a reference title holds a bracket, no label does. -/
theorem isLabelChar_label (hbrackets : ∀ t ∈ Run.steps l input s, ∀ f,
      t.found? = some (.title, f) → ']' ∉ f.linkText)
    {n : NewDefinition} (hn : n ∈ Run.definitions l input s) :
    n.label.all Reference.isLabelChar = true := by
  have hall : ∀ c ∈ n.label, c ≠ ']' := by
    refine mem_label (p := (· ≠ ']')) ?_ ?_ hn
    · rintro c hdrawn rfl
      exact absurd hdrawn (by decide)
    · rintro t ht f hf c hc rfl
      exact hbrackets t ht f hf hc
  exact List.all_eq_true.2 fun c hc => bne_iff_ne.2 (hall c hc)

/-- A word has no line feed. -/
theorem feed_not_mem_word {url : Text} (h : IsWord url) : '\n' ∉ url := by
  intro hfeed
  exact absurd (List.all_eq_true.1 h.unbroken _ hfeed) (by decide)

include hurls htitles

/-- A definition that a run adds is one line. -/
theorem feed_not_mem_line {n : NewDefinition} (hn : n ∈ Run.definitions l input s) :
    '\n' ∉ n.line := by
  have hurl := feed_not_mem_word (isWord_of_mem_definitions hurls hn)
  have hlabel := feed_not_mem_label htitles hn
  have htitle := Reference.feed_not_mem_titlePart n.title
  rw [NewDefinition.line, Reference.definitionLine_eq]
  simp [hurl, hlabel, htitle]

/-- The lines of a footer: definitions that the run adds, footnotes, and
empty lines. -/
theorem footer_lines {line : Text}
    (h : line ∈ Text.lines (Run.draft l input s).footer.render) :
    line = [] ∨ (∃ n ∈ Run.definitions l input s, line = n.line)
      ∨ ∃ rest, line = '[' :: '^' :: rest := by
  have hrefs : ∀ line ∈ (Run.draft l input s).footer.references, '\n' ∉ line := by
    intro line hline
    rw [draft_definitions] at hline
    obtain ⟨n, hn, rfl⟩ := List.mem_map.1 hline
    exact feed_not_mem_line hurls htitles hn
  rcases Reference.Footer.mem_of_mem_lines_render hrefs (fun line hline => (footnote_line hline).1)
    h with hnil | href | hnote
  · exact .inl hnil
  · rw [draft_definitions] at href
    obtain ⟨n, hn, rfl⟩ := List.mem_map.1 href
    exact .inr (.inl ⟨n, hn, rfl⟩)
  · exact .inr (.inr (footnote_line hnote).2)

theorem plain_of_footer_lines {line : Text}
    (h : line = [] ∨ line ∈ Text.lines (Run.draft l input s).footer.render) : Plain line := by
  rcases h with rfl | h
  · rfl
  rcases footer_lines hurls htitles h with rfl | ⟨n, -, rfl⟩ | ⟨rest, rfl⟩
  · rfl
  · exact plain_bracket _
  · exact plain_bracket _

/-! ## Definitions that a reader finds -/

variable (hspan : Span.occursIn input = true)
include hspan

/-- A definition that a run adds is seen, unless a fence is open behind the
lines of the document. -/
theorem seen_of_mem_definitions {n : NewDefinition} (hn : n ∈ Run.definitions l input s)
    (hfence : fenceAfter none (Text.lines (Run.written l input s)) = none) :
    seen (link l input s).1.output n.label n.url = true := by
  obtain ⟨comments, houtput, hapart, -⟩ := output_written (l := l) (s := s) hspan
  obtain ⟨added, logged, hseen, hadded, hall, -⟩ := (Run.draft l input s).seen_parts hapart
  obtain ⟨hmem, hfooter⟩ := mem_references hn
  have hline : n.line = '[' :: (n.label ++ (']' :: ':' :: ' ' :: (n.url
      ++ Reference.titlePart n.title))) := Reference.definitionLine_eq ..
  have hin : n.line ∈ added := hall hfooter _ (Reference.Footer.mem_lines_render hmem
    (by rw [hline]; simp) (feed_not_mem_line hurls htitles hn))
  have hfrom : seenFrom none added n.label n.url = true := by
    refine Reference.seenFrom_none
      (fun line hline => plain_of_footer_lines hurls htitles (hadded line hline)) hin ?_ ?_
    · rw [hline]
      exact isIndented_bracket _
    · exact Reference.defines_definitionLine (isWord_of_mem_definitions hurls hn) ..
  rw [houtput, hseen, hfence, Reference.seenFrom_append, hfrom, Bool.true_or, Bool.or_true]

/-- What a run appends to a document defines no marker that the document
defines, and is not seen in a fence. -/
theorem written_or_of_seen (hshown : ∀ line ∈ (Run.draft l input s).shown.lines, '\n' ∉ line)
    (hbrackets : ∀ t ∈ Run.steps l input s, ∀ f, t.found? = some (.title, f) → ']' ∉ f.linkText)
    {t : Step} (ht : t ∈ Run.steps l input s) {f : Search.Found} {marker : Text}
    (href : t.reference? = some (f, marker))
    (h : seen (link l input s).1.output marker f.url = true) :
    seen (Run.written l input s) marker f.url = true
      ∨ (Table.ofDocument (Run.source input)).contains f.url = false
        ∧ fenceAfter none (Text.lines (Run.written l input s)) = none := by
  obtain ⟨comments, houtput, hapart, hcomments⟩ := output_written (l := l) (s := s) hspan
  obtain ⟨added, logged, hseen, hadded, -, hlogged⟩ := (Run.draft l input s).seen_parts hapart
  have hone : (Run.draft l input s).OneLined :=
    ⟨fun entry hentry => feed_not_mem_report
      (fun t ht found hfound => feed_not_mem_word (hurls t ht found hfound)) hentry, hshown⟩
  have hlogged := hlogged (hcomments hone)
  rw [houtput, hseen, Bool.or_eq_true] at h
  rcases h with h | h
  · exact .inl h
  refine .inr ?_
  have hplain : ∀ line ∈ added ++ logged, Plain line := by
    intro line hline
    rcases List.mem_append.1 hline with hline | hline
    · exact plain_of_footer_lines hurls htitles (hadded line hline)
    · exact plain_of_logged (hlogged line hline)
  -- No appended line closes a fence, so none is seen in an open one.
  have hfence : fenceAfter none (Text.lines (Run.written l input s)) = none := by
    cases hopen : fenceAfter none (Text.lines (Run.written l input s)) with
    | none => rfl
    | some fence =>
      have hmark := CodeBlock.marked_fenceAfter CodeBlock.marked_none
        (Text.lines (Run.written l input s)) fence hopen
      rw [hopen, Reference.seenFrom_fence hmark hplain] at h
      exact absurd h (by decide)
  refine ⟨?_, hfence⟩
  -- A URL of the document has the marker of the document, and no line that is
  -- appended defines that marker for it.
  cases hknown : (Table.ofDocument (Run.source input)).contains f.url with
  | false => rfl
  | true =>
    exfalso
    obtain ⟨hmarker, hhead, hword⟩ :=
      Reference.shape_of_mem_definitions (mem_definitions_of_contains ht href hknown)
    have hnone : ∀ line ∈ added ++ logged, defines line marker f.url = false := by
      intro line hline
      rcases List.mem_append.1 hline with hline | hline
      · by_contra hdefines
        rw [Bool.not_eq_false] at hdefines
        rcases hadded line hline with rfl | hline
        · rw [Reference.defines_nil] at hdefines
          exact absurd hdefines (by decide)
        rcases footer_lines hurls htitles hline with rfl | ⟨n, hn, rfl⟩ | ⟨rest, rfl⟩
        · rw [Reference.defines_nil] at hdefines
          exact absurd hdefines (by decide)
        · have hurl : f.url = n.url :=
            Reference.eq_of_defines_definitionLine (isLabelChar_label hbrackets hn)
              (isWord_of_mem_definitions hurls hn) hmarker hword hdefines
          have hnew := (nodup_definitions l input s).2 n hn
          rw [← hurl, hknown] at hnew
          exact absurd hnew (by decide)
        · exact hhead (Reference.head?_of_defines_footnote hdefines)
      · exact not_defines_of_logged (hlogged line hline) ..
    rw [Reference.seenFrom_of_forall_not hnone] at h
    exact absurd h (by decide)

end

/-- **When a reader finds what a link refers to.** The output shows the
definition of a marker that a link refers to if the lines of the document
show it; or if the document did not define the URL, and no fence is open
behind these lines. Otherwise it does not show it, unless an error that is
written holds a line feed, or a reference title a bracket. -/
theorem reference_seen_iff {σ : Type} {l : Linker σ} {input : Text} {s : σ}
    (hspan : Span.occursIn input = true)
    (hurls : ∀ t ∈ Run.steps l input s, ∀ found, t.found? = some found → IsWord found.2.url)
    (htitles : ∀ t ∈ Run.steps l input s, ∀ f, t.found? = some (.title, f) → '\n' ∉ f.linkText)
    {t : Step} (ht : t ∈ Run.steps l input s) {f : Search.Found} {marker : Text}
    (href : t.reference? = some (f, marker)) :
    (seen (Run.written l input s) marker f.url = true
        ∨ (Table.ofDocument (Run.source input)).contains f.url = false
          ∧ fenceAfter none (Text.lines (Run.written l input s)) = none →
      seen (link l input s).1.output marker f.url = true)
    ∧ ((∀ line ∈ (Run.draft l input s).shown.lines, '\n' ∉ line) →
      (∀ t ∈ Run.steps l input s, ∀ f, t.found? = some (.title, f) → ']' ∉ f.linkText) →
      seen (link l input s).1.output marker f.url = true →
        seen (Run.written l input s) marker f.url = true
        ∨ (Table.ofDocument (Run.source input)).contains f.url = false
          ∧ fenceAfter none (Text.lines (Run.written l input s)) = none) := by
  refine ⟨?_, fun hshown hbrackets h =>
    written_or_of_seen hurls htitles hspan hshown hbrackets ht href h⟩
  rintro (hwritten | ⟨hnew, hfence⟩)
  · exact seen_of_written hspan hwritten
  · obtain ⟨n, hn, rfl, hurl⟩ := exists_definition ht href hnew
    rw [← hurl]
    exact seen_of_mem_definitions hurls htitles hspan hn hfence

/-- A page that is new to the document, and its definition in the footer. -/
theorem reference_seen_new_page :
    ∃ t ∈ Run.steps pageLinker "[x](!g rust)" (), ∃ f marker,
      t.reference? = some (f, marker)
      ∧ seen (link pageLinker "[x](!g rust)" ()).1.output marker f.url = true := by
  have hfirst : ((Run.steps pageLinker "[x](!g rust)" ()).head?).bind Step.reference?
      = some (⟨"https://example.org/rust", [], "x", .link, false, []⟩, "0001".toList) := by
    decide +kernel
  obtain ⟨t, hhead, href⟩ := Option.bind_eq_some_iff.1 hfirst
  refine ⟨t, List.mem_of_head? hhead, _, _, href, ?_⟩
  refine (reference_seen_iff (by decide) ?_ ?_ (List.mem_of_head? hhead) href).1
    (.inr ⟨by decide +kernel, by decide +kernel⟩)
  · exact forall_found_iff.2 (by decide +kernel)
  · intro u hu f hf
    exact (forall_found_iff (P := fun found => found.1 = .title → '\n' ∉ found.2.linkText)).2
      (by decide +kernel) u hu _ hf rfl

/-- A definition inside a fence: the table has its marker, so the run refers
to it and appends nothing, but no reader sees it. -/
theorem reference_not_seen_in_fence :
    ¬ ∀ t ∈ Run.steps pageLinker "```\n[1]: https://example.org/rust\n```\n[x](!g rust)" (),
      ∀ f marker, t.reference? = some (f, marker) →
        seen (link pageLinker "```\n[1]: https://example.org/rust\n```\n[x](!g rust)" ()).1.output
          marker f.url = true := by
  intro h
  have hfirst : ((Run.steps pageLinker
      "```\n[1]: https://example.org/rust\n```\n[x](!g rust)" ()).head?).bind Step.reference?
      = some (⟨"https://example.org/rust", [], "x", .link, false, []⟩, "1".toList) := by
    decide +kernel
  have hunseen : seen (link pageLinker
      "```\n[1]: https://example.org/rust\n```\n[x](!g rust)" ()).1.output "1"
        "https://example.org/rust" = false := by
    decide +kernel
  obtain ⟨t, hhead, href⟩ := Option.bind_eq_some_iff.1 hfirst
  have hseen := h t (List.mem_of_head? hhead) _ _ href
  rw [hunseen] at hseen
  exact absurd hseen (by decide)

end InlineSearch.Document
