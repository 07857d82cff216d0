/-
InlineSearch.Proofs.Document.Titles — what a reference title leaves behind.

A reference title that is found goes with its line, and a definition of its
link text is to come into the footer. Line and definition do not depend on
the same: the line always goes, and the definition comes only for a URL that
has no marker yet. `title_defined_iff` says what is left then. A URL without
a marker gets its definition, whatever the link text is. For any other URL
the output defines the link text only if the lines that stay define it, or
a definition of the run happens to have the same label.
-/
import InlineSearch.Proofs.Document.Closure

namespace InlineSearch

/-! ## Labels that a text defines -/

namespace Reference

/-- Whether a line of a text defines a label for a URL. -/
def defined (t label url : Text) : Bool := (Text.lines t).any fun line => defines line label url

theorem defined_iff {t label url : Text} :
    defined t label url = true ↔ ∃ line ∈ Text.lines t, defines line label url = true :=
  List.any_eq_true

theorem defined_nil (label url : Text) : defined [] label url = false := rfl

/-- A text that can be the label of a reference: one line that holds no closing
bracket and does not begin as the label of a footnote does. -/
structure IsLabel (t : Text) : Prop where
  feed : '\n' ∉ t
  bracket : ']' ∉ t
  caret : t.head? ≠ some '^'

instance (t : Text) : Decidable (IsLabel t) :=
  decidable_of_iff ('\n' ∉ t ∧ ']' ∉ t ∧ t.head? ≠ some '^')
    ⟨fun ⟨hfeed, hbracket, hcaret⟩ => ⟨hfeed, hbracket, hcaret⟩,
      fun h => ⟨h.feed, h.bracket, h.caret⟩⟩

theorem IsLabel.all_isLabelChar {t : Text} (h : IsLabel t) : t.all isLabelChar = true :=
  List.all_eq_true.2 fun _ hc => bne_iff_ne.2 fun heq => h.bracket (heq ▸ hc)

end Reference

namespace Document

open Reference (IsLabel IsWord defined defines)

/-! ## The definition of a title -/

/-- A title whose URL has no marker is defined by its link text. -/
theorem Step.definition?_of_title {t : Step} {f : Search.Found}
    (htitle : t.found? = some (.title, f)) (hnew : t.before.links.contains f.url = false) :
    t.definition?
      = some ⟨f.linkText, f.url, Draft.writtenTitle t.planned.config f⟩ := by
  have hlabel : t.label? = some (f.linkText, f) := by simp only [label?, htitle]
  simp only [definition?, hlabel, hnew, Bool.false_eq_true, ↓reduceIte]

section

variable {σ : Type} {l : Linker σ} {input : Text} {s : σ}

/-- The line of a title that was found is left out. -/
theorem contains_deleted_of_title {t : Step} (ht : t ∈ Run.steps l input s) {f : Search.Found}
    (htitle : t.found? = some (.title, f)) :
    (Run.draft l input s).deleted.contains t.planned.line = true := by
  have hdrops : t.dropsLine = true := by
    rw [Step.dropsLine, htitle]
    rfl
  rw [Run.contains_deleted, Run.drops, List.any_eq_true]
  exact ⟨t, ht, by simp [hdrops]⟩

variable (hspan : Span.occursIn input = true)
include hspan

/-- The lines of a definition that a run adds stand in its output. -/
theorem lines_infix_output {n : NewDefinition} (hn : n ∈ Run.definitions l input s) :
    Text.lines n.line <:+: Text.lines (link l input s).1.output := by
  obtain ⟨comments, houtput, hapart, -⟩ := output_written (l := l) (s := s) hspan
  obtain ⟨before, added, logged, hlines, -, -, hall, -⟩ :=
    (Run.draft l input s).lines_parts (Run.written l input s) hapart
  obtain ⟨hmem, hfooter⟩ := mem_references hn
  have hline : n.line ≠ [] := by
    rw [NewDefinition.line, Reference.definitionLine_eq]
    exact List.cons_ne_nil _ _
  have hadded : Text.lines n.line <:+: added :=
    (Reference.Footer.lines_infix_render hmem hline).trans (hall hfooter).isInfix
  rw [houtput, hlines]
  exact hadded.trans ⟨before, logged, List.append_assoc ..⟩

variable
  (hurls : ∀ t ∈ Run.steps l input s, ∀ found, t.found? = some found → IsWord found.2.url)
  (hlabels : ∀ t ∈ Run.steps l input s, ∀ f, t.found? = some (.title, f) → IsLabel f.linkText)
include hurls hlabels

/-- A label is defined where the lines of the document or a definition of the run
define it. -/
theorem defined_of_written_or {label url : Text}
    (h : defined (Run.written l input s) label url = true
      ∨ ∃ n ∈ Run.definitions l input s, n.label = label ∧ n.url = url) :
    defined (link l input s).1.output label url = true := by
  rcases h with hwritten | ⟨n, hn, rfl, rfl⟩
  · obtain ⟨comments, houtput, hapart, -⟩ := output_written (l := l) (s := s) hspan
    obtain ⟨before, added, logged, hlines, hbefore, -⟩ :=
      (Run.draft l input s).lines_parts (Run.written l input s) hapart
    rw [defined, houtput, hlines, List.any_append, Bool.or_eq_true]
    rcases hbefore with rfl | ⟨-, hnil⟩
    · exact .inl hwritten
    · rw [hnil, Reference.defined_nil] at hwritten
      exact absurd hwritten Bool.false_ne_true
  · have hlines := lines_infix_output hspan hn
    rw [Text.lines_eq_singleton
      (feed_not_mem_line hurls (fun t ht f hf => (hlabels t ht f hf).feed) hn)] at hlines
    exact Reference.defined_iff.2 ⟨n.line, hlines.subset (List.mem_singleton.2 rfl),
      Reference.defines_definitionLine (isWord_of_mem_definitions hurls hn) ..⟩

/-- No other line of an output defines a label. -/
theorem written_or_of_defined (hshown : ∀ line ∈ (Run.draft l input s).shown.lines, '\n' ∉ line)
    {label url : Text} (hlabel : IsLabel label) (hurl : IsWord url)
    (h : defined (link l input s).1.output label url = true) :
    defined (Run.written l input s) label url = true
      ∨ ∃ n ∈ Run.definitions l input s, n.label = label ∧ n.url = url := by
  obtain ⟨comments, houtput, hapart, hcomments⟩ := output_written (l := l) (s := s) hspan
  obtain ⟨before, added, logged, hlines, hbefore, hadded, -, hlogged⟩ :=
    (Run.draft l input s).lines_parts (Run.written l input s) hapart
  have hone : (Run.draft l input s).OneLined :=
    ⟨fun entry hentry => feed_not_mem_report
      (fun t ht found hfound => feed_not_mem_word (hurls t ht found hfound)) hentry, hshown⟩
  obtain ⟨line, hline, hdefines⟩ := Reference.defined_iff.1 h
  rw [houtput, hlines, List.mem_append, List.mem_append] at hline
  have hempty : line ≠ [] := by
    rintro rfl
    rw [Reference.defines_nil] at hdefines
    exact absurd hdefines Bool.false_ne_true
  rcases hline with hline | hline | hline
  · -- A line that is written.
    rcases hbefore with rfl | ⟨rfl, -⟩
    · exact .inl (Reference.defined_iff.2 ⟨line, hline, hdefines⟩)
    · exact absurd hline List.not_mem_nil
  · -- A line of the footer.
    have hfooter := footer_lines hurls (fun t ht f hf => (hlabels t ht f hf).feed)
      ((hadded line hline).resolve_left hempty)
    rcases hfooter with hnil | ⟨n, hn, rfl⟩ | ⟨rest, rfl⟩
    · exact absurd hnil hempty
    · have hown := isLabelChar_label (fun t ht f hf => (hlabels t ht f hf).bracket) hn
      refine .inr ⟨n, hn, ?_, ?_⟩
      · exact (Reference.label_eq_of_defines_definitionLine hown hlabel.all_isLabelChar
          hdefines).symm
      · exact (Reference.eq_of_defines_definitionLine hown (isWord_of_mem_definitions hurls hn)
          hlabel.all_isLabelChar hurl hdefines).symm
    · exact absurd (Reference.head?_of_defines_footnote hdefines) hlabel.caret
  · -- A line of a comment.
    rw [not_defines_of_logged (hlogged (hcomments hone) line hline)] at hdefines
    exact absurd hdefines Bool.false_ne_true

end

/-- **What a reference title leaves behind.** Its line goes. If its URL had no
marker before, the lines of its definition stand in the output. In any case, the
output defines the link text for the URL exactly if the lines that are written
define it, or a definition that the run adds has this label and URL. -/
theorem title_defined_iff {σ : Type} {l : Linker σ} {input : Text} {s : σ}
    (hspan : Span.occursIn input = true) {t : Step} (ht : t ∈ Run.steps l input s)
    {f : Search.Found} (htitle : t.found? = some (.title, f)) :
    (Run.draft l input s).deleted.contains t.planned.line = true
    ∧ (t.before.links.contains f.url = false →
      Text.lines (Reference.definitionLine f.linkText f.url
          (Draft.writtenTitle t.planned.config f))
        <:+: Text.lines (link l input s).1.output)
    ∧ ((∀ t ∈ Run.steps l input s, ∀ found, t.found? = some found → IsWord found.2.url) →
      (∀ t ∈ Run.steps l input s, ∀ f, t.found? = some (.title, f) → IsLabel f.linkText) →
      (∀ line ∈ (Run.draft l input s).shown.lines, '\n' ∉ line) →
      (defined (link l input s).1.output f.linkText f.url = true
        ↔ defined (Run.written l input s) f.linkText f.url = true
          ∨ ∃ n ∈ Run.definitions l input s, n.label = f.linkText ∧ n.url = f.url)) := by
  refine ⟨contains_deleted_of_title ht htitle, fun hnew => ?_, fun hurls hlabels hshown => ?_⟩
  · have hn := List.mem_filterMap.2 ⟨t, ht, Step.definition?_of_title htitle hnew⟩
    exact lines_infix_output hspan hn
  · exact ⟨written_or_of_defined hspan hurls hlabels hshown (hlabels t ht f htitle)
      (hurls t ht _ htitle), defined_of_written_or hspan hurls hlabels⟩

/-- A title whose URL is new, before a link to the same page. -/
theorem title_defined_new_page :
    ∃ t ∈ Run.steps pageLinker "[Rust](!g rust:)\n[a](!g rust)" (), ∃ f,
      t.found? = some (.title, f)
      ∧ defined (link pageLinker "[Rust](!g rust:)\n[a](!g rust)" ()).1.output
        f.linkText f.url = true := by
  have hfirst : ((Run.steps pageLinker "[Rust](!g rust:)\n[a](!g rust)" ()).head?).bind Step.found?
      = some (.title, ⟨"https://example.org/rust", [], "Rust", .link, false, []⟩) := by
    decide +kernel
  obtain ⟨t, hhead, htitle⟩ := Option.bind_eq_some_iff.1 hfirst
  refine ⟨t, List.mem_of_head? hhead, _, htitle, ?_⟩
  refine ((title_defined_iff (by decide) (List.mem_of_head? hhead) htitle).2.2 ?_ ?_
    (by decide +kernel)).2 (.inr (by decide +kernel))
  · exact forall_found_iff.2 (by decide +kernel)
  · intro u hu f hf
    exact (forall_found_iff (P := fun found => found.1 = .title → IsLabel found.2.linkText)).2
      (by decide +kernel) u hu _ hf rfl

/-- The page has a marker by the time the title is found: its line goes, and
nothing in the output defines it. -/
theorem title_without_definition :
    ¬ ∀ t ∈ Run.steps pageLinker "[a](!g rust)\n\n[Rust](!g rust:)" (), ∀ f,
      t.found? = some (.title, f) →
        defined (link pageLinker "[a](!g rust)\n\n[Rust](!g rust:)" ()).1.output
          f.linkText f.url = true := by
  intro h
  have hfound : ((Run.steps pageLinker "[a](!g rust)\n\n[Rust](!g rust:)" ()).getLast?).bind
      Step.found? = some (.title, ⟨"https://example.org/rust", [], "Rust", .link, false, []⟩) := by
    decide +kernel
  obtain ⟨t, hlast, htitle⟩ := Option.bind_eq_some_iff.1 hfound
  have hdefined := h t (List.mem_of_getLast? hlast) _ htitle
  exact absurd hdefined (by decide +kernel)

end Document

end InlineSearch
