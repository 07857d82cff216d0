/-
InlineSearch.Proofs.Document.Separation — when the definitions that a run adds
are separated from those of the other kind.

A footer stands directly behind a line that is a definition, of whatever kind,
and behind an empty line otherwise (`gap`). So the paragraph that it opens can
hold definitions of both kinds: `definitions_separated_iff` says that only this
paragraph matters, and that its definitions have to be of one kind.
-/
import InlineSearch.Proofs.Document.Closure
import InlineSearch.Proofs.Reference.Paragraphs

namespace InlineSearch.Document

open Reference (MarkerKind IsWord definedKind? definesReference kindBehind separated)

/-! ## In front of a footer -/

/-- The lines in front of a footer. -/
def linesBefore (written : Text) : List Text := if written.isEmpty then [] else Text.lines written

/-- The empty line between some lines and a footer. -/
def gap (before : List Text) : List Text :=
  if before.getLast?.all definesReference then [] else [[]]

/-- The kind of the definition that a footer is joined on to. -/
def joinedKind? (before : List Text) : Option MarkerKind :=
  (before.getLast?.filter definesReference).bind definedKind?

/-- What a footer is joined on to is the last definition of the paragraph that it
goes on with. -/
theorem kindBehind_gap (before : List Text) :
    kindBehind none (before ++ gap before) = joinedKind? before := by
  rcases List.eq_nil_or_concat before with rfl | ⟨init, last, rfl⟩
  · rfl
  rw [List.concat_eq_append, gap, joinedKind?, List.getLast?_concat, Option.all_some]
  cases hdefines : definesReference last with
  | false =>
    rw [if_neg Bool.false_ne_true, Reference.kindBehind_append,
      Option.filter_some_neg (by simpa using hdefines)]
    rfl
  | true =>
    have hkind := Reference.isSome_definedKind? hdefines
    obtain ⟨kind, hsome⟩ := Option.isSome_iff_exists.1 hkind
    rw [if_pos rfl, List.append_nil, Reference.kindBehind_append, Option.filter_some_pos hdefines]
    change Reference.nextKind _ last = definedKind? last
    rw [Reference.nextKind, Reference.isBlankText_of_definedKind? hkind, hsome]
    rfl

namespace Draft

variable {d : Draft} {written : Text}

/-- The separator writes the empty line. -/
theorem separator_eq (hfeed : written.getLast? ≠ some '\n') (hne : written ≠ []) :
    separator written = if gap (Text.lines written) = [] then "\n" else "\n\n" := by
  obtain ⟨last, hlast⟩ : ∃ last, (Text.lines written).getLast? = some last :=
    Option.isSome_iff_exists.1 (List.getLast?_isSome.2 (Text.lines_ne_nil written))
  simp only [separator, Text.getLast?_endedLines hne hfeed, gap, hlast, Option.all_some]
  cases definesReference last with
  | true => rfl
  | false => rfl

/-- The lines of an output with a footer: what stands before it, the empty line
if there is one, the footer, and the comments. -/
theorem lines_footer (hfooter : d.footer.isEmpty = false)
    (hfeed : written.getLast? ≠ some '\n') (comments : Text) :
    Text.lines (written ++ d.footerText written ++ comments) = linesBefore written
      ++ (gap (linesBefore written) ++ (Text.lines d.footer.render ++ Text.lines comments)) := by
  have htext : written ++ d.footerText written ++ comments
      = written ++ (separator written ++ (d.footer.render ++ '\n' :: comments)) := by
    simp [footerText, hfooter]
  rw [htext, ← Text.lines_append]
  by_cases hne : written = []
  · subst hne
    rfl
  rw [linesBefore, List.isEmpty_eq_false_iff.2 hne, if_neg Bool.false_ne_true,
    separator_eq hfeed hne]
  generalize d.footer.render ++ '\n' :: comments = rest
  have hgap : gap (Text.lines written) = [] ∨ gap (Text.lines written) = [[]] := by
    unfold gap
    split
    · exact .inl rfl
    · exact .inr rfl
  rcases hgap with hgap | hgap
  · rw [hgap]
    exact Text.lines_append ..
  · rw [hgap]
    exact (Text.lines_append ..).trans (congrArg _ (Text.lines_append [] rest))

end Draft

/-! ## Runs -/

namespace Run

variable {σ : Type} (l : Linker σ) (input : Text) (s : σ)

/-- The lines in front of the footer of a run. -/
def before : List Text := linesBefore (written l input s)

/-- The lines of the footer of a run, behind the empty line if there is one. -/
def appended : List Text :=
  gap (before l input s) ++ Text.lines (draft l input s).footer.render

end Run

section

variable {σ : Type} {l : Linker σ} {input : Text} {s : σ}

theorem getLast?_written (hfooter : (Run.draft l input s).footer.isEmpty = false) :
    (Run.written l input s).getLast? ≠ some '\n' := by
  intro hfeed
  have hlast := Text.getLast?_trimEnd_any
    (Text.join "\n" ((Run.draft l input s).editedFrom 0 (Run.lines input)))
  have hwritten : Run.written l input s
      = Text.trimEnd (Text.join "\n" ((Run.draft l input s).editedFrom 0 (Run.lines input))) := by
    simp [Run.written, Draft.written, hfooter]
  rw [← hwritten, hfeed] at hlast
  exact absurd hlast (by decide)

/-- A reference of the footer is a definition that the run adds. -/
theorem bracket_of_mem_references {line : Text}
    (h : line ∈ (Run.draft l input s).footer.references) : ∃ n ∈ Run.definitions l input s,
      line = n.line ∧ n.line = '[' :: (n.label ++ (']' :: ':' :: ' ' :: (n.url
        ++ Reference.titlePart n.title))) := by
  rw [draft_definitions] at h
  obtain ⟨n, hn, rfl⟩ := List.mem_map.1 h
  exact ⟨n, hn, rfl, Reference.definitionLine_eq ..⟩

/-- The footer of a run is separated if its first paragraph is. -/
theorem separated_appended (hfooter : (Run.draft l input s).footer.isEmpty = false) :
    separated (kindBehind none (Run.before l input s)) (Run.appended l input s)
      = separated (joinedKind? (Run.before l input s)) (Run.draft l input s).footer.opening := by
  have hgap : ∀ last?, separated last? (gap (Run.before l input s)) = true := by
    intro last?
    unfold gap
    split
    · rfl
    · exact Reference.separated_cons.2 ⟨(fun kind hkind => by cases hkind), rfl⟩
  rw [Run.appended, Reference.separated_append, hgap, Bool.true_and,
    ← Reference.kindBehind_append, kindBehind_gap]
  refine Reference.Footer.separated_render hfooter (fun hnil => ?_) (fun note hnote => ?_) _
  · obtain ⟨n, -, hline, hbracket⟩ := bracket_of_mem_references hnil
    cases hline.trans hbracket
  · obtain ⟨hfeed, rest, rfl⟩ := footnote_line hnote
    exact ⟨List.cons_ne_nil _ _, hfeed⟩

variable (hurls : ∀ t ∈ Run.steps l input s, ∀ found, t.found? = some found → IsWord found.2.url)
  (hlabels : ∀ t ∈ Run.steps l input s, ∀ f, t.found? = some (.title, f) →
    '\n' ∉ f.linkText ∧ f.linkText.head? ≠ some '^')
include hlabels

/-- A definition that a run adds is not that of a footnote. -/
theorem link_of_mem_definitions {n : NewDefinition} (hn : n ∈ Run.definitions l input s)
    {kind : MarkerKind} (h : definedKind? n.line = some kind) : kind = .link := by
  have hcaret : n.label.head? ≠ some '^' := by
    obtain ⟨t, ht, hdefined⟩ := List.mem_filterMap.1 hn
    obtain ⟨f, -, ⟨hfound, hlabel⟩ | ⟨-, hgenerated⟩⟩ := Step.found?_of_definition? hdefined
    · rw [hlabel]
      exact (hlabels t ht f hfound).2
    · intro hhead
      exact absurd (mem_of_generated? ht hgenerated (List.mem_of_head? hhead)) (by decide)
  rw [NewDefinition.line, Reference.definitionLine_eq] at h
  rw [Reference.eq_of_definedKind?_bracket h, if_neg]
  rw [beq_iff_eq]
  cases hlabel : n.label with
  | nil => exact fun hhead => by cases hhead
  | cons c label => rwa [hlabel] at hcaret

include hurls

/-- The first paragraph of a footer holds definitions of one kind: it is one
footnote, or references of one line each. -/
theorem opening_bracketed :
    (∀ line ∈ (Run.draft l input s).footer.opening, ∃ rest, line = '[' :: rest)
      ∧ ((Run.draft l input s).footer.opening.filterMap definedKind?).Pairwise (· = ·) := by
  unfold Reference.Footer.opening
  split
  · cases hnotes : (Run.draft l input s).footer.footnotes with
    | nil => exact ⟨(fun line hline => by cases hline), List.Pairwise.nil⟩
    | cons note notes =>
      obtain ⟨-, rest, hrest⟩ := footnote_line (hnotes ▸ List.mem_cons_self ..)
      constructor
      · intro line hline
        exact ⟨_, (List.mem_singleton.1 hline).trans hrest⟩
      · rw [List.take_succ_cons, List.take_zero]
        cases hkind : definedKind? note <;> simp [hkind]
  · next hne =>
    have hlines : ∀ line ∈ Text.lines (Run.draft l input s).footer.sorted,
        ∃ n ∈ Run.definitions l input s, line = n.line := by
      intro line hline
      have hmem := Reference.Footer.mem_references_of_mem_lines_sorted (by simpa using hne)
        (fun reference hmem => ?_) hline
      · obtain ⟨n, hn, heq, -⟩ := bracket_of_mem_references hmem
        exact ⟨n, hn, heq⟩
      · obtain ⟨n, hn, rfl, -⟩ := bracket_of_mem_references hmem
        exact feed_not_mem_line hurls (fun t ht f hf => (hlabels t ht f hf).1) hn
    constructor
    · intro line hline
      obtain ⟨n, -, rfl⟩ := hlines line hline
      exact ⟨_, Reference.definitionLine_eq ..⟩
    · have hlink : ∀ kind ∈ (Text.lines (Run.draft l input s).footer.sorted).filterMap definedKind?,
          kind = .link := by
        intro kind hkind
        obtain ⟨line, hline, hkind⟩ := List.mem_filterMap.1 hkind
        obtain ⟨n, hn, rfl⟩ := hlines line hline
        exact link_of_mem_definitions hlabels hn hkind
      exact List.pairwise_of_forall_mem_list fun a ha b hb => (hlink a ha).trans (hlink b hb).symm

end

/-- **When added definitions are separated** from those of the other kind. What
matters is the first paragraph of the footer, with the definition that it is
joined on to. If no reference title has a link text that begins as a footnote's
id does, this paragraph is separated exactly if its own definitions have the
kind of the one that they are joined on to. -/
theorem definitions_separated_iff {σ : Type} {l : Linker σ} {input : Text} {s : σ}
    (hspan : Span.occursIn input = true)
    (hfooter : (Run.draft l input s).footer.isEmpty = false) :
    (∃ comments, Text.lines (link l input s).1.output
      = Run.before l input s ++ (Run.appended l input s ++ Text.lines comments))
    ∧ (separated (kindBehind none (Run.before l input s)) (Run.appended l input s) = true
      ↔ separated (joinedKind? (Run.before l input s)) (Run.draft l input s).footer.opening = true)
    ∧ ((∀ t ∈ Run.steps l input s, ∀ found, t.found? = some found → IsWord found.2.url) →
      (∀ t ∈ Run.steps l input s, ∀ f, t.found? = some (.title, f) →
        '\n' ∉ f.linkText ∧ f.linkText.head? ≠ some '^') →
      (separated (kindBehind none (Run.before l input s)) (Run.appended l input s) = true
        ↔ ∀ kind ∈ joinedKind? (Run.before l input s),
          ∀ added ∈ (Run.draft l input s).footer.opening.filterMap definedKind?,
            kind = added)) := by
  refine ⟨?_, by rw [separated_appended hfooter], fun hurls hlabels => ?_⟩
  · obtain ⟨comments, houtput, -⟩ := output_written (l := l) (s := s) hspan
    refine ⟨comments, ?_⟩
    rw [houtput, Draft.lines_footer hfooter (getLast?_written hfooter), Run.appended,
      List.append_assoc]
    rfl
  · obtain ⟨hbrackets, hone⟩ := opening_bracketed hurls hlabels
    have hblank : ∀ line ∈ (Run.draft l input s).footer.opening, Text.isBlankText line = false := by
      intro line hline
      obtain ⟨rest, rfl⟩ := hbrackets line hline
      rfl
    rw [separated_appended hfooter, Reference.separated_iff_pairwise hblank, List.pairwise_append]
    cases joinedKind? (Run.before l input s) with
    | none => simp [hone]
    | some kind => simp [hone]

/-- Definitions of both kinds behind a document that ends with that of a link. -/
theorem definitions_separated_behind_link :
    let input : Text := "[x](!g rust)\n[](^new)\n\n[^1]: A note.\n\n[7]: https://old.example"
    Run.appended pageLinker input () = ["[0008]: https://example.org/rust".toList, [],
        "[^fn0001]: new".toList]
      ∧ separated (kindBehind none (Run.before pageLinker input ()))
        (Run.appended pageLinker input ()) = true := by
  intro input
  refine ⟨by decide +kernel, ?_⟩
  obtain ⟨-, -, hkinds⟩ :=
    @definitions_separated_iff Unit pageLinker input () (by decide +kernel) (by decide +kernel)
  refine (hkinds (forall_found_iff.2 (by decide +kernel)) ?_).2 (by decide +kernel)
  intro t ht f hf
  exact (forall_found_iff (P := fun found => found.1 = .title →
    '\n' ∉ found.2.linkText ∧ found.2.linkText.head? ≠ some '^')).2 (by decide +kernel)
      t ht _ hf rfl

/-- A footnote at the end of the document: the new reference comes directly
behind it. -/
theorem reference_behind_footnote :
    let input : Text := "See [x](!g rust).\n\n[^1]: A note."
    (link pageLinker input ()).1.output
        = ("See [x][0001].\n\n[^1]: A note.\n[0001]: https://example.org/rust\n" : Text)
      ∧ separated (kindBehind none (Run.before pageLinker input ()))
        (Run.appended pageLinker input ()) = false := by
  decide +kernel

end InlineSearch.Document
