/-
InlineSearch.Proofs.Document.Fences — fenced code stays as it is.

A run plans nothing on a line of a fence, so it neither edits nor drops one
(`fencedLines_rewritten`). Two other steps of a run do not look at fences:

* the comments of earlier runs are removed from the whole text before it
  is cut into lines;
* the blanks at the end of the text are trimmed before a footer, and a
  fence may reach to the end (`TrimKeeps`).

Where these two leave the fenced lines alone, they all stand in the output,
in their order (`fenced_lines_kept`).
-/
import InlineSearch.Proofs.Comments
import InlineSearch.Proofs.Document.Closure

namespace InlineSearch

/-! ## Fenced lines -/

/-- Whether a line belongs to a fenced block, the lines that open and close it
included. -/
def LineKind.isFenced (kind : LineKind) : Bool := kind == .fence || kind == .fenced

theorem LineKind.isCode_of_isFenced {kind : LineKind} (h : kind.isFenced = true) :
    kind.isCode = true := by
  cases kind with
  | fence => rfl
  | fenced => rfl
  | indented => rfl
  | text => exact absurd h (by decide)

namespace CodeBlock

/-- The fenced lines among lines with their kinds. -/
def fencedLines (lines : List (LineKind × Text)) : List Text :=
  (lines.filter (·.1.isFenced)).map Prod.snd

/-- The fenced lines of a text. -/
def fenced (t : Text) : List Text :=
  fencedLines ((classifyLines (Text.lines t)).zip (Text.lines t))

theorem fencedLines_cons (kind : LineKind) (line : Text) (rest : List (LineKind × Text)) :
    fencedLines ((kind, line) :: rest)
      = (if kind.isFenced then [line] else []) ++ fencedLines rest := by
  unfold fencedLines
  rw [List.filter_cons]
  cases kind.isFenced <;> rfl

/-- Behind a line that is not fenced no fence is open, if none was. -/
theorem fence_of_not_fenced {line : Text} (h : (classify none line).1.isFenced = false) :
    (classify none line).2 = none := by
  unfold classify at h ⊢
  dsimp only at h ⊢
  split
  · rfl
  · next hindent =>
    rw [if_neg hindent] at h
    split at h
    · simp [LineKind.isFenced] at h
    · rfl

theorem fenced_sublist (t : Text) : (fenced t).Sublist (Text.lines t) := by
  have hsnd : ((classifyLines (Text.lines t)).zip (Text.lines t)).map Prod.snd = Text.lines t :=
    List.map_snd_zip (Nat.le_of_eq (length_classifyLines _).symm)
  have hsublist := List.Sublist.map Prod.snd (List.filter_sublist
    (l := (classifyLines (Text.lines t)).zip (Text.lines t)) (p := (·.1.isFenced)))
  rwa [hsnd] at hsublist

end CodeBlock

open CodeBlock (fenced fencedLines)

/-- Fenced lines are lines of the text that lines are joined to. -/
theorem CodeBlock.fencedLines_sublist_join {lines : List (LineKind × Text)}
    (hfeed : ∀ line ∈ lines, line.1.isFenced = true → '\n' ∉ line.2) :
    (fencedLines lines).Sublist (Text.lines (Text.join "\n" (lines.map Prod.snd))) := by
  by_cases hne : lines.map Prod.snd = []
  · rw [List.map_eq_nil_iff.1 hne]
    exact List.nil_sublist _
  rw [Text.lines_join hne]
  clear hne
  induction lines with
  | nil => exact List.nil_sublist _
  | cons first rest ih =>
    obtain ⟨kind, line⟩ := first
    rw [fencedLines_cons, List.map_cons, List.flatMap_cons]
    refine List.Sublist.append ?_ (ih fun later hmem => hfeed later (List.mem_cons_of_mem _ hmem))
    split
    · next hkind =>
      rw [Text.lines_eq_singleton (hfeed (kind, line) (List.mem_cons_self ..) hkind)]
    · exact List.nil_sublist _

/-! ## Trimming -/

/-- Trimming the end of these lines takes nothing from a fenced line: one with
only blank lines behind it is not empty and ends with no blank. -/
def TrimKeeps : List (LineKind × Text) → Prop
  | [] => True
  | (kind, line) :: rest =>
    (kind.isFenced = true → (rest.map Prod.snd).all Text.isBlankText = true →
      line ≠ [] ∧ Text.trimEnd line = line) ∧ TrimKeeps rest

/-- Whether trimming keeps the fenced lines can be decided line by line. -/
def decidableTrimKeeps : (lines : List (LineKind × Text)) → Decidable (TrimKeeps lines)
  | [] => .isTrue trivial
  | (kind, line) :: rest =>
    have := decidableTrimKeeps rest
    inferInstanceAs (Decidable ((kind.isFenced = true →
      (rest.map Prod.snd).all Text.isBlankText = true → line ≠ [] ∧ Text.trimEnd line = line)
        ∧ TrimKeeps rest))

instance : DecidablePred TrimKeeps := decidableTrimKeeps

theorem isBlankText_join (ts : List Text) :
    Text.isBlankText (Text.join "\n" ts) = ts.all Text.isBlankText := by
  induction ts with
  | nil => rfl
  | cons t ts ih =>
    cases ts with
    | nil => rw [Text.join_singleton, List.all_cons, List.all_nil, Bool.and_true]
    | cons u ts =>
      rw [Text.join_cons_cons, List.all_cons, ← ih]
      simp only [Text.isBlankText, List.all_append]
      rfl

/-- The trimming of joined lines goes on up to the last that is not blank. -/
theorem trimEnd_join_of_blank (line : Text) {rest : List Text}
    (h : rest.all Text.isBlankText = true) :
    Text.trimEnd (Text.join "\n" (line :: rest)) = Text.trimEnd line := by
  cases rest with
  | nil => rw [Text.join_singleton]
  | cons next rest =>
    rw [Text.join_cons_cons]
    refine Text.trimEnd_append_blank line ?_
    rw [← isBlankText_join] at h
    exact h

theorem trimEnd_join_of_not_blank (line : Text) {rest : List Text}
    (h : rest.all Text.isBlankText = false) :
    Text.trimEnd (Text.join "\n" (line :: rest))
      = line ++ '\n' :: Text.trimEnd (Text.join "\n" rest) := by
  cases rest with
  | nil => simp at h
  | cons next rest =>
    rw [← isBlankText_join] at h
    rw [Text.join_cons_cons, ← List.append_assoc, Text.trimEnd_append _ h, List.append_assoc]
    rfl

/-- Where all lines are blank, none is fenced. -/
theorem fencedLines_of_blank {lines : List (LineKind × Text)} (h : TrimKeeps lines)
    (hblank : (lines.map Prod.snd).all Text.isBlankText = true) : fencedLines lines = [] := by
  induction lines with
  | nil => rfl
  | cons first rest ih =>
    obtain ⟨kind, line⟩ := first
    rw [List.map_cons, List.all_cons, Bool.and_eq_true] at hblank
    rw [CodeBlock.fencedLines_cons, ih h.2 hblank.2, List.append_nil]
    split
    · next hkind =>
      obtain ⟨hne, htrim⟩ := h.1 hkind hblank.2
      exact absurd (htrim.symm.trans (Text.trimEnd_of_blank hblank.1)) hne
    · rfl

/-- **Trimming keeps the fenced lines**: they are lines of the trimmed text, in
their order. -/
theorem fencedLines_sublist_trimEnd {lines : List (LineKind × Text)} (h : TrimKeeps lines)
    (hfeed : ∀ line ∈ lines, line.1.isFenced = true → '\n' ∉ line.2) :
    (fencedLines lines).Sublist
      (Text.lines (Text.trimEnd (Text.join "\n" (lines.map Prod.snd)))) := by
  induction lines with
  | nil => exact List.nil_sublist _
  | cons first rest ih =>
    obtain ⟨kind, line⟩ := first
    have hlater := ih h.2 fun later hmem => hfeed later (List.mem_cons_of_mem _ hmem)
    have hown : kind.isFenced = true → Text.lines line = [line] := fun hkind =>
      Text.lines_eq_singleton (hfeed (kind, line) (List.mem_cons_self ..) hkind)
    rw [CodeBlock.fencedLines_cons, List.map_cons]
    cases hblank : (rest.map Prod.snd).all Text.isBlankText with
    | true =>
      -- The trimming reaches this line.
      rw [fencedLines_of_blank h.2 hblank, List.append_nil, trimEnd_join_of_blank line hblank]
      split
      · next hkind => rw [(h.1 hkind hblank).2, hown hkind]
      · exact List.nil_sublist _
    | false =>
      rw [trimEnd_join_of_not_blank line hblank, Text.lines_append]
      refine List.Sublist.append ?_ hlater
      split
      · next hkind => rw [hown hkind]
      · exact List.nil_sublist _

namespace Document

/-! ## What a run does to fenced lines -/

/-- The lines that stay, from line `n` on, as they are rewritten, with the kinds
that they had in the document. -/
def Draft.rewrittenFrom (d : Draft) (n : Nat) :
    List (LineKind × Text) → List (LineKind × Text)
  | [] => []
  | (kind, line) :: rest =>
    if d.deleted.contains n then d.rewrittenFrom (n + 1) rest
    else
      (kind, Edit.apply ((d.edits.filter (·.1 == n)).map Prod.snd) line)
        :: d.rewrittenFrom (n + 1) rest

theorem Draft.rewrittenFrom_map_snd (d : Draft) (n : Nat) (lines : List (LineKind × Text)) :
    (d.rewrittenFrom n lines).map Prod.snd = d.editedFrom n (lines.map Prod.snd) := by
  induction lines generalizing n with
  | nil => rfl
  | cons first rest ih =>
    obtain ⟨kind, line⟩ := first
    rw [rewrittenFrom, List.map_cons, editedFrom]
    split
    · exact ih _
    · rw [List.map_cons, ih]

/-- Fenced lines that are neither dropped nor edited stay. -/
theorem Draft.fencedLines_rewrittenFrom {d : Draft} {n : Nat} {lines : List (LineKind × Text)}
    (h : ∀ i kind line, lines[i]? = some (kind, line) → kind.isFenced = true →
      d.deleted.contains (n + i) = false ∧ d.edits.filter (·.1 == n + i) = []) :
    fencedLines (d.rewrittenFrom n lines) = fencedLines lines := by
  induction lines generalizing n with
  | nil => rfl
  | cons first rest ih =>
    obtain ⟨kind, line⟩ := first
    have hlater : fencedLines (d.rewrittenFrom (n + 1) rest) = fencedLines rest := by
      refine ih fun i kind line hline hkind => ?_
      rw [Nat.add_assoc, Nat.add_comm 1 i]
      exact h (i + 1) kind line hline hkind
    have hhead := h 0 kind line rfl
    rw [Nat.add_zero] at hhead
    rw [rewrittenFrom, CodeBlock.fencedLines_cons, ← hlater]
    cases hkind : kind.isFenced with
    | true =>
      obtain ⟨hdeleted, hedits⟩ := hhead hkind
      have hsame : Edit.apply [] line = line := (Spliced.rest [] line).apply_eq
      rw [hdeleted, hedits, if_neg (by decide), CodeBlock.fencedLines_cons, hkind, List.map_nil,
        hsame]
    | false =>
      split
      · rfl
      · rw [CodeBlock.fencedLines_cons, hkind]
        rfl

section

variable {σ : Type} (l : Linker σ) (input : Text) (s : σ)

/-- The lines that a run writes, with the kinds that they had in the text that
it works on. -/
def Run.rewritten : List (LineKind × Text) :=
  (Run.draft l input s).rewrittenFrom 0
    ((CodeBlock.classifyLines (Run.lines input)).zip (Run.lines input))

theorem Run.rewritten_map_snd : (Run.rewritten l input s).map Prod.snd
    = (Run.draft l input s).editedFrom 0 (Run.lines input) := by
  unfold Run.rewritten
  rw [Draft.rewrittenFrom_map_snd, List.map_snd_zip
    (Nat.le_of_eq (CodeBlock.length_classifyLines _).symm)]

/-- On a line of code nothing is planned. -/
theorem line_ne_of_isCode {n : Nat} {kind : LineKind} {line : Text}
    (h : ((CodeBlock.classifyLines (Run.lines input)).zip (Run.lines input))[n]?
      = some (kind, line)) (hcode : kind.isCode = true) :
    ∀ p ∈ (Run.planned l input).1, p.line ≠ n := by
  intro p hp hn
  have hspans := spans_onLine l.resolver.registry l.config h
  rw [hcode, Bool.true_or, if_pos rfl, List.map_eq_nil_iff] at hspans
  exact List.filter_eq_nil_iff.1 hspans p hp (by simpa using hn)

/-- **A run leaves fenced lines as they are.** -/
theorem fencedLines_rewritten :
    fencedLines (Run.rewritten l input s) = fenced (Run.source input) := by
  refine Draft.fencedLines_rewrittenFrom fun n kind line hline hkind => ?_
  rw [Nat.zero_add]
  have hnone := line_ne_of_isCode l input hline (LineKind.isCode_of_isFenced hkind)
  constructor
  · rw [Run.contains_deleted, Run.drops, List.any_eq_false]
    intro t ht
    simp [hnone _ (planned_of_mem ht)]
  · rw [draft_edits, List.filter_eq_nil_iff]
    intro edit hedit hn
    obtain ⟨t, ht, hwritten⟩ := List.mem_filterMap.1 hedit
    obtain ⟨text, -, rfl⟩ := Option.map_eq_some_iff.1 hwritten
    exact hnone _ (planned_of_mem ht) (by simpa using hn)

theorem feed_not_mem_rewritten : ∀ line ∈ Run.rewritten l input s,
    line.1.isFenced = true → '\n' ∉ line.2 := by
  rintro ⟨kind, line⟩ hmem hkind
  have hline : line ∈ fencedLines (Run.rewritten l input s) :=
    List.mem_map_of_mem (List.mem_filter.2 ⟨hmem, hkind⟩)
  rw [fencedLines_rewritten] at hline
  exact Text.not_mem_of_mem_lines ((CodeBlock.fenced_sublist _).subset hline)

/-- A single line that is fenced is the only one, so nothing is planned. -/
theorem planned_of_single (hsingle : (Text.endedLines input).length ≤ 1)
    (hfenced : fenced (Run.source input) ≠ []) : (Run.planned l input).1 = [] := by
  have hfeed : '\n' ∉ (Run.source input).dropLast :=
    feed_not_mem_withoutComment
      (feed_not_mem_withoutComment (Text.feed_not_mem_of_single hsingle) _) _
  obtain ⟨line, hlines⟩ := Text.lines_of_feed_not_mem hfeed
  have hkind : (CodeBlock.classify none line).1.isFenced = true := by
    rw [← Bool.not_eq_false]
    intro hkind
    have hnext := CodeBlock.fence_of_not_fenced hkind
    refine hfenced ?_
    unfold fenced CodeBlock.classifyLines
    rcases hlines with hlines | hlines
    · rw [hlines, CodeBlock.classifyFrom_cons, List.zip_cons_cons, CodeBlock.fencedLines_cons,
        hkind]
      rfl
    · rw [hlines, CodeBlock.classifyFrom_cons, List.zip_cons_cons, CodeBlock.fencedLines_cons,
        hkind, hnext]
      rfl
  refine List.eq_nil_iff_forall_not_mem.2 fun p hp => ?_
  obtain ⟨other, hother, hspan, -⟩ := exists_line_of_mem l.resolver.registry l.config hp
  obtain ⟨rest, hlines, hrest⟩ : ∃ rest, Run.lines input = line :: rest ∧ ∀ u ∈ rest, u = [] := by
    rcases hlines with hlines | hlines
    · exact ⟨[], hlines, by simp⟩
    · exact ⟨[[]], hlines, by simp⟩
  cases hn : p.line with
  | zero =>
    have hfirst : ((CodeBlock.classifyLines (Run.lines input)).zip (Run.lines input))[0]?
        = some ((CodeBlock.classify none line).1, line) := by
      rw [hlines]
      rfl
    exact line_ne_of_isCode l input hfirst (LineKind.isCode_of_isFenced hkind) p hp hn
  | succ n =>
    -- An empty line has no span.
    rw [hn] at hother
    have hempty : other = [] := hrest other (by
      change (Run.lines input)[n + 1]? = some other at hother
      rw [hlines, List.getElem?_cons_succ] at hother
      exact List.mem_of_getElem? hother)
    rw [hempty, (Span.inLine_eq_nil_iff [] []).2 rfl] at hspan
    exact absurd hspan (by simp)

/-- Where errors stand on the line, nothing is fenced. -/
theorem fenced_of_shown (hsingle : (Text.endedLines input).length ≤ 1)
    (hshown : (Run.draft l input s).shown.isEmpty = false) : fenced (Run.source input) = [] := by
  by_contra hfenced
  have hplanned := planned_of_single l input hsingle hfenced
  have hspans : Run.spans l input s = [] := by
    unfold Run.spans
    rw [hplanned]
    rfl
  have hempty : (Run.draft l input s).shown = [] := by
    rw [Run.draft, hspans]
    rfl
  rw [hempty] at hshown
  simp at hshown

end

/-- What is appended on lines of its own leaves the lines before it. -/
theorem Apart.lines_sublist {tail : Text} (h : Apart tail) (t : Text) :
    (Text.lines t).Sublist (Text.lines (t ++ tail)) := by
  rcases h with rfl | ⟨rest, rfl⟩
  · rw [List.append_nil]
  · rw [Text.lines_append]
    exact List.sublist_append_left ..

/-- A footer stands on lines of its own, unless nothing is written before it. -/
theorem Draft.apart_footerText (d : Draft) (written : Text) :
    written = [] ∨ Apart (d.footerText written) := by
  unfold footerText
  split
  · exact .inr (.inl rfl)
  · rcases separator_cases written with ⟨-, hnil⟩ | hsep | hsep
    · exact .inl hnil
    · exact .inr (.inr ⟨_, by rw [hsep]; rfl⟩)
    · exact .inr (.inr ⟨_, by rw [hsep]; rfl⟩)

/-- **Fenced code is kept.** The fenced lines of a document are lines of the
output, in their order, if removing the comments of earlier runs keeps them
as fenced lines, and if no blank of theirs is trimmed before a footer. -/
theorem fenced_lines_kept {σ : Type} {l : Linker σ} {input : Text} {s : σ}
    (hremoved : (fenced input).Sublist (fenced (Run.source input)))
    (htrimmed : (Run.draft l input s).footer.isEmpty = false →
      TrimKeeps (Run.rewritten l input s)) :
    (fenced input).Sublist (Text.lines (link l input s).1.output) := by
  cases hspan : Span.occursIn input with
  | false =>
    rw [link_of_not_occursIn l input s hspan]
    exact CodeBlock.fenced_sublist input
  | true =>
  refine hremoved.trans ?_
  have hfeed := feed_not_mem_rewritten l input s
  obtain ⟨comments, houtput, hapart, -⟩ := (Run.draft l input s).output_eq (Run.lines input)
    (Run.planned l input).2 ((Text.endedLines input).length ≤ 1) (Run.planned l input).1.length
  rw [link_eq l input s hspan, houtput, ← Run.rewritten_map_snd l input s]
  refine List.Sublist.trans ?_ (hapart.lines_sublist _)
  cases hfooter : (Run.draft l input s).footer.isEmpty with
  | false =>
    have hsublist := fencedLines_sublist_trimEnd (htrimmed hfooter) hfeed
    have hwritten : ∀ body report single,
        (Run.draft l input s).written body report single = Text.trimEnd body := by
      intro body report single
      simp [Draft.written, hfooter]
    rw [hwritten]
    rcases (Run.draft l input s).apart_footerText (Text.trimEnd
      (Text.join "\n" ((Run.rewritten l input s).map Prod.snd))) with hnil | hapart
    · -- All lines are blank, so none is fenced.
      have hblank := Text.isBlankText_of_trimEnd hnil
      rw [isBlankText_join] at hblank
      rw [← fencedLines_rewritten l input s, fencedLines_of_blank (htrimmed hfooter) hblank]
      exact List.nil_sublist _
    · rw [← fencedLines_rewritten l input s]
      exact hsublist.trans (hapart.lines_sublist _)
  | true =>
    have hnone : ∀ written, (Run.draft l input s).footerText written = [] := fun _ => by
      simp [Draft.footerText, hfooter]
    rw [hnone, List.append_nil]
    unfold Draft.written
    simp only [hfooter, Bool.not_true, Bool.false_eq_true, ↓reduceIte]
    split
    · next htrailer =>
      simp only [Bool.and_eq_true, Bool.not_eq_true', decide_eq_true_eq] at htrailer
      rw [fenced_of_shown l input s htrailer.1.2 htrailer.1.1.2]
      exact List.nil_sublist _
    · rw [← fencedLines_rewritten l input s]
      exact CodeBlock.fencedLines_sublist_join hfeed

theorem fenced_lines_kept_before_link :
    (fenced "```\n[a](!g code)\n```\n[b](!g rust)").Sublist
      (Text.lines (link pageLinker "```\n[a](!g code)\n```\n[b](!g rust)" ()).1.output) :=
  fenced_lines_kept (by decide +kernel) (by decide +kernel)

/-- A comment that a fence quotes is removed with the line feeds around it, and
the lines of the fence become one. -/
theorem fenced_comment_not_kept :
    ¬ (fenced "```\n<!-- Report: x -->\n```\n[a](!g rust)").Sublist
      (Text.lines (link pageLinker "```\n<!-- Report: x -->\n```\n[a](!g rust)" ()).1.output) := by
  decide +kernel

/-- A blank at the end of an open fence is trimmed before the footer. -/
example : ¬ (fenced "[a](!g rust)\n```\ncode ").Sublist
    (Text.lines (link pageLinker "[a](!g rust)\n```\ncode " ()).1.output) := by
  decide +kernel

end Document

end InlineSearch
