/-
InlineSearch.Proofs.Document.FinalFeed — the line feed at the end of a
document.

Whatever a run appends on lines of its own ends with a line feed, and errors
that it puts behind a line go in front of the one that ends it. So the output
ends with a line feed if something is appended, or if the lines that are
written do (`Draft.endsWith_output_iff`). The last line of a document that ends
with a line feed is empty and stays, so the lines that are written end with one
if another line stays (`endsWith_body_iff`).

But the run does not work on its input. It removes the comments of an earlier
run first, and a comment takes the line feed behind it along
(`endsWith_withoutComment_iff`). This is where the line feed of a document may
be lost (`final_feed_iff`).
-/
import InlineSearch.Proofs.Comments
import InlineSearch.Proofs.Document.Output
import InlineSearch.Proofs.Text.Lines

namespace InlineSearch

/-! ## Removing a comment -/

/-- Whether the line feed that ends a text is removed together with a comment:
it follows the comment, and what stands in front of the comment, less one line
feed, does not end with another. -/
def TakesFeed (opening t : Text) : Prop :=
  ∃ before inside listing, Text.cut opening t = some (before, inside)
    ∧ Text.cut "-->" inside = some (listing, ['\n'])
    ∧ Text.endsWith "\n" ((Text.dropSuffix? "\n" before).getD before) = false

/-- What is left behind a comment ends with a line feed, unless nothing is. -/
theorem getLast?_withoutFeed {t : Text} (h : t.getLast? = some '\n') (hne : t ≠ ['\n']) :
    (withoutFeed t).getLast? = some '\n' := by
  unfold withoutFeed
  cases hdrop : Text.dropPrefix? "\n" t with
  | none => exact h
  | some rest =>
    obtain rfl := Text.dropPrefix?_eq_some_iff.1 hdrop
    have hrest : rest ≠ [] := fun hnil => hne (by rw [hnil]; rfl)
    rwa [List.getLast?_append_of_ne_nil _ hrest] at h

/-- The line feed that ends a text stays, unless a comment takes it along. -/
theorem endsWith_withoutComment_iff {opening t : Text} (h : Text.endsWith "\n" t = true) :
    Text.endsWith "\n" (withoutComment opening t) = true ↔ ¬ TakesFeed opening t := by
  unfold withoutComment
  cases hopen : Text.cut opening t with
  | none =>
    refine iff_of_true h ?_
    rintro ⟨before, inside, listing, hcut, -⟩
    rw [hopen] at hcut
    cases hcut
  | some parts =>
  obtain ⟨before, inside⟩ := parts
  have htakes : TakesFeed opening t ↔ ∃ listing, Text.cut "-->" inside = some (listing, ['\n'])
      ∧ Text.endsWith "\n" ((Text.dropSuffix? "\n" before).getD before) = false := by
    constructor
    · rintro ⟨_, _, listing, hcut, hrest⟩
      obtain ⟨rfl, rfl⟩ := Prod.mk.inj (Option.some.inj (hopen.symm.trans hcut))
      exact ⟨listing, hrest⟩
    · rintro ⟨listing, hrest⟩
      exact ⟨before, inside, listing, hopen, hrest⟩
  rw [htakes]
  dsimp only
  cases hclose : Text.cut "-->" inside with
  | none =>
    refine iff_of_true h ?_
    rintro ⟨listing, hcut, -⟩
    cases hcut
  | some parts =>
  obtain ⟨listing, after⟩ := parts
  have hsplit : t = (before ++ opening ++ listing ++ "-->") ++ after := by
    rw [Text.eq_of_cut hopen, Text.eq_of_cut hclose]
    simp only [List.append_assoc]
  have hlast : t.getLast? = some '\n' := Text.endsWith_feed_iff.1 h
  -- Something follows the mark that ends the comment: the mark is no line feed.
  have hne : after ≠ [] := by
    rintro rfl
    rw [hsplit, List.append_nil, List.getLast?_append_of_ne_nil _ (by decide)] at hlast
    exact absurd hlast (by decide)
  rw [hsplit, List.getLast?_append_of_ne_nil _ hne] at hlast
  change Text.endsWith "\n" ((Text.dropSuffix? "\n" before).getD before ++ withoutFeed after) = true
    ↔ _
  by_cases hfeed : after = ['\n']
  · subst hfeed
    rw [show withoutFeed ['\n'] = [] from rfl, List.append_nil]
    simp
  · have hleft := getLast?_withoutFeed hlast hfeed
    refine iff_of_true (Text.endsWith_feed_iff.2 ?_) ?_
    · rw [List.getLast?_append, hleft]
      rfl
    · rintro ⟨_, hcut, -⟩
      exact hfeed (Prod.mk.inj (Option.some.inj hcut)).2

namespace Document

/-! ## What is appended -/

namespace Draft

/-- Whether something is appended on lines of its own: a footer, a report, or
the errors of a run over more than one line. -/
def appends (d : Draft) (config : Config) (single : Bool) (links : Nat) : Bool :=
  !d.footer.isEmpty || !(d.reportBlock config single links).isEmpty
    || (!d.clipboard && !d.shown.isEmpty && !single)

theorem getLast?_reportBlock {d : Draft} {config : Config} {single : Bool} {links : Nat}
    (h : d.reportBlock config single links ≠ []) :
    (d.reportBlock config single links).getLast? = some '\n' := by
  have hblock := (d.reportBlock_eq config single links).resolve_left h
  rw [hblock] at h ⊢
  unfold ReportLog.block at h ⊢
  split at h
  · exact absurd rfl h
  · next hne =>
    rw [if_neg hne, List.getLast?_append_of_ne_nil _ (by decide)]
    rfl

theorem getLast?_block {log : ErrorLog} (h : log.isEmpty = false) :
    log.block.getLast? = some '\n' := by
  unfold ErrorLog.block
  rw [h, if_neg (by decide), List.getLast?_append_of_ne_nil _ (by decide)]
  rfl

/-- Errors that stand behind a line leave what ends it behind them. -/
theorem getLast?_behind_trailer {log : ErrorLog} (h : log.isEmpty = false) (t : Text) :
    (Text.trimEnd t ++ log.trailer ++ (if Text.endsWith "\n" t then ['\n'] else [])).getLast?
      = some '\n' ↔ t.getLast? = some '\n' := by
  have hmark : log.trailer.getLast? = some '>' := by
    unfold ErrorLog.trailer
    rw [h, if_neg (by decide), List.getLast?_append_of_ne_nil _ (by decide)]
    rfl
  cases hfeed : Text.endsWith "\n" t with
  | true =>
    rw [if_pos rfl, List.getLast?_append_of_ne_nil _ (by decide)]
    exact iff_of_true rfl (Text.endsWith_feed_iff.1 hfeed)
  | false =>
    rw [if_neg (by decide), List.append_nil, List.getLast?_append, hmark, Option.some_or]
    exact iff_of_false (by decide) fun hlast => by
      rw [Text.endsWith_feed_iff.2 hlast] at hfeed
      cases hfeed

theorem getLast?_withFooter_iff (d : Draft) (body : Text) :
    (d.withFooter body).getLast? = some '\n'
      ↔ d.footer.isEmpty = false ∨ body.getLast? = some '\n' := by
  unfold withFooter
  cases d.footer.isEmpty with
  | true => simp
  | false =>
    rw [if_neg (by decide), List.getLast?_append_of_ne_nil _ (by decide)]
    exact iff_of_true rfl (.inl rfl)

theorem getLast?_withErrors_iff (d : Draft) (single : Bool) (t : Text) :
    (d.withErrors single t).getLast? = some '\n'
      ↔ (!d.clipboard && !d.shown.isEmpty && !(single && d.footer.isEmpty)) = true
        ∨ t.getLast? = some '\n' := by
  unfold withErrors
  cases d.clipboard with
  | true => simp
  | false =>
  cases hshown : d.shown.isEmpty with
  | true => simp
  | false =>
  cases single && d.footer.isEmpty with
  | true =>
    rw [or_iff_right (by decide)]
    exact getLast?_behind_trailer hshown t
  | false =>
    refine iff_of_true ?_ (.inl rfl)
    change (t ++ d.shown.block).getLast? = some '\n'
    rw [List.getLast?_append, getLast?_block hshown, Option.some_or]

/-- **When an output ends with a line feed**: something is appended to the lines
that are written, or these end with one. -/
theorem endsWith_output_iff (d : Draft) (lines : List Text) (config : Config) (single : Bool)
    (links : Nat) : Text.endsWith "\n" (d.result lines config single links).output = true
      ↔ d.appends config single links = true
        ∨ Text.endsWith "\n" (Text.join "\n" (d.editedFrom 0 lines)) = true := by
  have hreport : (d.withFooter (Text.join "\n" (d.editedFrom 0 lines))
      ++ d.reportBlock config single links).getLast? = some '\n'
        ↔ d.reportBlock config single links ≠ [] ∨ d.footer.isEmpty = false
          ∨ (Text.join "\n" (d.editedFrom 0 lines)).getLast? = some '\n' := by
    by_cases hnil : d.reportBlock config single links = []
    · rw [hnil, List.append_nil, getLast?_withFooter_iff]
      simp
    · rw [List.getLast?_append_of_ne_nil _ hnil]
      exact iff_of_true (getLast?_reportBlock hnil) (.inl hnil)
  have houtput := d.getLast?_withErrors_iff single
    (d.withFooter (Text.join "\n" (d.editedFrom 0 lines)) ++ d.reportBlock config single links)
  rw [hreport] at houtput
  rw [Text.endsWith_feed_iff, Text.endsWith_feed_iff]
  refine houtput.trans ?_
  simp only [appends, Bool.or_eq_true, Bool.and_eq_true, Bool.not_eq_true', List.isEmpty_eq_false_iff,
    Bool.and_eq_false_iff]
  -- Errors stand behind a line only if there is no footer.
  grind

/-! ## The lines that are written -/

theorem editedFrom_append (d : Draft) (n : Nat) (a b : List Text) :
    d.editedFrom n (a ++ b) = d.editedFrom n a ++ d.editedFrom (n + a.length) b := by
  induction a generalizing n with
  | nil => rfl
  | cons line a ih =>
    have hlater := ih (n + 1)
    rw [Nat.add_assoc, Nat.add_comm 1] at hlater
    rw [List.cons_append, editedFrom, editedFrom, List.length_cons]
    split
    · exact hlater
    · rw [List.cons_append]
      exact congrArg _ hlater

/-- No line is written if all are left out. -/
theorem editedFrom_eq_nil_iff (d : Draft) (n : Nat) (lines : List Text) :
    d.editedFrom n lines = [] ↔ ∀ i < lines.length, d.deleted.contains (n + i) = true := by
  induction lines generalizing n with
  | nil => simp [editedFrom]
  | cons line rest ih =>
    rw [editedFrom]
    cases hdeleted : d.deleted.contains n with
    | false =>
      rw [if_neg (by decide)]
      refine iff_of_false (List.cons_ne_nil _ _) fun h => ?_
      rw [← Nat.add_zero n, h 0 (Nat.zero_lt_succ _)] at hdeleted
      cases hdeleted
    | true =>
      rw [if_pos rfl, ih]
      constructor
      · intro h i hi
        cases i with
        | zero => exact hdeleted
        | succ i =>
          rw [Nat.add_comm i 1, ← Nat.add_assoc]
          exact h i (Nat.lt_of_succ_lt_succ hi)
      · intro h i hi
        rw [Nat.add_assoc, Nat.add_comm 1 i]
        exact h (i + 1) (Nat.succ_lt_succ hi)

end Draft

section

variable {σ : Type} (l : Linker σ) (input : Text) (s : σ)

/-- An empty line has no spans. -/
theorem Run.replacements_of_empty {n : Nat} (h : (Run.lines input)[n]? = some []) :
    Run.replacements l input s n = [] := by
  have hspans := Run.spans_of_line l input s h
  rw [(Span.inLine_eq_nil_iff [] []).2 rfl, ite_self] at hspans
  exact List.map_eq_nil_iff.1 hspans

/-- So it stays. -/
theorem Run.drops_of_empty {n : Nat} (h : (Run.lines input)[n]? = some []) :
    Run.drops l input s n = false := by
  have hnone := List.map_eq_nil_iff.1 (Run.replacements_of_empty l input s h)
  rw [List.filter_eq_nil_iff] at hnone
  rw [Run.drops, List.any_eq_false]
  intro t ht hdrops
  exact hnone t ht (Bool.and_eq_true_iff.1 hdrops).2

/-- The lines that are written. -/
def Run.body : Text := Text.join "\n" ((Run.draft l input s).editedFrom 0 (Run.lines input))

/-- If the text that a run works on ends with a line feed, so do the lines that
it writes, unless every line in front of it is left out. -/
theorem endsWith_body_iff (h : Text.endsWith "\n" (Run.source input) = true) :
    Text.endsWith "\n" (Run.body l input s) = true
      ↔ ∃ n, n + 1 < (Run.lines input).length ∧ Run.drops l input s n = false := by
  obtain ⟨front, hsource⟩ := List.isSuffixOf_iff_suffix.1 h
  have hlines : Run.lines input = Text.lines front ++ [[]] := by
    rw [Run.lines, ← hsource]
    exact Text.lines_append front []
  have hempty : (Run.lines input)[(Text.lines front).length]? = some [] := by
    rw [hlines]
    simp
  have hlast : (Run.draft l input s).editedFrom (Text.lines front).length [[]] = [[]] := by
    rw [Draft.editedFrom, Run.contains_deleted, Run.drops_of_empty l input s hempty,
      if_neg (by decide), Run.edits_line, Run.replacements_of_empty l input s hempty]
    exact congrArg (· :: []) (Spliced.rest [] []).apply_eq
  have hwritten : (Run.draft l input s).editedFrom 0 (Run.lines input)
      = (Run.draft l input s).editedFrom 0 (Text.lines front) ++ [[]] := by
    rw [hlines, Draft.editedFrom_append, Nat.zero_add, hlast]
  have hstays : (Run.draft l input s).editedFrom 0 (Text.lines front) ≠ []
      ↔ ∃ n, n + 1 < (Run.lines input).length ∧ Run.drops l input s n = false := by
    rw [ne_eq, Draft.editedFrom_eq_nil_iff, hlines, List.length_append, List.length_singleton]
    simp only [Nat.zero_add, Run.contains_deleted, not_forall, Bool.not_eq_true, exists_prop,
      Nat.add_lt_add_iff_right]
  rw [← hstays, Run.body, hwritten, Text.endsWith_feed_iff]
  by_cases hnil : (Run.draft l input s).editedFrom 0 (Text.lines front) = []
  · rw [hnil]
    exact iff_of_false (by decide) (not_not_intro rfl)
  · rw [Text.join_concat hnil, ← List.append_assoc, List.append_nil,
      List.getLast?_append_of_ne_nil _ (by decide)]
    exact iff_of_true rfl hnil

/-- The line feed that ends a document stays in the text that a run works on,
unless one of the two comments takes it along. -/
theorem endsWith_source_iff (h : Text.endsWith "\n" input = true)
    (hreport : ¬ TakesFeed "<!-- Report:" input) :
    Text.endsWith "\n" (Run.source input) = true
      ↔ ¬ TakesFeed "<!-- Errors:" (withoutComment "<!-- Report:" input) :=
  endsWith_withoutComment_iff ((endsWith_withoutComment_iff h).2 hreport)

end

/-- **When the line feed at the end of a document is kept**: the document has no
spans, something is appended, or the removal of earlier comments leaves it and
some line in front of it stays. If the removal takes it along, the lines that
are written have to end with one of their own. -/
theorem final_feed_iff {σ : Type} (l : Linker σ) {input : Text}
    (hfeed : Text.endsWith "\n" input = true) (s : σ) :
    Text.endsWith "\n" (link l input s).1.output = true
      ↔ Span.occursIn input = false
        ∨ (Run.draft l input s).appends (Run.planned l input).2
            ((Text.endedLines input).length ≤ 1) (Run.planned l input).1.length = true
        ∨ if Text.endsWith "\n" (Run.source input) then
            ∃ n, n + 1 < (Run.lines input).length ∧ Run.drops l input s n = false
          else Text.endsWith "\n" (Run.body l input s) = true := by
  cases hspan : Span.occursIn input with
  | false =>
    rw [link_of_not_occursIn l input s hspan]
    exact iff_of_true hfeed (.inl rfl)
  | true =>
    rw [link_eq l input s hspan, Draft.endsWith_output_iff]
    refine (or_congr_right ?_).trans (or_iff_right (by decide)).symm
    change Text.endsWith "\n" (Run.body l input s) = true ↔ _
    split
    · next hsource => exact endsWith_body_iff l input s hsource
    · rfl

/-- A document with a comment, and with a line feed in front of it. -/
theorem final_feed_behind_comment :
    let input : Text := "[x](!g rust:)\n\n<!-- Errors:\nold\n-->\n"
    Text.endsWith "\n" input = true
      ∧ (Text.endsWith "\n" (link pageLinker input ()).1.output = true
        ↔ Span.occursIn input = false
          ∨ (Run.draft pageLinker input ()).appends (Run.planned pageLinker input).2
              ((Text.endedLines input).length ≤ 1) (Run.planned pageLinker input).1.length = true
          ∨ if Text.endsWith "\n" (Run.source input) then
              ∃ n, n + 1 < (Run.lines input).length ∧ Run.drops pageLinker input () n = false
            else Text.endsWith "\n" (Run.body pageLinker input ()) = true) :=
  ⟨by decide, final_feed_iff pageLinker (by decide) ()⟩

/-- A run over a line with an error puts the error behind the line, and the line
feed behind the error. The next run takes both away. -/
theorem final_feed_lost_behind_error :
    let input : Text := "[x](!zzz c)\n"
    let output := (link pageLinker input ()).1.output
    output = "[x](!zzz c) <!-- Errors: (Invalid search) (1:0:11): [x](!zzz c) -->\n".toList
      ∧ (link pageLinker output ()).1.output
        = "[x](!zzz c) <!-- Errors: (Invalid search) (1:0:11): [x](!zzz c) -->".toList := by
  decide +kernel

end Document

end InlineSearch
