/-
InlineSearch.Proofs.Comments — removing the comments that a run appended.

A run appends its report and its errors as comments, and the next run
removes them again. Both comments have one shape (`comment`), and removing
the first one of a text leaves what stands in front of it and behind it,
line feeds included, however the text in front ends
(`withoutComment_comment`).

The entries are written as they are. An entry that quotes the mark `-->`
ends its comment early, and what stands behind the mark stays
(`remainder`). So the removal undoes the appending exactly for entries
without that mark (`withoutReports_blocks`).
-/
import InlineSearch.Proofs.Text.Cut
import InlineSearch.Proofs.Text.Lines
import InlineSearch.Report
import Mathlib.Data.List.Basic

namespace InlineSearch

/-! ## Comments and what is left of them -/

/-- The entries of a report as they stand in its comment. -/
def ReportLog.listing (log : ReportLog) : Text := Text.join "\n" (log.map LogEntry.written)

/-- The entries of an error log as they stand in its comment. -/
def ErrorLog.listing (log : ErrorLog) : Text := Text.join "\n" log.lines

/-- A comment as a run appends it: its opening, its entries and the mark that
ends it, on lines of their own. -/
def comment (opening listing : Text) : Text :=
  '\n' :: (opening ++ '\n' :: (listing ++ '\n' :: "-->\n"))

/-- The text without a line feed at its start. -/
def withoutFeed (t : Text) : Text := (Text.dropPrefix? "\n" t).getD t

/-- What removing a comment leaves of it: nothing, unless its entries hold the
mark that ends a comment. -/
def remainder (listing : Text) : Text :=
  match Text.cut "-->" listing with
  | none => []
  | some (_, after) => withoutFeed (after ++ '\n' :: "-->\n")

theorem ReportLog.block_eq (log : ReportLog) :
    log.block = if log.isEmpty then [] else comment "<!-- Report:" log.listing := by
  unfold block comment listing
  split
  · rfl
  · simp

theorem ErrorLog.block_eq (log : ErrorLog) :
    log.block = if log.isEmpty then [] else comment "<!-- Errors:" log.listing := by
  unfold block comment listing
  split
  · rfl
  · simp

theorem withoutFeed_suffix (t : Text) : withoutFeed t <:+ t := by
  unfold withoutFeed
  cases hdrop : Text.dropPrefix? "\n" t with
  | none => exact List.suffix_refl t
  | some rest => exact ⟨['\n'], (Text.dropPrefix?_eq_some_iff.1 hdrop).symm⟩

theorem withoutFeed_append {a : Text} (hne : a ≠ []) (b : Text) :
    withoutFeed (a ++ b) = withoutFeed a ++ b := by
  obtain ⟨c, a, rfl⟩ := List.exists_cons_of_ne_nil hne
  unfold withoutFeed
  by_cases hc : '\n' = c
  · subst hc
    rfl
  · simp [Text.dropPrefix?, hc]

/-- What is left of a comment ends as the comment ends. -/
theorem remainder_cases (listing : Text) :
    ¬ "-->".toList <:+: listing ∧ remainder listing = []
      ∨ "-->".toList <:+: listing ∧ (remainder listing).getLast? = some '\n' := by
  unfold remainder
  cases hcut : Text.cut "-->" listing with
  | none => exact .inl ⟨Text.cut_eq_none_iff.1 hcut, rfl⟩
  | some parts =>
    obtain ⟨before, after⟩ := parts
    refine .inr ⟨⟨before, after, (Text.eq_of_cut hcut).symm⟩, ?_⟩
    have hfeed : after ++ '\n' :: "-->\n".toList = (after ++ "\n--".toList) ++ ">\n".toList := by
      simp
    have hleft := withoutFeed_append (a := after ++ "\n--".toList) (by simp) ">\n"
    dsimp only
    rw [hfeed, hleft, List.getLast?_append]
    rfl

theorem remainder_eq_nil_iff {listing : Text} :
    remainder listing = [] ↔ Text.contains "-->" listing = false := by
  rw [Text.contains_eq_false_iff]
  rcases remainder_cases listing with ⟨hmark, hleft⟩ | ⟨hmark, hlast⟩
  · exact ⟨fun _ => hmark, fun _ => hleft⟩
  · refine ⟨fun hleft => ?_, fun h => absurd hmark h⟩
    rw [hleft] at hlast
    simp at hlast

/-! ## Removing one comment -/

theorem withoutComment_eq_self {opening t : Text} (h : ¬ opening <:+: t) :
    withoutComment opening t = t := by
  unfold withoutComment
  rw [Text.cut_eq_none_iff.2 h]

/-- Removing a comment brings no line feed in front of the end of a text. -/
theorem feed_not_mem_withoutComment {t : Text} (h : '\n' ∉ t.dropLast) (opening : Text) :
    '\n' ∉ (withoutComment opening t).dropLast := by
  unfold withoutComment
  cases hopen : Text.cut opening t with
  | none => exact h
  | some parts =>
  obtain ⟨before, inside⟩ := parts
  dsimp only
  cases hclose : Text.cut "-->" inside with
  | none => exact h
  | some parts =>
  obtain ⟨listing, after⟩ := parts
  have hsplit : t = before ++ (opening ++ (listing ++ "-->".toList ++ after)) := by
    rw [Text.eq_of_cut hopen, Text.eq_of_cut hclose, List.append_assoc]
  change '\n' ∉ ((Text.dropSuffix? "\n" before).getD before ++ withoutFeed after).dropLast
  have hbefore : '\n' ∉ (Text.dropSuffix? "\n" before).getD before := by
    rw [hsplit, List.dropLast_append_of_ne_nil (by simp), List.mem_append, not_or] at h
    cases hdrop : Text.dropSuffix? "\n" before with
    | none => exact h.1
    | some front =>
      rw [Text.dropSuffix?_eq_some_iff.1 hdrop, List.mem_append, not_or] at h
      exact h.1.1
  by_cases hnil : withoutFeed after = []
  · rw [hnil, List.append_nil]
    exact fun hmem => hbefore (List.dropLast_subset _ hmem)
  · obtain ⟨front, hfront⟩ : withoutFeed after <:+ t := (withoutFeed_suffix after).trans
      ⟨before ++ (opening ++ (listing ++ "-->".toList)), by rw [hsplit]; simp⟩
    rw [← hfront, List.dropLast_append_of_ne_nil hnil, List.mem_append, not_or] at h
    rw [List.dropLast_append_of_ne_nil hnil, List.mem_append, not_or]
    exact ⟨hbefore, h.2⟩

section

variable {opening body : Text} (hfeed : '\n' ∉ opening) (hne : opening ≠ [])
  (hbody : ¬ opening <:+: body)
include hfeed hne hbody

/-- **Removing a comment.** What stands in front of it and behind it stays as
it is. -/
theorem withoutComment_comment (listing rest : Text) :
    withoutComment opening (body ++ (comment opening listing ++ rest))
      = body ++ (remainder listing ++ rest) := by
  have hopen : Text.cut opening (body ++ (comment opening listing ++ rest))
      = some (body ++ ['\n'], '\n' :: (listing ++ '\n' :: ("-->".toList ++ '\n' :: rest))) := by
    have hrest : comment opening listing ++ rest
        = '\n' :: (opening ++ '\n' :: (listing ++ '\n' :: ("-->".toList ++ '\n' :: rest))) := by
      simp [comment]
    rw [hrest, Text.cut_append_cons hfeed hne hbody, Text.cut_self_append hne]
    rfl
  have hbefore : Text.dropSuffix? "\n" (body ++ ['\n']) = some body :=
    Text.dropSuffix?_eq_some_iff.2 rfl
  have hmark : '\n' ∉ "-->".toList := by decide
  have hclose := Text.cut_append_cons hmark (by decide) (a := []) (by simp)
    (listing ++ '\n' :: ("-->".toList ++ '\n' :: rest))
  unfold withoutComment remainder
  rw [hopen]
  dsimp only
  rw [List.nil_append] at hclose
  rw [hclose, hbefore]
  cases hcut : Text.cut "-->" listing with
  | none =>
    rw [Text.cut_append_cons hmark (by decide) (Text.cut_eq_none_iff.1 hcut),
      Text.cut_self_append (by decide)]
    rfl
  | some parts =>
    obtain ⟨before, after⟩ := parts
    have hafter : after ++ '\n' :: ("-->".toList ++ '\n' :: rest)
        = (after ++ '\n' :: "-->\n".toList) ++ rest := by
      simp
    rw [Text.cut_append hcut, hafter]
    exact congrArg (body ++ ·) (withoutFeed_append (by simp) rest)

omit hne in
/-- An opening that only begins in the body and goes on behind it cannot make
the removal give the body back: the body ends inside a line then, and what
is removed leaves whole lines. -/
theorem withoutComment_ne_of_straddle {tail before inside : Text}
    (hcut : Text.cut opening (body ++ tail) = some (before, inside))
    (hlast : tail.getLast? = some '\n') (hbegin : before.length < body.length) :
    withoutComment opening (body ++ tail) ≠ body := by
  have hsplit := Text.eq_of_cut hcut
  rw [List.append_assoc] at hsplit
  -- The body is what stands in front of the opening and the start of the
  -- opening.
  obtain ⟨start, hstart, hopen⟩ : ∃ start, body = before ++ start
      ∧ opening ++ inside = start ++ tail := by
    rcases List.append_eq_append_iff.1 hsplit with ⟨x, hx, hy⟩ | ⟨x, hx, hy⟩
    · have hlength := congrArg List.length hx
      rw [List.length_append] at hlength
      omega
    · exact ⟨x, hx, hy⟩
  obtain ⟨later, hlater, htail⟩ : ∃ later, opening = start ++ later ∧ tail = later ++ inside := by
    rcases List.append_eq_append_iff.1 hopen with ⟨x, hx, -⟩ | ⟨x, hx, hy⟩
    · exact absurd ⟨before, x, by rw [hstart, hx, List.append_assoc]⟩ hbody
    · exact ⟨x, hx, hy⟩
  have hne : start ≠ [] := by
    rintro rfl
    rw [hstart, List.append_nil] at hbegin
    omega
  have hends : ∀ suffix, suffix <:+ inside → suffix ≠ [] → suffix.getLast? = some '\n' := by
    rintro suffix ⟨x, rfl⟩ hsuffix
    rw [htail, ← List.append_assoc, List.getLast?_append_of_ne_nil _ hsuffix] at hlast
    exact hlast
  have hstarts : start.getLast? ≠ some '\n' := by
    intro h
    exact hfeed (hlater ▸ List.mem_append_left later (List.mem_of_getLast? h))
  unfold withoutComment
  rw [hcut]
  dsimp only
  cases hclose : Text.cut "-->" inside with
  | none =>
    intro h
    rw [List.append_right_eq_self.1 h] at hlast
    simp at hlast
  | some parts =>
    obtain ⟨comment, after⟩ := parts
    have hafter : withoutFeed after <:+ inside :=
      (withoutFeed_suffix after).trans ⟨comment ++ "-->".toList, (Text.eq_of_cut hclose).symm⟩
    change (Text.dropSuffix? "\n" before).getD before ++ withoutFeed after ≠ body
    intro h
    rw [hstart] at h
    cases hdrop : Text.dropSuffix? "\n" before with
    | none =>
      rw [hdrop] at h
      have hsame : withoutFeed after = start := List.append_cancel_left h
      exact hstarts (hsame ▸ hends _ hafter (hsame ▸ hne))
    | some front =>
      rw [hdrop, Text.dropSuffix?_eq_some_iff.1 hdrop, List.append_assoc] at h
      have hsame : withoutFeed after = ['\n'] ++ start := List.append_cancel_left h
      have hend := hends _ hafter (by simp [hsame])
      rw [hsame, List.getLast?_append_of_ne_nil _ hne] at hend
      exact hstarts hend

end

/-! ## Removing both comments -/

/-- A text with comments behind it ends as they end. -/
theorem getLast?_append_errors {t : Text} (h : t.getLast? = some '\n') (errors : ErrorLog) :
    (t ++ errors.block).getLast? = some '\n' := by
  rw [ErrorLog.block_eq]
  split
  · rwa [List.append_nil]
  · have hend : comment "<!-- Errors:" errors.listing
        = ('\n' :: ("<!-- Errors:" ++ '\n' :: (errors.listing ++ "\n-->".toList))) ++ ['\n'] := by
      simp [comment]
    rw [hend, ← List.append_assoc, List.getLast?_append]
    rfl

/-- What a comment of errors leaves, if there is one behind the text. -/
theorem withoutComment_errors {body : Text} (hbody : ¬ "<!-- Errors:".toList <:+: body)
    (errors : ErrorLog) :
    withoutComment "<!-- Errors:" (body ++ errors.block) = body ++ remainder errors.listing := by
  rw [ErrorLog.block_eq]
  split
  · next hempty =>
    rw [List.isEmpty_iff.1 hempty, List.append_nil, withoutComment_eq_self hbody]
    exact (List.append_nil body).symm
  · have hremoved := withoutComment_comment (by decide) (by decide) hbody errors.listing []
    rwa [List.append_nil, List.append_nil] at hremoved

/-- The report is removed, and the comment of the errors stays. -/
theorem withoutComment_report {body : Text} (hbody : ¬ "<!-- Report:".toList <:+: body)
    {log : ReportLog} {errors : ErrorLog}
    (hquoted : log = [] → ¬ "<!-- Report:".toList <:+: errors.listing) :
    withoutComment "<!-- Report:" (body ++ (log.block ++ errors.block))
      = body ++ (remainder log.listing ++ errors.block) := by
  by_cases hlog : log = []
  · subst hlog
    refine withoutComment_eq_self ?_
    change ¬ "<!-- Report:".toList <:+: body ++ errors.block
    rw [ErrorLog.block_eq]
    split
    · rwa [List.append_nil]
    · have hquoted := hquoted rfl
      have hfeed : '\n' ∉ "<!-- Report:".toList := by decide
      unfold comment
      rw [Text.infix_append_cons hfeed (by decide), Text.infix_append_cons hfeed (by decide),
        Text.infix_append_cons hfeed (by decide), not_or, not_or, not_or]
      exact ⟨hbody, Text.contains_eq_false_iff.1 rfl, hquoted, Text.contains_eq_false_iff.1 rfl⟩
  · have hblock : log.block = comment "<!-- Report:" log.listing := by
      rw [ReportLog.block_eq, List.isEmpty_eq_false_iff.2 hlog]
      rfl
    rw [hblock]
    exact withoutComment_comment (by decide) (by decide) hbody ..

/-- **Removing the comments of a run undoes appending them exactly if no entry
quotes the mark that ends a comment.** The body holds no opening of a comment;
nor does an entry that the removal could take for one: no error quotes the
opening of a report while there is no report, and what is left of the report
does not hold the opening of the errors. -/
theorem withoutReports_blocks {body : Text} {log : ReportLog} {errors : ErrorLog}
    (hreport : Text.contains "<!-- Report:" body = false)
    (herrors : Text.contains "<!-- Errors:" body = false)
    (hquoted : log = [] → Text.contains "<!-- Report:" errors.listing = false)
    (hleft : Text.contains "<!-- Errors:" (remainder log.listing) = false) :
    withoutReports (body ++ log.block ++ errors.block) = body
      ↔ Text.contains "-->" log.listing = false ∧ Text.contains "-->" errors.listing = false := by
  rw [Text.contains_eq_false_iff] at hreport herrors hleft
  have hremoved := withoutComment_report hreport fun hlog =>
    Text.contains_eq_false_iff.1 (hquoted hlog)
  unfold withoutReports
  rw [List.append_assoc, hremoved, ← remainder_eq_nil_iff, ← remainder_eq_nil_iff]
  rcases remainder_cases log.listing with ⟨-, hnil⟩ | ⟨-, hlast⟩
  · rw [hnil, List.nil_append, withoutComment_errors herrors, List.append_right_eq_self]
    exact ⟨fun h => ⟨rfl, h⟩, And.right⟩
  · have hne : remainder log.listing ≠ [] := by
      intro hnil
      rw [hnil] at hlast
      simp at hlast
    refine ⟨fun h => absurd h ?_, fun h => absurd h.1 hne⟩
    by_cases hopen : "<!-- Errors:".toList <:+: body ++ remainder log.listing
    · obtain ⟨⟨before, inside⟩, hcut⟩ := Option.ne_none_iff_exists'.1
        fun hnone => Text.cut_eq_none_iff.1 hnone hopen
      have hbegin := Text.length_lt_of_cut_append hcut hleft
      have hcut := Text.cut_append hcut errors.block
      rw [List.append_assoc] at hcut
      exact withoutComment_ne_of_straddle (by decide) herrors hcut
        (getLast?_append_errors hlast errors) hbegin
    · rw [← List.append_assoc, withoutComment_errors hopen, List.append_assoc]
      intro h
      exact hne (List.append_eq_nil_iff.1 (List.append_right_eq_self.1 h)).1

theorem withoutReports_blocks_both :
    withoutReports ("See [a][0001].\n" ++ ReportLog.block [⟨some ⟨1, 4, 12⟩, "Web Search URL"⟩]
        ++ ErrorLog.block [("No result", [⟨some ⟨1, 19, 10⟩, "[b](!g b)"⟩])])
      = "See [a][0001].\n".toList :=
  (withoutReports_blocks (by decide +kernel) (by decide +kernel) (by decide +kernel)
    (by decide +kernel)).2 (by decide +kernel)

/-- The run over the two lines `[x](!zzz -->)` and `more` logs this error. The
next run removes the comment up to the mark in the message, and the rest of
the message stays in the document. -/
theorem withoutReports_keeps_quoted_mark :
    ¬ ∀ (body : Text) (log : ReportLog) (errors : ErrorLog),
      Text.contains "<!-- Report:" body = false → Text.contains "<!-- Errors:" body = false →
        withoutReports (body ++ log.block ++ errors.block) = body := by
  intro h
  exact absurd (h "[x](!zzz -->)\nmore\n" []
    [("Invalid search", [⟨some ⟨1, 0, 13⟩, "[x](!zzz -->)"⟩])] (by decide +kernel)
    (by decide +kernel)) (by decide +kernel)

end InlineSearch
