/-
InlineSearch.Proofs.Report — what an error log holds, and where its entries
point.

`ErrorLog.push` puts an entry into the group of its label. Entry by entry
this comes to `grouped`: the labels in the order in which they come first,
each with its entries in the order in which they came
(`pushAll_eq_grouped`). No entry is lost or written twice on the way
(`lines_pushAll`).

`Position.select?` reads a position back: it is the part of a text that
the position stands for.
-/
import InlineSearch.Proofs.Directive.Splice
import InlineSearch.Report

namespace InlineSearch

namespace ErrorLog

/-! ## Entries by their labels -/

/-- The log with more entries, one after the other. -/
def pushAll (log : ErrorLog) (entries : List (Text × LogEntry)) : ErrorLog :=
  entries.foldl (fun log entry => log.push entry.1 entry.2) log

/-- Entries by their labels: the labels in the order in which they come
first, each with its entries in their order. -/
def grouped (entries : List (Text × LogEntry)) : ErrorLog :=
  (entries.map Prod.fst).eraseDups.map fun label =>
    (label, (entries.filter (·.1 == label)).map Prod.snd)

/-- The label of the first entry comes first, with all its entries; the other
entries are grouped behind it. -/
theorem grouped_cons (label : Text) (entry : LogEntry) (rest : List (Text × LogEntry)) :
    grouped ((label, entry) :: rest)
      = (label, entry :: (rest.filter (·.1 == label)).map Prod.snd)
        :: grouped (rest.filter (·.1 != label)) := by
  have hlabels : (rest.map Prod.fst).filter (fun l => !l == label)
      = (rest.filter (·.1 != label)).map Prod.fst := by
    rw [List.filter_map]
    rfl
  unfold grouped
  rw [List.map_cons, List.eraseDups_cons, List.map_cons, hlabels]
  congr 1
  · simp
  · refine List.map_congr_left fun l hl => ?_
    -- A label that is left is another one, so its entries are all left too.
    obtain ⟨e, he, rfl⟩ := List.mem_map.1 (List.mem_eraseDups.1 hl)
    have hne : e.1 ≠ label := by simpa using (List.mem_filter.1 he).2
    have hsame : ∀ other ∈ rest, (other.1 == e.1) = ((other.1 == e.1) && (other.1 != label)) := by
      intro other _
      by_cases heq : other.1 = e.1
      · simp [heq, hne]
      · simp [heq]
    rw [List.filter_cons_of_neg (by simpa using Ne.symm hne), List.filter_filter,
      List.filter_congr hsame]

/-- Pushing an entry puts it behind the entries of its label. -/
theorem push_grouped (label : Text) (entry : LogEntry) (entries : List (Text × LogEntry)) :
    (grouped entries).push label entry = grouped (entries ++ [(label, entry)]) := by
  -- What is left of the entries behind the first label is shorter.
  induction hn : entries.length using Nat.strongRecOn generalizing entries with
  | _ n ih =>
  cases entries with
  | nil =>
    rw [List.nil_append, grouped_cons]
    rfl
  | cons first rest =>
    obtain ⟨l, e⟩ := first
    rw [List.cons_append, grouped_cons, grouped_cons, push, List.filter_append,
      List.filter_append]
    by_cases hl : l = label
    · simp [hl]
    · have hshort : (rest.filter (·.1 != l)).length < n := by
        have := List.length_filter_le (·.1 != l) rest
        rw [← hn, List.length_cons]
        omega
      rw [if_neg hl, ih _ hshort _ rfl]
      simp [Ne.symm hl]

theorem pushAll_grouped (earlier entries : List (Text × LogEntry)) :
    (grouped earlier).pushAll entries = grouped (earlier ++ entries) := by
  induction entries generalizing earlier with
  | nil => rw [List.append_nil]; rfl
  | cons entry rest ih =>
    rw [pushAll, List.foldl_cons, push_grouped, ← pushAll, ih, List.append_assoc]
    rfl

/-- **A log groups its entries by their labels.** -/
theorem pushAll_eq_grouped (entries : List (Text × LogEntry)) :
    pushAll [] entries = grouped entries :=
  pushAll_grouped [] entries

/-! ## Lines -/

/-- An entry behind its label, as it is written. -/
def line (entry : Text × LogEntry) : Text := "(" ++ entry.1 ++ ") " ++ entry.2.written

theorem lines_cons (label : Text) (entries : List LogEntry) (groups : ErrorLog) :
    lines ((label, entries) :: groups)
      = (entries.map fun entry => line (label, entry)) ++ groups.lines := rfl

/-- A pushed entry adds one line. -/
theorem lines_push (log : ErrorLog) (label : Text) (entry : LogEntry) :
    (log.push label entry).lines.Perm (line (label, entry) :: log.lines) := by
  induction log with
  | nil => exact .refl _
  | cons group groups ih =>
    obtain ⟨l, entries⟩ := group
    unfold push
    split
    · next hl =>
      rw [lines_cons, lines_cons, hl, List.map_append, List.append_assoc]
      exact List.perm_middle
    · rw [lines_cons, lines_cons]
      exact (ih.append_left _).trans List.perm_middle

/-- The lines of a log are those of its entries: none is missing, and none is
written twice. -/
theorem lines_pushAll (log : ErrorLog) (entries : List (Text × LogEntry)) :
    (log.pushAll entries).lines.Perm (entries.map line ++ log.lines) := by
  induction entries generalizing log with
  | nil => exact .refl _
  | cons entry rest ih =>
    refine (ih (log.push entry.1 entry.2)).trans ?_
    refine ((lines_push log entry.1 entry.2).append_left _).trans ?_
    exact List.perm_middle

theorem lines_grouped (entries : List (Text × LogEntry)) :
    (grouped entries).lines.Perm (entries.map line) := by
  have hlines := lines_pushAll [] entries
  rw [pushAll_eq_grouped] at hlines
  exact hlines.trans (.of_eq (List.append_nil _))

/-- A log without entries is empty, and no other. -/
theorem isEmpty_grouped (entries : List (Text × LogEntry)) :
    (grouped entries).isEmpty = entries.isEmpty := by
  cases entries with
  | nil => rfl
  | cons first rest =>
    rw [grouped_cons]
    rfl

end ErrorLog

/-! ## Places -/

/-- The part of a text that a position stands for: so many bytes, from a byte
column of a line on. Nothing if the text has no such line or its characters
do not begin and end there. -/
def Position.select? (p : Position) (t : Text) : Option Text := do
  guard (0 < p.line)
  let line ← (Text.lines t)[p.line - 1]?
  let (_, here) ← Text.splitBytes? p.column line
  let (selected, _) ← Text.splitBytes? p.length here
  return selected

/-- The position of a part of a line stands for that part. -/
theorem Position.select?_of_line {t line before part after : Text} {n : Nat}
    (hline : (Text.lines t)[n]? = some line) (hsplit : line = before ++ (part ++ after)) :
    Position.select? ⟨n + 1, Text.bytes before, Text.bytes part⟩ t = some part := by
  unfold Position.select?
  simp [hline, hsplit, Text.splitBytes?_append, guard]

end InlineSearch
