/-
InlineSearch.Proofs.Reference.Footnote — footnote definitions, and which of
their numbers are counted.

A footnote is defined by `[^id]: text` at the start of a line. The count of
footnotes reads the ids that are generated (`footnoteId`), and asks for one
space behind their colon: `footnoteNumber_mem` is what it knows. The number
can be read back from a generated id (`idNumber?_footnoteId`), so generated
ids with different numbers are different.
-/
import InlineSearch.Proofs.Reference.Spelling
import InlineSearch.Proofs.Text.Cut
import InlineSearch.Proofs.Text.Lines

namespace InlineSearch

/-- Where one of some joined lines stands: at the start, or behind a line
feed. -/
theorem Text.exists_of_mem_join {ts : List Text} {line : Text} (h : line ∈ ts) :
    ∃ pre suf : Text, join "\n" ts = pre ++ (line ++ suf)
      ∧ atLineStart (lastOf none pre) = true := by
  induction ts with
  | nil => simp at h
  | cons t ts ih =>
    have hjoin : ∃ rest, join "\n" (t :: ts) = t ++ rest
        ∧ (ts ≠ [] → rest = '\n' :: join "\n" ts) := by
      cases ts with
      | nil => exact ⟨[], by rw [join_singleton, List.append_nil], by simp⟩
      | cons u ts => exact ⟨'\n' :: join "\n" (u :: ts), join_cons_cons .., fun _ => rfl⟩
    obtain ⟨rest, hrest, hlater⟩ := hjoin
    rcases List.mem_cons.1 h with rfl | h
    · exact ⟨[], rest, hrest, rfl⟩
    · obtain ⟨pre, suf, hsplit, hstart⟩ := ih h
      refine ⟨t ++ '\n' :: pre, suf, ?_, ?_⟩
      · rw [hrest, hlater (List.ne_nil_of_mem h), hsplit, List.append_assoc]
        rfl
      · have hbefore : lastOf none (t ++ '\n' :: pre) = lastOf (some '\n') pre := by
          rw [lastOf_append]
          rfl
        rw [hbefore]
        cases pre with
        | nil => rfl
        | cons c pre => exact hstart

namespace Reference

/-! ## Footnote definitions -/

/-- The definition of a footnote. -/
structure FootnoteDefinition where
  id : Text
  /-- What stands behind the colon. -/
  rest : Text
deriving DecidableEq, Repr

/-- The footnote that a line defines. -/
def footnoteDefinition? (line : Text) : Option FootnoteDefinition := do
  let (_, opened) ← opened? line
  let opened ← Text.dropPrefix? "^" opened
  let (id, rest) ← run? isLabelChar opened
  let rest ← Text.dropPrefix? "]:" rest
  return ⟨id, rest⟩

/-- The footnotes that the lines of a document define. -/
def footnoteDefinitions (document : Text) : List FootnoteDefinition :=
  (Text.lines document).filterMap footnoteDefinition?

theorem footnoteDefinition?_eq_some {line : Text} {d : FootnoteDefinition}
    (h : footnoteDefinition? line = some d) :
    ∃ indent, Indent indent ∧ line = indent ++ '[' :: '^' :: (d.id ++ ']' :: ':' :: d.rest) := by
  simp only [footnoteDefinition?, Option.bind_eq_bind, Option.bind_eq_some_iff,
    Text.dropPrefix?_eq_some_iff, Option.pure_def, Option.some.injEq, Prod.exists,
    opened?_eq_some_iff, run?_eq_some_iff] at h
  obtain ⟨_, _, ⟨indent, hindent, rfl, -⟩, _, rfl, id, _, ⟨rfl, -⟩, rest, rfl, rfl⟩ := h
  exact ⟨indent, hindent, rfl⟩

/-! ## Generated ids -/

/-- The id that is generated for a footnote, behind what markers begin
with. -/
def footnoteId (start : Text) (n : Nat) : Text := start ++ "fn" ++ fourDigits n

/-- The id of a footnote: digits behind a random prefix or behind none, and
behind the mark of footnotes. -/
theorem digits?_footnoteId {start : Text} (hstart : start = [] ∨ IsRandomPrefix start) (n : Nat)
    (rest : Text) : digits? "^" "fn" ('^' :: (footnoteId start n ++ ']' :: ':' :: ' ' :: rest))
      = some (fourDigits n, rest) := by
  have hdigits : (fourDigits n).all Text.isDecimal = true :=
    List.all_eq_true.2 fun c hc => Text.isDecimal_of_isDigit (isDigit_of_mem_fourDigits hc)
  have hletter : ∀ t : Text, dropRandomPrefix ('f' :: t) = 'f' :: t := by
    intro t
    have hnone : randomPrefix? ('f' :: t) = none := by
      have hf : Text.isDecimal 'f' = false := by decide
      simp [randomPrefix?, hf, guard]
    unfold dropRandomPrefix
    rw [hnone]
  have hdrop : dropRandomPrefix (footnoteId start n ++ ']' :: ':' :: ' ' :: rest)
      = 'f' :: 'n' :: (fourDigits n ++ ']' :: ':' :: ' ' :: rest) := by
    have htext : footnoteId start n ++ ']' :: ':' :: ' ' :: rest
        = start ++ 'f' :: 'n' :: (fourDigits n ++ ']' :: ':' :: ' ' :: rest) := by
      simp [footnoteId]
    rw [htext]
    rcases hstart with rfl | hrand
    · exact hletter _
    · exact dropRandomPrefix_append hrand _
  have hrun : run? Text.isDecimal (fourDigits n ++ ']' :: ':' :: ' ' :: rest)
      = some (fourDigits n, ']' :: ':' :: ' ' :: rest) :=
    run?_eq_some_iff.2 ⟨rfl, fourDigits_ne_nil n, hdigits, by simp [isDecimal_bracket]⟩
  have hopening : Text.dropPrefix? "^" ('^' :: (footnoteId start n ++ ']' :: ':' :: ' ' :: rest))
      = some (footnoteId start n ++ ']' :: ':' :: ' ' :: rest) := rfl
  have hkind : ∀ t : Text, Text.dropPrefix? "fn" ('f' :: 'n' :: t) = some t := fun t => rfl
  simp only [digits?, hopening, hdrop, hkind, Option.bind_eq_bind, Option.bind_some, hrun]
  rfl

/-- **What the count of footnotes knows.** A definition with a generated id is
counted, if a space comes first behind its colon. -/
theorem footnoteNumber_mem {document start : Text} {d : FootnoteDefinition} {n : Nat}
    (hd : d ∈ footnoteDefinitions document) (hrest : d.rest.head? = some ' ')
    (hstart : start = [] ∨ IsRandomPrefix start) (hid : d.id = footnoteId start n)
    (hn : n ≤ Text.maxWord) : n ∈ footnoteNumbers document := by
  obtain ⟨line, hline, hdefines⟩ := List.mem_filterMap.1 hd
  obtain ⟨indent, hindent, htext⟩ := footnoteDefinition?_eq_some hdefines
  obtain ⟨rest, hspace⟩ : ∃ rest, d.rest = ' ' :: rest := List.head?_eq_some_iff.1 hrest
  obtain ⟨pre, suf, hjoin, hbegins⟩ := Text.exists_of_mem_join hline
  rw [Text.join_lines] at hjoin
  have hopened : line ++ suf = indent
      ++ '[' :: '^' :: (footnoteId start n ++ ']' :: ':' :: ' ' :: (rest ++ suf)) := by
    rw [htext, hid, hspace]
    simp
  have hgenerated : generated "^" "fn" (Text.lastOf none pre) (line ++ suf)
      = some ((line ++ suf).length - (rest ++ suf).length, fourDigits n) :=
    generated_eq_some_iff.2 ⟨hbegins, indent, _, _, hindent, hopened,
      digits?_footnoteId hstart n _, rfl⟩
  rw [hjoin]
  refine List.mem_filterMap.2 ⟨fourDigits n, ?_, toWord?_fourDigits hn⟩
  exact mem_hits_generated (by decide) (by decide) hgenerated

/-- The number of a generated id. -/
def idNumber? (id : Text) : Option Nat := do
  let (_, digits) ← Text.cut "fn" id
  Text.toNat? digits

theorem idNumber?_footnoteId {start : Text} (hstart : start = [] ∨ IsRandomPrefix start)
    (n : Nat) : idNumber? (footnoteId start n) = some n := by
  have hletter : 'f' ∉ start := by
    rcases hstart with rfl | ⟨digits, -, hdigits, rfl⟩
    · simp
    · intro hmem
      rcases List.mem_append.1 hmem with hmem | hmem
      · exact absurd (List.all_eq_true.1 hdigits _ hmem) (by decide)
      · exact absurd hmem (by decide)
  have hcut : Text.cut "fn" (footnoteId start n) = some (start, fourDigits n) := by
    rw [footnoteId, List.append_assoc]
    exact Text.cut_of_not_mem hletter _
  unfold idNumber?
  rw [hcut]
  exact toNat?_fourDigits n

end Reference

end InlineSearch
