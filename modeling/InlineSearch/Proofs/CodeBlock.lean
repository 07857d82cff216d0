/-
InlineSearch.Proofs.CodeBlock — the kinds of lines, part by part.

What stands before a line decides its kind only through the fence that is
open behind it (`fenceAfter`), so the lines of a text can be classified part
by part (`classifyFrom_append`). A plain line begins with no mark of a fence:
it neither opens nor closes one (`classify_none_of_plain`,
`classify_some_of_plain`).

A line keeps its kind if a span of it is replaced by an `Inset`
(`classify_of_inset`), or if the blanks at its end are trimmed
(`classify_trimEnd`).
-/
import InlineSearch.CodeBlock
import InlineSearch.Proofs.Text.Cut
import InlineSearch.Proofs.Text.Trim
import Mathlib.Data.Option.Basic

namespace InlineSearch.CodeBlock

theorem length_classifyFrom (fence? : Option Fence) (lines : List Text) :
    (classifyFrom fence? lines).length = lines.length := by
  induction lines generalizing fence? with
  | nil => rfl
  | cons line rest ih => rw [classifyFrom, List.length_cons, List.length_cons, ih]

theorem length_classifyLines (lines : List Text) : (classifyLines lines).length = lines.length :=
  length_classifyFrom none lines

/-- Every line has a kind. -/
theorem getElem?_zip_classifyLines {lines : List Text} {n : Nat} {line : Text}
    (h : lines[n]? = some line) :
    ∃ kind, ((classifyLines lines).zip lines)[n]? = some (kind, line) := by
  obtain ⟨hn, -⟩ := List.getElem?_eq_some_iff.1 h
  have hkind : n < (classifyLines lines).length := by rwa [length_classifyLines]
  refine ⟨(classifyLines lines)[n], ?_⟩
  rw [List.getElem?_zip_eq_some]
  exact ⟨List.getElem?_eq_getElem hkind, h⟩

/-! ## Parts of a text -/

/-- The fence that is open behind lines, when `fence?` is open before them. -/
def fenceAfter (fence? : Option Fence) : List Text → Option Fence
  | [] => fence?
  | line :: rest => fenceAfter (classify fence? line).2 rest

theorem classifyFrom_cons (fence? : Option Fence) (line : Text) (rest : List Text) :
    classifyFrom fence? (line :: rest)
      = (classify fence? line).1 :: classifyFrom (classify fence? line).2 rest := rfl

theorem classifyFrom_append (fence? : Option Fence) (a b : List Text) :
    classifyFrom fence? (a ++ b)
      = classifyFrom fence? a ++ classifyFrom (fenceAfter fence? a) b := by
  induction a generalizing fence? with
  | nil => rfl
  | cons line a ih =>
    rw [List.cons_append, classifyFrom_cons, classifyFrom_cons, fenceAfter, ih, List.cons_append]

theorem fenceAfter_append (fence? : Option Fence) (a b : List Text) :
    fenceAfter fence? (a ++ b) = fenceAfter (fenceAfter fence? a) b := by
  induction a generalizing fence? with
  | nil => rfl
  | cons line a ih => exact ih _

/-- The kind of a line is what the fence that is open before it makes of it. -/
theorem getElem?_classifyFrom (fence? : Option Fence) (lines : List Text) (n : Nat) :
    (classifyFrom fence? lines)[n]?
      = lines[n]?.map fun line => (classify (fenceAfter fence? (lines.take n)) line).1 := by
  induction lines generalizing fence? n with
  | nil => rfl
  | cons line rest ih =>
    cases n with
    | zero => rfl
    | succ n =>
      rw [classifyFrom_cons, List.getElem?_cons_succ, ih]
      rfl

/-- Lines with their kinds, part by part. -/
theorem zip_classifyFrom_append (fence? : Option Fence) (a b : List Text) :
    (classifyFrom fence? (a ++ b)).zip (a ++ b)
      = (classifyFrom fence? a).zip a ++ (classifyFrom (fenceAfter fence? a) b).zip b := by
  rw [classifyFrom_append, List.zip_append (length_classifyFrom fence? a)]

/-! ## Marks -/

/-- Whether a character marks a fence. -/
def isMark (c : Char) : Bool := c == '\x60' || c == '~'

/-- A fence that is open, if one is, has the mark of a fence. -/
def Marked (fence? : Option Fence) : Prop := ∀ fence ∈ fence?, isMark fence.mark = true

theorem marked_of_opening? {trimmed : Text} {fence : Fence} (h : opening? trimmed = some fence) :
    isMark fence.mark = true := by
  simp only [opening?, Option.bind_eq_bind, Option.bind_eq_some_iff, Option.guard_eq_some',
    Option.pure_def, Option.some.injEq] at h
  obtain ⟨mark, -, _, hmark, _, -, rfl⟩ := h
  exact hmark

theorem marked_classify {fence? : Option Fence} (h : Marked fence?) (line : Text) :
    Marked (classify fence? line).2 := by
  unfold classify
  dsimp only
  split
  · next fence =>
    split
    · simp [Marked]
    · exact h
  · split
    · simp [Marked]
    · split
      · next fence hopen =>
        split at hopen
        · intro other hother
          rw [← Option.mem_some.1 hother]
          exact marked_of_opening? hopen
        · simp at hopen
      · simp [Marked]

theorem marked_fenceAfter {fence? : Option Fence} (h : Marked fence?) (lines : List Text) :
    Marked (fenceAfter fence? lines) := by
  induction lines generalizing fence? with
  | nil => exact h
  | cons line rest ih => exact ih (marked_classify h line)

/-- No fence is open before a text. -/
theorem marked_none : Marked none := by simp [Marked]

/-! ## Plain lines -/

/-- A line that begins, behind its blanks, with no mark of a fence. -/
def Plain (line : Text) : Prop := (Text.trimStart line).head?.any isMark = false

theorem opening?_of_plain {line : Text} (h : Plain line) :
    opening? (Text.trimStart line) = none := by
  rw [Option.eq_none_iff_forall_ne_some]
  intro fence hopen
  have hmark := marked_of_opening? hopen
  simp only [opening?, Option.bind_eq_bind, Option.bind_eq_some_iff, Option.pure_def,
    Option.some.injEq] at hopen
  obtain ⟨mark, hhead, -, -, -, -, rfl⟩ := hopen
  rw [Plain, hhead, Option.any_some, hmark] at h
  exact absurd h (by decide)

/-- Outside fences a plain line is text or indented code. -/
theorem classify_none_of_plain {line : Text} (h : Plain line) :
    classify none line = (if isIndented line then .indented else .text, none) := by
  unfold classify
  dsimp only
  rw [opening?_of_plain h, ite_self]
  split <;> rfl

/-- A plain line does not close a fence. -/
theorem classify_some_of_plain {fence : Fence} {line : Text} (hmark : isMark fence.mark = true)
    (h : Plain line) : classify (some fence) line = (.fenced, some fence) := by
  have hrun : (Text.trimStart line).takeWhile (· == fence.mark) = [] := by
    cases hhead : Text.trimStart line with
    | nil => rfl
    | cons c rest =>
      have hc : isMark c = false := by simpa [Plain, hhead] using h
      have hne : (c == fence.mark) = false := by
        rw [beq_eq_false_iff_ne]
        intro heq
        rw [heq, hmark] at hc
        simp at hc
      rw [List.takeWhile_cons, hne]
      rfl
  have hcloses : closes fence (Text.trimStart line) = false := by
    unfold closes
    rw [hrun]
    rfl
  unfold classify
  dsimp only
  rw [hcloses]
  rfl

/-! ## Changed lines -/

theorem not_isBlank_of_isMark {c : Char} (h : isMark c = true) : Text.isBlank c = false := by
  unfold isMark at h
  rw [Bool.or_eq_true, beq_iff_eq, beq_iff_eq] at h
  rcases h with rfl | rfl
  · decide
  · decide

section

variable {c : Char} (hc : Text.isBlank c = false)
include hc

/-- What follows the first character that is not blank does not decide whether
a line is indented code. -/
theorem isIndented_append_cons (a x : Text) :
    isIndented (a ++ c :: x)
      = ((Text.dropPrefix? "    " a).or (Text.dropPrefix? "\t" a)).any fun rest =>
        (rest ++ [c]).head?.any fun c => !(c == '*' || c == '+' || c == '-') := by
  have hdrop : ∀ sep : Text, sep.all Text.isBlank = true →
      Text.dropPrefix? sep (a ++ c :: x) = (Text.dropPrefix? sep a).map (· ++ c :: x) := by
    intro sep hsep
    refine Text.dropPrefix?_append_cons (fun hmem => ?_) a x
    have hblank := List.all_eq_true.1 hsep c hmem
    rw [hc] at hblank
    simp at hblank
  have hhead : ∀ rest : Text, (rest ++ c :: x).head? = (rest ++ [c]).head? := by
    intro rest
    cases rest <;> rfl
  unfold isIndented
  rw [hdrop "    " (by decide), hdrop "\t" (by decide)]
  cases Text.dropPrefix? "    " a with
  | some rest => simp [hhead]
  | none =>
    cases Text.dropPrefix? "\t" a with
    | some rest => simp [hhead]
    | none => rfl

theorem mayOpen_append_cons (a x : Text) :
    mayOpen (a ++ c :: x)
      = (decide (Text.bytes (a.takeWhile Text.isBlank) ≤ deepestFence)
        && !Text.startsWith "\t" a) := by
  have hrun : (a ++ c :: x).takeWhile Text.isBlank = a.takeWhile Text.isBlank :=
    Text.takeWhile_append_of_head (by simpa using hc) a
  have htab : Text.startsWith "\t" (a ++ c :: x) = Text.startsWith "\t" a := by
    cases a with
    | nil =>
      have hne : c ≠ '\t' := by
        rintro rfl
        exact absurd hc (by decide)
      simp [Text.startsWith, List.isPrefixOf_cons_cons, hne.symm]
    | cons d a => simp [Text.startsWith, List.isPrefixOf_cons_cons]
  unfold mayOpen
  rw [hrun, htab]

theorem trimStart_append_cons (a x : Text) :
    Text.trimStart (a ++ c :: x) = Text.trimStart a ++ c :: x :=
  Text.dropWhile_append_of_head (by simpa using hc) a

end

/-- Outside fences a line is text unless it is indented or opens a fence. -/
theorem classify_none_eq_text_iff {line : Text} : classify none line = (.text, none)
    ↔ isIndented line = false
      ∧ (mayOpen line = true → opening? (Text.trimStart line) = none) := by
  unfold classify
  dsimp only
  cases isIndented line with
  | true => simp
  | false =>
    cases mayOpen line with
    | false => simp
    | true => cases opening? (Text.trimStart line) <;> simp

/-- Text stands outside of fences, and leaves none open. -/
theorem outside_of_text {fence? : Option Fence} {line : Text}
    (h : (classify fence? line).1 = .text) :
    fence? = none ∧ classify none line = (.text, none) := by
  cases fence? with
  | some fence =>
    unfold classify at h
    dsimp only at h
    split at h <;> cases h
  | none =>
    refine ⟨rfl, ?_⟩
    unfold classify at h ⊢
    dsimp only at h ⊢
    cases hindent : isIndented line with
    | true => simp [hindent] at h
    | false =>
      rw [if_neg (by simp [hindent])] at h
      rw [if_neg (by simp)]
      cases hopen : if mayOpen line then opening? (Text.trimStart line) else none with
      | some fence => simp [hopen] at h
      | none => rfl

theorem opening?_cons (c : Char) (rest : Text) : opening? (c :: rest)
    = if isMark c && 3 ≤ ((c :: rest).takeWhile (· == c)).length then
        some ⟨c, ((c :: rest).takeWhile (· == c)).length⟩ else none := by
  have hopening : opening? (c :: rest) = (do
      guard (isMark c = true)
      guard (3 ≤ ((c :: rest).takeWhile (· == c)).length)
      return ⟨c, ((c :: rest).takeWhile (· == c)).length⟩) := rfl
  rw [hopening]
  cases isMark c with
  | false => rfl
  | true =>
    by_cases hlength : 3 ≤ ((c :: rest).takeWhile (· == c)).length
    · have hguard : (guard (3 ≤ ((c :: rest).takeWhile (· == c)).length) : Option Unit) = some () :=
        if_pos hlength
      rw [hguard, decide_eq_true hlength]
      rfl
    · have hguard : (guard (3 ≤ ((c :: rest).takeWhile (· == c)).length) : Option Unit) = none :=
        if_neg hlength
      rw [hguard, decide_eq_false hlength]
      rfl

/-- A run of marks ends where something else follows. -/
theorem opening?_append {b : Text} (hb : b.head?.any isMark = false) (a : Text) :
    opening? (a ++ b) = opening? a := by
  cases a with
  | nil =>
    cases b with
    | nil => rfl
    | cons c b =>
      have hc : isMark c = false := by simpa using hb
      rw [List.nil_append, opening?_cons, hc]
      rfl
  | cons c a =>
    rw [List.cons_append, opening?_cons, opening?_cons, ← List.cons_append]
    cases hc : isMark c with
    | false => rfl
    | true =>
      have hnone : b.head?.any (· == c) = false := by
        cases hhead : b.head? with
        | none => rfl
        | some d =>
          have hd : isMark d = false := by simpa [hhead] using hb
          rw [Option.any_some, beq_eq_false_iff_ne]
          rintro rfl
          rw [hc] at hd
          simp at hd
      rw [Text.takeWhile_append_of_head hnone]

/-- What may stand in a line in place of a span: it holds no line feed, and
begins with neither a blank nor a mark of a fence. -/
structure Inset (t : Text) : Prop where
  unbroken : '\n' ∉ t
  begins : ∃ c rest, t = c :: rest ∧ Text.isBlank c = false ∧ isMark c = false

/-- A line of text stays text if what its first bracket opens is replaced. -/
theorem classify_of_inset {text : Text} (htext : Inset text) {pre rest : Text}
    (h : classify none (pre ++ '[' :: rest) = (.text, none)) (tail : Text) :
    classify none (pre ++ text ++ tail) = (.text, none) := by
  obtain ⟨c, later, rfl, hblank, hmark⟩ := htext.begins
  have hline : pre ++ c :: later ++ tail = pre ++ c :: (later ++ tail) := by simp
  have hbracket : Text.isBlank '[' = false := by decide
  rw [classify_none_eq_text_iff, isIndented_append_cons hbracket, mayOpen_append_cons hbracket,
    trimStart_append_cons hbracket, opening?_append (by rfl)] at h
  rw [hline, classify_none_eq_text_iff, isIndented_append_cons hblank,
    mayOpen_append_cons hblank, trimStart_append_cons hblank,
    opening?_append (by simpa using hmark)]
  refine ⟨?_, h.2⟩
  -- Right behind its indent the line holds more than the bracket, which would
  -- make it code.
  have hindent := h.1
  cases hdrop : (Text.dropPrefix? "    " pre).or (Text.dropPrefix? "\t" pre) with
  | none => rfl
  | some behind =>
    rw [hdrop] at hindent
    cases behind with
    | nil => simp at hindent
    | cons d behind => simpa using hindent

/-- Blanks behind the last other character of a line do not decide its kind. -/
theorem classify_append_blank {fence? : Option Fence} (hmarked : Marked fence?) {c : Char}
    (hc : Text.isBlank c = false) {b : Text} (hb : Text.isBlankText b = true) (a : Text) :
    classify fence? (a ++ c :: b) = classify fence? (a ++ [c]) := by
  have hstop : ∀ p : Char → Bool, (∀ d, p d = true → Text.isBlank d = false) →
      b.head?.any p = false := by
    intro p hp
    cases b with
    | nil => rfl
    | cons d b =>
      have hd := List.all_eq_true.1 hb d (List.mem_cons_self ..)
      rw [List.head?_cons, Option.any_some, ← Bool.not_eq_true]
      intro hpd
      rw [hp d hpd] at hd
      simp at hd
  have hline : Text.trimStart a ++ c :: b = Text.trimStart a ++ [c] ++ b := by simp
  unfold classify
  dsimp only
  rw [trimStart_append_cons hc, trimStart_append_cons hc, hline]
  generalize Text.trimStart a ++ [c] = v
  cases fence? with
  | some fence =>
    have hnone : b.head?.any (· == fence.mark) = false := by
      refine hstop _ fun d hd => ?_
      rw [beq_iff_eq.1 hd]
      exact not_isBlank_of_isMark (hmarked fence rfl)
    have hblank : ∀ t : Text, Text.isBlankText (t ++ b) = Text.isBlankText t := by
      intro t
      have hall : b.all Text.isBlank = true := hb
      simp [Text.isBlankText, hall]
    have hcloses : closes fence (v ++ b) = closes fence v := by
      unfold closes
      rw [Text.takeWhile_append_of_head hnone, Text.dropWhile_append_of_head hnone, hblank]
    dsimp only
    rw [hcloses]
  | none =>
    have hopening : opening? (v ++ b) = opening? v :=
      opening?_append (hstop _ fun _ => not_isBlank_of_isMark) v
    have hindent : isIndented (a ++ c :: b) = isIndented (a ++ [c]) := by
      rw [isIndented_append_cons hc, isIndented_append_cons hc]
    have hmay : mayOpen (a ++ c :: b) = mayOpen (a ++ [c]) := by
      rw [mayOpen_append_cons hc, mayOpen_append_cons hc]
    dsimp only
    rw [hopening, hindent, hmay]

/-- A line that is not blank keeps its kind if blanks at its end are trimmed. -/
theorem classify_trimEnd {fence? : Option Fence} (hmarked : Marked fence?) {line : Text}
    (h : Text.isBlankText line = false) :
    classify fence? (Text.trimEnd line) = classify fence? line := by
  obtain ⟨a, c, b, hc, hb, htrim, hline⟩ := Text.exists_last h
  rw [htrim, ← classify_append_blank hmarked hc hb a, ← hline]

end InlineSearch.CodeBlock
