/-
InlineSearch.Proofs.Reference.Spelling — how definitions are spelled, and
which of their numbers are counted.

Two patterns decide what a definition is: `definition` fills the table,
`generated` counts the numbers of labels. The first takes any blanks behind
the colon, the second one space. `spacedDefinition` is `definition` with
these blanks in its answer, and `number_mem` says where the two agree: a
generated label is counted if a space comes first behind its colon.
-/
import InlineSearch.Proofs.Reference.Digits
import InlineSearch.Proofs.Text.Hits
import InlineSearch.Proofs.Text.Trim
import Mathlib.Data.Option.Basic

namespace InlineSearch.Reference

/-! ## Openings and runs -/

/-- A run takes all characters of its class. -/
theorem run?_eq_some_iff {p : Char → Bool} {t run rest : Text} :
    run? p t = some (run, rest)
      ↔ t = run ++ rest ∧ run ≠ [] ∧ run.all p = true ∧ rest.head?.any p = false := by
  unfold run?
  constructor
  · intro h
    dsimp only at h
    split at h
    · simp at h
    · next hne =>
      obtain ⟨rfl, rfl⟩ := Prod.mk.inj (Option.some.inj h)
      exact ⟨List.takeWhile_append_dropWhile.symm, by simpa using hne, List.all_takeWhile,
        Text.head?_dropWhile_any p t⟩
  · rintro ⟨rfl, hne, hrun, hrest⟩
    dsimp only
    rw [Text.takeWhile_append_stop hrun hrest, Text.dropWhile_append_stop hrun hrest,
      List.isEmpty_eq_false_iff.2 hne]
    rfl

theorem head?_bracket (t : Text) : ('[' :: t).head?.any Text.isBlank = false := by
  rw [List.head?_cons, Option.any_some]
  decide

/-- An indent, as it may stand before the opening bracket of a definition. -/
structure Indent (t : Text) : Prop where
  blank : t.all Text.isBlank = true
  short : t.length ≤ 3

theorem opened?_eq_some_iff {t rest : Text} {n : Nat} :
    opened? t = some (n, rest)
      ↔ ∃ indent, Indent indent ∧ t = indent ++ '[' :: rest ∧ n = indent.length + 1 := by
  simp only [opened?, Option.bind_eq_bind, Option.bind_eq_some_iff, Option.guard_eq_some',
    Text.dropPrefix?_eq_some_iff, Option.pure_def, Option.some.injEq, Prod.mk.injEq]
  constructor
  · rintro ⟨-, hshort, after, hafter, rfl, rfl⟩
    refine ⟨t.takeWhile Text.isBlank, ⟨List.all_takeWhile, hshort⟩, ?_, rfl⟩
    have hsplit : t = t.takeWhile Text.isBlank ++ t.dropWhile Text.isBlank :=
      List.takeWhile_append_dropWhile.symm
    rw [hafter] at hsplit
    exact hsplit
  · rintro ⟨indent, ⟨hblank, hshort⟩, rfl, rfl⟩
    rw [Text.takeWhile_append_stop hblank (head?_bracket rest),
      Text.dropWhile_append_stop hblank (head?_bracket rest)]
    exact ⟨(), hshort, rest, rfl, rfl, rfl⟩

/-! ## Definitions with their blanks -/

/-- A reference definition, with the blanks behind its colon. -/
structure SpacedDefinition where
  label : Text
  gap : Text
  target : Text
deriving DecidableEq, Repr

/-- What `definition` reads, with the blanks behind the colon. -/
def spacedDefinition : Text.Pattern SpacedDefinition := fun before t => do
  guard (Text.atLineStart before)
  let (_, opened) ← opened? t
  let (label, rest) ← run? isLabelChar opened
  guard (label.head? != some '^')
  let rest ← Text.dropPrefix? "]:" rest
  let (gap, rest) ← run? Text.isBlank rest
  let (target, rest) ← run? (!Text.isBlank ·) rest
  return (t.length - rest.length, ⟨label, gap, target⟩)

/-- The reference definitions of a document, with their blanks. -/
def spacedDefinitions (document : Text) : List SpacedDefinition :=
  Text.hits spacedDefinition document

theorem definition_eq (before : Option Char) (t : Text) :
    definition before t
      = (spacedDefinition before t).map fun (n, d) => (n, (d.label, d.target)) := by
  simp only [definition, spacedDefinition, Option.bind_eq_bind, Option.map_bind,
    Function.comp_def, Option.pure_def, Option.map_some]

/-- The definitions of a document are its spaced definitions. -/
theorem definitions_eq (document : Text) :
    definitions document = (spacedDefinitions document).map fun d => (d.label, d.target) :=
  Text.hits_map _ definition_eq document

/-- How a definition is written. -/
theorem spacedDefinition_eq_some {before : Option Char} {t : Text} {n : Nat}
    {d : SpacedDefinition} (h : spacedDefinition before t = some (n, d)) :
    Text.atLineStart before = true ∧ ∃ indent rest, Indent indent
      ∧ t = indent ++ '[' :: (d.label ++ (']' :: ':' :: (d.gap ++ rest))) := by
  simp only [spacedDefinition, Option.bind_eq_bind, Option.bind_eq_some_iff,
    Option.guard_eq_some', Text.dropPrefix?_eq_some_iff, Option.pure_def, Option.some.injEq,
    Prod.mk.injEq, Prod.exists, opened?_eq_some_iff, run?_eq_some_iff] at h
  obtain ⟨_, hstart, _, opened, ⟨indent, hindent, rfl, -⟩, label, _, ⟨rfl, -⟩, _, -, _, rfl, gap,
    _, ⟨rfl, -⟩, target, rest, ⟨rfl, -⟩, -, rfl⟩ := h
  exact ⟨hstart, indent, target ++ rest, hindent, rfl⟩

/-! ## Random prefixes -/

/-- What random markers begin with: four decimal digits and a dash. -/
def IsRandomPrefix (start : Text) : Prop :=
  ∃ digits : Text, digits.length = 4 ∧ digits.all Text.isDecimal = true ∧ start = digits ++ "-"

theorem randomPrefix?_eq_some_iff {t start rest : Text} :
    randomPrefix? t = some (start, rest) ↔ IsRandomPrefix start ∧ t = start ++ rest := by
  simp only [randomPrefix?, Option.bind_eq_bind, Option.bind_eq_some_iff, Option.guard_eq_some',
    Text.dropPrefix?_eq_some_iff, Option.pure_def, Option.some.injEq, Prod.mk.injEq,
    Bool.and_eq_true, beq_iff_eq]
  constructor
  · rintro ⟨_, ⟨hlength, hdigits⟩, _, hdash, rfl, rfl⟩
    refine ⟨⟨t.take 4, hlength, hdigits, rfl⟩, ?_⟩
    calc t = t.take 4 ++ t.drop 4 := (List.take_append_drop 4 t).symm
      _ = _ := by rw [hdash, List.append_assoc]
  · rintro ⟨⟨digits, hlength, hdigits, rfl⟩, rfl⟩
    have htake : (digits ++ ("-" : Text) ++ rest).take 4 = digits := by
      rw [List.append_assoc, ← hlength, List.take_left]
    have hdrop : (digits ++ ("-" : Text) ++ rest).drop 4 = ("-" : Text) ++ rest := by
      rw [List.append_assoc, ← hlength, List.drop_left]
    rw [htake, hdrop]
    exact ⟨(), ⟨hlength, hdigits⟩, rest, rfl, rfl, rfl⟩

theorem isDecimal_bracket : Text.isDecimal ']' = false := by decide

theorem isDecimal_dash : Text.isDecimal '-' = false := by decide

/-- A random prefix is dropped. -/
theorem dropRandomPrefix_append {start : Text} (h : IsRandomPrefix start) (rest : Text) :
    dropRandomPrefix (start ++ rest) = rest := by
  unfold dropRandomPrefix
  rw [randomPrefix?_eq_some_iff.2 ⟨h, rfl⟩]

/-- Digits up to the end of a label are no random prefix. -/
theorem dropRandomPrefix_digits {digits : Text} (h : digits.all Text.isDecimal = true)
    (rest : Text) : dropRandomPrefix (digits ++ ']' :: rest) = digits ++ ']' :: rest := by
  unfold dropRandomPrefix
  split
  · next start after hrand =>
    obtain ⟨⟨four, -, hfour, rfl⟩, htext⟩ := randomPrefix?_eq_some_iff.1 hrand
    -- The digits in front end at a bracket and at a dash.
    have hbracket : (digits ++ ']' :: rest).dropWhile Text.isDecimal = ']' :: rest :=
      Text.dropWhile_append_stop h (by simp [isDecimal_bracket])
    have hdash : (four ++ '-' :: after).dropWhile Text.isDecimal = '-' :: after :=
      Text.dropWhile_append_stop hfour (by simp [isDecimal_dash])
    have hsame : digits ++ ']' :: rest = four ++ '-' :: after := by simpa using htext
    rw [hsame, hdash] at hbracket
    simp at hbracket
  · rfl

/-- What is dropped has no line feed. -/
theorem exists_dropRandomPrefix (t : Text) : ∃ start : Text, t = start ++ dropRandomPrefix t
    ∧ '\n' ∉ start := by
  unfold dropRandomPrefix
  split
  · next start rest hrand =>
    obtain ⟨⟨digits, -, hdigits, rfl⟩, rfl⟩ := randomPrefix?_eq_some_iff.1 hrand
    refine ⟨digits ++ "-", rfl, ?_⟩
    intro hmem
    rcases List.mem_append.1 hmem with hmem | hmem
    · exact absurd (List.all_eq_true.1 hdigits _ hmem) (by decide)
    · exact absurd hmem (by decide)
  · exact ⟨[], rfl, by simp⟩

/-! ## Numbers of labels -/

/-- The digits of a generated label, behind the opening bracket, and what
follows the label. -/
def digits? (opening kind opened : Text) : Option (Text × Text) := do
  let rest ← Text.dropPrefix? opening opened
  let rest ← Text.dropPrefix? kind (dropRandomPrefix rest)
  let (digits, rest) ← run? Text.isDecimal rest
  let rest ← Text.dropPrefix? "]: " rest
  return (digits, rest)

theorem generated_eq_some_iff {opening kind t digits : Text} {before : Option Char} {n : Nat} :
    generated opening kind before t = some (n, digits)
      ↔ Text.atLineStart before = true ∧ ∃ indent opened rest, Indent indent
        ∧ t = indent ++ '[' :: opened ∧ digits? opening kind opened = some (digits, rest)
        ∧ n = t.length - rest.length := by
  simp only [generated, digits?, Option.bind_eq_bind, Option.bind_eq_some_iff,
    Option.guard_eq_some', Option.pure_def, Option.some.injEq, Prod.mk.injEq, Prod.exists,
    opened?_eq_some_iff]
  constructor
  · rintro ⟨-, hstart, _, opened, ⟨indent, hindent, htext, -⟩, _, h₁, _, h₂, _, _, h₃, rest, h₄,
      hn, rfl⟩
    exact ⟨hstart, indent, opened, rest, hindent, htext, ⟨_, h₁, _, h₂, _, _, h₃, _, h₄, rfl, rfl⟩,
      hn.symm⟩
  · rintro ⟨hstart, indent, opened, rest, hindent, htext, ⟨_, h₁, _, h₂, _, _, h₃, _, h₄, rfl,
      rfl⟩, hn⟩
    exact ⟨(), hstart, _, opened, ⟨indent, hindent, htext, rfl⟩, _, h₁, _, h₂, _, _, h₃, _, h₄,
      hn.symm, rfl⟩

section

variable {opening kind : Text} (hopening : '\n' ∉ opening) (hkind : '\n' ∉ kind)
include hopening hkind

/-- A label lies on one line. -/
theorem exists_of_digits? {opened digits rest : Text}
    (h : digits? opening kind opened = some (digits, rest)) :
    ∃ label : Text, opened = label ++ rest ∧ '\n' ∉ label := by
  simp only [digits?, Option.bind_eq_bind, Option.bind_eq_some_iff, Option.pure_def,
    Option.some.injEq, Prod.mk.injEq, Prod.exists, Text.dropPrefix?_eq_some_iff,
    run?_eq_some_iff] at h
  obtain ⟨behind, rfl, numbered, hnumbered, run, _, ⟨rfl, -, hrun, -⟩, _, rfl, rfl, rfl⟩ := h
  obtain ⟨start, hstart, hline⟩ := exists_dropRandomPrefix behind
  rw [hnumbered] at hstart
  refine ⟨opening ++ start ++ kind ++ run ++ ("]: " : Text), by rw [hstart]; simp, ?_⟩
  have hdigits : '\n' ∉ run := fun hmem =>
    absurd (List.all_eq_true.1 hrun _ hmem) (by decide)
  simp [hopening, hkind, hline, hdigits]

/-- A hit that reaches past the start of a line has only blanks before it:
the rest of it is the hit that the line would have by itself. -/
theorem digits_of_covered {pre suf digits number rest opened indent : Text}
    (hcov : Text.Covered (generated opening kind) none pre suf digits)
    (hline : Text.atLineStart (Text.lastOf none pre) = true)
    (hindent : Indent indent) (hsuf : suf = indent ++ '[' :: opened)
    (h : digits? opening kind opened = some (number, rest)) : digits = number := by
  obtain ⟨outer, inner, taken, rfl, hne, hlength, hhit⟩ := hcov
  obtain ⟨-, blanks, opened', rest', hblanks, htext, hdigits, htaken⟩ :=
    generated_eq_some_iff.1 hhit
  obtain ⟨label, rfl, hlabel⟩ := exists_of_digits? hopening hkind hdigits
  -- The line begins behind a line feed, and the hit has one only among its blanks.
  obtain ⟨init, c, rfl, hlast⟩ := Text.exists_lastOf hne (Text.lastOf none outer)
  rw [Text.lastOf_append, hlast] at hline
  have hc : c = '\n' := by simpa [Text.atLineStart] using hline
  subst hc
  have hinside : ∃ later : Text, blanks = init ++ ['\n'] ++ later
      ∧ suf = later ++ '[' :: (label ++ rest') := by
    rcases List.append_eq_append_iff.1 htext with
      ⟨later, hlater, hrest⟩ | ⟨surplus, hsurplus, hrest⟩
    · exact ⟨later, hlater, hrest⟩
    cases surplus with
    | nil => exact ⟨[], by simpa using hsurplus.symm, by simpa using hrest.symm⟩
    | cons bracket surplus =>
      exfalso
      obtain ⟨rfl, hsurplus'⟩ := List.cons.inj hrest
      have hshort : surplus.length ≤ label.length := by
        have h₁ := congrArg List.length htext
        have h₂ := congrArg List.length hsurplus
        simp only [List.length_append, List.length_cons, List.length_nil] at h₁ h₂ hlength htaken
        omega
      have hbegins : surplus <+: label :=
        List.prefix_of_prefix_length_le ⟨suf, hsurplus'.symm⟩ (List.prefix_append ..) hshort
      have hends : ('[' :: surplus).getLast? = some '\n' := by
        calc ('[' :: surplus).getLast? = (blanks ++ '[' :: surplus).getLast? := by
              rw [List.getLast?_append, List.getLast?_cons, Option.some_or]
          _ = (init ++ ['\n']).getLast? := congrArg List.getLast? hsurplus.symm
          _ = some '\n' := List.getLast?_concat
      rcases List.mem_cons.1 (List.mem_of_getLast? hends) with hbracket | hmem
      · exact absurd hbracket (by decide)
      · exact hlabel (hbegins.subset hmem)
  obtain ⟨later, rfl, hsuf'⟩ := hinside
  have hlater : later.all Text.isBlank = true := by
    have hall := hblanks.blank
    rw [List.all_append, Bool.and_eq_true] at hall
    exact hall.2
  -- Both readings of the rest of the line begin at its bracket.
  have hopened : '[' :: opened = '[' :: (label ++ rest') := by
    rw [← Text.dropWhile_append_stop hindent.blank (head?_bracket opened), ← hsuf, hsuf',
      Text.dropWhile_append_stop hlater (head?_bracket _)]
  rw [(List.cons.inj hopened).2, hdigits] at h
  exact (Prod.mk.inj (Option.some.inj h)).1

/-- A generated label is read wherever it stands: a hit that covers it reads
the same digits. -/
theorem mem_hits_generated {pre suf digits : Text} {n : Nat}
    (h : generated opening kind (Text.lastOf none pre) suf = some (n, digits)) :
    digits ∈ Text.hits (generated opening kind) (pre ++ suf) := by
  obtain ⟨hline, indent, opened, rest, hindent, hsuf, hdigits, hn⟩ := generated_eq_some_iff.1 h
  obtain ⟨label, rfl, -⟩ := exists_of_digits? hopening hkind hdigits
  have hne : suf ≠ [] := by simp [hsuf]
  obtain ⟨taken, rfl⟩ : ∃ taken, n = taken + 1 := by
    have hlength := congrArg List.length hsuf
    simp only [List.length_append, List.length_cons] at hlength
    exact ⟨n - 1, by omega⟩
  rcases Text.mem_hits_or_covered hne h with hhit | ⟨other, hhit, hcov⟩
  · exact hhit
  · rw [← digits_of_covered hopening hkind hcov hline hindent hsuf hdigits]
    exact hhit

end

/-- The label of a reference: digits behind a random prefix or behind none. -/
theorem digits?_label {start digits : Text} (hstart : start = [] ∨ IsRandomPrefix start)
    (hne : digits ≠ []) (hdigits : digits.all Text.isDecimal = true) (rest : Text) :
    digits? [] [] (start ++ digits ++ ']' :: ':' :: ' ' :: rest) = some (digits, rest) := by
  have hdrop : dropRandomPrefix (start ++ digits ++ ']' :: ':' :: ' ' :: rest)
      = digits ++ ']' :: ':' :: ' ' :: rest := by
    rcases hstart with rfl | hrand
    · exact dropRandomPrefix_digits hdigits _
    · rw [List.append_assoc]
      exact dropRandomPrefix_append hrand _
  have hrun : run? Text.isDecimal (digits ++ ']' :: ':' :: ' ' :: rest)
      = some (digits, ']' :: ':' :: ' ' :: rest) :=
    run?_eq_some_iff.2 ⟨rfl, hne, hdigits, by simp [isDecimal_bracket]⟩
  simp only [digits?, Text.dropPrefix?, hdrop, Option.bind_eq_bind, Option.bind_some, hrun]
  rfl

/-- **What the count knows.** A definition whose label is a marker as they
are generated is counted, if a space comes first behind its colon. -/
theorem number_mem {document start : Text} {d : SpacedDefinition} {n : Nat}
    (hd : d ∈ spacedDefinitions document) (hgap : d.gap.head? = some ' ')
    (hstart : start = [] ∨ IsRandomPrefix start) (hlabel : d.label = start ++ fourDigits n)
    (hn : n ≤ Text.maxWord) : n ∈ numbers document := by
  obtain ⟨pre, suf, taken, rfl, hmatch⟩ := Text.exists_of_mem_hits hd
  obtain ⟨hline, indent, rest, hindent, hsuf⟩ := spacedDefinition_eq_some hmatch
  obtain ⟨gap, hspace⟩ : ∃ gap, d.gap = ' ' :: gap := List.head?_eq_some_iff.1 hgap
  have hdigits : digits? [] [] (d.label ++ ']' :: ':' :: (d.gap ++ rest))
      = some (fourDigits n, gap ++ rest) := by
    rw [hlabel, hspace, List.cons_append]
    refine digits?_label hstart (fourDigits_ne_nil n) ?_ (gap ++ rest)
    exact List.all_eq_true.2 fun c hc => Text.isDecimal_of_isDigit (isDigit_of_mem_fourDigits hc)
  have hgenerated : generated [] [] (Text.lastOf none pre) suf
      = some (suf.length - (gap ++ rest).length, fourDigits n) :=
    generated_eq_some_iff.2 ⟨hline, indent, _, _, hindent, hsuf, hdigits, rfl⟩
  refine List.mem_filterMap.2 ⟨fourDigits n, ?_, toWord?_fourDigits hn⟩
  exact mem_hits_generated (by simp) (by simp) hgenerated

/-! ## What random markers begin with -/

theorem isRandomPrefix_of_mem {document start : Text} (h : start ∈ prefixes document) :
    IsRandomPrefix start := by
  obtain ⟨_, suf, taken, -, hmatch⟩ := Text.exists_of_mem_hits h
  simp only [prefixed, Option.bind_eq_bind, Option.bind_eq_some_iff, Option.pure_def,
    Option.some.injEq, Prod.mk.injEq, Prod.exists, randomPrefix?_eq_some_iff] at hmatch
  obtain ⟨_, -, _, _, ⟨hrand, -⟩, _, _, -, _, -, _, -, -, rfl⟩ := hmatch
  exact hrand

/-- Markers begin with a random prefix, or with nothing. -/
theorem Markers.start_ofDocument {random : Nat} (hrandom : random < 10000) (document : Text)
    (prefixed : Bool) : (Markers.ofDocument random document).start prefixed = []
      ∨ IsRandomPrefix ((Markers.ofDocument random document).start prefixed) := by
  cases prefixed with
  | false => exact .inl rfl
  | true =>
    refine .inr ?_
    show IsRandomPrefix (((prefixes document).head?).getD (fourDigits random ++ "-"))
    cases hhead : (prefixes document).head? with
    | some start => exact isRandomPrefix_of_mem (List.mem_of_head? hhead)
    | none =>
      refine ⟨fourDigits random, length_fourDigits hrandom, ?_, rfl⟩
      exact List.all_eq_true.2 fun c hc => Text.isDecimal_of_isDigit (isDigit_of_mem_fourDigits hc)

/-- What random markers begin with is written with digits and a dash. -/
theorem Markers.mem_randomPrefix {random : Nat} {document : Text} {c : Char}
    (h : c ∈ (Markers.ofDocument random document).randomPrefix) :
    Text.isDecimal c = true ∨ c = '-' := by
  have hmem : c ∈ ((prefixes document).head?).getD (fourDigits random ++ "-") := h
  cases hhead : (prefixes document).head? with
  | some start =>
    obtain ⟨digits, -, hdigits, hstart⟩ := isRandomPrefix_of_mem (List.mem_of_head? hhead)
    rw [hhead, Option.getD_some, hstart] at hmem
    rcases List.mem_append.1 hmem with hmem | hmem
    · exact .inl (List.all_eq_true.1 hdigits c hmem)
    · exact .inr (List.mem_singleton.1 hmem)
  | none =>
    rw [hhead, Option.getD_none] at hmem
    rcases List.mem_append.1 hmem with hmem | hmem
    · exact .inl (Text.isDecimal_of_isDigit (isDigit_of_mem_fourDigits hmem))
    · exact .inr (List.mem_singleton.1 hmem)

/-- The count begins at the greatest number. -/
theorem Markers.le_highest {ns : List Nat} {n : Nat} (h : n ∈ ns) : n ≤ highest ns := by
  unfold highest
  have hfold : ∀ (ns : List Nat) (m : Nat), m ≤ ns.foldl max m ∧ ∀ n ∈ ns, n ≤ ns.foldl max m := by
    intro ns
    induction ns with
    | nil => exact fun m => ⟨Nat.le_refl m, by simp⟩
    | cons k ns ih =>
      intro m
      obtain ⟨hfrom, hall⟩ := ih (max m k)
      refine ⟨Nat.le_trans (Nat.le_max_left m k) hfrom, ?_⟩
      intro n hn
      rcases List.mem_cons.1 hn with rfl | hn
      · exact Nat.le_trans (Nat.le_max_right m n) hfrom
      · exact hall n hn
  exact (hfold ns 0).2 n h

theorem Markers.highest_lt {ns : List Nat} {bound : Nat} (hbound : 0 < bound)
    (h : ∀ n ∈ ns, n < bound) : highest ns < bound := by
  unfold highest
  have hfold : ∀ (ns : List Nat) (m : Nat), m < bound → (∀ n ∈ ns, n < bound) →
      ns.foldl max m < bound := by
    intro ns
    induction ns with
    | nil => exact fun _ hm _ => hm
    | cons k ns ih =>
      intro m hm h
      have hk : k < bound := h k (List.mem_cons_self ..)
      exact ih _ (Nat.max_lt.2 ⟨hm, hk⟩) fun n hn => h n (List.mem_cons_of_mem _ hn)
  exact hfold ns 0 hbound h

end InlineSearch.Reference
