/-
InlineSearch.Proofs.Reference.Paragraphs — definitions of one paragraph.

Behind the definition of a footnote, that of a link is read as a part of the
note, unless an empty line lies between. So lines are `separated` if every
definition among them has the kind of the last one before it in its paragraph.

The footnotes of a footer are preceded by empty lines, but for one that opens
it. So a footer is separated from what stands before it if its first paragraph
is (`Footer.separated_render`): all its references, or its first footnote.
-/
import InlineSearch.Proofs.Reference.Draws
import InlineSearch.Proofs.Reference.Footer

namespace InlineSearch.Reference

/-! ## Definitions and paragraphs -/

/-- The kind of marker that a line defines. A label that begins with `^` belongs
to a footnote. -/
def definedKind? (line : Text) : Option MarkerKind := do
  let (_, opened) ← opened? line
  let (label, rest) ← run? isLabelChar opened
  let _ ← Text.dropPrefix? "]:" rest
  return if label.head? == some '^' then .footnote else .link

/-- The kind of the last definition in a paragraph, behind a line of it. An
empty line ends the paragraph. -/
def nextKind (last? : Option MarkerKind) (line : Text) : Option MarkerKind :=
  if Text.isBlankText line then none else (definedKind? line).or last?

/-- The kind of the last definition in the paragraph that some lines end with. -/
def kindBehind (last? : Option MarkerKind) (lines : List Text) : Option MarkerKind :=
  lines.foldl nextKind last?

/-- Whether no line defines a marker in a paragraph whose last definition is of
the other kind. -/
def separated (last? : Option MarkerKind) : List Text → Bool
  | [] => true
  | line :: rest =>
    (definedKind? line).all (fun kind => last?.all (· == kind))
      && separated (nextKind last? line) rest

theorem kindBehind_append (last? : Option MarkerKind) (a b : List Text) :
    kindBehind last? (a ++ b) = kindBehind (kindBehind last? a) b := List.foldl_append ..

theorem separated_append (last? : Option MarkerKind) (a b : List Text) :
    separated last? (a ++ b) = (separated last? a && separated (kindBehind last? a) b) := by
  induction a generalizing last? with
  | nil => rfl
  | cons line a ih =>
    rw [List.cons_append, separated, separated, ih, Bool.and_assoc]
    rfl

theorem separated_cons {last? : Option MarkerKind} {line : Text} {rest : List Text} :
    separated last? (line :: rest) = true
      ↔ (∀ kind ∈ definedKind? line, ∀ other ∈ last?, other = kind)
        ∧ separated (nextKind last? line) rest = true := by
  simp only [separated, Bool.and_eq_true, Option.all_eq_true, beq_iff_eq, Option.mem_def]

/-- **What it means to be separated**, line by line: the last definition before
a definition is of the same kind, or an empty line lies between. -/
theorem separated_iff {last? : Option MarkerKind} {lines : List Text} :
    separated last? lines = true ↔ ∀ before line after, lines = before ++ line :: after →
      ∀ kind ∈ definedKind? line, ∀ other ∈ kindBehind last? before, other = kind := by
  constructor
  · rintro h before line after rfl
    rw [separated_append, Bool.and_eq_true] at h
    exact (separated_cons.1 h.2).1
  · intro h
    induction lines generalizing last? with
    | nil => rfl
    | cons line rest ih =>
      refine separated_cons.2 ⟨h [] line rest rfl, ih fun before later after hsplit => ?_⟩
      exact h (line :: before) later after (by rw [hsplit, List.cons_append])

/-- In one paragraph all definitions are of one kind. -/
theorem separated_iff_pairwise {lines : List Text}
    (h : ∀ line ∈ lines, Text.isBlankText line = false) (last? : Option MarkerKind) :
    separated last? lines = true
      ↔ (last?.toList ++ lines.filterMap definedKind?).Pairwise (· = ·) := by
  induction lines generalizing last? with
  | nil => cases last? <;> simp [separated]
  | cons line rest ih =>
    have hline := h line (List.mem_cons_self ..)
    have hrest := ih fun line hline => h line (List.mem_cons_of_mem _ hline)
    rw [separated_cons, nextKind, hline, if_neg Bool.false_ne_true, hrest]
    cases hkind : definedKind? line with
    | none =>
      rw [List.filterMap_cons_none hkind, Option.none_or]
      exact and_iff_right fun kind hmem => by cases hmem
    | some kind =>
      rw [List.filterMap_cons_some hkind, Option.some_or]
      cases last? with
      | none => simp
      | some other =>
        simp only [Option.mem_def, Option.some.injEq, forall_eq', Option.toList_some,
          List.cons_append, List.nil_append, List.pairwise_cons (a := other), List.forall_mem_cons]
        constructor
        · rintro ⟨rfl, hpair⟩
          exact ⟨⟨rfl, (List.pairwise_cons.1 hpair).1⟩, hpair⟩
        · rintro ⟨⟨heq, -⟩, hpair⟩
          exact ⟨heq, hpair⟩

/-! ## Kinds of lines -/

theorem definedKind?_eq_some {line : Text} {kind : MarkerKind} (h : definedKind? line = some kind) :
    ∃ indent rest, line = indent ++ '[' :: rest := by
  simp only [definedKind?, Option.bind_eq_bind, Option.bind_eq_some_iff, Prod.exists,
    opened?_eq_some_iff] at h
  obtain ⟨_, rest, ⟨indent, -, hline, -⟩, -⟩ := h
  exact ⟨indent, rest, hline⟩

/-- The kind of a definition that is not indented shows behind its bracket. -/
theorem eq_of_definedKind?_bracket {rest : Text} {kind : MarkerKind}
    (h : definedKind? ('[' :: rest) = some kind) :
    kind = if rest.head? == some '^' then .footnote else .link := by
  have hopened : opened? ('[' :: rest) = some (1, rest) :=
    opened?_eq_some_iff.2 ⟨[], ⟨rfl, by decide⟩, rfl, rfl⟩
  simp only [definedKind?, hopened, Option.bind_eq_bind, Option.bind_some, Option.bind_eq_some_iff,
    Prod.exists, run?_eq_some_iff, Option.pure_def, Option.some.injEq] at h
  obtain ⟨label, _, ⟨rfl, hne, -⟩, _, -, rfl⟩ := h
  rw [List.head?_append_of_ne_nil _ hne]

/-- A line with a definition is not empty. -/
theorem isBlankText_of_definedKind? {line : Text} (h : (definedKind? line).isSome = true) :
    Text.isBlankText line = false := by
  obtain ⟨kind, hkind⟩ := Option.isSome_iff_exists.1 h
  obtain ⟨indent, rest, rfl⟩ := definedKind?_eq_some hkind
  rw [Text.isBlankText, List.all_eq_false]
  exact ⟨'[', by simp, by decide⟩

/-- What a run takes for a definition is one. -/
theorem isSome_definedKind? {line : Text} (h : definesReference line = true) :
    (definedKind? line).isSome = true := by
  simp only [definesReference, Option.isSome_iff_exists, Option.bind_eq_bind,
    Option.bind_eq_some_iff, Prod.exists] at h
  obtain ⟨rest, n, opened, hopened, label, labelled, hlabel, hspace⟩ := h
  obtain rfl : labelled = ("]: " : Text) ++ rest := Text.dropPrefix?_eq_some_iff.1 hspace
  have hcolon : Text.dropPrefix? "]:" (("]: " : Text) ++ rest) = some (' ' :: rest) := rfl
  simp only [definedKind?, hopened, hlabel, hcolon, Option.bind_eq_bind, Option.bind_some]
  rfl

namespace Footer

/-! ## Paragraphs of a footer -/

/-- The first paragraph of a footer. -/
def opening (footer : Footer) : List Text :=
  if footer.references.isEmpty then footer.footnotes.take 1 else Text.lines footer.sorted

/-- The footnotes that stand in paragraphs of their own. -/
def apart (footer : Footer) : List Text :=
  if footer.references.isEmpty then footer.footnotes.drop 1 else footer.footnotes

/-- References of one line each stand in a footer as they are. -/
theorem mem_references_of_mem_lines_sorted {footer : Footer} (hne : footer.references ≠ [])
    (hfeed : ∀ reference ∈ footer.references, '\n' ∉ reference) {line : Text}
    (h : line ∈ Text.lines footer.sorted) : line ∈ footer.references := by
  have hsorted : footer.references.mergeSort Text.le ≠ [] := fun hnil =>
    hne (hnil ▸ List.mergeSort_perm footer.references Text.le).symm.eq_nil
  rw [sorted, Text.lines_join hsorted] at h
  obtain ⟨reference, hmem, hline⟩ := List.mem_flatMap.1 h
  have hmem : reference ∈ footer.references := List.mem_mergeSort.1 hmem
  rw [Text.lines_eq_singleton (hfeed reference hmem)] at hline
  exact List.mem_singleton.1 hline ▸ hmem

variable {footer : Footer} (hfooter : footer.isEmpty = false)
  (hrefs : [] ∉ footer.references) (hnotes : ∀ note ∈ footer.footnotes, note ≠ [] ∧ '\n' ∉ note)
include hfooter hrefs hnotes

/-- The lines of a footer: its first paragraph, and footnotes behind empty
lines. -/
theorem lines_render :
    Text.lines footer.render = footer.opening ++ footer.apart.flatMap fun note => [[], note] := by
  have hrender : footer.render = if !footer.sorted.isEmpty && !footer.spread.isEmpty then
      footer.sorted ++ "\n\n" ++ footer.spread else footer.sorted ++ footer.spread := rfl
  have hspread : ∀ note notes, footer.footnotes = note :: notes →
      Text.lines footer.spread = note :: notes.flatMap fun n => [[], n] := by
    intro note notes hlist
    rw [spread, hlist]
    exact Text.lines_join_apart fun n hn => (hnotes n (hlist ▸ hn)).2
  rw [opening, apart, hrender]
  cases hreferences : footer.references with
  | nil =>
    have hsorted : footer.sorted = [] := by rw [sorted, hreferences, List.mergeSort_nil]; rfl
    cases hfootnotes : footer.footnotes with
    | nil => simp [isEmpty, hreferences, hfootnotes] at hfooter
    | cons note notes =>
      rw [hsorted]
      exact hspread note notes hfootnotes
  | cons reference references =>
    have hmem : reference ∈ footer.references := hreferences ▸ List.mem_cons_self ..
    have hsorted : footer.sorted.isEmpty = false := List.isEmpty_eq_false_iff.2
      (Text.join_ne_nil (List.mem_mergeSort.2 hmem) (ne_of_mem_of_not_mem hmem hrefs))
    cases hfootnotes : footer.footnotes with
    | nil =>
      have hnone : footer.spread = [] := by rw [spread, hfootnotes]; rfl
      simp [hsorted, hnone]
    | cons note notes =>
      have hfull : footer.spread.isEmpty = false := List.isEmpty_eq_false_iff.2
        (Text.join_ne_nil (hfootnotes ▸ List.mem_cons_self ..)
          (hnotes note (hfootnotes ▸ List.mem_cons_self ..)).1)
      have hlines : Text.lines (footer.sorted ++ "\n\n" ++ footer.spread)
          = Text.lines footer.sorted ++ ([] :: Text.lines footer.spread) := by
        rw [List.append_assoc]
        exact (Text.lines_append ..).trans (congrArg _ (Text.lines_append [] footer.spread))
      rw [hsorted, hfull]
      simp only [Bool.not_false, Bool.and_self, ↓reduceIte, List.isEmpty_cons, Bool.false_eq_true]
      rw [hlines, hspread note notes hfootnotes, List.flatMap_cons]
      rfl

/-- **A footer is separated** from what stands before it if its first paragraph
is. -/
theorem separated_render (last? : Option MarkerKind) :
    separated last? (Text.lines footer.render) = separated last? footer.opening := by
  have hapart : ∀ (notes : List Text) (last? : Option MarkerKind),
      separated last? (notes.flatMap fun note => [[], note]) = true := by
    intro notes
    induction notes with
    | nil => exact fun _ => rfl
    | cons note notes ih =>
      intro last?
      refine separated_cons.2 ⟨(fun kind hkind => by cases hkind), separated_cons.2 ⟨?_, ih _⟩⟩
      rintro kind - other hother
      cases hother
  rw [lines_render hfooter hrefs hnotes, separated_append, hapart, Bool.and_true]

end Footer

end InlineSearch.Reference
