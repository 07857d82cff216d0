/-
InlineSearch.Proofs.Directive.Splice — a line whose spans are replaced.

`Spliced` says what it means to replace spans of a line: between two of
them every character stays, and each span becomes its replacement, or
stays where it has none. It does not mention byte offsets.

* `exists_spliced` — the spans that are found on a line can be replaced,
  whatever takes their places: they lie apart, left to right, and cut the
  line at characters.
* `apply_of_spliced` — applying the edits of the replaced spans gives that
  line. No edit is skipped.
-/
import InlineSearch.Directive.Span
import InlineSearch.Edit
import InlineSearch.Proofs.Text.Trim
import Mathlib.Data.Option.Basic

namespace InlineSearch

/-! ## Cutting at a byte offset -/

theorem Text.splitBytes?_append (a b : Text) :
    Text.splitBytes? (Text.bytes a) (a ++ b) = some (a, b) := by
  induction a with
  | nil => rw [Text.bytes_nil, List.nil_append, Text.splitBytes?]
  | cons c a ih =>
    obtain ⟨n, hn⟩ : ∃ n, Text.bytes (c :: a) = n + 1 := by
      refine ⟨Text.bytes (c :: a) - 1, ?_⟩
      have := c.utf8Size_pos
      rw [Text.bytes_cons]
      omega
    have hle : c.utf8Size ≤ n + 1 := by
      rw [← hn, Text.bytes_cons]
      omega
    have hsub : n + 1 - c.utf8Size = Text.bytes a := by
      rw [← hn, Text.bytes_cons]
      omega
    rw [hn, List.cons_append, Text.splitBytes?, if_pos hle, hsub, ih]
    rfl

theorem Text.slice?_append (a b c : Text) :
    Text.slice? (Text.bytes a) (Text.bytes a + Text.bytes b) (a ++ (b ++ c)) = some b := by
  have hguard : guard (Text.bytes a ≤ Text.bytes a + Text.bytes b) = some () :=
    (Option.guard_eq_some' ()).2 (Nat.le_add_right ..)
  rw [Text.slice?, hguard]
  simp [Text.splitBytes?_append]

/-- An edit fits where its range is what follows the characters that are
kept. -/
theorem Edit.fit?_append {cursor : Nat} {kept part after : Text} {e : Edit}
    (hstart : e.start = cursor + Text.bytes kept) (hstop : e.stop = e.start + Text.bytes part) :
    Edit.fit? cursor (kept ++ (part ++ after)) e = some (kept, after) := by
  have hkept : e.start - cursor = Text.bytes kept := by omega
  have hpart : e.stop - e.start = Text.bytes part := by omega
  have hle : cursor ≤ e.start ∧ e.start ≤ e.stop := by omega
  have hguard : guard (cursor ≤ e.start ∧ e.start ≤ e.stop) = some () :=
    (Option.guard_eq_some' ()).2 hle
  simp [Edit.fit?, hkept, hpart, hguard, Text.splitBytes?_append]

/-! ## Replaced spans -/

/-- `new` is `rest` with each of `spans` replaced by what is given beside
it. A span beside which nothing is given stays, and so does every character
outside the spans. `before` is what stands before `rest` on the line. -/
inductive Spliced : (before rest : Text) → (spans : List (Span × Option Text)) → (new : Text) → Prop
  | rest (before rest : Text) : Spliced before rest [] rest
  | span {before gap rest new : Text} {s : Span} {r : Option Text}
      {spans : List (Span × Option Text)} (at_gap : s.before = before ++ gap)
      (later : Spliced (s.before ++ s.text) rest spans new) :
      Spliced before (gap ++ s.text ++ rest) ((s, r) :: spans) (gap ++ r.getD s.text ++ new)

namespace Spliced

/-- The edit that replaces a span, if the span is replaced. -/
def edit? : Span × Option Text → Option Edit
  | (s, r) => r.map fun text => ⟨s.start, s.stop, text⟩

theorem edits_cons_none (s : Span) (spans : List (Span × Option Text)) :
    ((s, none) :: spans).filterMap edit? = spans.filterMap edit? := rfl

theorem edits_cons_some (s : Span) (text : Text) (spans : List (Span × Option Text)) :
    ((s, some text) :: spans).filterMap edit?
      = ⟨s.start, s.stop, text⟩ :: spans.filterMap edit? := rfl

/-- Edits apply one after the other to what the edits before them have
left: `done` is behind the last of them, and `mid` has been kept since. -/
theorem applyFrom_eq {before rest new : Text} {spans : List (Span × Option Text)}
    (h : Spliced before rest spans new) (done mid : Text) (hb : before = done ++ mid) :
    Edit.applyFrom (Text.bytes done) (mid ++ rest) (spans.filterMap edit?) = mid ++ new := by
  induction h generalizing done mid with
  | rest before rest => rfl
  | @span before gap rest new s r spans at_gap later ih =>
    -- A span that stays is kept with the characters since the last edit.
    cases r with
    | none =>
      have hkeep := ih done (mid ++ gap ++ s.text) (by simp [at_gap, hb])
      rw [edits_cons_none]
      simpa using hkeep
    | some text =>
      have hfit : Edit.fit? (Text.bytes done) ((mid ++ gap) ++ (s.text ++ rest))
          ⟨s.start, s.stop, text⟩ = some (mid ++ gap, rest) :=
        Edit.fit?_append (by simp [Span.start, at_gap, hb]) rfl
      have hline : mid ++ (gap ++ s.text ++ rest) = (mid ++ gap) ++ (s.text ++ rest) := by simp
      have hend : s.stop = Text.bytes (s.before ++ s.text) := by simp [Span.stop, Span.start]
      have hlater := ih (s.before ++ s.text) [] (by simp)
      rw [edits_cons_some, Edit.applyFrom, hline, hfit]
      dsimp only
      rw [hend, ← List.nil_append rest, hlater]
      simp

/-- Spans that are replaced begin one behind the other. -/
theorem starts {before rest new : Text} {spans : List (Span × Option Text)}
    (h : Spliced before rest spans new) :
    (∀ e ∈ spans.filterMap edit?, Text.bytes before ≤ e.start)
      ∧ (spans.filterMap edit?).Pairwise fun a b => decide (a.start ≤ b.start) = true := by
  induction h with
  | rest before rest => exact ⟨by simp, by simp⟩
  | @span before gap rest new s r spans at_gap later ih =>
    obtain ⟨hfrom, hpair⟩ := ih
    have hs : Text.bytes before ≤ s.start := by
      rw [Span.start, at_gap, Text.bytes_append]
      omega
    have hlater : ∀ e ∈ spans.filterMap edit?, s.start ≤ e.start := by
      intro e he
      have := hfrom e he
      rw [Text.bytes_append] at this
      exact Nat.le_trans (Nat.le_add_right ..) this
    cases r with
    | none =>
      rw [edits_cons_none]
      exact ⟨fun e he => Nat.le_trans hs (hlater e he), hpair⟩
    | some text =>
      rw [edits_cons_some]
      refine ⟨?_, List.pairwise_cons.2 ⟨fun e he => decide_eq_true (hlater e he), hpair⟩⟩
      intro e he
      rcases List.mem_cons.1 he with rfl | he
      · exact hs
      · exact Nat.le_trans hs (hlater e he)

/-- Applying the edits of the replaced spans of a line replaces them. -/
theorem apply_eq {line new : Text} {spans : List (Span × Option Text)}
    (h : Spliced [] line spans new) : Edit.apply (spans.filterMap edit?) line = new := by
  have hsorted : Edit.inOrder (spans.filterMap edit?) = spans.filterMap edit? :=
    List.mergeSort_of_pairwise h.starts.2
  have happly := h.applyFrom_eq [] [] rfl
  rw [Edit.apply, hsorted]
  exact happly

/-- A span that is not replaced stands on the new line. -/
theorem text_infix_of_kept {before rest new : Text} {spans : List (Span × Option Text)}
    (h : Spliced before rest spans new) {s : Span} (hs : (s, none) ∈ spans) :
    s.text <:+: new := by
  induction h with
  | rest before rest => simp at hs
  | @span before gap rest new first r spans at_gap later ih =>
    rcases List.mem_cons.1 hs with hfirst | hs
    · obtain ⟨rfl, rfl⟩ := Prod.mk.inj hfirst
      exact ⟨gap, new, rfl⟩
    · exact (ih hs).trans (List.suffix_append ..).isInfix

/-- The spans of a line lie apart, so the line has room for all of them. -/
theorem count_texts_le {before rest new : Text} {spans : List (Span × Option Text)}
    (h : Spliced before rest spans new) (c : Char) :
    (spans.flatMap fun s => s.1.text).count c ≤ rest.count c := by
  induction h with
  | rest before rest => simp
  | @span before gap rest new s r spans at_gap later ih =>
    rw [List.flatMap_cons, List.count_append, List.count_append, List.count_append]
    dsimp only
    omega

end Spliced

/-! ## The spans of a line -/

namespace Span

/-- A span that is found stands on the line between what is passed over
and what remains. -/
theorem eq_of_first? {before line rest : Text} {s : Span}
    (h : first? before line = some (s, rest)) :
    ∃ gap, s.before = before ++ gap ∧ line = gap ++ s.text ++ rest := by
  simp only [first?, Option.bind_eq_bind, Option.bind_eq_some_iff, Prod.exists,
    Option.pure_def, Option.some.injEq, Prod.mk.injEq] at h
  obtain ⟨gap, opened, h₁, linkText, target, h₂, info, _, h₃, rfl, rfl⟩ := h
  refine ⟨gap, rfl, ?_⟩
  rw [Text.eq_of_cut h₁, Text.eq_of_cut h₂, Text.eq_of_cut h₃]
  simp [text]

/-- A span of a line stands behind the text before it. -/
theorem exists_split_of_mem {before line : Text} {s : Span} (h : s ∈ inLine before line) :
    ∃ gap rest, s.before = before ++ gap ∧ line = gap ++ (s.text ++ rest) := by
  induction before, line using inLine.induct with
  | case1 before line first rest hfirst ih =>
    obtain ⟨gap, hgap, hline⟩ := eq_of_first? hfirst
    rw [inLine, hfirst] at h
    rcases List.mem_cons.1 h with rfl | h
    · exact ⟨gap, rest, hgap, by rw [hline, List.append_assoc]⟩
    · obtain ⟨later, behind, hlater, hrest⟩ := ih h
      refine ⟨gap ++ first.text ++ later, behind, ?_, ?_⟩
      · rw [hlater, hgap]
        simp only [List.append_assoc]
      · rw [hline, hrest]
        simp only [List.append_assoc]
  | case2 before line hfirst =>
    rw [inLine] at h
    split at h
    · next hs => simp_all
    · simp at h

/-- A span that is found stands on the line as it is written. -/
theorem text_infix_of_mem {before line : Text} {s : Span} (h : s ∈ inLine before line) :
    s.text <:+: line := by
  obtain ⟨gap, rest, -, hline⟩ := exists_split_of_mem h
  exact ⟨gap, rest, by rw [hline, List.append_assoc]⟩

/-- The spans of a line can be replaced by whatever is given for them. -/
theorem exists_spliced (before line : Text) (spans : List (Span × Option Text))
    (h : spans.map Prod.fst = inLine before line) : ∃ new, Spliced before line spans new := by
  induction before, line using inLine.induct generalizing spans with
  | case1 before line s rest hfirst ih =>
    obtain ⟨gap, hgap, hline⟩ := eq_of_first? hfirst
    rw [inLine, hfirst] at h
    obtain ⟨⟨t, r⟩, later, rfl, ht, hlater⟩ := List.map_eq_cons_iff.1 h
    dsimp only at ht
    subst ht
    obtain ⟨new, hnew⟩ := ih later hlater
    exact ⟨gap ++ r.getD t.text ++ new, hline ▸ Spliced.span hgap hnew⟩
  | case2 before line hfirst =>
    rw [inLine] at h
    split at h
    · next hs => simp_all
    · rw [List.map_eq_nil_iff.1 h]
      exact ⟨line, Spliced.rest before line⟩

theorem open_mem_text (s : Span) : '[' ∈ s.text := by
  simp [text]

/-- A line that is filled by one of its spans has no other. -/
theorem inLine_of_trim_eq {line : Text} {s : Span} (hs : s ∈ inLine [] line)
    (hfill : Text.trim line = s.text) : inLine [] line = [s] := by
  have hspans : ((inLine [] line).map fun t => (t, (none : Option Text))).map Prod.fst
      = inLine [] line := by
    rw [List.map_map]
    exact List.map_id _
  obtain ⟨new, hnew⟩ := exists_spliced [] line _ hspans
  have hroom := hnew.count_texts_le '['
  have hline : line.count '[' = s.text.count '[' := by
    rw [← hfill, Text.count_trim (by decide)]
  have hcount : ∀ t : Span, 0 < t.text.count '[' := fun t =>
    List.count_pos_iff.2 t.open_mem_text
  obtain ⟨earlier, later, hsplit⟩ := List.append_of_mem hs
  rw [hline, hsplit, List.map_append, List.flatMap_append, List.map_cons, List.flatMap_cons,
    List.count_append, List.count_append] at hroom
  rw [hsplit]
  -- A span before or behind it would open with one more bracket.
  cases earlier with
  | nil =>
    cases later with
    | nil => rfl
    | cons t later =>
      have := hcount t
      rw [List.map_cons, List.flatMap_cons, List.count_append] at hroom
      dsimp only at hroom
      omega
  | cons t earlier =>
    have := hcount t
    rw [List.map_cons, List.flatMap_cons, List.count_append] at hroom
    dsimp only at hroom
    omega

end Span

end InlineSearch
