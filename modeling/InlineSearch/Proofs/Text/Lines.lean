/-
InlineSearch.Proofs.Text.Lines — the lines of a text that is put together.

A line feed between two texts keeps their lines apart (`lines_append`), so a
property of all lines is shown part by part (`allLines_append`,
`allLines_join`), and what holds none stands on a line
(`exists_line_of_infix`).
-/
import InlineSearch.Proofs.Text.Cut

namespace InlineSearch.Text

theorem lines_append (a b : Text) : lines (a ++ '\n' :: b) = lines a ++ lines b :=
  List.splitOn_append_cons_self a b

theorem join_singleton (sep t : Text) : join sep [t] = t := List.intercalate_singleton

theorem join_cons_cons (sep t u : Text) (ts : List Text) :
    join sep (t :: u :: ts) = t ++ (sep ++ join sep (u :: ts)) := by
  unfold join
  rw [List.intercalate_cons_cons, List.append_assoc]

/-- A last part is joined on behind the others. -/
theorem join_concat {ts : List Text} (hne : ts ≠ []) (sep t : Text) :
    join sep (ts ++ [t]) = join sep ts ++ (sep ++ t) := by
  induction ts with
  | nil => exact absurd rfl hne
  | cons u ts ih =>
    cases ts with
    | nil => rw [List.singleton_append, join_cons_cons, join_singleton, join_singleton]
    | cons v ts =>
      have hlater := ih (by simp)
      rw [List.cons_append] at hlater
      rw [List.cons_append, List.cons_append, join_cons_cons, hlater, join_cons_cons]
      simp only [List.append_assoc]

theorem mem_join {sep : Text} {ts : List Text} {c : Char} (h : c ∈ join sep ts) :
    c ∈ sep ∨ ∃ t ∈ ts, c ∈ t := by
  induction ts with
  | nil => simp [join] at h
  | cons t ts ih =>
    cases ts with
    | nil =>
      rw [join_singleton] at h
      exact .inr ⟨t, List.mem_singleton.2 rfl, h⟩
    | cons u ts =>
      rw [join_cons_cons, List.mem_append, List.mem_append] at h
      rcases h with h | h | h
      · exact .inr ⟨t, List.mem_cons_self .., h⟩
      · exact .inl h
      · rcases ih h with h | ⟨v, hv, h⟩
        · exact .inl h
        · exact .inr ⟨v, List.mem_cons_of_mem _ hv, h⟩

theorem lines_eq_singleton {t : Text} (h : '\n' ∉ t) : lines t = [t] :=
  List.splitOn_eq_singleton h

/-- No part of a text holds a character that it was split at. -/
theorem not_of_mem_splitOnP {p : Char → Bool} {t part : Text} (h : part ∈ t.splitOnP p) :
    ∀ c ∈ part, p c = false := by
  induction t generalizing part with
  | nil =>
    rw [List.splitOnP_nil] at h
    simp [List.mem_singleton.1 h]
  | cons c t ih =>
    rw [List.splitOnP_cons_eq_if_modifyHead] at h
    obtain ⟨head, rest, hsplit⟩ := List.exists_cons_of_ne_nil (List.splitOnP_ne_nil p t)
    rw [hsplit] at h ih
    split at h
    · rcases List.mem_cons.1 h with rfl | h
      · exact fun d hd => absurd hd List.not_mem_nil
      · exact ih h
    · next hc =>
      rw [List.modifyHead_cons] at h
      rcases List.mem_cons.1 h with rfl | h
      · exact List.forall_mem_cons.2 ⟨Bool.eq_false_iff.2 hc, ih (List.mem_cons_self ..)⟩
      · exact ih (List.mem_cons_of_mem _ h)

/-- No line of a text holds a line feed. -/
theorem not_mem_of_mem_lines {t line : Text} (h : line ∈ lines t) : '\n' ∉ line := fun hmem => by
  have hfeed : ('\n' == '\n') = false := not_of_mem_splitOnP (p := (· == '\n')) h '\n' hmem
  simp at hfeed

/-- A text is its lines, joined at line feeds. -/
theorem join_lines (t : Text) : join "\n" (lines t) = t := List.intercalate_splitOn '\n'

theorem lines_ne_nil (t : Text) : lines t ≠ [] := List.splitOn_ne_nil '\n' t

theorem infix_of_mem_join {sep t : Text} {ts : List Text} (h : t ∈ ts) : t <:+: join sep ts := by
  induction ts with
  | nil => simp at h
  | cons u ts ih =>
    cases ts with
    | nil =>
      rw [join_singleton]
      exact List.mem_singleton.1 h ▸ List.infix_refl t
    | cons v ts =>
      rw [join_cons_cons]
      rcases List.mem_cons.1 h with rfl | h
      · exact (List.prefix_append ..).isInfix
      · exact (ih h).trans ((List.suffix_append ..).trans (List.suffix_append ..)).isInfix

theorem join_ne_nil {sep t : Text} {ts : List Text} (ht : t ∈ ts) (hne : t ≠ []) :
    join sep ts ≠ [] := by
  intro hnil
  have hin : t <:+: join sep ts := infix_of_mem_join ht
  rw [hnil] at hin
  exact hne (List.infix_nil.1 hin)

theorem infix_of_mem_lines {t line : Text} (h : line ∈ lines t) : line <:+: t := by
  have hin : line <:+: join "\n" (lines t) := infix_of_mem_join h
  rwa [join_lines] at hin

/-- What holds no line feed stands on one of the lines. -/
theorem exists_infix_of_infix_join {part : Text} (hne : part ≠ []) (hpart : '\n' ∉ part)
    {ts : List Text} (h : part <:+: join "\n" ts) : ∃ t ∈ ts, part <:+: t := by
  induction ts with
  | nil => exact absurd (List.infix_nil.1 h) hne
  | cons t ts ih =>
    cases ts with
    | nil => exact ⟨t, List.mem_singleton.2 rfl, join_singleton "\n" t ▸ h⟩
    | cons u ts =>
      have hjoin : join "\n" (t :: u :: ts) = t ++ '\n' :: join "\n" (u :: ts) :=
        join_cons_cons ..
      rw [hjoin, infix_append_cons hpart hne] at h
      rcases h with h | h
      · exact ⟨t, List.mem_cons_self .., h⟩
      · obtain ⟨v, hv, hin⟩ := ih h
        exact ⟨v, List.mem_cons_of_mem _ hv, hin⟩

theorem exists_line_of_infix {part t : Text} (hne : part ≠ []) (hpart : '\n' ∉ part)
    (h : part <:+: t) : ∃ line ∈ lines t, part <:+: line :=
  exists_infix_of_infix_join hne hpart ((join_lines t).symm ▸ h)

/-- Texts joined at line feeds have the lines of each, in their order. -/
theorem lines_join {ts : List Text} (hne : ts ≠ []) : lines (join "\n" ts) = ts.flatMap lines := by
  induction ts with
  | nil => exact absurd rfl hne
  | cons t ts ih =>
    cases ts with
    | nil => rw [join_singleton, List.flatMap_singleton]
    | cons u ts =>
      have hjoin : join "\n" (t :: u :: ts) = t ++ '\n' :: join "\n" (u :: ts) :=
        join_cons_cons ..
      rw [hjoin, lines_append, ih (by simp)]
      exact List.flatMap_cons.symm

/-! ## Single lines -/

/-- Single lines, joined with empty lines between them. -/
theorem lines_join_apart {t : Text} {ts : List Text} (h : ∀ u ∈ t :: ts, '\n' ∉ u) :
    lines (join "\n\n" (t :: ts)) = t :: ts.flatMap fun u => [[], u] := by
  induction ts generalizing t with
  | nil =>
    rw [join_singleton, lines_eq_singleton (h t (List.mem_cons_self ..))]
    rfl
  | cons next ts ih =>
    have hjoin : join "\n\n" (t :: next :: ts)
        = t ++ '\n' :: ([] ++ '\n' :: join "\n\n" (next :: ts)) :=
      join_cons_cons ..
    rw [hjoin, lines_append, lines_append, ih fun u hu => h u (List.mem_cons_of_mem _ hu),
      lines_eq_singleton (h t (List.mem_cons_self ..)), lines_eq_singleton (by simp)]
    rfl

/-- The last line of a text that no line feed ends. -/
theorem getLast?_endedLines {t : Text} (hne : t ≠ []) (hfeed : t.getLast? ≠ some '\n') :
    (endedLines t).getLast? = (lines t).getLast? := by
  obtain ⟨init, last, hlines⟩ := List.eq_nil_or_concat (lines t) |>.resolve_left (lines_ne_nil t)
  rw [List.concat_eq_append] at hlines
  have hlast : last ≠ [] := by
    rintro rfl
    have hjoin := join_lines t
    rw [hlines] at hjoin
    cases init with
    | nil => exact hne hjoin.symm
    | cons line init =>
      rw [join_concat (by simp), List.append_nil] at hjoin
      rw [← hjoin] at hfeed
      exact hfeed (List.getLast?_concat ..)
  rw [endedLines, hlines]
  simp [Option.filter, hlast]

/-- A text with one line at most holds no line feed, but for one at its end. -/
theorem feed_not_mem_of_single {t : Text} (h : (endedLines t).length ≤ 1) :
    '\n' ∉ t.dropLast := by
  have hjoin := join_lines t
  have hfeed : ∀ line ∈ lines t, '\n' ∉ line := fun line => not_mem_of_mem_lines
  rcases List.eq_nil_or_concat (lines t) with hnil | ⟨init, last, hlines⟩
  · exact absurd hnil (lines_ne_nil t)
  rw [List.concat_eq_append] at hlines
  rw [hlines] at hjoin hfeed
  rw [endedLines, hlines] at h
  simp only [List.dropLast_concat, List.length_append, List.length_map,
    List.getLast?_concat] at h
  -- Either there is one line, or a second one that is empty.
  cases init with
  | nil =>
    rw [List.nil_append, join_singleton] at hjoin
    rw [← hjoin]
    exact fun hmem => hfeed last (List.mem_cons_self ..) (List.dropLast_subset _ hmem)
  | cons line init =>
    rw [List.length_cons] at h
    have hinit : init = [] := List.length_eq_zero_iff.1 (by omega)
    have hlast : last = [] := by
      cases last with
      | nil => rfl
      | cons c last => simp [Option.filter] at h
    have hsplit : line ++ ['\n'] = t := by
      rw [hinit, hlast] at hjoin
      exact hjoin
    rw [← hsplit, List.dropLast_concat]
    exact hfeed line (List.mem_cons_self ..)

/-- Such a text has no line behind its first one but an empty one. -/
theorem lines_of_feed_not_mem {t : Text} (h : '\n' ∉ t.dropLast) :
    ∃ line, lines t = [line] ∨ lines t = [line, []] := by
  rcases List.eq_nil_or_concat t with rfl | ⟨init, c, rfl⟩
  · exact ⟨[], .inl rfl⟩
  · rw [List.concat_eq_append] at h ⊢
    rw [List.dropLast_concat] at h
    by_cases hc : c = '\n'
    · refine ⟨init, .inr ?_⟩
      rw [hc, lines_append, lines_eq_singleton h]
      rfl
    · refine ⟨init ++ [c], .inl (lines_eq_singleton ?_)⟩
      rw [List.mem_append, List.mem_singleton]
      rintro (hinit | heq)
      · exact h hinit
      · exact hc heq.symm

/-! ## Properties of all lines -/

/-- Every line of a text has a property. -/
def AllLines (P : Text → Prop) (t : Text) : Prop := ∀ line ∈ lines t, P line

variable {P : Text → Prop}

theorem allLines_append {a b : Text} :
    AllLines P (a ++ '\n' :: b) ↔ AllLines P a ∧ AllLines P b := by
  unfold AllLines
  rw [lines_append]
  constructor
  · intro h
    exact ⟨fun line hline => h line (List.mem_append_left _ hline),
      fun line hline => h line (List.mem_append_right _ hline)⟩
  · rintro ⟨ha, hb⟩ line hline
    rcases List.mem_append.1 hline with hline | hline
    · exact ha line hline
    · exact hb line hline

theorem allLines_of_not_mem {t : Text} (h : '\n' ∉ t) (hP : P t) : AllLines P t := by
  intro line hline
  rw [lines_eq_singleton h] at hline
  exact List.mem_singleton.1 hline ▸ hP

theorem allLines_nil (hP : P []) : AllLines P [] := allLines_of_not_mem (by simp) hP

/-- Texts joined at line feeds have their own lines and no others. -/
theorem allLines_join {ts : List Text} (hnil : P []) (h : ∀ t ∈ ts, AllLines P t) :
    AllLines P (join "\n" ts) := by
  induction ts with
  | nil => exact allLines_nil hnil
  | cons t ts ih =>
    have ht := h t (List.mem_cons_self ..)
    cases ts with
    | nil =>
      rw [join_singleton]
      exact ht
    | cons u ts =>
      rw [join_cons_cons]
      exact allLines_append.2 ⟨ht, ih fun t ht => h t (List.mem_cons_of_mem _ ht)⟩

/-- With two line feeds between texts there are empty lines besides. -/
theorem allLines_join_apart {ts : List Text} (hnil : P []) (h : ∀ t ∈ ts, AllLines P t) :
    AllLines P (join "\n\n" ts) := by
  induction ts with
  | nil => exact allLines_nil hnil
  | cons t ts ih =>
    have ht := h t (List.mem_cons_self ..)
    cases ts with
    | nil =>
      rw [join_singleton]
      exact ht
    | cons u ts =>
      have hlater := ih fun t ht => h t (List.mem_cons_of_mem _ ht)
      rw [join_cons_cons]
      exact allLines_append.2 ⟨ht, allLines_append.2 ⟨allLines_nil hnil, hlater⟩⟩

end InlineSearch.Text
