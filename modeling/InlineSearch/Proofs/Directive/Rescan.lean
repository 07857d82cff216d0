/-
InlineSearch.Proofs.Directive.Rescan — the spans of a line, read again once
some of them are replaced.

A span that is found does not depend on what follows it
(`exists_of_first?`), so up to the first replaced span a line reads as
before. From there on nothing is certain: the bracket of what has been put
in may open a span that reaches over what comes next. `Reread` says both,
and `Spliced.reread` proves it for every line whose spans are replaced.

So if nothing but spans that stay is read from there on, and the spans that
were not replaced stay as well, then all spans of the new line stay
(`Reread.stays`). A line of text is still text (`Reread.classify`).

What is read from there on are links only, if nothing is left behind the
first replaced span that turns to an info but replaced spans and links
(`Span.ClearBehind`, `Reread.staysBehind`): a bracket that is open may reach
to such a link, which is a link still.

Blanks at the end of a line belong to no span (`inLine_append_blank`).
-/
import InlineSearch.Directive.Basic
import InlineSearch.Directive.Flag
import InlineSearch.Proofs.CodeBlock
import InlineSearch.Proofs.Directive.Splice
import InlineSearch.Proofs.Text.Chars
import Mathlib.Data.List.Infix

namespace InlineSearch

namespace Span

/-! ## Spans that stay -/

/-- A run leaves the span of a line as it is: it lies inside inline code, or it
is an ordinary link. -/
def Stays (line : Text) (s : Span) : Prop :=
  s.inCode = true ∨ Directive.read s.linkText (Directive.Flag.strip s.info)
    (Text.trim line == s.text) = .link

instance (line : Text) (s : Span) : Decidable (s.Stays line) :=
  inferInstanceAs (Decidable (_ ∨ _))

/-! ## Finding a span again -/

/-- A span is found whatever follows it. -/
theorem exists_of_first? {before line rest : Text} {s : Span}
    (h : first? before line = some (s, rest)) :
    ∃ gap, s.before = before ++ gap ∧ '[' ∉ gap ∧ line = gap ++ s.text ++ rest
      ∧ ∀ later, first? before (gap ++ s.text ++ later) = some (s, later) := by
  obtain ⟨gap, hgap, hline⟩ := eq_of_first? h
  simp only [first?, Option.bind_eq_bind, Option.bind_eq_some_iff, Prod.exists,
    Option.pure_def, Option.some.injEq, Prod.mk.injEq] at h
  obtain ⟨gap', opened, hopen, linkText, target, hturn, info, _, hclose, rfl, rfl⟩ := h
  obtain rfl : gap' = gap := List.append_cancel_left hgap
  refine ⟨gap', rfl, ?_, hline, fun later => ?_⟩
  · intro hmem
    exact Text.not_infix_of_cut (by decide) hopen ((List.singleton_infix_iff ..).2 hmem)
  · have hclose := Text.cut_of_cut hclose later
    have hturn := Text.cut_of_cut hturn (info ++ (")" : Text) ++ later)
    have hopen :=
      Text.cut_of_cut hopen (linkText ++ ("](" : Text) ++ (info ++ (")" : Text) ++ later))
    have htext : gap' ++ text ⟨before ++ gap', linkText, info⟩ ++ later = gap' ++ ("[" : Text)
        ++ (linkText ++ ("](" : Text) ++ (info ++ (")" : Text) ++ later)) := by
      simp [text]
    rw [htext, first?, hopen]
    simp only [Option.bind_eq_bind, Option.bind_some, hturn, hclose, Option.pure_def]

/-- What holds no opening bracket is passed over. -/
theorem first?_gap {gap : Text} (h : '[' ∉ gap) (before t : Text) :
    first? before (gap ++ t) = first? (before ++ gap) t := by
  have hcut : Text.cut "[" (gap ++ t)
      = (Text.cut "[" t).map fun parts => (gap ++ parts.1, parts.2) := by
    cases ht : Text.cut "[" t with
    | none =>
      rw [Option.map_none, Text.cut_eq_none_iff]
      rw [Text.cut_eq_none_iff] at ht
      intro hin
      rcases List.mem_append.1 ((List.singleton_infix_iff ..).1 hin) with hmem | hmem
      · exact h hmem
      · exact ht ((List.singleton_infix_iff ..).2 hmem)
    | some parts =>
      obtain ⟨a, b⟩ := parts
      have ha : '[' ∉ a := fun hmem =>
        Text.not_infix_of_cut (by decide) ht ((List.singleton_infix_iff ..).2 hmem)
      have hgap : '[' ∉ gap ++ a := by
        rw [List.mem_append, not_or]
        exact ⟨h, ha⟩
      have hline : gap ++ (a ++ ("[" : Text) ++ b) = (gap ++ a) ++ '[' :: b := by simp
      rw [Text.eq_of_cut ht, hline]
      exact Text.cut_singleton hgap b
  unfold first?
  rw [hcut]
  cases Text.cut "[" t with
  | none => rfl
  | some parts => simp [List.append_assoc]

theorem inLine_gap {gap : Text} (h : '[' ∉ gap) (before t : Text) :
    inLine before (gap ++ t) = inLine (before ++ gap) t := by
  rw [inLine, first?_gap h, ← inLine]

theorem inLine_of_first? {before line rest : Text} {s : Span}
    (h : first? before line = some (s, rest)) :
    inLine before line = s :: inLine (s.before ++ s.text) rest := by
  rw [inLine, h]

theorem inLine_of_none {before line : Text} (h : first? before line = none) :
    inLine before line = [] := by
  rw [inLine_eq_nil_iff, ← first?_isSome before, h]
  rfl

/-! ## Parts of a span -/

/-- A span is cut where it is written, whatever follows it. -/
structure Cut (s : Span) : Prop where
  turn : ∀ later, Text.cut "](" (s.linkText ++ ("](" : Text) ++ later) = some (s.linkText, later)
  close : ∀ later, Text.cut ")" (s.info ++ (")" : Text) ++ later) = some (s.info, later)

theorem cut_of_mem {before line : Text} {s : Span} (h : s ∈ inLine before line) : s.Cut := by
  induction before, line using inLine.induct with
  | case1 before line first rest hfirst ih =>
    rw [inLine_of_first? hfirst] at h
    rcases List.mem_cons.1 h with rfl | h
    · simp only [first?, Option.bind_eq_bind, Option.bind_eq_some_iff, Prod.exists,
        Option.pure_def, Option.some.injEq, Prod.mk.injEq] at hfirst
      obtain ⟨_, _, -, linkText, _, hturn, info, _, hclose, rfl, -⟩ := hfirst
      exact ⟨Text.cut_of_cut hturn, Text.cut_of_cut hclose⟩
    · exact ih h
  | case2 before line hfirst =>
    rw [inLine_of_none hfirst] at h
    simp at h

/-- The parts of a span end at the first place where they can. -/
theorem Cut.parts {s : Span} (h : s.Cut) :
    ¬ ("](" : Text) <:+: s.linkText ∧ ')' ∉ s.info :=
  ⟨Text.not_infix_of_cut (by decide) (h.turn []), fun hmem =>
    Text.not_infix_of_cut (by decide) (h.close []) ((List.singleton_infix_iff ..).2 hmem)⟩

/-- A line without a closing parenthesis has no span. -/
theorem first?_of_not_mem {line : Text} (h : ')' ∉ line) (before : Text) :
    first? before line = none := by
  rw [Option.eq_none_iff_forall_ne_some]
  rintro ⟨s, rest⟩ hfirst
  obtain ⟨gap, -, rfl⟩ := eq_of_first? hfirst
  exact h (by simp [text])

/-- Nor does a line without a turn from a link text to an info. -/
theorem first?_of_no_turn {line : Text} (h : ¬ ("](" : Text) <:+: line) (before : Text) :
    first? before line = none := by
  rw [Option.eq_none_iff_forall_ne_some]
  rintro ⟨s, rest⟩ hfirst
  obtain ⟨gap, -, rfl⟩ := eq_of_first? hfirst
  exact h ⟨gap ++ '[' :: s.linkText, s.info ++ ')' :: rest, by simp [text]⟩

/-- A bracket that closes a label turns to nothing. -/
theorem turn_infix_label_iff {label : Text} :
    ("](" : Text) <:+: label ++ [']'] ↔ ("](" : Text) <:+: label := by
  have hend : ¬ ("](" : Text) <:+ label ++ [']'] := fun hsuffix => by
    have hlast := hsuffix.getLast (by decide)
    simp at hlast
  rw [List.infix_concat_iff, or_iff_right hend]

/-- A line that labels what stands behind a colon has no span: its bracket is
closed before the colon, and behind it there is no parenthesis to close. -/
theorem first?_label {label rest : Text} (hlabel : ')' ∉ label ∨ ¬ ("](" : Text) <:+: label)
    (hrest : ')' ∉ rest) (before : Text) :
    first? before ('[' :: (label ++ ']' :: ':' :: rest)) = none := by
  rcases hlabel with hlabel | hlabel
  · exact first?_of_not_mem (by simp [hlabel, hrest]) before
  have hopen : Text.cut "[" ('[' :: (label ++ ']' :: ':' :: rest))
      = some ([], label ++ ']' :: ':' :: rest) :=
    Text.cut_self_append (by decide) _
  have hturn : Text.cut "](" (label ++ ']' :: ':' :: rest)
      = (Text.cut "](" rest).map fun parts => (label ++ [']'] ++ ':' :: parts.1, parts.2) := by
    have hline : label ++ ']' :: ':' :: rest = label ++ [']'] ++ ':' :: rest := by simp
    rw [hline]
    exact Text.cut_append_cons (by decide) (by decide) (mt turn_infix_label_iff.1 hlabel) rest
  unfold first?
  rw [hopen]
  simp only [Option.bind_eq_bind, Option.bind_some]
  rw [hturn]
  cases hcut : Text.cut "](" rest with
  | none => rfl
  | some parts =>
    have hnone : Text.cut ")" parts.2 = none := by
      rw [Text.cut_eq_none_iff]
      intro hin
      refine hrest ?_
      rw [Text.eq_of_cut hcut]
      exact List.mem_append_right _ ((List.singleton_infix_iff ..).1 hin)
    simp only [Option.map_some, Option.bind_some, hnone, Option.bind_none]

/-! ## Blanks at the end -/

/-- Blanks belong to no span that is found. -/
theorem first?_append_blank {b : Text} (hb : Text.isBlankText b = true) (before u : Text) :
    first? before (u ++ b) = (first? before u).map fun (s, rest) => (s, rest ++ b) := by
  have hmark : ∀ sep : Text, sep ≠ [] → sep.all (!Text.isBlank ·) = true → ∀ t : Text,
      Text.cut sep (t ++ b) = (Text.cut sep t).map fun parts => (parts.1, parts.2 ++ b) := by
    intro sep hne hsep t
    refine Text.cut_append_of_disjoint hne (fun c hc hcb => ?_) t
    have hblank := List.all_eq_true.1 hb c hcb
    have hnot := List.all_eq_true.1 hsep c hc
    rw [hblank] at hnot
    simp at hnot
  unfold first?
  rw [hmark "[" (by decide) (by decide)]
  cases Text.cut "[" u with
  | none => rfl
  | some opened =>
    simp only [Option.map_some, Option.bind_eq_bind, Option.bind_some]
    rw [hmark "](" (by decide) (by decide)]
    cases Text.cut "](" opened.2 with
    | none => rfl
    | some turned =>
      simp only [Option.map_some, Option.bind_some]
      rw [hmark ")" (by decide) (by decide)]
      cases Text.cut ")" turned.2 with
      | none => rfl
      | some closed => rfl

/-- Blanks at the end of a line change none of its spans. -/
theorem inLine_append_blank {b : Text} (hb : Text.isBlankText b = true) (before line : Text) :
    inLine before (line ++ b) = inLine before line := by
  induction before, line using inLine.induct with
  | case1 before line s rest hfirst ih =>
    have hlonger := first?_append_blank hb before line
    rw [hfirst, Option.map_some] at hlonger
    rw [inLine_of_first? hfirst, inLine_of_first? hlonger, ih]
  | case2 before line hfirst =>
    have hlonger := first?_append_blank hb before line
    rw [hfirst, Option.map_none] at hlonger
    rw [inLine_of_none hfirst, inLine_of_none hlonger]

theorem inLine_trimEnd (before line : Text) :
    inLine before (Text.trimEnd line) = inLine before line := by
  obtain ⟨b, hb, hline⟩ := Text.exists_blank_end line
  rw [← inLine_append_blank hb, ← hline]

end Span

/-! ## Replaced spans -/

/-- What a line reads as once its spans are replaced: as before, if none of
them is. Otherwise `s` is the first that is replaced, by `text`: the spans
before it, which stand in `pre`, are found again, and the search goes on at
`text`, with `tail` behind it. -/
inductive Reread (before line : Text) (spans : List (Span × Option Text)) (new : Text) : Prop
  | unchanged (same : new = line) (stay : ∀ s ∈ spans, s.2 = none)
  | replaced (kept : List Span) (s : Span) (text : Text) (later : List (Span × Option Text))
      (pre rest tail : Text)
      (split : spans = kept.map (fun k => (k, none)) ++ (s, some text) :: later)
      (at_pre : s.before = before ++ pre)
      (kept_in : ∀ k ∈ kept, k.text <:+: pre)
      (line_eq : line = pre ++ s.text ++ rest)
      (new_eq : new = pre ++ text ++ tail)
      (behind : Spliced (s.before ++ s.text) rest later tail)
      (reads : Span.inLine before new = kept ++ Span.inLine s.before (text ++ tail))

/-- **A line is read again as before, up to its first replaced span.** -/
theorem Spliced.reread {before line new : Text} {spans : List (Span × Option Text)}
    (h : Spliced before line spans new) (hspans : spans.map Prod.fst = Span.inLine before line) :
    Reread before line spans new := by
  induction h with
  | rest before rest => exact .unchanged rfl (by simp)
  | @span before gap rest new s r spans at_gap later ih =>
    obtain ⟨t, behind, hfirst, hlater⟩ : ∃ t behind,
        Span.first? before (gap ++ s.text ++ rest) = some (t, behind)
          ∧ s :: spans.map Prod.fst = t :: Span.inLine (t.before ++ t.text) behind := by
      cases hfirst : Span.first? before (gap ++ s.text ++ rest) with
      | none =>
        rw [Span.inLine_of_none hfirst] at hspans
        simp at hspans
      | some found =>
        rw [Span.inLine_of_first? hfirst] at hspans
        exact ⟨found.1, found.2, rfl, hspans⟩
    obtain ⟨rfl, hlater⟩ := List.cons.inj hlater
    obtain ⟨gap', hgap, hopen, hline, hagain⟩ := Span.exists_of_first? hfirst
    obtain rfl : gap = gap' := List.append_cancel_left (at_gap.symm.trans hgap)
    obtain rfl : rest = behind := List.append_cancel_left hline
    cases r with
    | some text =>
      refine .replaced [] s text spans gap rest new rfl at_gap (by simp) rfl rfl later ?_
      rw [List.nil_append, at_gap, Option.getD_some, List.append_assoc]
      exact Span.inLine_gap hopen before (text ++ new)
    | none =>
      have hreads : Span.inLine before (gap ++ s.text ++ new)
          = s :: Span.inLine (s.before ++ s.text) new := Span.inLine_of_first? (hagain new)
      rcases ih hlater with ⟨rfl, hstay⟩ | ⟨kept, u, text, after, pre, behind, tail, rfl, hat, hin,
        rfl, rfl, hlast, hkept⟩
      · refine .unchanged rfl fun span hspan => ?_
        rcases List.mem_cons.1 hspan with rfl | hspan
        · rfl
        · exact hstay span hspan
      · refine .replaced (s :: kept) u text after (gap ++ s.text ++ pre) behind tail rfl
          ?_ ?_ ?_ ?_ hlast ?_
        · rw [hat, at_gap]
          simp only [List.append_assoc]
        · intro k hk
          rcases List.mem_cons.1 hk with rfl | hk
          · exact ⟨gap, pre, rfl⟩
          · exact (hin k hk).trans (List.suffix_append ..).isInfix
        · simp only [List.append_assoc]
        · simp only [Option.getD_none, List.append_assoc]
        · rw [Option.getD_none, hreads, hkept]
          rfl

/-- A character of the new line stood on the line, or was put in. -/
theorem Spliced.mem {before line new : Text} {spans : List (Span × Option Text)}
    (h : Spliced before line spans new) {c : Char} (hc : c ∈ new) :
    c ∈ line ∨ ∃ s text, (s, some text) ∈ spans ∧ c ∈ text := by
  induction h with
  | rest before rest => exact .inl hc
  | @span before gap rest new s r spans at_gap later ih =>
    rw [List.mem_append, List.mem_append] at hc
    rcases hc with (hc | hc) | hc
    · exact .inl (by simp [hc])
    · cases r with
      | none => exact .inl (by simp [show c ∈ s.text from hc])
      | some text => exact .inr ⟨s, text, List.mem_cons_self .., hc⟩
    · rcases ih hc with hc | ⟨t, text, hmem, hc⟩
      · exact .inl (by simp [hc])
      · exact .inr ⟨t, text, List.mem_cons_of_mem _ hmem, hc⟩

/-! ## Behind a replaced span -/

/-- A text that turns nowhere from a link text to an info, not even if a bracket
is closed in front of it. -/
def Text.Turnless (t : Text) : Prop := ¬ ("](" : Text) <:+: ']' :: t

instance (t : Text) : Decidable (Text.Turnless t) := inferInstanceAs (Decidable (¬ _))

theorem Text.Turnless.append {a b : Text} (hb : Turnless b) (ha : ¬ ("](" : Text) <:+: a) :
    ¬ ("](" : Text) <:+: a ++ b := by
  induction a with
  | nil => exact fun hin => hb (hin.trans (List.suffix_cons ..).isInfix)
  | cons c a ih =>
    rw [List.infix_cons_iff, not_or] at ha
    rw [List.cons_append, List.infix_cons_iff, not_or]
    refine ⟨fun hstart => ?_, ih ha.2⟩
    have hturn : ("](" : Text) = ']' :: '(' :: [] := rfl
    rw [hturn, List.cons_prefix_cons] at hstart
    obtain ⟨rfl, hnext⟩ := hstart
    cases a with
    | nil => exact hb (List.cons_prefix_cons.2 ⟨rfl, hnext⟩).isInfix
    | cons d a =>
      obtain ⟨rfl, -⟩ := List.cons_prefix_cons.1 hnext
      exact ha.1 ⟨a, rfl⟩

/-- What is a link behind one text is a link behind another, if neither text is
blank. -/
theorem Directive.read_eq_link {linkText other info : Text} {wholeLine : Bool}
    (hlink : Text.isBlankText linkText = false) (hother : Text.isBlankText other = false)
    (h : read linkText info wholeLine = .link) : read other info wholeLine = .link := by
  have htake : ∀ t, Text.isBlankText t = false → ∀ info, takeQuoted t info = (t, info) := by
    intro t ht info
    unfold takeQuoted
    rw [ht]
  unfold read at h ⊢
  rw [htake _ hlink] at h
  rw [htake _ hother]
  dsimp only at h ⊢
  cases hnote : note? (Text.trim info) with
  | some note => simp [hnote] at h
  | none =>
    rw [hnote] at h
    dsimp only at h ⊢
    rw [hlink, Bool.false_and, if_neg (by decide)] at h
    rw [hother, Bool.false_and, if_neg (by decide)]
    generalize (if (wholeLine && Text.endsWith ":" (Text.trim info)) = true then
      Text.trimEnd (Text.trim info).dropLast else Text.trim info) = target at h ⊢
    split at h
    · next htarget => rw [if_pos htarget]
    · split at h
      · simp at h
      · simp at h

namespace Span

/-- A link by its info alone: it stays one if its link text begins further to
the left, and on a line of its own. -/
def IsLink (s : Span) : Prop := ∀ wholeLine,
  Directive.read s.linkText (Directive.Flag.strip s.info) wholeLine = .link
    ∧ Directive.read "[" (Directive.Flag.strip s.info) wholeLine = .link

instance (s : Span) : Decidable s.IsLink :=
  decidable_of_iff _ Bool.forall_bool.symm

/-- The spans of a line from the character `stop` on leave no open end: those
that are not replaced are links by their infos, and neither what is put in nor
what stands between the spans turns to an info. Behind the last one this may
happen, if nothing closes the info. -/
def Clear (line : Text) (stop : Nat) : List (Span × Option Text) → Prop
  | [] => Text.Turnless (line.drop stop) ∨ ')' ∉ line.drop stop
  | (s, r) :: rest => Text.Turnless (s.before.drop stop)
      ∧ (r = none → s.IsLink) ∧ (∀ text ∈ r, Text.Turnless text)
      ∧ Clear line (s.before ++ s.text).length rest

instance decidableClear (line : Text) :
    (stop : Nat) → (spans : List (Span × Option Text)) → Decidable (Clear line stop spans)
  | _, [] => inferInstanceAs (Decidable (_ ∨ _))
  | _, (s, _) :: rest =>
    have := decidableClear line (s.before ++ s.text).length rest
    inferInstanceAs (Decidable (_ ∧ _ ∧ _ ∧ _))

/-- The spans of a line are clear from the first replaced one on. -/
def ClearBehind (line : Text) : List (Span × Option Text) → Prop
  | [] => True
  | (_, none) :: rest => ClearBehind line rest
  | (s, some text) :: rest => Text.Turnless text ∧ Clear line (s.before ++ s.text).length rest

instance decidableClearBehind (line : Text) :
    (spans : List (Span × Option Text)) → Decidable (ClearBehind line spans)
  | [] => inferInstanceAs (Decidable True)
  | (_, none) :: rest => decidableClearBehind line rest
  | (_, some _) :: _ => inferInstanceAs (Decidable (_ ∧ _))

/-- A turn that nothing closes opens no span. -/
theorem first?_of_unclosed {x tail : Text} (hx : ¬ ("](" : Text) <:+: x) (htail : ')' ∉ tail)
    (before : Text) : first? before (x ++ tail) = none := by
  rw [Option.eq_none_iff_forall_ne_some]
  rintro ⟨s, rest⟩ hfirst
  obtain ⟨gap, -, hline⟩ := eq_of_first? hfirst
  have hturn : ∀ later, x ≠ gap ++ s.text ++ later := by
    rintro later rfl
    exact hx ⟨gap ++ '[' :: s.linkText, s.info ++ ')' :: later, by simp [text]⟩
  rcases List.append_eq_append_iff.1 hline with ⟨later, hspan, hrest⟩ | ⟨later, hspan, -⟩
  · -- The parenthesis that closes the span stands in `tail`.
    have hend : gap ++ s.text = gap ++ '[' :: (s.linkText ++ ']' :: '(' :: s.info) ++ [')'] := by
      simp [text]
    cases later with
    | nil => exact hturn [] (by rw [hspan]; simp)
    | cons c later =>
      have hlast := congrArg List.getLast? hspan
      rw [hend, List.getLast?_concat, List.getLast?_append, List.getLast?_cons,
        Option.some_or] at hlast
      refine htail (hrest ▸ List.mem_append_left _ (List.mem_of_getLast? ?_))
      rw [List.getLast?_cons, hlast]
  · exact hturn later hspan

/-- Behind a text without a turn, a span is found with its own link text, or with
one that begins in front of it. -/
theorem first?_behind {s : Span} (hs : s.Cut) {x : Text} (hx : ¬ ("](" : Text) <:+: x)
    (before later : Text) : ∃ before' linkText,
      first? before (x ++ s.text ++ later) = some (⟨before', linkText, s.info⟩, later)
        ∧ (linkText = s.linkText ∨ Text.isBlankText linkText = false) := by
  have hclose := hs.close later
  cases hopen : Text.cut "[" x with
  | none =>
    refine ⟨before ++ x, s.linkText, ?_, .inl rfl⟩
    have hnone : '[' ∉ x := fun hmem =>
      Text.cut_eq_none_iff.1 hopen ((List.singleton_infix_iff ..).2 hmem)
    have hline : x ++ s.text ++ later
        = x ++ '[' :: (s.linkText ++ ("](" : Text) ++ (s.info ++ (")" : Text) ++ later)) := by
      simp [text]
    have hcut : Text.cut "[" (x ++ s.text ++ later) = some (x, _) :=
      hline ▸ Text.cut_singleton hnone _
    unfold first?
    rw [hcut]
    simp only [Option.bind_eq_bind, Option.bind_some, hs.turn, hclose, Option.pure_def]
  | some parts =>
    obtain ⟨a, b⟩ := parts
    have hb : ¬ ("](" : Text) <:+: b := fun hin => by
      rw [Text.eq_of_cut hopen] at hx
      exact hx (hin.trans (List.suffix_append ..).isInfix)
    refine ⟨before ++ a, b ++ '[' :: s.linkText, ?_, .inr ?_⟩
    · have hline : b ++ (s.text ++ later)
          = b ++ '[' :: (s.linkText ++ ("](" : Text) ++ (s.info ++ (")" : Text) ++ later)) := by
        simp [text]
      have hturn : Text.cut "](" (b ++ (s.text ++ later))
          = some (b ++ '[' :: s.linkText, s.info ++ (")" : Text) ++ later) := by
        rw [hline, Text.cut_append_cons (by decide) (by decide) hb, hs.turn]
        rfl
      unfold first?
      rw [List.append_assoc, Text.cut_append hopen]
      simp only [Option.bind_eq_bind, Option.bind_some, hturn, hclose, Option.pure_def]
    · have hbracket : Text.isBlank '[' = false := by decide
      simp [Text.isBlankText, hbracket]

end Span

/-- **Behind a replaced span only links are read**, if its line is clear. What
has been read of the new line, with its bracket open or not, is `v`. -/
theorem Spliced.links_behind {before rest new : Text} {spans : List (Span × Option Text)}
    (h : Spliced before rest spans new) (hcut : ∀ p ∈ spans, p.1.Cut)
    (hclear : Span.Clear (before ++ rest) before.length spans) {v : Text}
    (hv : ¬ ("](" : Text) <:+: v) (b : Text) :
    ∀ t ∈ Span.inLine b (v ++ new), ∀ wholeLine,
      Directive.read t.linkText (Directive.Flag.strip t.info) wholeLine = .link := by
  induction h generalizing v b with
  | rest before rest =>
    have hrest : Text.Turnless rest ∨ ')' ∉ rest := by simpa [Span.Clear] using hclear
    have hnone : Span.first? b (v ++ rest) = none := by
      rcases hrest with hrest | hrest
      · exact Span.first?_of_no_turn (hrest.append hv) b
      · exact Span.first?_of_unclosed hv hrest b
    rw [Span.inLine_of_none hnone]
    simp
  | @span before gap rest new s r spans at_gap later ih =>
    obtain ⟨hgap, hkept, hput, hrest⟩ := hclear
    have hline : before ++ (gap ++ s.text ++ rest) = s.before ++ s.text ++ rest := by
      rw [at_gap]
      simp
    have hbetween : s.before.drop before.length = gap := by rw [at_gap, List.drop_left]
    rw [hbetween] at hgap
    rw [hline] at hrest
    have hlater : ∀ {v : Text}, ¬ ("](" : Text) <:+: v → ∀ b, ∀ t ∈ Span.inLine b (v ++ new),
        ∀ wholeLine, Directive.read t.linkText (Directive.Flag.strip t.info) wholeLine = .link :=
      ih (fun p hp => hcut p (List.mem_cons_of_mem _ hp)) hrest
    have hopen := hgap.append hv
    cases r with
    | some text =>
      have hnew : v ++ (gap ++ (some text).getD s.text ++ new) = v ++ gap ++ text ++ new := by simp
      rw [hnew]
      exact hlater ((hput text rfl).append hopen) b
    | none =>
      have hnew : v ++ (gap ++ (none : Option Text).getD s.text ++ new)
          = v ++ gap ++ s.text ++ new := by simp
      obtain ⟨before', linkText, hfirst, hlink⟩ :=
        Span.first?_behind (hcut _ (List.mem_cons_self ..)) hopen b new
      rw [hnew, Span.inLine_of_first? hfirst]
      intro t ht wholeLine
      obtain ⟨hown, hbehind⟩ := hkept rfl wholeLine
      rcases List.mem_cons.1 ht with rfl | ht
      · rcases hlink with rfl | hblank
        · exact hown
        · exact Directive.read_eq_link (by decide) hblank hbehind
      · exact hlater (v := []) (by decide) _ t ht wholeLine

/-! ## Lines whose spans stay -/

/-- The first span of a line that is replaced. -/
def firstReplaced? (spans : List (Span × Option Text)) : Option Span :=
  (spans.find? (·.2.isSome)).map Prod.fst

theorem firstReplaced?_append (kept : List Span) (s : Span) (text : Text)
    (later : List (Span × Option Text)) :
    firstReplaced? (kept.map (fun k => (k, none)) ++ (s, some text) :: later) = some s := by
  have hnone : (kept.map fun k => (k, (none : Option Text))).find? (·.2.isSome) = none := by
    rw [List.find?_eq_none]
    intro k hk
    obtain ⟨_, -, rfl⟩ := List.mem_map.1 hk
    simp
  unfold firstReplaced?
  rw [List.find?_append, hnone]
  rfl

/-- A span does not fill a line that holds something else besides. -/
theorem trim_ne_text {pre part tail : Text} {k : Span} (hk : k.text <:+: pre) {c : Char}
    (hc : c ∈ part) (hblank : Text.isBlank c = false) :
    Text.trim (pre ++ part ++ tail) ≠ k.text := by
  intro hfill
  have hcount : (pre ++ part ++ tail).count c = k.text.count c := by
    rw [← Text.count_trim hblank, hfill]
  have hpre : k.text.count c ≤ pre.count c := hk.sublist.count_le c
  have hpart : 0 < part.count c := List.count_pos_iff.2 hc
  rw [List.count_append, List.count_append] at hcount
  omega

namespace Reread

variable {line new : Text} {spans : List (Span × Option Text)} (h : Reread [] line spans new)
  (hinset : ∀ s text, (s, some text) ∈ spans → CodeBlock.Inset text)
include h hinset

/-- All spans of a rewritten line stay, if those stay that are not replaced,
and those that are read from the first replaced one on. -/
theorem stays (hspans : spans.map Prod.fst = Span.inLine [] line)
    (hkept : ∀ s, (s, none) ∈ spans → s.Stays line)
    (hbehind : ∀ first ∈ firstReplaced? spans,
      ∀ s ∈ Span.inLine first.before (new.drop first.before.length), s.Stays new) :
    ∀ s ∈ Span.inLine [] new, s.Stays new := by
  intro t ht
  rcases h with ⟨rfl, hstay⟩ | ⟨kept, s, text, later, pre, rest, tail, rfl, hat, hin, rfl, rfl,
    -, hreads⟩
  · rw [← hspans] at ht
    obtain ⟨⟨s, r⟩, hmem, rfl⟩ := List.mem_map.1 ht
    have hr : r = none := hstay _ hmem
    exact hkept s (hr ▸ hmem)
  · rw [hreads] at ht
    rcases List.mem_append.1 ht with ht | ht
    · have hstays := hkept t (List.mem_append_left _ (List.mem_map_of_mem ht))
      obtain ⟨c, behind, htext, hblank, -⟩ :=
        (hinset s text (List.mem_append_right _ (List.mem_cons_self ..))).begins
      -- Neither the old line nor the new one is filled by `t`.
      have hold : (Text.trim (pre ++ s.text ++ rest) == t.text) = false :=
        beq_eq_false_iff_ne.2 (trim_ne_text (hin t ht) s.open_mem_text (by decide))
      have hnew : (Text.trim (pre ++ text ++ tail) == t.text) = false :=
        beq_eq_false_iff_ne.2 (trim_ne_text (hin t ht)
          (htext ▸ List.mem_cons_self ..) hblank)
      unfold Span.Stays at hstays ⊢
      rwa [hnew, ← hold]
    · have hdrop : (pre ++ text ++ tail).drop s.before.length = text ++ tail := by
        rw [hat, List.nil_append, List.append_assoc, List.drop_left]
      refine hbehind s (firstReplaced?_append kept s text later) t ?_
      rwa [hdrop]

omit hinset in
/-- From the first replaced span on a clear line has links only. -/
theorem staysBehind (hspans : spans.map Prod.fst = Span.inLine [] line)
    (hclear : Span.ClearBehind line spans) :
    ∀ first ∈ firstReplaced? spans,
      ∀ s ∈ Span.inLine first.before (new.drop first.before.length), s.Stays new := by
  have hcut : ∀ p ∈ spans, p.1.Cut := fun p hp =>
    Span.cut_of_mem (hspans ▸ List.mem_map_of_mem hp)
  rcases h with ⟨-, hstay⟩ | ⟨kept, s, text, later, pre, rest, tail, rfl, hat, -, rfl, rfl,
    hlater, -⟩
  · intro first hfirst
    obtain ⟨⟨s, r⟩, hfind, -⟩ := Option.map_eq_some_iff.1 hfirst
    have hr : r = none := hstay _ (List.mem_of_find?_eq_some hfind)
    have hsome := List.find?_some hfind
    simp [hr] at hsome
  · intro first hfirst t ht
    obtain rfl : s = first := by
      rw [firstReplaced?_append] at hfirst
      exact Option.some.inj hfirst
    have hbehind : Text.Turnless text
        ∧ Span.Clear (pre ++ s.text ++ rest) (s.before ++ s.text).length later := by
      clear hcut hspans hfirst
      induction kept with
      | nil => exact hclear
      | cons k kept ih => exact ih hclear
    have hdrop : (pre ++ text ++ tail).drop s.before.length = text ++ tail := by
      rw [hat, List.nil_append, List.append_assoc, List.drop_left]
    have hwhole : pre ++ s.text ++ rest = s.before ++ s.text ++ rest := by rw [hat, List.nil_append]
    rw [hwhole] at hbehind
    rw [hdrop] at ht
    have hturn : ¬ ("](" : Text) <:+: text := fun hin =>
      hbehind.1 (hin.trans (List.suffix_cons ..).isInfix)
    exact .inr (hlater.links_behind
      (fun p hp => hcut p (List.mem_append_right _ (List.mem_cons_of_mem _ hp))) hbehind.2 hturn
      s.before t ht _)

/-- A rewritten line of text is text. -/
theorem classify (hkind : CodeBlock.classify none line = (.text, none)) :
    CodeBlock.classify none new = (.text, none) := by
  rcases h with ⟨rfl, -⟩ | ⟨kept, s, text, later, pre, rest, tail, rfl, -, -, rfl, rfl, -, -⟩
  · exact hkind
  · have hbracket : pre ++ s.text ++ rest
        = pre ++ '[' :: (s.linkText ++ ("](" ++ (s.info ++ (")" ++ rest)))) := by
      simp [Span.text]
    rw [hbracket] at hkind
    exact CodeBlock.classify_of_inset
      (hinset s text (List.mem_append_right _ (List.mem_cons_self ..))) hkind tail

end Reread

end InlineSearch
