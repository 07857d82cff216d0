/-
InlineSearch.Proofs.Directive.Insertion — a line that an ordinary link is put
into.

The link stands before the first bracket of the line or behind its last span.
In both places the other spans are found again (`Place.spans_insert`). They
have the same link text and info as before, and those in inline code are the
same ones: a link without backticks opens and closes no inline code
(`Span.endsInCode_insert`).

The kind of the line does not change either (`Place.classify_insert`).
-/
import InlineSearch.Proofs.Directive.InlineCode
import InlineSearch.Proofs.Directive.Rescan
import Mathlib.Data.List.Forall2

namespace InlineSearch

namespace Span

/-! ## Spans found again -/

/-- Two spans that differ in what stands before them, but not in whether that
puts them into inline code. -/
structure Alike (s s' : Span) : Prop where
  linkText : s'.linkText = s.linkText
  info : s'.info = s.info
  inCode : s'.inCode = s.inCode

theorem Alike.refl (s : Span) : s.Alike s := ⟨rfl, rfl, rfl⟩

theorem Alike.text {s s' : Span} (h : s.Alike s') : s'.text = s.text := by
  unfold Span.text
  rw [h.linkText, h.info]

/-- The span with more text before it. -/
def moved (pre : Text) (s : Span) : Span := { s with before := pre ++ s.before }

theorem first?_moved (pre before line : Text) :
    first? (pre ++ before) line
      = (first? before line).map fun (s, rest) => (s.moved pre, rest) := by
  unfold first?
  cases Text.cut "[" line with
  | none => rfl
  | some opened =>
    simp only [Option.bind_eq_bind, Option.bind_some]
    cases Text.cut "](" opened.2 with
    | none => rfl
    | some target =>
      simp only [Option.bind_some]
      cases Text.cut ")" target.2 with
      | none => rfl
      | some closed => simp [moved, List.append_assoc]

/-- A line has the same spans wherever it stands. -/
theorem inLine_moved (pre before line : Text) :
    inLine (pre ++ before) line = (inLine before line).map (moved pre) := by
  induction before, line using inLine.induct with
  | case1 before line s rest hfirst ih =>
    have hfirst' := first?_moved pre before line
    rw [hfirst] at hfirst'
    rw [inLine_of_first? hfirst, inLine_of_first? hfirst', List.map_cons, ← ih, ← List.append_assoc]
    rfl
  | case2 before line hfirst =>
    have hfirst' := first?_moved pre before line
    rw [hfirst] at hfirst'
    rw [inLine_of_none hfirst, inLine_of_none hfirst']
    rfl

/-- Behind the last span of a line the spans of anything may follow. -/
theorem exists_body {before line : Text} (h : inLine before line ≠ []) :
    ∃ body tail, line = body ++ tail ∧ '[' ∈ body
      ∧ ((inLine before line).getLast?.map fun s => s.before ++ s.text) = some (before ++ body)
      ∧ (∀ place, inLine place tail = [])
      ∧ ∀ later, inLine before (body ++ later)
        = inLine before line ++ inLine (before ++ body) later := by
  induction before, line using inLine.induct with
  | case1 before line s rest hfirst ih =>
    obtain ⟨gap, hbefore, -, hline, hlater⟩ := exists_of_first? hfirst
    have hend : s.before ++ s.text = before ++ (gap ++ s.text) := by
      rw [hbefore, List.append_assoc]
    rw [inLine_of_first? hfirst]
    by_cases hrest : inLine (s.before ++ s.text) rest = []
    · refine ⟨gap ++ s.text, rest, hline, ?_, ?_, ?_, fun later => ?_⟩
      · exact List.mem_append_right _ s.open_mem_text
      · rw [hrest, ← hend]
        rfl
      · intro place
        rw [inLine_eq_nil_iff] at hrest ⊢
        exact hrest
      · rw [inLine_of_first? (hlater later), hrest, hend]
        rfl
    · obtain ⟨body, tail, rfl, -, hlast, htail, hbody⟩ := ih hrest
      refine ⟨gap ++ s.text ++ body, tail, ?_, ?_, ?_, htail, fun later => ?_⟩
      · rw [hline, List.append_assoc _ body]
      · exact List.mem_append_left _ (List.mem_append_right _ s.open_mem_text)
      · rw [List.getLast?_cons_of_ne_nil hrest, hlast, hend, List.append_assoc, List.append_assoc]
      · rw [List.append_assoc, inLine_of_first? (hlater _), hbody, hend]
        simp only [List.cons_append, List.append_assoc]
  | case2 before line hfirst => exact absurd (inLine_of_none hfirst) h

end Span

/-! ## Ordinary links -/

/-- A link as it is written, without backticks: a link text that is not blank
and has no brackets, and an info that is a link target, with or without a
title. -/
structure OrdinaryLink where
  linkText : Text
  info : Text
  named : Text.isBlankText linkText = false
  unbracketed : '[' ∉ linkText ∧ ']' ∉ linkText
  closed : ')' ∉ info
  targeted : Directive.isLinkTarget info = true
  plain : '\x60' ∉ linkText ∧ '\x60' ∉ info
  unbroken : '\n' ∉ linkText ∧ '\n' ∉ info

namespace OrdinaryLink

/-- The link as a span behind `before`. -/
def span (link : OrdinaryLink) (before : Text) : Span := ⟨before, link.linkText, link.info⟩

/-- The link as it is written. -/
def text (link : OrdinaryLink) : Text := (link.span []).text

/-- The link is read where it is written. -/
theorem inLine_text (link : OrdinaryLink) (before rest : Text) :
    Span.inLine before (link.text ++ rest)
      = link.span before :: Span.inLine (before ++ link.text) rest := by
  have hopen : Text.cut "[" (link.text ++ rest)
      = some ([], link.linkText ++ ("](" ++ (link.info ++ (")" ++ rest)))) := by
    have hline : link.text ++ rest
        = "[" ++ (link.linkText ++ ("](" ++ (link.info ++ (")" ++ rest)))) := by
      simp [text, span, Span.text]
    rw [hline]
    exact Text.cut_self_append (by decide) _
  have hturn : Text.cut "](" (link.linkText ++ ("](" ++ (link.info ++ (")" ++ rest))))
      = some (link.linkText, link.info ++ (")" ++ rest)) :=
    Text.cut_of_not_mem link.unbracketed.2 _
  have hclose : Text.cut ")" (link.info ++ (")" ++ rest)) = some (link.info, rest) :=
    Text.cut_of_not_mem link.closed _
  have hfirst : Span.first? before (link.text ++ rest) = some (link.span before, rest) := by
    rw [Span.first?, hopen]
    simp only [Option.bind_eq_bind, Option.bind_some, hturn, hclose, Option.pure_def,
      List.append_nil]
    rfl
  exact Span.inLine_of_first? hfirst

theorem backtick_not_mem (link : OrdinaryLink) : '\x60' ∉ link.text := by
  simp [text, span, Span.text, link.plain]

theorem feed_not_mem (link : OrdinaryLink) : '\n' ∉ link.text := by
  simp [text, span, Span.text, link.unbroken]

end OrdinaryLink

/-- Where a link is put into a line: before the first bracket, or behind the
last span. -/
inductive Place where
  | front
  | back
deriving DecidableEq, Repr

namespace Place

/-- The part of a line before the place. -/
def before (line : Text) : Place → Text
  | front => line.takeWhile (· != '[')
  | back =>
    line.take (((Span.inLine [] line).getLast?.map fun s => (s.before ++ s.text).length).getD 0)

/-- The line with a link put in. -/
def insert (place : Place) (link : OrdinaryLink) (line : Text) : Text :=
  place.before line ++ link.text ++ line.drop (place.before line).length

/-- One more member, before the others or behind them. -/
def add {α : Type} (place : Place) (a : α) (others : List α) : List α :=
  match place with
  | front => a :: others
  | back => others ++ [a]

/-- The members without the one in the place. -/
def others {α : Type} (place : Place) (all : List α) : List α :=
  match place with
  | front => all.tail
  | back => all.dropLast

theorem length_add {α : Type} (place : Place) (a : α) (l : List α) :
    (place.add a l).length = l.length + 1 := by
  cases place with
  | front => rfl
  | back => exact List.length_append

theorem mem_add {α : Type} {place : Place} {a b : α} {l : List α} (h : b ∈ l) :
    b ∈ place.add a l := by
  cases place with
  | front => exact List.mem_cons_of_mem _ h
  | back => exact List.mem_append_left _ h

theorem length_others {α : Type} (place : Place) (l : List α) :
    (place.others l).length = l.length - 1 := by
  cases place with
  | front => exact List.length_tail
  | back => exact List.length_dropLast

theorem map_others {α β : Type} (place : Place) (f : α → β) (l : List α) :
    (place.others l).map f = place.others (l.map f) := by
  cases place with
  | front => exact List.map_tail
  | back => exact List.map_dropLast

/-- A span beside the link does not fill the line. -/
theorem trim_insert_ne {place : Place} {link : OrdinaryLink} {line : Text} {others : List Span}
    (hinsert : Span.inLine [] (place.insert link line)
      = place.add (link.span (place.before line)) others) {s : Span} (hs : s ∈ others) :
    Text.trim (place.insert link line) ≠ s.text := by
  intro h
  have hmem : s ∈ Span.inLine [] (place.insert link line) := by
    rw [hinsert]
    exact mem_add hs
  have hlength := congrArg List.length (hinsert.symm.trans (Span.inLine_of_trim_eq hmem h))
  rw [length_add] at hlength
  exact List.ne_nil_of_mem hs (List.length_eq_zero_iff.1 (Nat.succ.inj hlength))

/-! ## The line with the link -/

variable {line : Text} (hspans : Span.inLine [] line ≠ [])
include hspans

/-- The line before its first bracket. -/
theorem exists_front : ∃ pre rest, line = pre ++ '[' :: rest ∧ '[' ∉ pre
    ∧ before line front = pre := by
  obtain ⟨⟨s, later⟩, hfirst⟩ := Option.isSome_iff_exists.1
    (eq_true_of_ne_false (mt (Span.inLine_eq_nil_iff [] line).2 hspans))
  obtain ⟨gap, -, hgap, hline, -⟩ := Span.exists_of_first? hfirst
  have hline : line = gap ++ '[' :: (s.linkText ++ "](" ++ s.info ++ ")" ++ later) := by
    rw [hline]
    simp [Span.text]
  have hall : gap.all (· != '[') = true := by
    rw [List.all_eq_true]
    intro c hc
    exact bne_iff_ne.2 fun h => hgap (h ▸ hc)
  refine ⟨gap, _, hline, hgap, ?_⟩
  rw [hline]
  exact Text.takeWhile_append_stop hall (by rfl)

/-- The line up to the end of its last span. -/
theorem exists_back : ∃ body tail, line = body ++ tail ∧ '[' ∈ body ∧ before line back = body
    ∧ (∀ pre, Span.inLine pre tail = [])
    ∧ ∀ later, Span.inLine [] (body ++ later) = Span.inLine [] line ++ Span.inLine body later := by
  obtain ⟨body, tail, hline, hmem, hlast, htail, hbody⟩ := Span.exists_body hspans
  refine ⟨body, tail, hline, hmem, ?_, htail, hbody⟩
  have hlength : ((Span.inLine [] line).getLast?.map fun s => (s.before ++ s.text).length)
      = some body.length := by
    have h := congrArg (Option.map List.length) hlast
    rwa [Option.map_map] at h
  unfold before
  dsimp only
  rw [hlength, hline]
  exact List.take_left

/-- **The other spans are found again.** -/
theorem spans_insert (place : Place) (link : OrdinaryLink) :
    ∃ others, Span.inLine [] (place.insert link line)
        = place.add (link.span (place.before line)) others
      ∧ List.Forall₂ Span.Alike (Span.inLine [] line) others := by
  cases place with
  | front =>
    obtain ⟨pre, rest, hline, hpre, hbefore⟩ := exists_front hspans
    have hdrop : line.drop pre.length = '[' :: rest := by
      rw [hline]
      exact List.drop_left
    have hold : Span.inLine [] line = (Span.inLine [] ('[' :: rest)).map (Span.moved pre) := by
      rw [hline, Span.inLine_gap hpre, List.nil_append, ← Span.inLine_moved, List.append_nil]
    have hnew : Span.inLine (pre ++ link.text) ('[' :: rest)
        = (Span.inLine [] ('[' :: rest)).map (Span.moved (pre ++ link.text)) := by
      rw [← Span.inLine_moved, List.append_nil]
    refine ⟨Span.inLine (pre ++ link.text) ('[' :: rest), ?_, ?_⟩
    · rw [insert, hbefore, hdrop, List.append_assoc, Span.inLine_gap hpre, List.nil_append,
        link.inLine_text]
      rfl
    · rw [hold, hnew, List.forall₂_map_left_iff, List.forall₂_map_right_iff, List.forall₂_same]
      intro s hs
      refine ⟨rfl, rfl, ?_⟩
      -- Between the link and a later span the line goes on with a bracket.
      have hhead : s.before.head? ≠ some '\x60' := by
        obtain ⟨gap, later, hgap, hrest⟩ := Span.exists_split_of_mem hs
        rw [List.nil_append] at hgap
        rw [hgap]
        cases gap with
        | nil => simp
        | cons c gap =>
          obtain ⟨rfl, -⟩ := List.cons.inj hrest
          simp
      exact Span.endsInCode_insert link.backtick_not_mem hhead pre
  | back =>
    obtain ⟨body, tail, hline, -, hbefore, htail, hbody⟩ := exists_back hspans
    have hdrop : line.drop body.length = tail := by
      rw [hline]
      exact List.drop_left
    refine ⟨Span.inLine [] line, ?_, List.forall₂_same.2 fun s _ => .refl s⟩
    rw [insert, hbefore, hdrop, List.append_assoc, hbody, link.inLine_text, htail]
    rfl

/-- A line of text is still one. -/
theorem classify_insert (place : Place) (link : OrdinaryLink)
    (h : CodeBlock.classify none line = (.text, none)) :
    CodeBlock.classify none (place.insert link line) = (.text, none) := by
  have hbracket : CodeBlock.Inset ['['] := ⟨by simp, '[', [], rfl, by decide, by decide⟩
  cases place with
  | front =>
    obtain ⟨pre, rest, hline, -, hbefore⟩ := exists_front hspans
    rw [hline] at h
    have htext := CodeBlock.classify_of_inset hbracket h
      (link.linkText ++ "](" ++ link.info ++ ")" ++ line.drop pre.length)
    rw [insert, hbefore]
    simpa [OrdinaryLink.text, OrdinaryLink.span, Span.text] using htext
  | back =>
    -- The first bracket of the line stands before the link.
    obtain ⟨body, tail, hline, hmem, hbefore, -, -⟩ := exists_back hspans
    obtain ⟨pre, rest, rfl⟩ := List.append_of_mem hmem
    rw [hline, List.append_assoc, List.cons_append] at h
    have htext := CodeBlock.classify_of_inset hbracket h
      (rest ++ link.text ++ line.drop (pre ++ '[' :: rest).length)
    rw [insert, hbefore]
    simpa using htext

end Place

end InlineSearch
