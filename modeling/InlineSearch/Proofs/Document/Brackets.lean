/-
InlineSearch.Proofs.Document.Brackets — brackets in front of a directive.

A span opens at the first bracket that it can open at, so text in brackets in
front of a directive, such as a task box, belongs to the link text of the
directive. It is lost where that is not written, as with a bare URL.

* `first?_of_parts` — where the first span of a line begins, whatever stands
  in front of the directive.
* `brackets_kept_iff` — what a line becomes when its first span is replaced.
  Nothing but the directive is replaced exactly if no bracket stands in front
  of it.
-/
import InlineSearch.Proofs.Directive.Decomposition
import InlineSearch.Proofs.Document.Trace

namespace InlineSearch

namespace Span

/-- The text in front of the first bracket. -/
def front (t : Text) : Text := t.takeWhile (· != '[')

theorem front_append_bracket (a b : Text) : front (a ++ '[' :: b) = front a :=
  Text.takeWhile_append_of_head rfl a

theorem front_eq_self_iff {t : Text} : front t = t ↔ '[' ∉ t := by
  rw [front, List.takeWhile_eq_self_iff]
  constructor
  · intro h hmem
    exact absurd (h '[' hmem) (by decide)
  · rintro h c hc
    exact bne_iff_ne.2 fun heq => h (heq ▸ hc)

theorem bytes_front_iff {t : Text} : Text.bytes (front t) = Text.bytes t ↔ '[' ∉ t := by
  rw [← front_eq_self_iff]
  refine ⟨fun h => ?_, fun h => by rw [h]⟩
  obtain ⟨rest, hrest⟩ : front t <+: t := List.takeWhile_prefix _
  cases rest with
  | nil => rwa [List.append_nil] at hrest
  | cons c rest =>
    have hsum := congrArg Text.bytes hrest
    have hpos := c.utf8Size_pos
    rw [Text.bytes_append, Text.bytes_cons] at hsum
    omega

/-- The first span of a line ends with the first directive, and begins with the
first bracket of all. -/
theorem first?_of_parts {p t i : Text} (hp : ¬ ("](" : Text) <:+: p) (ht : ']' ∉ t) (hi : ')' ∉ i)
    (before s : Text) : ∃ linkText,
      first? before (p ++ text ⟨p, t, i⟩ ++ s) = some (⟨before ++ front p, linkText, i⟩, s)
        ∧ front p ++ '[' :: linkText = p ++ '[' :: t := by
  have hcut : Cut ⟨p, t, i⟩ :=
    ⟨fun later => List.append_assoc .. ▸ Text.cut_of_not_mem ht later,
      fun later => List.append_assoc .. ▸ Text.cut_of_not_mem hi later⟩
  obtain ⟨before', linkText, hfirst, -⟩ := first?_behind hcut hp before s
  obtain ⟨gap, hgap, hnone, hline, -⟩ := exists_of_first? hfirst
  obtain rfl : before' = before ++ gap := hgap
  have htext : ∀ a linkText : Text, a ++ text ⟨a, linkText, i⟩ ++ s
      = a ++ '[' :: linkText ++ ("](" ++ (i ++ ')' :: s)) := by simp [text]
  have hopened : p ++ '[' :: t = gap ++ '[' :: linkText :=
    List.append_cancel_right ((htext p t).symm.trans (hline.trans (htext gap linkText)))
  have hfront : front p = gap := by
    rw [← front_append_bracket p t, hopened, front_append_bracket, front_eq_self_iff.2 hnone]
  exact ⟨linkText, hfront ▸ hfirst, hfront ▸ hopened.symm⟩

/-- What stands in front of a directive is kept when its span is replaced, if it
has no bracket. -/
theorem brackets_kept_iff {p t i s line : Text} (hp : ¬ ("](" : Text) <:+: p) (ht : ']' ∉ t)
    (hi : ')' ∉ i) (hline : line = p ++ "[" ++ t ++ "](" ++ i ++ ")" ++ s) (hfeed : '\n' ∉ line) :
    ∃ first later, inText line = first :: later
      ∧ first.info = i ∧ first.before = p.takeWhile (· != '[')
      ∧ first.before ++ "[" ++ first.linkText = p ++ "[" ++ t
      ∧ (first.start = Text.bytes p ↔ '[' ∉ p)
      ∧ ∀ u, Edit.apply [⟨first.start, first.stop, u⟩] line = p.takeWhile (· != '[') ++ u ++ s
        ∧ (Edit.apply [⟨first.start, first.stop, u⟩] line = p ++ u ++ s ↔ '[' ∉ p) := by
  have hparts : line = p ++ text ⟨p, t, i⟩ ++ s := by
    rw [hline]
    simp [text]
  obtain ⟨linkText, hfirst, hopened⟩ := first?_of_parts hp ht hi [] s
  rw [← hparts] at hfirst
  obtain ⟨gap, hgap, -, hspan, -⟩ := exists_of_first? hfirst
  obtain rfl : front p = gap := hgap
  have happly : ∀ u, Edit.apply [⟨start ⟨front p, linkText, i⟩, stop ⟨front p, linkText, i⟩, u⟩]
      line = front p ++ u ++ s := by
    intro u
    have hspliced : Spliced [] (front p ++ text ⟨front p, linkText, i⟩ ++ s)
        [(⟨front p, linkText, i⟩, some u)] (front p ++ u ++ s) := .span rfl (.rest ..)
    rw [hspan]
    exact hspliced.apply_eq
  rw [inText_of_line hfeed]
  refine ⟨_, _, inLine_of_first? hfirst, rfl, rfl, by simpa using hopened, bytes_front_iff,
    fun u => ⟨happly u, ?_⟩⟩
  rw [List.nil_append, happly, List.append_cancel_right_eq, List.append_cancel_right_eq,
    front_eq_self_iff]

/-- Text in parentheses stays. -/
theorem brackets_kept_note :
    (¬ ("](" : Text) <:+: "(1) ] é " ∧ ']' ∉ ("x [y" : Text) ∧ ')' ∉ ("!g rust!!" : Text))
      ∧ ∃ first later, inText "(1) ] é [x [y](!g rust!!), [z](!g tea)" = first :: later
        ∧ first.start = Text.bytes "(1) ] é "
        ∧ Edit.apply [⟨first.start, first.stop, "https://example.org"⟩]
            "(1) ] é [x [y](!g rust!!), [z](!g tea)"
          = ("(1) ] é https://example.org, [z](!g tea)" : Text) := by
  have hp : ¬ ("](" : Text) <:+: "(1) ] é " := by decide
  have hline : ("(1) ] é [x [y](!g rust!!), [z](!g tea)" : Text)
      = "(1) ] é " ++ "[" ++ "x [y" ++ "](" ++ "!g rust!!" ++ ")" ++ ", [z](!g tea)" := rfl
  obtain ⟨first, later, hspans, -, -, -, hstart, happly⟩ :=
    brackets_kept_iff hp (by decide) (by decide) hline (by decide)
  exact ⟨⟨hp, by decide, by decide⟩, first, later, hspans, hstart.2 (by decide),
    ((happly _).2.2 (by decide)).trans (by decide)⟩

end Span

/-- A task box in front of a directive is lost with its link text. -/
theorem Document.task_box_lost :
    (Span.inText "- [ ] [x](!g rust!!)").map Span.start ≠ [Text.bytes "- [ ] "]
      ∧ (Document.link Document.pageLinker "- [ ] [x](!g rust!!)" ()).1.output
        = ("- https://example.org/rust" : Text) := by
  decide +kernel

end InlineSearch
