/-
InlineSearch.Directive.Span — the places of a document that have the
shape `[link text](info)`.

A span lies on one line. It opens at the first bracket that a `](` and
then a `)` follow on the line, each taken at its first place, so brackets
do not nest. `first?` finds one span and says what follows it; `length_lt`
is the fact that lets `inLine` walk on behind it.

A span carries everything that stands before it. Its byte offsets and the
question whether it lies inside inline code are read off that text.
-/
import InlineSearch.Text.Scan

namespace InlineSearch

/-- A place of the shape `[link text](info)`. -/
structure Span where
  /-- The text before the span. -/
  before : Text
  /-- What stands between the brackets. -/
  linkText : Text
  /-- What stands between the parentheses. -/
  info : Text
deriving DecidableEq, Repr

namespace Span

/-- The span as it is written. -/
def text (s : Span) : Text := "[" ++ s.linkText ++ "](" ++ s.info ++ ")"

/-- The byte offset of the opening bracket. -/
def start (s : Span) : Nat := Text.bytes s.before

/-- The byte offset behind the closing parenthesis. -/
def stop (s : Span) : Nat := s.start + Text.bytes s.text

/-! ## Finding spans -/

/-- The first span of a line that stands behind `before`, and what
follows the span on the line. -/
def first? (before line : Text) : Option (Span × Text) := do
  let (gap, opened) ← Text.cut "[" line
  let (linkText, target) ← Text.cut "](" opened
  let (info, rest) ← Text.cut ")" target
  return (⟨before ++ gap, linkText, info⟩, rest)

/-- What follows a span is shorter than the line that the span is on. -/
theorem length_lt {before line rest : Text} {s : Span} (h : first? before line = some (s, rest)) :
    rest.length < line.length := by
  simp only [first?, Option.bind_eq_bind, Option.bind_eq_some_iff, Prod.exists,
    Option.pure_def, Option.some.injEq, Prod.mk.injEq] at h
  obtain ⟨_, _, h₁, _, _, h₂, _, _, h₃, _, rfl⟩ := h
  have := Text.length_of_cut h₁
  have := Text.length_of_cut h₂
  have := Text.length_of_cut h₃
  have : 0 < ("[" : Text).length := by decide
  omega

/-- The spans of a line that stands behind `before`, left to right. -/
def inLine (before line : Text) : List Span :=
  match _h : first? before line with
  | some (s, rest) => s :: inLine (s.before ++ s.text) rest
  | none => []
termination_by line.length
decreasing_by exact length_lt _h

/-- The spans of lines that stand behind `before`. -/
def inLines (before : Text) : List Text → List Span
  | [] => []
  | line :: rest => inLine before line ++ inLines (before ++ line ++ "\n") rest

/-- The spans of a text, left to right. -/
def inText (t : Text) : List Span := inLines [] (Text.lines t)

/-- Whether a text has a span. -/
def occursIn (t : Text) : Bool := (Text.lines t).any fun line => (first? [] line).isSome

/-- What stands before a line does not decide whether the line has a span. -/
theorem first?_isSome (before line : Text) :
    (first? before line).isSome = (first? [] line).isSome := by
  simp only [first?, Option.bind_eq_bind, Option.pure_def, Option.isSome_bind, Option.isSome_some]

theorem inLine_eq_nil_iff (before line : Text) :
    inLine before line = [] ↔ (first? [] line).isSome = false := by
  rw [inLine, ← first?_isSome before]
  split <;> simp_all

theorem inLines_eq_nil_iff (before : Text) (lines : List Text) :
    inLines before lines = [] ↔ (lines.any fun line => (first? [] line).isSome) = false := by
  induction lines generalizing before with
  | nil => simp [inLines]
  | cons line rest ih =>
    rw [inLines, List.append_eq_nil_iff, inLine_eq_nil_iff, ih, List.any_cons, Bool.or_eq_false_iff]

/-- A text has no span exactly when the list of its spans is empty. -/
theorem inText_eq_nil_iff (t : Text) : inText t = [] ↔ occursIn t = false :=
  inLines_eq_nil_iff [] (Text.lines t)

/-! ## Inline code -/

/-- A backtick that no backslash escapes. A backtick is seen together with
the character before it, so one that follows another directly is not seen
unless that one starts the text. -/
def backtick : Text.Pattern Unit
  | none, '\x60' :: _ => some (1, ())
  | _, c :: '\x60' :: _ => if c == '\x5c' then none else some (2, ())
  | _, _ => none

/-- Whether inline code is open behind a text. -/
def endsInCode (before : Text) : Bool := (Text.hits backtick before).length % 2 == 1

/-- Whether a span lies inside inline code. -/
def inCode (s : Span) : Bool := endsInCode s.before

end Span

end InlineSearch
