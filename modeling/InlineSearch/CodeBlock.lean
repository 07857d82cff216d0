/-
InlineSearch.CodeBlock — which lines of a document are code.

Code blocks are fenced or indented. A fence opens with three or more
backticks or tildes, indented by at most three, and closes on a line that
holds nothing but at least as many of the same character. Outside fences
a line is code when it is indented by four spaces or a tab and does not
continue as a list item.

`classify` takes one line and the fence that is open before it;
`classifyLines` runs it over a document.
-/
import InlineSearch.Text.Blank

namespace InlineSearch

/-- How a line relates to code blocks. -/
inductive LineKind where
  /-- A line that opens or closes a fence. -/
  | fence
  /-- A line inside a fence. -/
  | fenced
  /-- A line of indented code. -/
  | indented
  /-- Ordinary text. -/
  | text
deriving DecidableEq, Repr

/-- Whether directives on a line of this kind are left alone. -/
def LineKind.isCode (kind : LineKind) : Bool := kind != .text

/-- The opening line of a fence: its character, and how many of them. -/
structure Fence where
  mark : Char
  length : Nat
deriving DecidableEq, Repr

namespace CodeBlock

/-- The deepest indent at which a fence opens. -/
def deepestFence : Nat := 3

/-- Whether a line outside fences is indented code. -/
def isIndented (line : Text) : Bool :=
  ((Text.dropPrefix? "    " line).or (Text.dropPrefix? "\t" line)).any fun rest =>
    rest.head?.any fun c => !(c == '*' || c == '+' || c == '-')

/-- The fence that a line without its indent opens. -/
def opening? (trimmed : Text) : Option Fence := do
  let mark ← trimmed.head?
  guard (mark == '\x60' || mark == '~')
  let length := (trimmed.takeWhile (· == mark)).length
  guard (3 ≤ length)
  return ⟨mark, length⟩

/-- Whether a line without its indent closes a fence. -/
def closes (fence : Fence) (trimmed : Text) : Bool :=
  let length := (trimmed.takeWhile (· == fence.mark)).length
  0 < length && fence.length ≤ length
    && Text.isBlankText (trimmed.dropWhile (· == fence.mark))

/-- Whether a fence may open on a line at all. -/
def mayOpen (line : Text) : Bool :=
  Text.bytes (line.takeWhile Text.isBlank) ≤ deepestFence && !Text.startsWith "\t" line

/-- The kind of a line, and the fence that is open behind it. -/
def classify (fence? : Option Fence) (line : Text) : LineKind × Option Fence :=
  let trimmed := Text.trimStart line
  match fence? with
  | some fence => if closes fence trimmed then (.fence, none) else (.fenced, some fence)
  | none =>
    if isIndented line then (.indented, none)
    else
      match if mayOpen line then opening? trimmed else none with
      | some fence => (.fence, some fence)
      | none => (.text, none)

/-- The kinds of the lines that follow when `fence?` is open. -/
def classifyFrom (fence? : Option Fence) : List Text → List LineKind
  | [] => []
  | line :: rest =>
    let (kind, next?) := classify fence? line
    kind :: classifyFrom next? rest

/-- The kinds of the lines of a document. -/
def classifyLines (lines : List Text) : List LineKind := classifyFrom none lines

end CodeBlock

end InlineSearch
