/-
InlineSearch.Directive.Flag — inline flags and option lines.

An inline flag stands at the start of a text or behind one blank, and it
is removed together with that blank. A short group (`++dt`, `--i`) names
options by letters, a long flag (`--inline`, `--no-debug`) by name; both
end where the word ends. A line `key: value` sets an option for the rest
of the document.
-/
import InlineSearch.Config.Key
import InlineSearch.Text.Word

namespace InlineSearch.Directive

open Config (Key Value)

/-- An inline flag: the option, and whether it is switched on. -/
abbrev Flag := Key × Bool

namespace Flag

/-! ## Inline flags -/

/-- Whether a word ends before a text. -/
def endsWord (rest : Text) : Bool := !Text.isWord? rest.head?

/-- Whether a letter names an option in a short group. -/
def isLetter (c : Char) : Bool := (Key.ofLetter? c).isSome

/-- The flags of a short group with its sign removed, and the length of
the group. -/
def ofLetters? (on : Bool) (t : Text) : Option (Nat × List Flag) := do
  let group := t.takeWhile isLetter
  guard (!group.isEmpty && endsWord (t.dropWhile isLetter))
  return (group.length, group.filterMap fun c => (Key.ofLetter? c).map (·, on))

/-- The long flag whose name starts a text, and the length of the name. -/
def ofName? (on : Bool) (t : Text) : Option (Nat × List Flag) :=
  Key.flags.findSome? fun key => do
    let rest ← Text.dropPrefix? key.name t
    guard (endsWord rest)
    return (key.name.length, [(key, on)])

/-- The flags that start a text, and their length. -/
def leading? (t : Text) : Option (Nat × List Flag) :=
  match t with
  | '+' :: '+' :: rest => (ofLetters? true rest).map fun (n, flags) => (n + 2, flags)
  | '-' :: '-' :: rest =>
    ((ofLetters? false rest).or (ofName? true rest)).map (fun (n, flags) => (n + 2, flags))
      |>.or do
        let name ← Text.dropPrefix? "no-" rest
        let (n, flags) ← ofName? false name
        return (n + 5, flags)
  | _ => none

/-- Flags at the start of the text or behind one blank. -/
def pattern : Text.Pattern (List Flag) := fun before t =>
  let atStart := if before.isNone then leading? t else none
  atStart.or do
    let c ← t.head?
    guard (Text.isBlank c)
    let (n, flags) ← leading? t.tail
    return (n + 1, flags)

/-- The inline flags of a text, in order. -/
def inText (t : Text) : List Flag := (Text.hits pattern t).flatten

/-- The text without its inline flags. -/
def strip (t : Text) : Text := Text.remove pattern t

end Flag

/-! ## Option lines -/

/-- Whether a character may stand in the name of an option. -/
def isOptionChar (c : Char) : Bool := c.isLower || c == '_'

/-- The option that a line `key: value` sets, and its value. -/
def assignment? (line : Text) : Option (Key × Value) := do
  let line := line.dropWhile (· == ' ')
  let key ← Key.ofName? (line.takeWhile isOptionChar)
  let value ← Text.dropPrefix? ":" (line.dropWhile isOptionChar)
  guard (value.head?.any Text.isBlank)
  let [word] := Text.words value | none
  return (key, ← Value.read? key word)

end InlineSearch.Directive
