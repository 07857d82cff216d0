/-
InlineSearch.Toml.Parser — reading TOML documents.

A document is read into its statements, and the statements are put
together into a table. Arrays and inline tables may go over several lines,
with comments between all their parts but those of a dotted key, and with
a comma behind the last item. They nest at most `maxDepth` levels, and a
key has at most as many parts.
-/
import InlineSearch.Toml.Scalar

namespace InlineSearch.Toml

/-! ## Between values -/

/-- A comment, if one stands here. -/
def skipComment : Reader Unit := do
  if ← Reader.accept "#" then discard (Reader.run isVisible)

/-- Blanks, comments and line ends, over at most `count` lines. -/
def skipLines : Nat → Reader Unit
  | 0 => pure ()
  | count + 1 => do
    skipSpaces
    skipComment
    (do discard lineEnd; skipLines count) <|> pure ()

/-- Blanks, comments and line ends. -/
def skipGap : Reader Unit := Reader.repeating skipLines

/-- The rest of a line behind a statement. -/
def endLine : Reader Unit := do
  skipSpaces
  skipComment
  discard lineEnd <|> Reader.atEnd

/-! ## Keys and values -/

/-- The parts of a dotted key, of which there are at most `count`: all but
the last, and the last. -/
def dottedKey : Nat → Reader (List Text × Text)
  | 0 => failure
  | count + 1 => do
    let first ← simpleKey
    skipSpaces
    if ← Reader.accept "." then
      skipSpaces
      let (path, key) ← dottedKey count
      return (first :: path, key)
    return ([], first)

/-- The deepest nesting of arrays and inline tables, and the greatest
number of parts of a key. -/
def maxDepth : Nat := 80

/-- A key, with the blanks behind it. -/
def key : Reader (List Text × Text) := dottedKey maxDepth

/-- An entry with a value of the given kind. `gap` is what may stand on
either side of the equals sign. -/
def entry (gap : Reader Unit) (value : Reader Value) : Reader (List Text × Text × Value) := do
  let (path, key) ← key
  gap
  Reader.expect "="
  gap
  return (path, key, ← value)

/-- At most `count` items with commas between them, up to the closing
sign. -/
def items {α : Type} (item : Reader α) (closing : Text) : Nat → Reader (List α)
  | 0 => failure
  | count + 1 => do
    skipGap
    if ← Reader.accept closing then return []
    let a ← item
    skipGap
    if ← Reader.accept closing then return [a]
    Reader.expect ","
    return a :: (← items item closing count)

/-- A value with at most `depth` levels of arrays and inline tables. -/
def value : Nat → Reader Value
  | 0 => scalar
  | depth + 1 => do
    if ← Reader.accept "[" then
      return .array (← Reader.repeating (items (value depth) "]"))
    if ← Reader.accept "\x7b" then
      let entries ← Reader.repeating (items (entry skipGap (value depth)) "\x7d")
      return .table .inline (← Table.ofEntries entries)
    scalar

/-! ## Documents -/

/-- The key of a header behind its opening brackets. -/
def headerKey (closing : Text) : Reader (List Text × Text) := do
  skipSpaces
  let found ← key
  Reader.expect closing
  return found

/-- A statement. -/
def statement : Reader Statement := do
  if ← Reader.accept "[[" then
    let (path, key) ← headerKey "]]"
    return .nextTable path key
  if ← Reader.accept "[" then
    let (path, key) ← headerKey "]"
    return .header path key
  let (path, key, value) ← entry skipSpaces (value maxDepth)
  return .entry path key value

/-- The statements on at most `count` lines. -/
def statements : Nat → Reader (List Statement)
  | 0 => failure
  | count + 1 => do
    skipSpaces
    match ← Reader.peek? with
    | none => return []
    | some '#' | some '\n' | some '\r' => do
      endLine
      statements count
    | _ => do
      let s ← statement
      endLine
      return s :: (← statements count)

/-- The table that a document writes. A byte order mark may precede it. -/
def parse? (document : Text) : Option Table := do
  let document := (Text.dropPrefix? "\uFEFF" document).getD document
  Table.ofStatements (← Reader.whole? (Reader.repeating statements) document)

end InlineSearch.Toml
