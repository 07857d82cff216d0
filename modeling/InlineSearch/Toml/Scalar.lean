/-
InlineSearch.Toml.Scalar — keys, strings and the other values without
parts.

Strings come in four forms: basic and literal, on one line or on several.
Basic strings have escapes, literal ones have none. Booleans, numbers and
moments are words; `ofWord?` says what a word is.
-/
import InlineSearch.Text.DoubleRange
import InlineSearch.Text.Percent
import InlineSearch.Text.Reader
import InlineSearch.Toml.Moment
import InlineSearch.Toml.Value

namespace InlineSearch.Toml

/-! ## Blanks and characters -/

/-- Whether a character is a blank inside a line. -/
def isSpace (c : Char) : Bool := c == ' ' || c == '\t'

/-- Blanks inside a line. -/
def skipSpaces : Reader Unit := discard (Reader.run isSpace)

/-- Whether a character may stand in comments and literal strings. -/
def isVisible (c : Char) : Bool := c == '\t' || (0x20 ≤ c.toNat && c.toNat != 0x7F)

/-- The end of a line that is not the last. -/
def lineEnd : Reader Text :=
  (do Reader.expect "\n"; return "\n") <|> (do Reader.expect "\r\n"; return "\r\n")

/-! ## Strings -/

/-- The character that a one-letter escape writes. -/
def escaped? (letter : Char) : Option Char :=
  match letter with
  | 'b' => some '\x08'
  | 't' => some '\t'
  | 'n' => some '\n'
  | 'f' => some '\x0c'
  | 'r' => some '\r'
  | 'e' => some '\x1b'
  | '\x22' => some '\x22'
  | '\x5c' => some '\x5c'
  | _ => none

/-- How many hexadecimal digits follow a letter in an escape. -/
def escapeDigits? (letter : Char) : Option Nat :=
  match letter with
  | 'x' => some 2
  | 'u' => some 4
  | 'U' => some 8
  | _ => none

/-- The character that hexadecimal digits write. -/
def hexChar? (digits : Text) : Option Char := do
  let n ← digits.foldlM (fun n c => do return 16 * n + (← Text.hexValue? c)) 0
  if n.isValidChar then some (Char.ofNat n) else none

/-- An escape behind its backslash. -/
def escape : Reader Char := do
  let letter ← Reader.next
  match escapeDigits? letter with
  | some n => hexChar? (← Reader.take n)
  | none => escaped? letter

/-- The end of a line and all blanks and lines up to the next character,
behind a backslash: they do not belong to the string. -/
def lineContinuation : Reader Text := do
  skipSpaces
  discard lineEnd
  discard (Reader.run fun c => isSpace c || c == '\n' || c == '\r')
  return []

/-- A character of a class, as a piece of a string. -/
def pieceOf (p : Char → Bool) : Reader Text := do return [← Reader.one p]

/-- A piece of a basic string; `lineEnds` says whether it may go on over
line ends. -/
def basicPiece (lineEnds : Bool) : Reader Text := do
  if ← Reader.accept "\\" then
    (if lineEnds then lineContinuation else failure) <|> (do return [← escape])
  else (if lineEnds then lineEnd else failure) <|> pieceOf isVisible

/-- A piece of a literal string; `lineEnds` says whether it may go on over
line ends. -/
def literalPiece (lineEnds : Bool) : Reader Text :=
  (if lineEnds then lineEnd else failure) <|> pieceOf isVisible

/-- At most `count` pieces, up to `size` closing quotes. Quotes that
stand right behind these, fewer than `size`, belong to the string. -/
def pieces (piece : Reader Text) (quote : Char) (size : Nat) : Nat → Reader Text
  | 0 => failure
  | count + 1 => do
    if ← Reader.accept (List.replicate size quote) then
      fun t =>
        let quotes := (t.takeWhile (· == quote)).take (size - 1)
        some (quotes, t.drop quotes.length)
    else return (← piece) ++ (← pieces piece quote size count)

/-- A string of one line. -/
def short (piece : Reader Text) (quote : Char) : Reader Text := do
  Reader.expect [quote]
  Reader.repeating (pieces piece quote 1)

/-- A string of several lines. A line end behind the opening quotes does
not belong to it. -/
def long (piece : Reader Text) (quote : Char) : Reader Text := do
  Reader.expect (List.replicate 3 quote)
  discard lineEnd <|> pure ()
  Reader.repeating (pieces piece quote 3)

/-- A string of one line, basic or literal. -/
def shortString : Reader Text :=
  short (basicPiece false) '\x22' <|> short (literalPiece false) '\x27'

/-- A string of any form. -/
def string : Reader Text :=
  long (basicPiece true) '\x22' <|> long (literalPiece true) '\x27' <|> shortString

/-! ## Keys -/

/-- Whether a character may stand in a key without quotes. -/
def isBareChar (c : Char) : Bool := c.isAlphanum || c == '-' || c == '_'

/-- A key without dots. -/
def simpleKey : Reader Text := Reader.run1 isBareChar <|> shortString

/-! ## Numbers -/

/-- The digits of a text of digits of a class, with single low lines
between them. -/
def digits? (p : Char → Bool) (t : Text) : Option Text := do
  let groups := t.splitOn '_'
  guard (groups.all fun g => !g.isEmpty && g.all p)
  return groups.flatten

/-- Whole decimal digits, without leading zeros. -/
def wholeDigits? (t : Text) : Option Text :=
  (digits? Char.isDigit t).filter fun d => d.length == 1 || d.head? != some '0'

/-- Whether a text begins with a minus sign, and the text without a sign. -/
def splitSign (t : Text) : Bool × Text :=
  match t with
  | '-' :: rest => (true, rest)
  | '+' :: rest => (false, rest)
  | _ => (false, t)

/-- The value of digits to a base. -/
def valueOf (base : Nat) (digits : Text) : Nat :=
  digits.foldl (fun n c => base * n + (Text.hexValue? c).getD 0) 0

/-- Whether an integer fits 128 bits, with a sign or without. -/
def fits (negative : Bool) (n : Nat) : Bool :=
  if negative then n ≤ Nat.pow 2 127 else n < Nat.pow 2 128

/-- Whether a word is a decimal integer. -/
def isDecimalInteger (t : Text) : Bool :=
  let (negative, t) := splitSign t
  (wholeDigits? t).any fun d => fits negative (valueOf 10 d)

/-- Whether a word is an integer to another base. -/
def isPrefixedInteger (t : Text) : Bool :=
  let isBelow (base : Nat) (c : Char) : Bool := (Text.hexValue? c).any (· < base)
  let digitsOf (base : Nat) (t : Text) : Bool :=
    (digits? (isBelow base) t).any fun d => fits false (valueOf base d)
  match t with
  | '0' :: 'x' :: t => digitsOf 16 t
  | '0' :: 'o' :: t => digitsOf 8 t
  | '0' :: 'b' :: t => digitsOf 2 t
  | _ => false

/-- The exponent that the end of a number writes; none where there is no
end. -/
def exponent? (t : Option Text) : Option Int :=
  match t with
  | none => some 0
  | some t => do
    let (negative, t) := splitSign t
    let n := valueOf 10 (← digits? Char.isDigit t)
    return if negative then -n else n

/-- Whether a word is a decimal number with a point or an exponent, in the
range of doubles. -/
def isDecimalFraction (t : Text) : Bool :=
  let t := (splitSign t).2
  let mantissa := t.takeWhile fun c => c != 'e' && c != 'E'
  let exponent := if mantissa.length < t.length then some (t.drop (mantissa.length + 1)) else none
  let whole := mantissa.takeWhile (· != '.')
  let fraction :=
    if whole.length < mantissa.length then some (mantissa.drop (whole.length + 1)) else none
  Option.any id do
    guard (fraction.isSome || exponent.isSome)
    let whole ← wholeDigits? whole
    let fraction ← match fraction with
      | some f => digits? Char.isDigit f
      | none => some []
    let power ← exponent? exponent
    return !Text.overflowsDouble (valueOf 10 (whole ++ fraction)) (power - fraction.length)

/-- Whether a word is a number that has no digits. -/
def isSpecialNumber (t : Text) : Bool :=
  let t := (splitSign t).2
  t = "inf" || t = "nan"

/-- Whether a word is a number. -/
def isNumber (t : Text) : Bool :=
  isDecimalInteger t || isPrefixedInteger t || isDecimalFraction t || isSpecialNumber t

/-! ## Words -/

/-- Whether a character may stand in a word. -/
def isWordChar (c : Char) : Bool := c.isAlphanum || ['+', '-', '_', '.', ':'].contains c

/-- The value that a word without quotes writes. -/
def ofWord? (t : Text) : Option Value :=
  if t = "true" then some (.boolean true)
  else if t = "false" then some (.boolean false)
  else if isNumber t then some .number
  else .moment <$> Reader.whole? moment t

/-- A word. A date and a time of day with one blank between them are one
word. -/
def word : Reader Text := do
  let first ← Reader.run1 isWordChar
  (do
    guard (Reader.whole? date first).isSome
    Reader.expect " "
    return first ++ " " ++ (← Reader.run1 isWordChar)) <|> pure first

/-- A value without parts. -/
def scalar : Reader Value := (Value.text <$> string) <|> do ofWord? (← word)

end InlineSearch.Toml
