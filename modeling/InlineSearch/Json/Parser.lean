/-
InlineSearch.Json.Parser — reading JSON documents.

The grammar is that of RFC 8259. Leaves come first (blanks, literals,
numbers, strings), then arrays and objects. Every value takes at least one
character, so as many levels as the text has characters are enough.
-/
import InlineSearch.Json.Basic
import InlineSearch.Text.Percent
import InlineSearch.Text.Reader

namespace InlineSearch.Json

/-! ## Blanks, literals and numbers -/

/-- Whether a character may stand between the tokens of a document. -/
def isSpace (c : Char) : Bool := c == ' ' || c == '\n' || c == '\t' || c == '\r'

/-- Blanks between tokens. -/
def skipSpaces : Reader Unit := discard (Reader.run isSpace)

/-- A token, with the blanks behind it. -/
def token (t : Text) : Reader Unit := do
  Reader.expect t
  skipSpaces

/-- The whole digits of a number, which do not begin with a zero unless
they are one. -/
def wholeDigits : Reader Text := do
  let digits ← Reader.run1 Char.isDigit
  guard (digits.length == 1 || digits.head? != some '0')
  return digits

/-- The digits behind the point, if there is a point. -/
def fraction : Reader (Option Text) := do
  if ← Reader.accept "." then return some (← Reader.run1 Char.isDigit) else return none

/-- The sign of an exponent: whether it is negative. -/
def sign : Reader Bool := do
  if ← Reader.accept "-" then return true
  discard (Reader.accept "+")
  return false

/-- The exponent, if there is one. -/
def exponent : Reader (Option (Bool × Text)) := do
  match ← Reader.peek? with
  | some 'e' | some 'E' =>
    discard Reader.next
    let negative ← sign
    return some (negative, ← Reader.run1 Char.isDigit)
  | _ => return none

/-- A number. -/
def number : Reader Number := do
  let negative ← Reader.accept "-"
  return { negative, whole := ← wholeDigits, fraction := ← fraction, exponent := ← exponent }

/-! ## Strings -/

/-- A unit of a string: a character, or the number of a `\u` escape. -/
inductive StrUnit where
  | char (c : Char)
  | code (n : Nat)
deriving DecidableEq, Repr

/-- The character that a one-letter escape writes. -/
def escaped? (letter : Char) : Option Char :=
  match letter with
  | '\x22' => some '\x22'
  | '\x5c' => some '\x5c'
  | '/' => some '/'
  | 'b' => some '\x08'
  | 'f' => some '\x0c'
  | 'n' => some '\n'
  | 'r' => some '\r'
  | 't' => some '\t'
  | _ => none

/-- The number that four hexadecimal digits write. -/
def code? (a b c d : Char) : Option Nat := do
  let high := 16 * (← Text.hexValue? a) + (← Text.hexValue? b)
  return 256 * high + 16 * (← Text.hexValue? c) + (← Text.hexValue? d)

/-- The units of a string behind its opening quote, up to the closing one. -/
def strUnits : Text → Option (List StrUnit × Text)
  | [] => none
  | '\x22' :: t => some ([], t)
  | '\x5c' :: 'u' :: a :: b :: c :: d :: t => do
    let n ← code? a b c d
    let (units, rest) ← strUnits t
    return (.code n :: units, rest)
  | '\x5c' :: letter :: t => do
    let c ← escaped? letter
    let (units, rest) ← strUnits t
    return (.char c :: units, rest)
  | c :: t => do
    guard (0x20 ≤ c.toNat)
    let (units, rest) ← strUnits t
    return (.char c :: units, rest)

/-- Whether a number is the first half of a surrogate pair. -/
def isLead (n : Nat) : Bool := 0xD800 ≤ n && n ≤ 0xDBFF

/-- Whether a number is the second half of a surrogate pair. -/
def isTrail (n : Nat) : Bool := 0xDC00 ≤ n && n ≤ 0xDFFF

/-- The text that units write. A half of a surrogate pair without the
other writes none. -/
def textOfUnits : List StrUnit → Str
  | [] => some []
  | .char c :: units => (textOfUnits units).map (c :: ·)
  | .code n :: .code m :: units =>
    if isLead n && isTrail m then
      (textOfUnits units).map (Char.ofNat (0x10000 + 0x400 * (n - 0xD800) + (m - 0xDC00)) :: ·)
    else if isLead n || isTrail n then none
    else (textOfUnits (.code m :: units)).map (Char.ofNat n :: ·)
  | .code n :: units =>
    if isLead n || isTrail n then none else (textOfUnits units).map (Char.ofNat n :: ·)

/-- A string. -/
def string : Reader Str := do
  Reader.expect "\x22"
  return textOfUnits (← (strUnits : Reader (List StrUnit)))

/-! ## Values -/

/-- Between one and `count` items with commas between them, up to the
closing sign. -/
def items {α : Type} (item : Reader α) (closing : Text) : Nat → Reader (List α)
  | 0 => failure
  | count + 1 => do
    let a ← item
    if ← Reader.accept closing then return [a]
    token ","
    return a :: (← items item closing count)

/-- The items between two signs. -/
def enclosed {α : Type} (opening closing : Text) (item : Reader α) : Reader (List α) := do
  token opening
  if ← Reader.accept closing then return []
  Reader.repeating (items item closing)

/-- A member of an object with a value of the given kind. -/
def member (value : Reader Json) : Reader (Str × Json) := do
  let name ← string
  skipSpaces
  token ":"
  return (name, ← value)

/-- A value and the blanks behind it, nested at most `depth` levels. -/
def value : Nat → Reader Json
  | 0 => failure
  | depth + 1 => do
    let v ← match ← Reader.peek? with
      | some 'n' => Reader.expect "null" *> pure null
      | some 't' => Reader.expect "true" *> pure (bool true)
      | some 'f' => Reader.expect "false" *> pure (bool false)
      | some '\x22' => str <$> string
      | some '[' => arr <$> enclosed "[" "]" (value depth)
      | some '\x7b' => obj <$> enclosed "\x7b" "\x7d" (member (value depth))
      | _ => num <$> number
    skipSpaces
    return v

/-- The document that a text writes. -/
def parse? (t : Text) : Option Json :=
  Reader.whole? (skipSpaces *> Reader.repeating value) t

end InlineSearch.Json
