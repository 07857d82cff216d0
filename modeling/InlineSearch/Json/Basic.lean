/-
InlineSearch.Json.Basic — JSON documents.

A document is kept as it is written: members in their order, repeated
names included, numbers as their digits, and strings whose escapes write
no text (a lone surrogate) as such. What of this is acceptable depends on
the place: a value that nobody asks for may hold anything, and
`isPlain` says when a value may be taken as data.
-/
import InlineSearch.Text.DoubleRange

namespace InlineSearch

namespace Json

/-- A number as it is written: `-`, whole digits, digits behind the point,
and the exponent with its sign. -/
structure Number where
  negative : Bool
  whole : Text
  fraction : Option Text
  exponent : Option (Bool × Text)
deriving DecidableEq, Repr

/-- A string: the text that it writes, if it writes one. -/
abbrev Str := Option Text

end Json

/-- A JSON document. -/
inductive Json where
  | null
  | bool (b : Bool)
  | num (n : Json.Number)
  | str (s : Json.Str)
  | arr (items : List Json)
  | obj (members : List (Json.Str × Json))
deriving Repr

namespace Json

/-! ## Numbers -/

/-- The number that digits write. -/
def digitsValue (digits : Text) : Nat := (Text.toNat? digits).getD 0

/-- The natural number that is written, without a sign, a point or an
exponent. -/
def Number.natural? (n : Number) : Option Nat :=
  if !n.negative && n.fraction.isNone && n.exponent.isNone then Text.toNat? n.whole else none

/-- The exponent that is written, or zero. -/
def Number.power (n : Number) : Int :=
  match n.exponent with
  | some (negative, digits) => if negative then -(digitsValue digits) else digitsValue digits
  | none => 0

/-- As many of the digits behind those that write `n` as 64 bits can hold
with it: the number that they write together, and the digits that are
left over. -/
def appendDigits (n : Nat) : Text → Nat × Text
  | [] => (n, [])
  | d :: digits =>
    let longer := 10 * n + digitsValue [d]
    if Nat.pow 2 64 ≤ longer then (n, d :: digits) else appendDigits longer digits

/-- A number, less its sign, as a product of a number of 64 bits and a
power of ten. Whole digits that the first factor cannot hold count as
zeros, and digits behind the point that it cannot hold are dropped. -/
def Number.factors (n : Number) : Nat × Int :=
  let (whole, zeros) := appendDigits 0 n.whole
  let fraction := n.fraction.getD []
  let (digits, dropped) := appendDigits whole fraction
  (digits, zeros.length - (fraction.length - dropped.length : Nat) + n.power)

/-- Whether a number is beyond the doubles, computed from its factors. -/
def Number.overflows (n : Number) : Bool := Text.productOverflows n.factors.1 n.factors.2

/-! ## Plain values -/

/-- The deepest nesting of arrays and objects in data. -/
def maxDepth : Nat := 127

mutual

/-- Whether a value may be taken as data where `depth` more levels of
nesting are allowed: its strings are texts, its numbers lie in the range
of doubles, and it nests no deeper. -/
def isPlain (depth : Nat) : Json → Bool
  | null | bool _ => true
  | num n => !n.overflows
  | str s => s.isSome
  | arr items =>
    match depth with
    | 0 => false
    | depth + 1 => arePlain depth items
  | obj members =>
    match depth with
    | 0 => false
    | depth + 1 => membersArePlain depth members

/-- Whether values may be taken as data. -/
def arePlain (depth : Nat) : List Json → Bool
  | [] => true
  | v :: vs => isPlain depth v && arePlain depth vs

/-- Whether members may be taken as data. -/
def membersArePlain (depth : Nat) : List (Str × Json) → Bool
  | [] => true
  | (name, v) :: rest => name.isSome && isPlain depth v && membersArePlain depth rest

end

end Json

end InlineSearch
