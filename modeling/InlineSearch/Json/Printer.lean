/-
InlineSearch.Json.Printer — writing JSON documents.

Documents are written without blanks. Quotes, backslashes and control
characters are escaped, by a letter where there is one, and every other
character stands for itself.
-/
import InlineSearch.Json.Basic

namespace InlineSearch.Json

/-- A character inside a string. -/
def printChar (c : Char) : Text :=
  match c with
  | '\x22' => "\\\x22"
  | '\x5c' => "\\\\"
  | '\x08' => "\\b"
  | '\x0c' => "\\f"
  | '\n' => "\\n"
  | '\r' => "\\r"
  | '\t' => "\\t"
  | c =>
    if c.toNat < 0x20 then "\\u" ++ (Nat.toDigits 16 c.toNat).leftpad 4 '0' else [c]

/-- A text as a string. -/
def printText (t : Text) : Text := "\x22" ++ t.flatMap printChar ++ "\x22"

/-- A number. -/
def printNumber (n : Number) : Text :=
  (if n.negative then ['-'] else []) ++ n.whole
    ++ (match n.fraction with
      | some digits => '.' :: digits
      | none => [])
    ++ match n.exponent with
      | some (negative, digits) => 'e' :: (if negative then ['-'] else []) ++ digits
      | none => []

mutual

/-- A document. A string that writes no text is written as an empty one. -/
def print : Json → Text
  | null => "null"
  | bool true => "true"
  | bool false => "false"
  | num n => printNumber n
  | str s => printText (s.getD [])
  | arr items => "[" ++ Text.join "," (printItems items) ++ "]"
  | obj members => "\x7b" ++ Text.join "," (printMembers members) ++ "\x7d"

/-- Each of some items. -/
def printItems : List Json → List Text
  | [] => []
  | v :: vs => print v :: printItems vs

/-- Each of some members. -/
def printMembers : List (Str × Json) → List Text
  | [] => []
  | (name, v) :: rest => (printText (name.getD []) ++ ":" ++ print v) :: printMembers rest

end

/-- A text as a value. -/
def ofText (t : Text) : Json := str (some t)

/-- An object with the given members. -/
def ofMembers (members : List (Text × Json)) : Json :=
  obj (members.map fun (name, v) => (some name, v))

end InlineSearch.Json
