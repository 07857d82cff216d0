/-
InlineSearch.Text.Percent — percent encoding of texts inside URLs.

Encoding keeps the ASCII letters and digits and `-`, `.`, `_`, `~`, and
writes every byte of all other characters as `%` and two hexadecimal
digits, so that an encoded text cannot change the structure of the URL
it is put into. Decoding accepts anything: a `%` without two digits
after it stands for itself.
-/
import InlineSearch.Text.Utf8

namespace InlineSearch.Text

/-- Whether percent encoding keeps a character. -/
def isUnreserved (c : Char) : Bool := c.isAlphanum || ['-', '.', '_', '~'].contains c

/-- The capital hexadecimal digit of a number below sixteen. -/
def hexDigit (n : Nat) : Char := (Nat.digitChar n).toUpper

/-- The value of a hexadecimal digit. -/
def hexValue? (c : Char) : Option Nat :=
  if c.isDigit then some (c.toNat - '0'.toNat)
  else if 'a' ≤ c && c ≤ 'f' then some (c.toNat - 'a'.toNat + 10)
  else if 'A' ≤ c && c ≤ 'F' then some (c.toNat - 'A'.toNat + 10)
  else none

/-- A byte as `%` and two digits. -/
def escapeByte (b : UInt8) : Text := ['%', hexDigit (b.toNat / 16), hexDigit (b.toNat % 16)]

/-- A character in percent encoding. -/
def percentEncodeChar (c : Char) : Text :=
  if isUnreserved c then [c] else (String.utf8EncodeChar c).flatMap escapeByte

/-- A text in percent encoding. -/
def percentEncode (t : Text) : Text := t.flatMap percentEncodeChar

/-- The byte that two hexadecimal digits write. -/
def hexByte? (a b : Char) : Option UInt8 := do
  return UInt8.ofNat (16 * (← hexValue? a) + (← hexValue? b))

/-- The bytes that a percent-encoded text stands for. -/
def percentDecodeBytes : Text → List UInt8
  | '%' :: a :: b :: t =>
    match hexByte? a b with
    | some byte => byte :: percentDecodeBytes t
    | none => String.utf8EncodeChar '%' ++ percentDecodeBytes (a :: b :: t)
  | c :: t => String.utf8EncodeChar c ++ percentDecodeBytes t
  | [] => []

/-- The text that a percent-encoded text stands for. -/
def percentDecode (t : Text) : Text := decodeUtf8 (percentDecodeBytes t)

end InlineSearch.Text
