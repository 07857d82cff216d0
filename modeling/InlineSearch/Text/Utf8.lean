/-
InlineSearch.Text.Utf8 — the UTF-8 form of a text, and the reading of
bytes that need not be well formed.

`decode` never fails: every longest run of bytes that begins a character
but does not complete it becomes one replacement character, as does every
byte that cannot begin one. On the bytes of a text it gives that text
back.
-/
import InlineSearch.Text.Basic

namespace InlineSearch.Text

/-- The bytes of a text in UTF-8. -/
def encodeUtf8 (t : Text) : List UInt8 := t.flatMap String.utf8EncodeChar

/-- The character that stands for bytes that are no character. -/
def replacement : Char := '\uFFFD'

/-- A character of several bytes of which some have been read. -/
structure PartialChar where
  /-- How many bytes are missing. -/
  missing : Nat
  /-- The least byte that may come next. -/
  low : Nat
  /-- The greatest byte that may come next. -/
  high : Nat
  /-- The bits read so far. -/
  bits : Nat

/-- What a byte at the start of a character gives: text that is complete,
and the character it begins. -/
def decodeLead (b : UInt8) : Text × Option PartialChar :=
  let n := b.toNat
  if n < 0x80 then ([Char.ofNat n], none)
  else if 0xC2 ≤ n && n ≤ 0xDF then ([], some ⟨1, 0x80, 0xBF, n % 0x20⟩)
  else if 0xE0 ≤ n && n ≤ 0xEF then
    ([], some ⟨2, if n == 0xE0 then 0xA0 else 0x80, if n == 0xED then 0x9F else 0xBF, n % 0x10⟩)
  else if 0xF0 ≤ n && n ≤ 0xF4 then
    ([], some ⟨3, if n == 0xF0 then 0x90 else 0x80, if n == 0xF4 then 0x8F else 0xBF, n % 0x08⟩)
  else ([replacement], none)

/-- Reads bytes after the bytes of `pending`. -/
def decodeAfter : Option PartialChar → List UInt8 → Text
  | none, [] => []
  | some _, [] => [replacement]
  | none, b :: bs =>
    let (done, pending) := decodeLead b
    done ++ decodeAfter pending bs
  | some p, b :: bs =>
    if p.low ≤ b.toNat && b.toNat ≤ p.high then
      let bits := p.bits * 0x40 + b.toNat % 0x40
      if p.missing ≤ 1 then Char.ofNat bits :: decodeAfter none bs
      else decodeAfter (some ⟨p.missing - 1, 0x80, 0xBF, bits⟩) bs
    else
      let (done, pending) := decodeLead b
      replacement :: done ++ decodeAfter pending bs

/-- The text that bytes write in UTF-8, with a replacement character for
what is not well formed. -/
def decodeUtf8 (bs : List UInt8) : Text := decodeAfter none bs

end InlineSearch.Text
