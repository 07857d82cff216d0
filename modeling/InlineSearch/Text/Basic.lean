/-
InlineSearch.Text.Basic — text as a list of characters, and the cuts
and joins that every scanner of the library is built from.

Positions that leave the library (spans, error positions, edits) count
UTF-8 bytes, so the module also measures a text in bytes and cuts it at
a byte offset. `splitBytes?` is the one cut at an offset: it fails when
the offset lies beyond the end or inside a character, and every other
byte operation goes through it.
-/
namespace InlineSearch

/-- A text, as the list of its characters. -/
abbrev Text := List Char

instance : Coe String Text := ⟨String.toList⟩

namespace Text

/-! ## UTF-8 offsets -/

/-- The length of the UTF-8 form of a text. -/
def bytes : Text → Nat
  | [] => 0
  | c :: t => c.utf8Size + bytes t

@[simp] theorem bytes_nil : bytes [] = 0 := rfl

@[simp] theorem bytes_cons (c : Char) (t : Text) : bytes (c :: t) = c.utf8Size + bytes t := rfl

@[simp] theorem bytes_append (a b : Text) : bytes (a ++ b) = bytes a + bytes b := by
  induction a with
  | nil => simp
  | cons c a ih => simp [ih, Nat.add_assoc]

/-- The text before and the text from byte offset `n`, when `n` is a
character boundary of the text. -/
def splitBytes? : Nat → Text → Option (Text × Text)
  | 0, t => some ([], t)
  | _ + 1, [] => none
  | n + 1, c :: t =>
    if c.utf8Size ≤ n + 1 then
      (splitBytes? (n + 1 - c.utf8Size) t).map fun (a, b) => (c :: a, b)
    else none

/-- The bytes from offset `start` up to offset `stop`, when both are
character boundaries and the range is not reversed. -/
def slice? (start stop : Nat) (t : Text) : Option Text := do
  guard (start ≤ stop)
  let (_, rest) ← splitBytes? start t
  let (part, _) ← splitBytes? (stop - start) rest
  return part

/-! ## Prefixes, suffixes and parts -/

/-- Whether the text begins with `p`. -/
def startsWith (p t : Text) : Bool := p.isPrefixOf t

/-- Whether the text ends with `p`. -/
def endsWith (p t : Text) : Bool := p.isSuffixOf t

/-- What follows `p` at the start of the text. -/
def dropPrefix? : Text → Text → Option Text
  | [], t => some t
  | _ :: _, [] => none
  | d :: p, c :: t => if d = c then dropPrefix? p t else none

theorem dropPrefix?_eq_some_iff {p t rest : Text} :
    dropPrefix? p t = some rest ↔ t = p ++ rest := by
  induction p generalizing t with
  | nil => simp [dropPrefix?]
  | cons d p ih =>
    cases t with
    | nil => simp [dropPrefix?]
    | cons c t =>
      by_cases h : d = c
      · simp [dropPrefix?, h, ih]
      · simp [dropPrefix?, h, Ne.symm h]

/-- What precedes `p` at the end of the text. -/
def dropSuffix? (p t : Text) : Option Text :=
  (dropPrefix? p.reverse t.reverse).map List.reverse

/-- The text before and the text after the first occurrence of `sep`. -/
def cut (sep : Text) : Text → Option (Text × Text)
  | [] => if sep.isEmpty then some ([], []) else none
  | c :: t =>
    match dropPrefix? sep (c :: t) with
    | some rest => some ([], rest)
    | none => (cut sep t).map fun (a, b) => (c :: a, b)

/-- A cut loses nothing but the separator. -/
theorem eq_of_cut {sep t before after : Text} (h : cut sep t = some (before, after)) :
    t = before ++ sep ++ after := by
  induction t generalizing before after with
  | nil =>
    cases sep with
    | nil => simp_all [cut]
    | cons s sep => simp [cut] at h
  | cons c t ih =>
    rw [cut] at h
    split at h
    next rest hr =>
      simp only [Option.some.injEq, Prod.mk.injEq] at h
      simp [← h.1, ← h.2, dropPrefix?_eq_some_iff.1 hr]
    next =>
      obtain ⟨⟨a, b⟩, hc, he⟩ := Option.map_eq_some_iff.1 h
      simp only [Prod.mk.injEq] at he
      simp [← he.1, ← he.2, ih hc]

theorem length_of_cut {sep t before after : Text} (h : cut sep t = some (before, after)) :
    before.length + sep.length + after.length = t.length := by
  simp [eq_of_cut h, Nat.add_assoc]

/-- The text before and the text after the first occurrence of `sep` on
the first line. -/
def cutInLine (sep t : Text) : Option (Text × Text) := do
  let (before, after) ← cut sep t
  guard (before.all (· != '\n'))
  return (before, after)

/-- Whether `part` occurs in the text. -/
def contains (part t : Text) : Bool := (cut part t).isSome

/-- The first success of `f` on a suffix of the text, longest suffix
first, with the text before that suffix. -/
def splitFirst? {α : Type} (f : Text → Option α) : Text → Option (Text × α)
  | [] => (f []).map fun a => ([], a)
  | c :: t =>
    match f (c :: t) with
    | some a => some ([], a)
    | none => (splitFirst? f t).map fun (before, a) => (c :: before, a)

/-- The last success of `f` on a suffix of the text, with the text
before that suffix. -/
def splitLast? {α : Type} (f : Text → Option α) : Text → Option (Text × α)
  | [] => (f []).map fun a => ([], a)
  | c :: t =>
    match splitLast? f t with
    | some (before, a) => some (c :: before, a)
    | none => (f (c :: t)).map fun a => ([], a)

/-- The first success of `f` on a suffix of the text that begins on the
first line, with the text before that suffix. -/
def splitInLine? {α : Type} (f : Text → Option α) (t : Text) : Option (Text × α) :=
  (splitFirst? f t).filter fun (before, _) => before.all (· != '\n')

/-- The first success of `f` on a suffix of the text. -/
def findSuffix? {α : Type} (f : Text → Option α) (t : Text) : Option α :=
  (splitFirst? f t).map Prod.snd

/-! ## Replacement -/

/-- The text with its first occurrence of `old` replaced by `new`. -/
def replaceFirst (old new t : Text) : Text :=
  match cut old t with
  | some (before, after) => before ++ new ++ after
  | none => t

/-- Replaces every occurrence of `old` in the text that remains after its
first `skip` characters, which are dropped. -/
def replaceFrom (old new : Text) : Nat → Text → Text
  | _, [] => []
  | skip + 1, _ :: t => replaceFrom old new skip t
  | 0, c :: t =>
    if old.isPrefixOf (c :: t) then new ++ replaceFrom old new (old.length - 1) t
    else c :: replaceFrom old new 0 t

/-- The text with every occurrence of the nonempty text `old` replaced by
`new`, left to right and without overlap. -/
def replaceAll (old new t : Text) : Text := replaceFrom old new 0 t

/-! ## Lines and joins -/

/-- The pieces between line feeds; there is one more than line feeds. -/
def lines (t : Text) : List Text := t.splitOn '\n'

/-- The pieces between the occurrences of `sep` in the text that remains
after its first `skip` characters, which are dropped. -/
def partsFrom (sep : Text) : Nat → Text → List Text
  | _, [] => [[]]
  | skip + 1, _ :: t => partsFrom sep skip t
  | 0, c :: t =>
    if sep.isPrefixOf (c :: t) then [] :: partsFrom sep (sep.length - 1) t
    else (partsFrom sep 0 t).modifyHead (c :: ·)

/-- The pieces between the occurrences of the nonempty text `sep`, left to
right and without overlap. -/
def parts (sep t : Text) : List Text := partsFrom sep 0 t

/-- The texts with `sep` between neighbours. -/
def join (sep : Text) (ts : List Text) : Text := sep.intercalate ts

/-- Text with a carriage return at its end dropped. -/
def dropReturn (t : Text) : Text := (dropSuffix? "\r" t).getD t

/-- The lines that line feeds end, each without a carriage return before
its line feed, and last a nonempty text that no line feed ends. -/
def endedLines (t : Text) : List Text :=
  let pieces := lines t
  pieces.dropLast.map dropReturn ++ (pieces.getLast?.filter (!·.isEmpty)).toList

/-- Whether a text comes before another or equals it, by code point. -/
def le (a b : Text) : Bool := !decide (b < a)

/-! ## ASCII case and numbers -/

/-- The text with its ASCII capitals made small. -/
def lowerAscii (t : Text) : Text := t.map Char.toLower

/-- Whether two texts agree when ASCII case is ignored. -/
def sameIgnoringCase (a b : Text) : Bool := lowerAscii a == lowerAscii b

/-- The decimal digits of a number. -/
def ofNat (n : Nat) : Text := Nat.toDigits 10 n

/-- The number that a nonempty run of ASCII digits writes. -/
def toNat? (t : Text) : Option Nat := do
  guard (!t.isEmpty && t.all Char.isDigit)
  return t.foldl (fun n c => n * 10 + (c.toNat - '0'.toNat)) 0

/-- The largest number of 64 bits. -/
def maxWord : Nat := Nat.pow 2 64 - 1

/-- The number that a run of ASCII digits writes, if it fits 64 bits. -/
def toWord? (t : Text) : Option Nat := (toNat? t).filter (· ≤ maxWord)

end Text

end InlineSearch
