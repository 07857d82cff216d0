/-
InlineSearch.Text.Blank — blank characters, and what is cut along them.

A character is blank when it has the Unicode property White_Space: 25
characters, among them the no-break space and the ideographic space.
Trimming, splitting into words and every "blank" of the directive
grammar use this one class.
-/
import InlineSearch.Text.Scan

namespace InlineSearch.Text

/-- Whether a character has the Unicode property White_Space. -/
def isBlank (c : Char) : Bool :=
  let n := c.toNat
  (0x09 ≤ n && n ≤ 0x0D) || n == 0x20 || n == 0x85 || n == 0xA0 || n == 0x1680
    || (0x2000 ≤ n && n ≤ 0x200A) || n == 0x2028 || n == 0x2029 || n == 0x202F
    || n == 0x205F || n == 0x3000

/-- Whether the text is made of blanks only. -/
def isBlankText (t : Text) : Bool := t.all isBlank

/-- The text without the characters of a class at its end. -/
def dropEndWhile (p : Char → Bool) (t : Text) : Text := (t.reverse.dropWhile p).reverse

/-- The text without leading blanks. -/
def trimStart (t : Text) : Text := t.dropWhile isBlank

/-- The text without trailing blanks. -/
def trimEnd (t : Text) : Text := dropEndWhile isBlank t

/-- The text without leading and trailing blanks. -/
def trim (t : Text) : Text := trimEnd (trimStart t)

/-- The leading characters that are not blank. -/
def leadingWord (t : Text) : Text := t.takeWhile (!isBlank ·)

/-- What follows the leading characters that are not blank. -/
def afterWord (t : Text) : Text := t.dropWhile (!isBlank ·)

/-- The runs of characters that are not blank. -/
def words (t : Text) : List Text := (t.splitOnP isBlank).filter (!·.isEmpty)

/-- The text with its words joined by single spaces. -/
def unwords (ws : List Text) : Text := join " " ws

/-- A run of blanks. -/
def blankRun : Pattern Unit := fun _ t =>
  some ((t.takeWhile isBlank).length, ())

/-- The text with every run of blanks made one space. -/
def collapseBlanks (t : Text) : Text := substitute blankRun (fun _ => " ") t

end InlineSearch.Text
