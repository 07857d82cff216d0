/-
InlineSearch.Text.ControlSequence — control characters and control
sequences, which tell a terminal what to do.

A sequence begins with an escape character, and what follows it says how
far the sequence goes. `withoutControls` is what remains of a text on a
stream that is no terminal: sequences are left out, and so are control
characters, but for the blank ones.
-/
import InlineSearch.Text.Basic

namespace InlineSearch.Text

/-- Whether a character shows something or moves what follows it. -/
def isPlain (c : Char) : Bool :=
  if c.toNat < 0x20 then ['\t', '\n', '\x0c', '\r'].contains c else c != '\x7f'

/-- How far a sequence is read. -/
inductive Sequence where
  /-- There is no sequence. -/
  | outside
  /-- Behind the escape character. -/
  | opened
  /-- Before the last character of a sequence of a few characters. -/
  | short
  /-- Before the letter behind the parameters of a control. -/
  | control
  /-- Inside a command, which a bell ends. -/
  | command
  /-- Inside a message, which only another sequence ends. -/
  | message
deriving DecidableEq, Repr

namespace Sequence

/-- What a printable ASCII character makes of a sequence. -/
def afterPrintable (s : Sequence) (c : Char) : Sequence :=
  match s with
  | opened =>
    if c.toNat < 0x30 then short
    else if c == '[' then control
    else if c == ']' then command
    else if ['P', 'X', '^', '_'].contains c then message
    else outside
  | short => if c.toNat < 0x30 then short else outside
  | control => if c.toNat < 0x40 then control else outside
  | s => s

/-- What a character makes of a sequence. -/
def after (s : Sequence) (c : Char) : Sequence :=
  if c == '\x1b' then opened
  else if c == '\x18' || c == '\x1a' then outside
  else if s = command && c == '\x07' then outside
  else if 0x20 ≤ c.toNat && c.toNat < 0x7F then s.afterPrintable c
  else s

/-- Whether a character is shown when it is read inside a sequence. -/
def shows (s : Sequence) (c : Char) : Bool :=
  match s with
  | outside => isPlain c
  | opened | short | control => c.toNat < 0x20 && isPlain c
  | command | message => false

end Sequence

/-- The text without controls from a sequence on. While `showing`, plain
characters are shown whatever the sequence waits for. -/
def plainFrom (showing : Bool) (s : Sequence) : Text → Text
  | [] => []
  | c :: t =>
    if showing && isPlain c then c :: plainFrom true (if c.toNat < 0x80 then s else .outside) t
    else if s.shows c then c :: plainFrom true s t
    else plainFrom false (s.after c) t

theorem plainFrom_outside {t : Text} (h : ∀ c ∈ t, isPlain c) (showing : Bool) :
    plainFrom showing .outside t = t := by
  induction t generalizing showing with
  | nil => rfl
  | cons c t ih =>
    have hc : isPlain c = true := h c (by simp)
    have ht := ih fun d hd => h d (by simp [hd])
    cases showing <;> simp [plainFrom, Sequence.shows, hc, ht]

/-- The text without control characters and control sequences. -/
def withoutControls (t : Text) : Text := plainFrom false .outside t

/-- A text without controls stays as it is. -/
theorem withoutControls_eq_self {t : Text} (h : ∀ c ∈ t, isPlain c) : withoutControls t = t :=
  plainFrom_outside h false

end InlineSearch.Text
