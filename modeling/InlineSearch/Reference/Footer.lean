/-
InlineSearch.Reference.Footer — the definitions that a run appends to a
document: the references, sorted and one a line, and then the footnotes in
document order with blank lines between them.
-/
import InlineSearch.Text.Basic

namespace InlineSearch.Reference

/-- The definitions that a run appends. -/
structure Footer where
  references : List Text := []
  footnotes : List Text := []
deriving DecidableEq, Repr

namespace Footer

/-- The footer with one more reference. -/
def withReference (footer : Footer) (line : Text) : Footer :=
  { footer with references := footer.references ++ [line] }

/-- The footer with one more footnote. -/
def withFootnote (footer : Footer) (line : Text) : Footer :=
  { footer with footnotes := footer.footnotes ++ [line] }

/-- Whether nothing is to be appended. -/
def isEmpty (footer : Footer) : Bool := footer.references.isEmpty && footer.footnotes.isEmpty

/-- The text to append. -/
def render (footer : Footer) : Text :=
  let references := Text.join "\n" (footer.references.mergeSort Text.le)
  let footnotes := Text.join "\n\n" footer.footnotes
  if !references.isEmpty && !footnotes.isEmpty then references ++ "\n\n" ++ footnotes
  else references ++ footnotes

end Footer

end InlineSearch.Reference
