/-
InlineSearch.Provider.PageTitle — the titles of pages.

A title is the text of the first title element, with its blanks collapsed
and its entities replaced. A page without a title is called after its
host.
-/
import InlineSearch.Text.FoldCase
import InlineSearch.World.Basic

namespace InlineSearch.Provider.PageTitle

/-! ## Title elements -/

/-- The entities that are replaced, and what they stand for. The ampersand
comes last. -/
def entities : List (Text × Text) := [
  ("&quot;", "\x22"), ("&#39;", "'"), ("&#x27;", "'"), ("&lt;", "<"), ("&gt;", ">"),
  ("&nbsp;", " "), ("&amp;", "&")]

/-- The text with its entities replaced. -/
def unescaped (t : Text) : Text :=
  entities.foldl (fun t (entity, written) => Text.replaceAll entity written t) t

/-- What stands inside the title element that begins a text. -/
def elementAt? (t : Text) : Option Text := do
  let rest ← Text.dropFolded? "<title" t
  let (_, rest) ← Text.cut ">" rest
  return (← Text.splitFirst? (Text.dropFolded? "</title>") rest).1

/-- The title that a page gives itself. -/
def ofPage? (page : Text) : Option Text := do
  let inside ← Text.findSuffix? elementAt? page
  some (unescaped (Text.collapseBlanks (Text.trim inside))) |>.filter (!·.isEmpty)

/-! ## Hosts -/

/-- The host of a URL as a title. -/
def ofHost (url : Text) : Text :=
  let rest? := (Text.dropPrefix? "https://" url).or (Text.dropPrefix? "http://" url)
  let host := (rest?.getD url).takeWhile (· != '/')
  Text.trim (host.map fun c => if c = '-' then ' ' else c)

/-- Asks pages for their titles. -/
def source : Search.TitleSource World := fun url => do
  let title : Option Text :=
    match ← (World.page url).run with
    | .ok page => ofPage? page
    | .error _ => none
  return title.or (some (ofHost url) |>.filter (!·.isEmpty))

end InlineSearch.Provider.PageTitle
