/-
InlineSearch.Reference.Table — which marker stands for which URL.

A URL has one marker, the first that was recorded for it; recording
another one changes nothing. Entries keep the order of their recording.
-/
import InlineSearch.Reference.Definition

namespace InlineSearch.Reference

/-- URLs with their markers, each URL once, in the order of recording. -/
abbrev Table := List (Text × Text)

namespace Table

/-- The marker of a URL. -/
def get? (table : Table) (url : Text) : Option Text := table.lookup url

/-- Whether a URL has a marker. -/
def contains (table : Table) (url : Text) : Bool := (table.get? url).isSome

/-- The table with a marker for a URL that had none. -/
def insert (table : Table) (url marker : Text) : Table :=
  if table.contains url then table else table ++ [(url, marker)]

/-- The table of the reference definitions of a document. -/
def ofDocument (document : Text) : Table :=
  (definitions document).foldl (fun table (label, target) => table.insert target label) []

end Table

end InlineSearch.Reference
