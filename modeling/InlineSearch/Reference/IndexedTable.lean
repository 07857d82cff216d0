/-
InlineSearch.Reference.IndexedTable — a table of markers with an index.

The entries stand in a row in the order of their recording, and an index leads
from each URL to the place of its entry. A search asks the index and reads the
entry at the place; that the place is one of the row is not checked before.
The index is kept beside the row and holds nothing of its own, so a table with
an index says the same as the `Table` of its entries.
-/
import InlineSearch.Reference.Table

namespace InlineSearch.Reference

/-- URLs with their markers in the order of recording, and the places of URLs. -/
structure IndexedTable where
  entries : Array (Text × Text) := #[]
  /-- Places by URL; what was put in last stands first. -/
  places : List (Text × Nat) := []
deriving DecidableEq, Repr

namespace IndexedTable

/-- The entries in the order of their recording. -/
def toTable (table : IndexedTable) : Table := table.entries.toList

/-- The number of entries. -/
def size (table : IndexedTable) : Nat := table.entries.size

/-- Whether a URL has a marker. -/
def contains (table : IndexedTable) (url : Text) : Bool := (table.places.lookup url).isSome

/-- The marker of a URL. A place at which there is no entry is an error. -/
def get (table : IndexedTable) (url : Text) : Except Nat (Option Text) :=
  match table.places.lookup url with
  | none => .ok none
  | some place =>
    match table.entries[place]? with
    | some (_, marker) => .ok (some marker)
    | none => .error place

/-- The table with a marker for a URL, and whether the URL had none. -/
def insert (table : IndexedTable) (url marker : Text) : Bool × IndexedTable :=
  if table.contains url then (false, table)
  else (true, ⟨table.entries.push (url, marker), (url, table.entries.size) :: table.places⟩)

/-- The table with markers for URLs, one after the other. -/
def insertAll (table : IndexedTable) (recorded : List (Text × Text)) : IndexedTable :=
  recorded.foldl (fun table (url, marker) => (table.insert url marker).2) table

/-- The table of the reference definitions of a document. -/
def ofDocument (document : Text) : IndexedTable :=
  insertAll {} ((definitions document).map Prod.swap)

end IndexedTable

end InlineSearch.Reference
