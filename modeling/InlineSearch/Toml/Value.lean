/-
InlineSearch.Toml.Value — TOML values, and how tables are put together.

A document is a list of statements: table headers and entries. Every
table remembers how it came about, because that decides who may add to
it. A header may define a table that so far was only implied by the
headers of tables inside it. A dotted key may add to a table that is
implied or that dotted keys made, and makes it one of these: no header
may define it afterwards. Nobody may add to an inline table. Defining
anything twice is refused.
-/
import InlineSearch.Text.Basic

namespace InlineSearch.Toml

/-- How a table came about. -/
inductive Origin where
  /-- By a header of its own. -/
  | header
  /-- By the header of a table inside it. -/
  | implied
  /-- By a dotted key, or added to by one. -/
  | dotted
  /-- As a value in braces. -/
  | inline
deriving DecidableEq, Repr

/-- A TOML value. Numbers are known to be well formed; their content is
not kept. -/
inductive Value where
  | text (t : Text)
  | boolean (b : Bool)
  | number
  /-- A date, a time of day or both, in its normal form. -/
  | moment (t : Text)
  | array (items : List Value)
  /-- An array of tables with headers. -/
  | tables (tables : List (List (Text × Value)))
  | table (origin : Origin) (entries : List (Text × Value))
deriving Repr

/-- The entries of a table, in the order in which they were made. -/
abbrev Table := List (Text × Value)

/-- The name under which a moment that is taken as a table has its text. -/
def momentName : Text := "$__toml_private_datetime"

/-- The table that a value can be taken as. A moment is a table with one
entry, its text. -/
def Value.table? : Value → Option Table
  | .table _ entries => some entries
  | .moment t => some [(momentName, .text t)]
  | _ => none

/-- A statement of a document. -/
inductive Statement where
  /-- The header of a table. -/
  | header (path : List Text) (key : Text)
  /-- The header of the next table of an array. -/
  | nextTable (path : List Text) (key : Text)
  /-- An entry of the table whose header came last. -/
  | entry (path : List Text) (key : Text) (value : Value)
deriving Repr

namespace Table

/-! ## Changing a table -/

/-- The table with the value of a key changed, where `change` gets the
present value and may refuse. A new key comes last. -/
def alter (key : Text) (change : Option Value → Option Value) : Table → Option Table
  | [] => do return [(key, ← change none)]
  | (k, v) :: rest =>
    if k = key then do return (k, ← change (some v)) :: rest
    else do return (k, v) :: (← alter key change rest)

/-- The list with its last table changed. -/
def alterLast (change : Table → Option Table) : List Table → Option (List Table)
  | [] => none
  | [t] => do return [← change t]
  | t :: rest => do return t :: (← alterLast change rest)

/-- The table with a table inside it changed, which headers name by a path.
Tables on the way that are missing are implied. -/
def within (change : Table → Option Table) : List Text → Table → Option Table
  | [], t => change t
  | key :: path, t => alter key (fun
    | none => do return .table .implied (← within change path [])
    | some (.table .inline _) => none
    | some (.table origin entries) => do return .table origin (← within change path entries)
    | some (.tables ts) => do return .tables (← alterLast (within change path) ts)
    | some _ => none) t

/-- The table with a new entry. -/
def add (key : Text) (value : Value) (t : Table) : Option Table :=
  alter key (fun
    | none => some value
    | some _ => none) t

/-- The table with a new entry that a dotted key names. The last table of
an array may be added to only through the tables inside it. -/
def addDotted (key : Text) (value : Value) : List Text → Table → Option Table
  | [], t => add key value t
  | k :: path, t => alter k (fun
    | none => do return .table .dotted (← addDotted key value path [])
    | some (.table .implied entries) | some (.table .dotted entries) => do
      return .table .dotted (← addDotted key value path entries)
    | some (.tables ts) => do
      guard (!path.isEmpty)
      return .tables (← alterLast (addDotted key value path) ts)
    | some _ => none) t

/-! ## Building a table from statements -/

/-- A table whose header has been read. -/
def define : Option Value → Option Value
  | none => some (.table .header [])
  | some (.table .implied entries) => some (.table .header entries)
  | some _ => none

/-- An array of tables with one more table. -/
def extend : Option Value → Option Value
  | none => some (.tables [[]])
  | some (.tables ts) => some (.tables (ts ++ [[]]))
  | some _ => none

/-- The table that statements make; `current` is the path of the header
that came last. -/
def buildFrom (current : List Text) (t : Table) : List Statement → Option Table
  | [] => some t
  | .header path key :: rest => do
    buildFrom (path ++ [key]) (← within (alter key define) path t) rest
  | .nextTable path key :: rest => do
    buildFrom (path ++ [key]) (← within (alter key extend) path t) rest
  | .entry path key value :: rest => do
    buildFrom current (← within (addDotted key value path) current t) rest

/-- The table that the statements of a document make. -/
def ofStatements (statements : List Statement) : Option Table := buildFrom [] [] statements

/-- The table that the entries of an inline table make. -/
def ofEntries (entries : List (List Text × Text × Value)) : Option Table :=
  entries.foldlM (fun t (path, key, value) => addDotted key value path t) []

end Table

end InlineSearch.Toml
