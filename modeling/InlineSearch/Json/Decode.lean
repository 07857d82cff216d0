/-
InlineSearch.Json.Decode — taking data out of JSON documents.

A record is an object with known members, or an array of their values in
their order. Members that are not known are passed over; a known member
that is repeated is refused, and so are values beyond the last member. A
member may be required, nullable (null and, in an object, absence mean
that there is no value) or have a default that stands in for absence
alone.
-/
import InlineSearch.Json.Parser

namespace InlineSearch.Json

/-- Takes data of a type out of a value. -/
abbrev Decoder (α : Type) := Json → Option α

/-! ## Leaves and lists -/

/-- A text. -/
def text : Decoder Text
  | str s => s
  | _ => none

/-- A natural number of at most `limit`. -/
def natural (limit : Nat) : Decoder Nat
  | num n => n.natural?.filter (· ≤ limit)
  | _ => none

/-- A natural number of 64 bits. -/
def word : Decoder Nat := natural Text.maxWord

/-- A natural number of 32 bits. -/
def halfWord : Decoder Nat := natural (Nat.pow 2 32 - 1)

/-- Data, or null for its absence. -/
def nullable {α : Type} (d : Decoder α) : Decoder (Option α)
  | null => some none
  | v => (d v).map some

/-- An array. -/
def list {α : Type} (d : Decoder α) : Decoder (List α)
  | arr items => items.mapM d
  | _ => none

/-- An object of any members, in their order. -/
def entries {α : Type} (d : Decoder α) : Decoder (List (Text × α))
  | obj members => members.mapM fun (name, v) => do return (← name, ← d v)
  | _ => none

/-- Any value, where `depth` more levels of nesting are allowed. -/
def plain (depth : Nat) : Decoder Json := fun v => if isPlain depth v then some v else none

/-! ## Records -/

/-- The known members of a record that are there. -/
structure Record where
  /-- The record is written as an array. -/
  positional : Bool
  members : List (Text × Json)

namespace Record

/-- The value of a member. -/
def get? (r : Record) (name : Text) : Option Json := r.members.lookup name

/-- A member that has to be there. -/
def required {α : Type} (r : Record) (name : Text) (d : Decoder α) : Option α :=
  (r.get? name).bind d

/-- A member that may be null, or absent from an object. -/
def optional {α : Type} (r : Record) (name : Text) (d : Decoder α) : Option (Option α) :=
  match r.get? name with
  | some v => nullable d v
  | none => if r.positional then none else some none

/-- A member with a default. -/
def withDefault {α : Type} (r : Record) (name : Text) (byDefault : α) (d : Decoder α) :
    Option α :=
  match r.get? name with
  | some v => d v
  | none => some byDefault

end Record

/-- The members of an object, if their names are texts. -/
def named? (members : List (Str × Json)) : Option (List (Text × Json)) :=
  members.mapM fun (name, v) => name.map (·, v)

/-- A record written as an array, with the given members in order. -/
def positional? (names : List Text) (items : List Json) : Option Record := do
  guard (items.length ≤ names.length)
  return ⟨true, names.zip items⟩

/-- A record with the given members. -/
def record (names : List Text) : Decoder Record
  | obj members => do
    let known := (← named? members).filter fun (name, _) => names.contains name
    guard (known.map Prod.fst).Nodup
    return ⟨false, known⟩
  | arr items => positional? names items
  | _ => none

/-- A record with the given members, of which a repeated one counts at its
last place. -/
def lenientRecord (names : List Text) : Decoder Record
  | obj members => do return ⟨false, (← named? members).reverse⟩
  | arr items => positional? names items
  | _ => none

/-- The data that a text writes. -/
def decode? {α : Type} (d : Decoder α) (t : Text) : Option α := (parse? t).bind d

end InlineSearch.Json
