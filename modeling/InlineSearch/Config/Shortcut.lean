/-
InlineSearch.Config.Shortcut — the user's own triggers, each with the
value that it stands for.

The table is kept in the order of its triggers, by code point, with each
trigger once; listings and checks go through it in that order.
-/
import InlineSearch.Text.Basic

namespace InlineSearch.Config

/-- Triggers with their values, in the order of the triggers. -/
abbrev Shortcuts := List (Text × Text)

namespace Shortcuts

/-- The table with `trigger` standing for `value`. -/
def insert (trigger value : Text) : Shortcuts → Shortcuts
  | [] => [(trigger, value)]
  | (t, v) :: rest =>
    if trigger = t then (trigger, value) :: rest
    else if trigger < t then (trigger, value) :: (t, v) :: rest
    else (t, v) :: insert trigger value rest

/-- The table of the given pairs; of two pairs with one trigger the later
counts. -/
def ofList (pairs : List (Text × Text)) : Shortcuts :=
  pairs.foldl (fun table (trigger, value) => table.insert trigger value) []

/-- What a trigger stands for. -/
def get? (table : Shortcuts) (trigger : Text) : Option Text := table.lookup trigger

/-- The triggers of the table, in order. -/
def triggers (table : Shortcuts) : List Text := table.map Prod.fst

end Shortcuts

end InlineSearch.Config
