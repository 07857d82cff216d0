/-
InlineSearch.Search.Registry — which trigger stands for what.

The user's own triggers come first and hide built-in ones of the same
name; then come the history grammar and the table of built-in triggers.
Providers are registered for triggers of that table, and one for all
history triggers.
-/
import InlineSearch.Match
import InlineSearch.Search.Provider
import InlineSearch.Search.Trigger
import InlineSearch.Text.OneEdit

namespace InlineSearch.Search

open Config (Shortcuts)

/-- The known triggers and the providers behind them. -/
structure Registry (σ : Type) where
  /-- Providers of built-in triggers; of two for one trigger the first counts. -/
  providers : List (Text × Provider σ) := []
  /-- The provider of the history triggers. -/
  history : Option (Provider σ) := none
  /-- The user's own triggers. -/
  shortcuts : Shortcuts := []

/-- What a trigger stands for. -/
inductive Resolution (σ : Type) where
  /-- The value of one of the user's own triggers. -/
  | shortcut (value : Text)
  /-- A kind of search, and its provider if there is one. -/
  | builtin (kind : Kind) (provider : Option (Provider σ))

namespace Registry

variable {σ : Type}

/-- The registry with a provider for a built-in trigger. Other triggers
are ignored. -/
def register (r : Registry σ) (trigger : Text) (provider : Provider σ) : Registry σ :=
  if (Builtin.find? trigger).isSome then
    { r with providers := (trigger, provider) :: r.providers }
  else r

/-- The registry with one provider for several built-in triggers. -/
def registerAll (r : Registry σ) (triggers : List Text) (provider : Provider σ) : Registry σ :=
  triggers.foldl (fun r trigger => r.register trigger provider) r

/-- The registry with a provider for the history triggers. -/
def provideHistory (r : Registry σ) (provider : Provider σ) : Registry σ :=
  { r with history := some provider }

/-! ## Looking up triggers -/

/-- What a trigger stands for when the user's own triggers are ignored. -/
def builtin? (r : Registry σ) (trigger : Text) : Option (Kind × Option (Provider σ)) :=
  match historySources? trigger with
  | some sources => some (.history sources, r.history)
  | none => (Builtin.find? trigger).map fun b => (b.kind, r.providers.lookup trigger)

/-- What a trigger stands for. -/
def resolve? (r : Registry σ) (trigger : Text) : Option (Resolution σ) :=
  match r.shortcuts.get? trigger with
  | some value => some (.shortcut value)
  | none => (r.builtin? trigger).map fun (kind, provider) => .builtin kind provider

/-- Whether a trigger is known. -/
def knows (r : Registry σ) (trigger : Text) : Bool := (r.resolve? trigger).isSome

/-- The provider of the default search. -/
def webProvider (r : Registry σ) : Option (Provider σ) := r.providers.lookup webTrigger

/-- Every trigger with a description, the built-in ones first. -/
def descriptions (r : Registry σ) : List (Text × Text) :=
  Builtin.all.map (fun b => (b.trigger, b.description)) ++ historyForms
    ++ r.shortcuts.map fun (trigger, value) => (trigger, "Custom: " ++ value)

/-! ## Suggestions -/

/-- The triggers that may be suggested. -/
def candidates (r : Registry σ) : List Text :=
  Builtin.all.map Builtin.trigger ++ simpleHistoryTriggers ++ r.shortcuts.triggers

/-- What a candidate has to score above to be suggested for what it
contains. -/
def suggestionScore : Rat := 8

/-- The known triggers close to an unknown one: first those that contain
it, the best first, and then, for a trigger of two characters or more,
those one edit away. -/
def suggestions (r : Registry σ) (trigger : Text) : List Text :=
  let scored := (r.candidates.map fun name => (Match.scoreAt false name trigger, name)).filter
    fun (score, name) => suggestionScore < score && name != trigger
  let containing := (scored.mergeSort fun a b => b.1 ≤ a.1).map Prod.snd
  let close := r.candidates.filter (2 ≤ trigger.length && Text.differByOne · trigger)
  (containing ++ close).eraseDups

end Registry

end InlineSearch.Search
