/-
InlineSearch.Search.Problem — what can go wrong with a directive, and what
is remarked on one that succeeds.
-/
import InlineSearch.Text.Basic

namespace InlineSearch.Search

/-- Why a directive fails, or what is remarked on it. -/
inductive Problem where
  /-- The trigger is unknown and no domain; known triggers close to it. -/
  | invalidTrigger (suggestions : List Text)
  /-- There is nothing to search for. -/
  | emptyInput
  /-- The search found nothing. -/
  | noResults
  /-- The link does not resolve. -/
  | notFound
  /-- Whether the link resolves could not be decided. -/
  | linkValidation
  /-- The spelling of the terms was changed. -/
  | spelling
deriving DecidableEq, Repr

/-- The label under which a problem is logged. -/
def Problem.label : Problem → Text
  | invalidTrigger [] => "Invalid search"
  | invalidTrigger suggestions =>
    "Invalid search, did you mean " ++ Text.join ", " (suggestions.map ('!' :: ·)) ++ "?"
  | emptyInput => "No input"
  | noResults => "No results"
  | notFound => "Not found"
  | linkValidation => "Link validation"
  | spelling => "Spelling"

/-- A remark on a search. -/
structure Note where
  problem : Problem
  message : Text
deriving DecidableEq, Repr

end InlineSearch.Search
