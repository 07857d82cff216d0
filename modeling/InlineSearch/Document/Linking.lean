/-
InlineSearch.Document.Linking — turning the directives of a document into
links.

A run plans every span, resolves the searches among them and drafts the
output from the outcomes, in document order. The searches may be carried
out in any order (`completion`): each outcome goes back to its own span,
by the rank of the search in the document.
-/
import InlineSearch.Document.Draft

namespace InlineSearch

/-- All that a run needs. -/
structure Linker (σ : Type) where
  config : Config
  resolver : Search.Resolver σ
  /-- The random number of the run, for markers with a random prefix. -/
  random : Nat := 0
  /-- The order in which a number of searches is carried out, as ranks
  counted from zero. -/
  completion : Nat → List Nat := List.range

namespace Linker

variable {σ : Type}

/-- A linker whose own triggers are those of the configuration. -/
def ofConfig (config : Config) (resolver : Search.Resolver σ) : Linker σ where
  config
  resolver := { resolver with
    registry := { resolver.registry with shortcuts := config.customSiteSearches } }

end Linker

namespace Document

open Search (Job Outcome)

variable {σ : Type}

/-- The outcomes of jobs, with the ranks of the jobs, in the order in
which they are carried out. -/
def resolveJobs (l : Linker σ) (jobs : List Job) : StateM σ (List (Nat × Outcome)) := do
  let outcomes ← (l.completion jobs.length).mapM fun rank =>
    match jobs[rank]? with
    | some job => do return some (rank, ← l.resolver.resolve job (rank + 1))
    | none => pure none
  return outcomes.reduceOption

/-- The planned spans with the outcomes of their searches; `rank` is the
rank of the first search among them. -/
def withOutcomes (outcomes : List (Nat × Outcome)) (rank : Nat) :
    List PlannedSpan → List (PlannedSpan × Option Outcome)
  | [] => []
  | p :: rest =>
    match p.job? with
    | some _ => (p, outcomes.lookup rank) :: withOutcomes outcomes (rank + 1) rest
    | none => (p, none) :: withOutcomes outcomes rank rest

/-- Turns the directives of a document into links. A document without spans
stays as it is. -/
def link (l : Linker σ) (input : Text) : StateM σ Linked := do
  if !Span.occursIn input then
    return { output := input, clipboard := false, links := 0, errors := [] }
  let source := withoutReports input
  let lines := Text.lines source
  let (planned, lastConfig) := plan l.resolver.registry l.config lines
  let outcomes ← resolveJobs l (planned.filterMap PlannedSpan.job?)
  let gathered := (Draft.ofDocument l.random source).addAll (withOutcomes outcomes 0 planned)
  let single := (Text.endedLines input).length ≤ 1
  return gathered.result lines lastConfig single planned.length

end Document

end InlineSearch
