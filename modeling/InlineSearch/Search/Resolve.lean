/-
InlineSearch.Search.Resolve — from a search directive to its outcome.

A trigger is looked up, one of the user's own triggers is expanded (once),
the provider is asked, link text and title are settled, and the link is
validated where the configuration asks for it. Whatever goes wrong ends
here, in a failed outcome.
-/
import InlineSearch.Search.Registry
import InlineSearch.Search.Shortcut

namespace InlineSearch.Search

/-! ## Outcomes -/

/-- A search that found something. -/
structure Found where
  url : Text
  title : Text
  linkText : Text
  form : Form := .link
  /-- The title is written even where titles are not asked for. -/
  showTitle : Bool := false
  notes : List Note := []
deriving DecidableEq, Repr

/-- A search that failed. -/
structure Failed where
  problem : Problem
  /-- What is said beside the label of the problem. -/
  message : Text
  linkText : Text
  notes : List Note := []
deriving DecidableEq, Repr

/-- What became of a search. -/
inductive Outcome where
  | found (f : Found)
  | failed (f : Failed)
deriving DecidableEq, Repr

/-- A failure without notes. -/
def Outcome.failure (problem : Problem) (message linkText : Text) : Outcome :=
  .failed { problem, message, linkText }

/-- What stands in place of the directive where no link is written around
it. -/
def Found.plainText (f : Found) : Text :=
  match f.form with
  | .embed => f.title
  | _ => f.url

/-! ## Resolving -/

/-- A search directive that is ready to be resolved. -/
structure Job where
  /-- The trigger, or nothing for the default search. -/
  trigger : Option Text
  terms : Text
  linkText : Text
  /-- Take the page title where the link text is empty. -/
  titleize : Bool
  /-- The configuration in effect for the directive. -/
  config : Config
deriving DecidableEq, Repr

/-- How many searches go by between two pauses, and how many milliseconds
a pause takes. No pauses are made where either is zero. -/
structure Throttle where
  every : Nat := 5
  delay : Nat := 1000
deriving DecidableEq, Repr

/-- Whether a pause comes before the search of the given rank, counted
from one. -/
def Throttle.pausesBefore (throttle : Throttle) (rank : Nat) : Bool :=
  throttle.every != 0 && throttle.delay != 0 && rank != 0 && rank % throttle.every == 0

/-- All that resolving needs. -/
structure Resolver (σ : Type) where
  registry : Registry σ
  validator : Option (Validator σ) := none
  titles : Option (TitleSource σ) := none
  throttle : Throttle := {}
  /-- Waits for some milliseconds. -/
  pause : Nat → StateM σ Unit := fun _ => pure ()

/-- Whether a text has word characters only, and at least two. -/
def isTopLevel (t : Text) : Bool := 2 ≤ t.length && t.all Text.isWord

/-- Whether an unknown trigger is taken as the domain to search. -/
def isDomain (trigger : Text) : Bool :=
  match Text.splitLast? (Text.dropPrefix? ".") trigger with
  | some (before, after) =>
    !before.isEmpty && before.all (!Text.isBlank ·) && isTopLevel after
  | none => false

namespace Resolver

variable {σ : Type}

/-- Whether a link resolves. Without a validator every link does. -/
def validate (r : Resolver σ) (url : Text) : StateM σ Validation :=
  match r.validator with
  | some validator => validator url
  | none => pure .valid

/-- The title of a page; empty where none is known. -/
def pageTitle (r : Resolver σ) (url : Text) : StateM σ Text :=
  match r.titles with
  | some titles => return (← titles url).getD []
  | none => pure []

/-- The remark that a validation leads to. -/
def validationNotes (url : Text) : Validation → List Note
  | .blocked reason =>
    [⟨.linkValidation, "Validation blocked: " ++ url ++ " (" ++ reason ++ ")"⟩]
  | .unknown reason =>
    [⟨.linkValidation, "Possibly invalid => " ++ url ++ " (" ++ reason ++ ")"⟩]
  | .valid | .invalid => []

/-- The title of a hit. The page is asked where a link has none and one is
wanted. -/
def hitTitle (r : Resolver σ) (job : Job) (hit : Hit) : StateM σ Text :=
  let title := hit.title.getD []
  if hit.form == .link && title.isEmpty && (job.titleize || job.config.includeTitles) then
    r.pageTitle hit.url
  else pure title

/-- The outcome for a hit on the given terms. -/
def settle (r : Resolver σ) (job : Job) (kind : Kind) (terms linkText : Text) (hit : Hit) :
    StateM σ Outcome := do
  let title ← r.hitTitle job hit
  let linkText := hit.linkText.getD linkText
  let linkText :=
    if !linkText.isEmpty then linkText else if job.titleize then title else terms
  let checked := job.config.validateLinks && hit.form == .link
  let validation ← if checked then r.validate hit.url else pure .valid
  if validation = .invalid then
    return .failed { problem := .notFound, message := hit.url, linkText, notes := hit.notes }
  return .found {
    url := hit.url, title, linkText, form := hit.form, showTitle := kind.showsTitle
    notes := hit.notes ++ validationNotes hit.url validation }

/-- The outcome of asking a provider. -/
def ask (r : Resolver σ) (job : Job) (provider : Provider σ) (trigger : Text) (kind : Kind)
    (terms linkText : Text) : StateM σ Outcome := do
  match ← provider { trigger, kind, terms, linkText, config := job.config } with
  | .ok (some hit) =>
    if hit.url.isEmpty then return .failure .noResults terms linkText
    else r.settle job kind terms linkText hit
  | .error (.invalidInput message) => return .failure .noResults message linkText
  | .ok none | .error _ => return .failure .noResults terms linkText

/-- The outcome where the terms are the URL. -/
def replace (r : Resolver σ) (job : Job) (url linkText : Text) : StateM σ Outcome := do
  let validation ← if job.config.validateLinks then r.validate url else pure .valid
  if validation = .invalid then
    return .failure .notFound ("Link not valid: " ++ url) linkText
  let linkText := if linkText.isEmpty then url else linkText
  return .found { url, title := linkText, linkText }

/-- Trigger, terms and link text of a job, once one of the user's own
triggers is expanded. What was written stays the link text. -/
def expanded (r : Resolver σ) (job : Job) : Text × Text × Text :=
  let trigger := job.trigger.getD webTrigger
  match r.registry.resolve? trigger with
  | some (.shortcut value) =>
    let linkText := if !job.titleize && job.linkText.isEmpty then job.terms else job.linkText
    let (trigger, terms) := expandShortcut value job.terms
    (trigger, terms, linkText)
  | _ => (trigger, job.terms, job.linkText)

/-- Kind, provider, terms and link text of a search that is no plain
replacement. A kind without a provider falls to the default search, and so
does an unknown trigger, which a domain turns into a search on its site. -/
def target (r : Resolver σ) (job : Job) (trigger terms linkText : Text) :
    Kind × Option (Provider σ) × Text × Text :=
  match r.registry.builtin? trigger with
  | some (kind, provider) => (kind, provider.or r.registry.webProvider, terms, linkText)
  | none =>
    if isDomain trigger then
      (.web, r.registry.webProvider, "site:" ++ trigger ++ " " ++ terms,
        if linkText.isEmpty && !job.titleize then terms else linkText)
    else (.web, r.registry.webProvider, terms, linkText)

/-- The outcome of a job, the search of the given rank in its run. -/
def resolve (r : Resolver σ) (job : Job) (rank : Nat) : StateM σ Outcome := do
  if Text.isBlankText job.terms then return .failure .emptyInput [] job.linkText
  if r.throttle.pausesBefore rank then r.pause r.throttle.delay
  let (trigger, terms, linkText) := r.expanded job
  match r.target job trigger terms linkText with
  | (.replace, _, terms, linkText) => r.replace job terms linkText
  | (kind, some provider, terms, linkText) => r.ask job provider trigger kind terms linkText
  | (_, none, terms, linkText) => return .failure .noResults terms linkText

end Resolver

end InlineSearch.Search
