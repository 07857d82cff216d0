/-
InlineSearch.Config.Load — reading a configuration from TOML.

Options that are left out keep their defaults, and names that are no
options are passed over. The values that may hold secrets have references
to environment variables replaced, and the result is validated. Of
several faults the syntax of the document counts first, then a variable
that is not set, then validation.

A run reads its configuration from the file that it is asked to read, or
from one in the home directory; without a file all options keep their
defaults.
-/
import InlineSearch.Config.Basic
import InlineSearch.Config.Environment
import InlineSearch.Toml.Parser
import InlineSearch.World.Files

namespace InlineSearch.Config

/-- Why a configuration cannot be loaded. -/
inductive LoadError where
  /-- The file that was asked for is not there. -/
  | notFound (path : Text)
  /-- The file cannot be read. -/
  | unreadable (reason : Text)
  /-- The document is no TOML, or an option has the wrong type. -/
  | malformed
  /-- An option refers to an environment variable that is not set. -/
  | unset (option name : Text)
  /-- The configuration is not acceptable. -/
  | invalid (fault : Fault)
deriving DecidableEq, Repr

/-- What is said about an error. -/
def LoadError.message : LoadError → Text
  | notFound path => "Configuration file not found: " ++ path
  | unreadable reason => "I/O error: " ++ reason
  | malformed => "TOML parse error"
  | unset option name =>
    "Environment variable error in " ++ option ++ ": $\x7b" ++ name ++ "\x7d not set"
  | invalid fault => "Configuration error: " ++ fault.message

/-! ## Option values -/

/-- A value that is on or off. -/
def flagOf? : Toml.Value → Option Bool
  | .boolean b => some b
  | _ => none

/-- A text. -/
def textOf? : Toml.Value → Option Text
  | .text t => some t
  | _ => none

/-- A source, by its name or as the one key of a table, with nothing in
it. -/
def sourceOf? : Toml.Value → Option Source
  | .text name => Source.ofName? name
  | .table _ [(name, .array [])] | .table _ [(name, .table _ [])] => Source.ofName? name
  | _ => none

/-- A list of sources. -/
def sourcesOf? : Toml.Value → Option (List Source)
  | .array items => items.mapM sourceOf?
  | .tables tables => tables.mapM fun t => sourceOf? (.table .header t)
  | _ => none

/-- The user's own triggers. -/
def shortcutsOf? (v : Toml.Value) : Option Shortcuts := do
  let entries ← v.table?
  return .ofList (← entries.mapM fun (trigger, value) => do return (trigger, ← textOf? value))

/-- The value of an option of a table, or its default. -/
def option {α : Type} (t : Toml.Table) (name : Text) (read : Toml.Value → Option α)
    (byDefault : α) : Option α :=
  match t.lookup name with
  | some v => read v
  | none => some byDefault

/-- The configuration that a table holds. -/
def ofTable? (t : Toml.Table) : Option Config := do
  let d : Config := {}
  let flag (name : Text) (byDefault : Bool) := option t name flagOf? byDefault
  let text (name : Text) (byDefault : Text) := option t name textOf? byDefault
  return {
    debug := ← flag "debug" d.debug
    report := ← flag "report" d.report
    notifications := ← flag "notifications" d.notifications
    backup := ← flag "backup" d.backup
    countryCode := ← text "country_code" d.countryCode
    inline := ← flag "inline" d.inline
    prefixRandom := ← flag "prefix_random" d.prefixRandom
    includeTitles := ← flag "include_titles" d.includeTitles
    validateLinks := ← flag "validate_links" d.validateLinks
    emptyUsesPageTitle := ← flag "empty_uses_page_title" d.emptyUsesPageTitle
    socialTemplate := ← text "social_template" d.socialTemplate
    itunesAffiliate := ← text "itunes_affiliate" d.itunesAffiliate
    amazonPartner := ← text "amazon_partner" d.amazonPartner
    customSiteSearches := ← option t "custom_site_searches" shortcutsOf? d.customSiteSearches
    historyTypes := ← option t "history_types" sourcesOf? d.historyTypes
    pinboardApiKey := ← text "pinboard_api_key" d.pinboardApiKey
    tmdbApiKey := ← text "tmdb_api_key" d.tmdbApiKey
    lastfmApiKey := ← text "lastfm_api_key" d.lastfmApiKey }

/-! ## Loading -/

/-- A value with its references to variables replaced. -/
def expandOption (env : Environment) (name value : Text) : Except LoadError Text :=
  (env.expand value).mapError (LoadError.unset name)

/-- A configuration with the references in its secrets replaced. -/
def expandSecrets (env : Environment) (config : Config) : Except LoadError Config := do
  return { config with
    pinboardApiKey := ← expandOption env "pinboard_api_key" config.pinboardApiKey
    amazonPartner := ← expandOption env "amazon_partner" config.amazonPartner
    itunesAffiliate := ← expandOption env "itunes_affiliate" config.itunesAffiliate
    tmdbApiKey := ← expandOption env "tmdb_api_key" config.tmdbApiKey
    lastfmApiKey := ← expandOption env "lastfm_api_key" config.lastfmApiKey }

/-- The configuration that a document writes. -/
def ofToml (env : Environment) (document : Text) : Except LoadError Config := do
  match (Toml.parse? document).bind ofTable? with
  | none => throw .malformed
  | some config =>
    let config ← expandSecrets env config
    config.validate.mapError LoadError.invalid
    return config

/-- The configuration that a file holds, or why it cannot be read. -/
def ofFile (env : Environment) (path : Text) (content : Except FileError Text) :
    Except LoadError Config := do
  let document ← content.mapError fun e => .unreadable e.message
  return { ← ofToml env document with configPath := some path }

/-- The file that a configuration is read from where none is asked for. -/
def defaultName : Text := ".searchlink.toml"

/-- The configuration of the file that is asked for, which has to be there,
or of the file in the home directory if there is one. -/
def load (env : Environment) (files : Files) (home : Path) (asked : Option Text) :
    Except LoadError Config :=
  match asked with
  | some path =>
    if files.present path then ofFile env path (files.read path) else .error (.notFound path)
  | none =>
    let place := home ++ [defaultName]
    if files.isFile place || files.isDirectory place then
      ofFile env (Text.join "/" place) (files.readAt place)
    else .ok {}

end InlineSearch.Config
