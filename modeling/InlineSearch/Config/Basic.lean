/-
InlineSearch.Config.Basic — the configuration of a run.

Every option has a default, so an empty configuration file and a missing
one mean the same. `validate` is the check made once when a configuration
is loaded; options that a document changes later are not checked again.
-/
import InlineSearch.Config.Key
import InlineSearch.Config.Shortcut
import InlineSearch.Config.Source
import InlineSearch.Text.Alphabetic
import InlineSearch.Text.Quoted

namespace InlineSearch

/-- The configuration of a run. -/
structure Config where
  /-- Append a comment that lists the errors. -/
  debug : Bool := true
  /-- Append a comment that lists every substitution. -/
  report : Bool := false
  /-- Tell about the progress of searches. -/
  notifications : Bool := false
  /-- Keep a copy of a file that is overwritten. -/
  backup : Bool := true
  /-- The country that store searches ask for. -/
  countryCode : Text := "US"
  /-- Write inline links instead of reference links. -/
  inline : Bool := false
  /-- Put a random number before generated markers. -/
  prefixRandom : Bool := false
  /-- Give links the title of what was found. -/
  includeTitles : Bool := false
  /-- Ask whether links resolve before they are written. -/
  validateLinks : Bool := false
  /-- Take the page title where the link text is empty. -/
  emptyUsesPageTitle : Bool := false
  /-- The title of social profile links, with placeholders. -/
  socialTemplate : Text := "%service%/%user%"
  /-- What is appended to links into the store. -/
  itunesAffiliate : Text := "&at=10l4tL&ct=searchlink"
  /-- The partner tag of product links. -/
  amazonPartner : Text := []
  /-- The user's own triggers. -/
  customSiteSearches : Config.Shortcuts := []
  /-- The sources that the bare history trigger looks through. -/
  historyTypes : List Config.Source := [⟨.safari, .bookmarks⟩, ⟨.safari, .history⟩]
  /-- The account token of the bookmark service. -/
  pinboardApiKey : Text := []
  /-- The key of the film database. -/
  tmdbApiKey : Text := []
  /-- The key of the music database. -/
  lastfmApiKey : Text := []
  /-- The file that the configuration was read from. -/
  configPath : Option Text := none
deriving DecidableEq, Repr

namespace Config

/-! ## Options that documents address -/

/-- The value of an option. -/
def get (config : Config) : Key → Value
  | .debug => .flag config.debug
  | .report => .flag config.report
  | .countryCode => .text config.countryCode
  | .inline => .flag config.inline
  | .prefixRandom => .flag config.prefixRandom
  | .includeTitles => .flag config.includeTitles
  | .validateLinks => .flag config.validateLinks
  | .emptyUsesPageTitle => .flag config.emptyUsesPageTitle

/-- The configuration with an option set. A value of the wrong shape
changes nothing. -/
def set (config : Config) : Key → Value → Config
  | .debug, .flag on => { config with debug := on }
  | .report, .flag on => { config with report := on }
  | .countryCode, .text t => { config with countryCode := t }
  | .inline, .flag on => { config with inline := on }
  | .prefixRandom, .flag on => { config with prefixRandom := on }
  | .includeTitles, .flag on => { config with includeTitles := on }
  | .validateLinks, .flag on => { config with validateLinks := on }
  | .emptyUsesPageTitle, .flag on => { config with emptyUsesPageTitle := on }
  | _, _ => config

/-- How much a run tells about its progress. -/
inductive Progress where
  | info
  | debug
deriving DecidableEq, Repr

/-- How much the configuration lets a run tell about its progress. -/
def progress (config : Config) : Progress := if config.notifications then .info else .debug

/-! ## Validation -/

/-- Why a configuration is not acceptable. -/
inductive Fault where
  /-- A text that must not be blank is blank. -/
  | blank (field : Text)
  /-- The country code is not two letters. -/
  | countryCode (code : Text)
  /-- A trigger of the user's own is no single word, or begins with `!`. -/
  | trigger (trigger : Text)
deriving DecidableEq, Repr

/-- What is said about a fault. -/
def Fault.message : Fault → Text
  | blank field => field ++ " cannot be empty"
  | countryCode code => "country_code must be a two-letter code, got " ++ Text.quoted code
  | trigger t =>
    "custom_site_searches key " ++ Text.quoted t ++ " must be a single word without '!'"

/-- Refuses a blank text. -/
def requireNonBlank (t field : Text) : Except Fault Unit :=
  if Text.isBlankText t then .error (.blank field) else .ok ()

/-- Whether a text is a country code: two bytes, and letters only. -/
def isCountryCode (t : Text) : Bool := Text.bytes t == 2 && t.all Text.isAlphabetic

/-- Whether a text can be a trigger of the user's own. -/
def isTrigger (t : Text) : Bool := !t.any Text.isBlank && !Text.startsWith "!" t

/-- Checks one of the user's own triggers. -/
def validateShortcut (trigger value : Text) : Except Fault Unit := do
  requireNonBlank trigger "custom_site_searches key"
  if !isTrigger trigger then throw (.trigger trigger)
  requireNonBlank value ("custom_site_searches." ++ trigger)

/-- Checks a configuration; the first fault counts. -/
def validate (config : Config) : Except Fault Unit := do
  requireNonBlank config.countryCode "country_code"
  if !isCountryCode config.countryCode then throw (.countryCode config.countryCode)
  config.customSiteSearches.forM fun (trigger, value) => validateShortcut trigger value

end Config

end InlineSearch
