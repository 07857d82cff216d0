/-
InlineSearch.Config.Key — the options that a document may change while
it is being processed, and their values.

Documents address options in two ways. An inline flag (`++t`,
`--no-debug`) switches an option for the rest of its line; only the
options of `Key.flags` can be switched so. A line `key: value` sets any
option of `Key.all` for the rest of the document.
-/
import InlineSearch.Text.Blank

namespace InlineSearch.Config

/-- An option that a document may change. -/
inductive Key where
  | debug
  | report
  | countryCode
  | inline
  | prefixRandom
  | includeTitles
  | validateLinks
  | emptyUsesPageTitle
deriving DecidableEq, Repr

/-- The value of an option. -/
inductive Value where
  | flag (on : Bool)
  | text (t : Text)
deriving DecidableEq, Repr

namespace Key

/-- Every option that a document may set. -/
def all : List Key :=
  [.debug, .report, .countryCode, .inline, .prefixRandom, .includeTitles, .validateLinks,
    .emptyUsesPageTitle]

/-- The options that an inline flag may switch. -/
def flags : List Key := [.debug, .inline, .prefixRandom, .includeTitles, .validateLinks]

/-- The name of an option, in configuration files and in documents. -/
def name : Key → Text
  | debug => "debug"
  | report => "report"
  | countryCode => "country_code"
  | inline => "inline"
  | prefixRandom => "prefix_random"
  | includeTitles => "include_titles"
  | validateLinks => "validate_links"
  | emptyUsesPageTitle => "empty_uses_page_title"

/-- The option with a name. -/
def ofName? (name : Text) : Option Key := all.find? (·.name == name)

/-- The option that a letter of a short flag group stands for. -/
def ofLetter? : Char → Option Key
  | 'd' => some debug
  | 'i' => some inline
  | 'r' => some prefixRandom
  | 't' => some includeTitles
  | 'v' => some validateLinks
  | _ => none

/-- Whether the option is on or off; the others hold text. -/
def isFlag (key : Key) : Bool := key != countryCode

end Key

namespace Value

/-- The value that `raw` writes for an option. An option that is on or
off takes `true` and `false` in any ASCII case and nothing else. -/
def read? (key : Key) (raw : Text) : Option Value :=
  let raw := Text.trim raw
  if key.isFlag then
    if Text.sameIgnoringCase raw "true" then some (.flag true)
    else if Text.sameIgnoringCase raw "false" then some (.flag false)
    else none
  else some (.text raw)

/-- A value as documents write it. -/
def written : Value → Text
  | flag true => "true"
  | flag false => "false"
  | text t => t

end Value

end InlineSearch.Config
