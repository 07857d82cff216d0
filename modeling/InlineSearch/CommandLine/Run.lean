/-
InlineSearch.CommandLine.Run — what the program does.

Without files it takes standard input: a line without directives is a
query, a line that holds one directive gets an inline link, and everything
else is a document. Files are overwritten with their links, and a copy is
kept of what they held before, or the result is printed. Errors that are
not written into a document are told to the user.
-/
import InlineSearch.CommandLine.Help
import InlineSearch.CommandLine.Session
import InlineSearch.Document.Query
import InlineSearch.Provider.Standard

namespace InlineSearch.CommandLine

open Session (copy inWorld print read tell write)

/-! ## Standard input -/

/-- What an input is taken as. -/
inductive InputKind where
  /-- A line to be searched as a whole. -/
  | query
  /-- A document; with `inline` its links are written inline. -/
  | document (inline : Bool)
deriving DecidableEq, Repr

/-- What an input is taken as. -/
def InputKind.ofText (input : Text) : InputKind :=
  let content := Text.dropEndWhile (fun c => c == '\n' || c == '\r') input
  if content.any (· == '\n') then .document false
  else
    match Span.inText content with
    | [] => if Text.isBlankText content then .document false else .query
    | [_] => .document true
    | _ => .document false

/-- Turns the directives of an input into links. -/
def linkInput (setup : Setup) (config : Config) (input : Text) : StateM World Linked :=
  match InputKind.ofText input with
  | .query => Query.resolve (Provider.linker config setup.random) input
  | .document inline =>
    let config := { config with inline := config.inline || inline }
    Document.link (Provider.linker config setup.random) input

/-- Tells the user the errors of a run, unless documents show them. -/
def tellErrors (config : Config) (r : Linked) : Run Unit :=
  if config.debug then pure () else r.errors.forM tell

/-- Turns the directives of standard input into links. Where the output is
wanted on the clipboard, the input is printed as it is. -/
def runInput (setup : Setup) (config : Config) : Run Unit := do
  let r ← inWorld (linkInput setup config setup.input)
  tellErrors config r
  if r.clipboard then
    copy setup (Text.trimEnd r.output)
    print setup.input
    tell "Copied to clipboard"
  else print r.output

/-! ## Files -/

/-- The path of the copy of a file. -/
def copyPath (path : Text) : Text := path ++ ".bak"

/-- Turns the directives of a file into links. -/
def runFile (setup : Setup) (options : Options) (config : Config) (path : Text) : Run Unit := do
  let input ← read path
  let r ← inWorld (Document.link (Provider.linker config setup.random) input)
  tellErrors config r
  if options.has .stdout then print r.output
  else if r.output = input then tell (path ++ ": nothing to rewrite")
  else
    if config.backup then write path (copyPath path) input
    write path path r.output
    tell ("Updated " ++ path ++ " (" ++ Text.ofNat r.links ++ " links)")

/-! ## Runs -/

/-- Every trigger with its description, one a line. -/
def listing (descriptions : List (Text × Text)) : Text :=
  let width := descriptions.foldl (fun w (trigger, _) => max w (Text.bytes trigger + 1)) 0
  descriptions.flatMap fun (trigger, description) =>
    padded width ('!' :: trigger) ++ "  " ++ description ++ "\n"

/-- A configuration with the switches that override it. -/
def overridden (options : Options) (config : Config) : Config := { config with
  backup := config.backup && !options.has .noBackup
  report := config.report || options.has .report }

/-- The configuration of a run. -/
def configuration (setup : Setup) (options : Options) : Run Config := do
  let w := (← get).world
  match Config.load setup.env w.files w.home options.config with
  | .ok config => return overridden options config
  | .error e => throw (.config e)

/-- Does what the options ask for. -/
def execute (setup : Setup) (options : Options) : Run Unit := do
  let config ← configuration setup options
  if options.has .listSearches then
    print (listing (Provider.linker config setup.random).resolver.registry.descriptions)
  else if options.files.isEmpty then runInput setup config
  else options.files.forM (runFile setup options config)

/-! ## What a run looks at -/

/-- Whether a run reads standard input. -/
def Options.readsInput (o : Options) : Bool := o.files.isEmpty && !o.has .listSearches

/-- The names in the home directory that a run may look at. -/
def homeNames : List Path :=
  [Config.defaultName] :: [Provider.Pinboard.cacheName]
    :: Config.Browser.all.flatMap Provider.Bookmarks.candidates

/-- The places that a run may look at. -/
def Options.places (home : Path) (o : Options) : List Path :=
  (o.files ++ o.files.map copyPath ++ o.config.toList).flatMap Path.visited
    ++ homeNames.map (home ++ ·)

/-! ## The program -/

/-- Runs the program in a world: the exit status, and what was done. -/
def run (setup : Setup) (arguments : List Text) (world : World) : Nat × Session :=
  match Options.ofArguments setup.env arguments with
  | .error .help => (0, { world, output := help setup.env })
  | .error .version => (0, { world, output := versionLine })
  | .error .unacceptable => (2, { world })
  | .ok options =>
    match (execute setup options).run.run { world } with
    | (.ok (), s) => (0, s)
    | (.error e, s) => (1, { s with messages := s.messages ++ ["Error: " ++ e.message] })

end InlineSearch.CommandLine
