/-
InlineSearch.CommandLine.Help — what the program says about itself.
-/
import InlineSearch.CommandLine.Arguments
import InlineSearch.Text.ControlSequence

namespace InlineSearch.CommandLine

/-- What is printed for the version. -/
def versionLine : Text := "searchlink 0.4.0\n"

/-- What a switch does. -/
def Switch.description : Switch → Text
  | stdout => "Print results to stdout instead of overwriting files"
  | noBackup => "Do not keep a \x60.bak\x60 copy of rewritten files"
  | report => "Append a report of processed directives to each document"
  | verbose => "Enable verbose output"
  | parallel => "Resolve the searches of a document concurrently"
  | listSearches => "List available searches and exit"

/-- An option with what it does. -/
structure HelpEntry where
  letter : Option Char
  /-- The name and the value of the option. -/
  form : Text
  description : Text

/-- The entry of a switch. -/
def Switch.entry (s : Switch) : HelpEntry := ⟨s.letter?, s.name, s.description⟩

/-- The entry of the option for the configuration file. -/
def configEntry (env : Config.Environment) : HelpEntry where
  letter := some 'c'
  form := "config <CONFIG>"
  description := "Configuration file path (default: ~/.searchlink.toml) [env: " ++ configVariable
    ++ "=" ++ (env.value? configVariable).getD [] ++ "]"

/-- The entries of all options, in the order in which they are listed. -/
def helpEntries (env : Config.Environment) : List HelpEntry :=
  [Switch.stdout.entry, Switch.noBackup.entry, Switch.report.entry, configEntry env,
    Switch.verbose.entry, Switch.parallel.entry, Switch.listSearches.entry,
    ⟨some 'v', "version", "Print version"⟩, ⟨some 'h', "help", "Print help"⟩]

/-- The text with spaces behind it up to a width. -/
def padded (width : Nat) (t : Text) : Text := t.rightpad width ' '

/-- The left column of an entry. -/
def HelpEntry.left (e : HelpEntry) : Text :=
  (match e.letter with
    | some letter => ['-', letter, ',', ' ']
    | none => "    ") ++ "--" ++ e.form

/-- The lines of entries, with their descriptions in one column, every
line of a description. -/
def helpLines (entries : List HelpEntry) : List Text :=
  let column := entries.foldl (fun w e => max w e.left.length) 0 + 4
  entries.map fun e =>
    let description := Text.join ('\n' :: padded column []) (e.description.splitOn '\n')
    padded column ("  " ++ e.left) ++ description ++ "\n"

/-- What is printed for help. Controls in the value of a variable are left
out. -/
def help (env : Config.Environment) : Text :=
  Text.withoutControls ("SearchLink - turn search directives into Markdown links\n\n"
    ++ "Usage: searchlink [OPTIONS] [FILES]...\n\nArguments:\n"
    ++ "  [FILES]...  Markdown files to rewrite in place. Reads stdin when omitted\n\nOptions:\n"
    ++ (helpLines (helpEntries env)).flatten)

end InlineSearch.CommandLine
