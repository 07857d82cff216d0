/-
InlineSearch.Document.Query — a query without directive syntax, turned
into a link.

A query is a line such as `!wiki open source`, `@someone` or a URL. Text
in quotes is the link text, text in parentheses is added to the terms, and
the signs at its end ask for the clipboard (`^`), the URL alone (`!!`) or
a reference definition (`:`).
-/
import InlineSearch.Document.Linking

namespace InlineSearch.Query

open Search (Found Outcome)

/-! ## Signs at the end -/

/-- Whether `sign` stands at the end of a text, with nothing but the
characters of a class behind it. -/
def endsWithSign (sign : Text) (p : Char → Bool) (t : Text) : Bool :=
  Text.endsWith sign (Text.dropEndWhile p t)

/-- Whether a query asks for the clipboard. -/
def asksForClipboard (t : Text) : Bool :=
  endsWithSign "^" (fun c => c == '!' || c == '~' || c == ':') t

/-- Whether a query asks for the URL alone. -/
def asksForUrl (t : Text) : Bool :=
  endsWithSign "!!" (fun c => c == '^' || c == '~' || c == ':') t

/-- Whether a query asks for a reference definition. -/
def asksForDefinition (t : Text) : Bool :=
  endsWithSign ":" (fun c => c == '!' || c == '^' || c == '~' || Text.isBlank c) t

/-- Whether a character belongs to the signs at the end of a query. -/
def isSign (c : Char) : Bool :=
  c == ':' || c == '!' || c == '^' || c == '~' || Text.isBlank c

/-- A query without the signs at its end. -/
def dropSigns (t : Text) : Text := Text.trim (Text.dropEndWhile isSign t)

/-! ## URLs as queries -/

/-- Whether a character may stand in a host name, dots included. -/
def isHostChar (c : Char) : Bool := Text.isWord c || c == '-' || c == '.'

/-- Whether a text is a host name of two labels or more. -/
def isHost (t : Text) : Bool :=
  let labels := t.splitOn '.'
  2 ≤ labels.length && labels.all (!·.isEmpty)

/-- The text without a colon and a number at its start; nothing if a colon
is there without a number. -/
def dropColonNumber? (t : Text) : Option Text :=
  match t with
  | ':' :: rest =>
    if rest.head?.any Text.isDecimal then some (rest.dropWhile Text.isDecimal) else none
  | _ => some t

/-- Whether a text is empty or a path without blanks. -/
def isPath (t : Text) : Bool := t.isEmpty || t.head? == some '/' && t.all (!Text.isBlank ·)

/-- The text without the scheme of a web page at its start, in any case. -/
def dropScheme (t : Text) : Text :=
  ((Text.dropFolded? "https://" t).or (Text.dropFolded? "http://" t)).getD t

/-- Whether a query is a URL, with or without a scheme. -/
def isUrl (t : Text) : Bool :=
  let t := dropScheme t
  isHost (t.takeWhile isHostChar) && (dropColonNumber? (t.dropWhile isHostChar)).any isPath

/-- The URL that a query writes, with its scheme. -/
def completeUrl (t : Text) : Text :=
  if Text.startsWith "http" (Text.lowerAscii t) then t else "https://" ++ t

/-- The host of a URL without a leading `www.`. -/
def shownHost (url : Text) : Text :=
  let rest := ((Text.cut "://" url).map Prod.snd).getD url
  let host := rest.takeWhile fun c => c != '/' && c != '?' && c != '#'
  (Text.dropPrefix? "www." host).getD host

/-- The outcome of a query that is a URL: a link titled with its host. -/
def urlOutcome (t : Text) : Outcome :=
  let url := completeUrl t
  .found { url, title := shownHost url, linkText := shownHost url }

/-! ## Searches as queries -/

/-- A part of a line in parentheses. -/
def parenthesised : Text.Pattern Text
  | _, '(' :: t => do
    let (inner, _) ← Text.cutInLine ")" t
    return (inner.length + 2, inner)
  | _, _ => none

/-- What a query searches. -/
structure Parts where
  trigger : Option Text
  terms : Text
  /-- The text in quotes; empty where there is none. -/
  linkText : Text
  /-- The link text to take where none is given. -/
  defaultText : Text
deriving DecidableEq, Repr

/-- The trigger and the terms behind it, on one line. -/
def triggered? (t : Text) : Option (Text × Text) := do
  let rest ← Text.dropPrefix? "!" t
  let trigger := Text.leadingWord rest
  let terms := Text.afterWord rest
  guard (!trigger.isEmpty && terms.head?.any Text.isBlank)
  let terms := Text.trimStart terms
  guard (terms.all (· != '\n'))
  return (trigger, terms)

/-- The letter of a network and a handle of it. A handle with a second
`@` belongs to the network `m`, and any other without a letter to `t`. -/
def handle? (t : Text) : Option (Char × Text) := do
  let letter? := t.head?.filter fun c => (Search.Network.ofLetter? c).isSome
  let handle ← Text.dropPrefix? "@" (if letter?.isSome then t.tail else t)
  guard (!handle.isEmpty && handle.all (!Text.isBlank ·))
  return (letter?.getD (if handle.any (· == '@') then 'm' else 't'), handle)

/-- Reads a query that is no URL. -/
def read (t : Text) : Parts :=
  let added := (Text.hits parenthesised t).flatMap fun inner => ' ' :: Text.trim inner
  let t := Text.trim (Text.remove parenthesised t)
  let linkText := ((Text.hits Directive.quotedPart t).head?).getD []
  let t := Text.trim (Text.substitute Directive.quotedPart id t)
  match triggered? t with
  | some (trigger, terms) =>
    let terms := Text.trim terms
    { trigger := some trigger, terms := terms ++ added, linkText, defaultText := terms }
  | none =>
    match handle? t with
    | some (letter, handle) =>
      { trigger := some ['@', letter], terms := '@' :: handle, linkText
        defaultText := '@' :: handle }
    | none => { trigger := none, terms := t ++ added, linkText, defaultText := t }

section

variable {σ : Type}

/-- The outcome of a query that is no URL. -/
def search (l : Linker σ) (config : Config) (t : Text) : StateM σ Outcome := do
  let parts := read t
  let r := l.resolver.registry
  match parts.trigger.filter (Document.isUnknown r) with
  | some trigger => return .failure (.invalidTrigger (r.suggestions trigger)) [] parts.linkText
  | none =>
    let linkText :=
      if parts.linkText.isEmpty && !config.emptyUsesPageTitle then parts.defaultText
      else parts.linkText
    l.resolver.resolve {
      trigger := parts.trigger, terms := parts.terms, linkText
      titleize := config.emptyUsesPageTitle, config } 1

/-- The outcome of a query without its signs. -/
def outcome (l : Linker σ) (config : Config) (t : Text) : StateM σ Outcome :=
  if t.isEmpty then pure (.failure .emptyInput [] [])
  else if isUrl t then pure (urlOutcome t)
  else search l config t

/-! ## Writing the outcome -/

/-- What a query becomes when something was found. `signed` is the query
with its signs. -/
def written (config : Config) (signed : Text) (f : Found) : Text :=
  let title := Document.Draft.writtenTitle config f
  if f.form != .link then f.plainText
  else if asksForClipboard signed || asksForUrl signed then f.url
  else if asksForDefinition signed then Reference.definitionLine f.linkText f.url title
  else Reference.inlineLink f.linkText f.url title

/-- The errors of an outcome. -/
def errors (query : Text) : Outcome → ErrorLog
  | .failed f => ErrorLog.push f.problem.label ⟨none, quoting f.message query⟩ []
  | .found f =>
    f.notes.foldl (fun log note => log.push note.problem.label ⟨none, note.message⟩) []

/-- Resolves a query. Its inline flags hold for it alone. -/
def resolve (l : Linker σ) (query : Text) : StateM σ Linked := do
  let query := Text.trim query
  let opened : Scope := Scope.openLine { config := l.config }
  let config := (opened.setFlags (Directive.Flag.inText query)).config
  let signed := Text.trim (Directive.Flag.strip query)
  let outcome ← outcome l config (dropSigns signed)
  let log := errors query outcome
  let output :=
    match outcome with
    | .found f => written config signed f
    | .failed _ => query
  let clipboard := asksForClipboard signed
  return {
    output := if config.debug && !clipboard then output ++ log.trailer else output
    clipboard
    links := 1
    errors := log.lines }

end

end InlineSearch.Query
