/-
InlineSearch.Directive.Basic — what a span means.

A span whose info is an ordinary link target is a link. Any other span is
a directive: a search, with an optional trigger, search terms and
modifiers, or an inline footnote. `read` decides, on the link text and on
an info from which inline flags have already been removed.
-/
import InlineSearch.Text.Blank

namespace InlineSearch

/-- How the result of a search is to be written. -/
structure Modifiers where
  /-- Write the URL alone, and mark the run for the clipboard. -/
  clipboard : Bool := false
  /-- Write the URL alone. -/
  urlOnly : Bool := false
  /-- Write a reference definition in place of the line. -/
  refTitle : Bool := false
  /-- Take the page title as link text. -/
  titleize : Bool := false
deriving DecidableEq, Repr

/-- A search directive. -/
structure Directive where
  linkText : Text
  /-- The trigger without its mark, or nothing for the default search. -/
  trigger : Option Text
  terms : Text
  modifiers : Modifiers
deriving DecidableEq, Repr

namespace Directive

/-- What a span means. -/
inductive Meaning where
  | search (directive : Directive)
  /-- An inline footnote. -/
  | footnote (linkText note : Text)
  /-- An ordinary link. -/
  | link
  /-- Neither link text nor terms. -/
  | empty
  /-- A trigger mark without a trigger. -/
  | missingTrigger
deriving DecidableEq, Repr

/-! ## Link targets -/

/-- Whether a text is empty, or blanks and then a quoted title on one
line. -/
def isTitlePart (t : Text) : Bool :=
  t.isEmpty || t.head?.any Text.isBlank &&
    match Text.trimStart t with
    | '\x22' :: title => title.getLast? == some '\x22' && title.dropLast.all (· != '\n')
    | _ => false

/-- Whether a text is blank-free up to a title part, and `target` holds of
what comes before that part. -/
def isTarget (target : Text → Bool) (t : Text) : Bool :=
  target (Text.leadingWord t) && isTitlePart (Text.afterWord t)

/-- Whether a text has more than `p`, and begins with it. -/
def isLongerThan (p t : Text) : Bool := (Text.dropPrefix? p t).any (!·.isEmpty)

/-- Whether a dot stands in a text, neither first nor last. -/
def hasInnerDot (t : Text) : Bool := (t.drop 1).dropLast.contains '.'

/-- Whether an info is an ordinary link target, with or without a title: a
fragment, an absolute URL or path, a path that ends in a slash, or a name
with a dot inside that does not begin with a trigger mark. -/
def isLinkTarget (info : Text) : Bool :=
  (info.head? == some '#' && isTitlePart (info.dropWhile (· != '\n')))
    || isTarget (fun t =>
        isLongerThan "http://" t || isLongerThan "https://" t || isLongerThan "/" t
          || t.length ≥ 2 && Text.endsWith "/" t) info
    || (info.head?.any (· != '!') && isTarget hasInnerDot info.tail)

/-! ## Reading a span -/

/-- A quoted part of a line. -/
def quotedPart : Text.Pattern Text
  | _, '\x22' :: t => do
    let (inner, _) ← Text.cutInLine "\x22" t
    return (inner.length + 2, inner)
  | _, _ => none

/-- The text without a trigger mark and the word behind it at its start. -/
def dropTriggerWord (t : Text) : Text :=
  match t with
  | '!' :: c :: rest | '^' :: c :: rest => if Text.isBlank c then t else Text.afterWord rest
  | _ => t

/-- Whether a character is a quotation mark that may enclose terms. -/
def isQuote (c : Char) : Bool := c == '\x22' || c == '\x27'

/-- The text without one quotation mark at its start and one at its end. -/
def dropOuterQuotes (t : Text) : Text :=
  let t := if t.head?.any isQuote then t.tail else t
  if t.getLast?.any isQuote then t.dropLast else t

/-- The suffixes that modify how a result is written, longest first. -/
def modifierSuffixes : List Text := ["!!^!!", "!!!!", "!!^", "^!!", "!!", "^"]

/-- The text without the longest modifier suffix. -/
def dropModifiers (t : Text) : Text := (modifierSuffixes.findSome? (Text.dropSuffix? · t)).getD t

/-- Trigger and terms of an info. A lone trigger mark is none of both. -/
def splitTrigger? (info : Text) : Option (Option Text × Text) :=
  match info with
  | '!' :: rest =>
    match Text.leadingWord rest with
    | [] => none
    | token => some (some token, Text.trim (Text.afterWord rest))
  | _ => some (none, info)

/-- The search that a trigger and raw terms ask for. Terms that are
missing are the link text, and terms behind a single `+` are added to it.
The link text `%` beside terms stands for the page title. -/
def search (linkText : Text) (trigger : Option Text) (raw : Text) (refTitle : Bool) : Directive :=
  let raw := dropOuterQuotes raw
  let terms := Text.trim (dropModifiers raw)
  let titleize := linkText == "%" && !terms.isEmpty
  let linkText := if titleize then [] else linkText
  let terms := if terms.isEmpty then linkText else terms
  let terms :=
    match terms with
    | '+' :: rest =>
      if Text.startsWith "+" rest then terms else linkText ++ " " ++ Text.trimStart rest
    | _ => terms
  { linkText, trigger, terms
    modifiers := {
      clipboard := Text.endsWith "^" raw || Text.endsWith "^!!" raw
      urlOnly := Text.endsWith "!!" raw || Text.endsWith "!!^" raw
      refTitle, titleize } }

/-- The link text and info to go by: where the link text is blank, the
first quoted part of the info takes its place. -/
def takeQuoted (linkText info : Text) : Text × Text :=
  match Text.isBlankText linkText, Text.hits quotedPart info with
  | true, inner :: _ => (inner, Text.substitute quotedPart id info)
  | _, _ => (linkText, info)

/-- The note of an inline footnote. -/
def note? (info : Text) : Option Text :=
  (Text.dropPrefix? "^" info).map Text.trim |>.filter (!·.isEmpty)

/-- What a span with the given link text and info means. On a line of its
own (`wholeLine`) a search whose info ends in a colon asks for a reference
definition. -/
def read (linkText info : Text) (wholeLine : Bool) : Meaning :=
  let (linkText, info) := takeQuoted linkText (Text.trim info)
  match note? info with
  | some note => .footnote linkText note
  | none =>
    let refTitle := wholeLine && Text.endsWith ":" info
    let info := if refTitle then Text.trimEnd info.dropLast else info
    if Text.isBlankText linkText && Text.isBlankText (dropTriggerWord info) then .empty
    else if isLinkTarget info then .link
    else
      match splitTrigger? (if info.isEmpty then linkText else info) with
      | none => .missingTrigger
      | some (trigger, raw) => .search (search linkText trigger raw refTitle)

end Directive

end InlineSearch
