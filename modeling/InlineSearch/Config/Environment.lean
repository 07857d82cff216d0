/-
InlineSearch.Config.Environment — references to environment variables
inside configuration values.

`$NAME` and `${NAME}` stand for the value of a variable, and
`${NAME:-text}` for the value or, when there is none, for `text`. Two
dollar signs write one. A dollar sign before anything else, and an
opening brace that is never closed, stand for themselves. A variable that
is not set and has no text in its place is an error.

The environment is a list of entries, each a name, an equals sign and a
value. Values may hold further equals signs, so an entry can be read in
several ways: any of its parts that an equals sign follows is taken for
the name when it is asked for.
-/
import InlineSearch.Text.Alphabetic
import InlineSearch.Text.Numeral

namespace InlineSearch.Config

/-- The environment variables that are set. -/
structure Environment where
  entries : List Text := []
deriving DecidableEq, Repr

namespace Environment

/-- The environment with the given values of variables. -/
def ofList (values : List (Text × Text)) : Environment where
  entries := values.map fun (name, value) => name ++ '=' :: value

/-- The value of a variable: what follows its name and an equals sign in
the first entry that begins with these. -/
def value? (env : Environment) (name : Text) : Option Text :=
  if name.isEmpty then none else env.entries.findSome? (Text.dropPrefix? (name ++ "="))

/-- Whether a character may stand in the name of a variable. -/
def isNameChar (c : Char) : Bool := Text.isAlphabetic c || Text.isNumeral c || c == '_'

/-- The name inside braces and, if there is one, the text in its place. -/
def splitDefault (inside : Text) : Text × Option Text :=
  match Text.cut ":-" inside with
  | some (name, text) => if name.isEmpty then (inside, none) else (name, some text)
  | none => (inside, none)

/-- The value with its references replaced, or the name of a variable
that is not set. -/
def expand (env : Environment) : Text → Except Text Text
  | '$' :: '\x7b' :: body =>
    match _h : Text.cut "\x7d" body with
    | some (inside, after) => do
      let (name, text?) := splitDefault inside
      match (env.value? name).or text? with
      | some value => return value ++ (← expand env after)
      | none => throw name
    | none => return "$\x7b" ++ (← expand env body)
  | '$' :: '$' :: rest => return '$' :: (← expand env rest)
  | '$' :: c :: rest =>
    if isNameChar c then
      let name := c :: rest.takeWhile isNameChar
      match env.value? name with
      | some value => return value ++ (← expand env (rest.dropWhile isNameChar))
      | none => throw name
    else return '$' :: (← expand env (c :: rest))
  | c :: rest => return c :: (← expand env rest)
  | [] => return []
termination_by t => t.length
decreasing_by
  all_goals simp only [List.length_cons]
  · have := Text.length_of_cut _h; omega
  · omega
  · omega
  · have := (List.dropWhile_sublist (p := isNameChar) (l := rest)).length_le; omega
  · omega
  · omega

end Environment

end InlineSearch.Config
