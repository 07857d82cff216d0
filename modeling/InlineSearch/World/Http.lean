/-
InlineSearch.World.Http — requests over a network, and what comes back.

A network may answer the same request differently at different times, so
its answer depends on how many requests came before. A request without an
answer failed on the way.
-/
import InlineSearch.Text.Blank

namespace InlineSearch.Http

/-- What a request asks for. -/
inductive Method where
  /-- The page. -/
  | get
  /-- What is known about the page, without the page. -/
  | head
deriving DecidableEq, Repr

/-- A request. -/
structure Request where
  method : Method
  url : Text
  /-- Redirects are followed, and the last response counts. -/
  follow : Bool
deriving DecidableEq, Repr

/-- A response. -/
structure Response where
  status : Nat := 200
  /-- The place that the response points to. -/
  location : Option Text := none
  /-- The page, unless reading it fails. -/
  body : Option Text := some []
deriving DecidableEq, Repr

/-- The answers to requests, each with the number of requests before it. -/
abbrev Network := Nat → Request → Option Response

/-- The network that answers nothing. -/
def offline : Network := fun _ _ => none

/-- Whether a character may stand in a header: visible ASCII, a space or a
tab. -/
def isHeaderChar (c : Char) : Bool := (0x20 ≤ c.toNat && c.toNat < 0x7F) || c == '\t'

/-- The place that a response points to, if it is written in ASCII. -/
def Response.target? (r : Response) : Option Text :=
  (r.location.filter (·.all isHeaderChar)).map Text.trim

/-- Whether a status says that the request failed. -/
def isFailure (status : Nat) : Bool := 400 ≤ status

end InlineSearch.Http
