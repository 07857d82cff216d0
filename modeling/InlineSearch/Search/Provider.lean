/-
InlineSearch.Search.Provider — what the library asks of the outside.

A provider answers searches, a validator says whether a link resolves, a
title source knows the titles of pages. All three may act on a state of
the caller's choosing (`σ`): a world with a network and files, a log of
what was asked, or nothing at all.
-/
import InlineSearch.Config.Basic
import InlineSearch.Search.Kind
import InlineSearch.Search.Problem

namespace InlineSearch.Search

/-- A search as a provider sees it. -/
structure Request where
  /-- The trigger as it was written. -/
  trigger : Text
  kind : Kind
  terms : Text
  /-- The link text of the directive, possibly empty. -/
  linkText : Text
  config : Config

/-- How what was found is written. -/
inductive Form where
  /-- As a link. -/
  | link
  /-- The title is markup to stand in place of the directive. -/
  | embed
  /-- The URL is text to stand in place of the directive. -/
  | correction
deriving DecidableEq, Repr

/-- What a provider found. -/
structure Hit where
  url : Text
  title : Option Text := none
  /-- Takes the place of the directive's link text. -/
  linkText : Option Text := none
  form : Form := .link
  notes : List Note := []
deriving DecidableEq, Repr

namespace Hit

/-- A page with a title. -/
def titled (url title : Text) : Hit := { url, title := some title }

/-- A page whose title is not known. -/
def untitled (url : Text) : Hit := { url }

/-- Markup to stand in place of the directive. -/
def markup (url title : Text) : Hit := { url, title := some title, form := .embed }

/-- Text to stand in place of the directive. -/
def correction (t : Text) : Hit := { url := t, title := some t, form := .correction }

end Hit

/-- Why a provider has no answer. -/
inductive ProviderError where
  /-- The terms are not acceptable; what to say about them. -/
  | invalidInput (message : Text)
  /-- Something the search needs is missing. -/
  | unavailable (what : Text)
  /-- The search failed on the way; what is known about it. -/
  | backend (message : Option Text)
deriving DecidableEq, Repr

/-- Answers searches; `none` where there is nothing to find. -/
abbrev Provider (σ : Type) := Request → StateM σ (Except ProviderError (Option Hit))

/-- The answer to whether a link resolves. -/
inductive Validation where
  | valid
  | invalid
  /-- The server refuses to say; the link is kept. -/
  | blocked (reason : Text)
  /-- The check itself failed; the link is kept. -/
  | unknown (reason : Text)
deriving DecidableEq, Repr

/-- Says whether a link resolves. -/
abbrev Validator (σ : Type) := Text → StateM σ Validation

/-- Knows the titles of pages. -/
abbrev TitleSource (σ : Type) := Text → StateM σ (Option Text)

end InlineSearch.Search
