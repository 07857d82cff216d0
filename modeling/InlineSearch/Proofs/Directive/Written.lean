/-
InlineSearch.Proofs.Directive.Written — a search that is written as a
directive is read back.

`SearchForm` is a search as an author thinks of it: a link text, a trigger,
terms and three choices. `SearchForm.line` writes it as a line of its own.
None of the signs of the directive grammar comes from the texts of the form,
if it is `Writable`; so the line has one span and no flags, and it is read as
the search again (`read_written`).

The signs for the choices stand behind the terms, in one order. Which of them
are there is seen from the end of the terms, so what the terms themselves may
end with is limited (`search_marked`).
-/
import InlineSearch.Proofs.Directive.Decomposition
import InlineSearch.Proofs.Directive.Flag

namespace InlineSearch

/-! ## Searches in writing -/

/-- A search with what is chosen for it. -/
structure SearchForm where
  linkText : Text
  trigger : Text
  terms : Text
  urlOnly : Bool := false
  clipboard : Bool := false
  refTitle : Bool := false

namespace SearchForm

variable (f : SearchForm)

/-- The signs behind the terms that choose how a URL is written. -/
def marks : Text := (if f.urlOnly then ['!', '!'] else []) ++ (if f.clipboard then ['^'] else [])

/-- The trigger and the terms with their signs. -/
def query : Text := '!' :: (f.trigger ++ ' ' :: (f.terms ++ f.marks))

/-- The info of the search. -/
def info : Text := f.query ++ (if f.refTitle then [':'] else [])

/-- The search as a line. -/
def line : Text := "[" ++ f.linkText ++ "](" ++ f.info ++ ")"

/-- The line as a span. -/
def span : Span := ⟨[], f.linkText, f.info⟩

/-- What is asked for. -/
def directive : Directive where
  linkText := f.linkText
  trigger := some f.trigger
  terms := f.terms
  modifiers := { clipboard := f.clipboard, urlOnly := f.urlOnly, refTitle := f.refTitle }

/-- No part of a search is taken for a sign of the grammar. -/
structure Writable : Prop where
  linkText_line : '\n' ∉ f.linkText
  linkText_not_blank : Text.isBlankText f.linkText = false
  linkText_brackets : '[' ∉ f.linkText ∧ ']' ∉ f.linkText
  /-- This one stands for the title of the page. -/
  linkText_not_title : f.linkText ≠ "%"
  trigger_ne_nil : f.trigger ≠ []
  trigger_word : ∀ c ∈ f.trigger, Text.isBlank c = false
  trigger_open : ')' ∉ f.trigger
  terms_line : '\n' ∉ f.terms
  terms_ne_nil : f.terms ≠ []
  terms_trimmed : Text.trim f.terms = f.terms
  terms_open : ')' ∉ f.terms
  /-- Behind a plus sign they would be added to the link text, and a quotation
  mark around them is dropped. -/
  terms_first : ∀ c ∈ f.terms.head?, c ∉ ("+\x22'" : Text)
  terms_last : ∀ c ∈ f.terms.getLast?, c ∉ ("\x22'^:" : Text)
  terms_end : ¬ ("!!" : Text) <:+ f.terms
  no_flags : Directive.Flag.inText f.info = []

end SearchForm

/-! ## Reading the terms -/

namespace SearchForm.Writable

variable {f : SearchForm} (h : f.Writable)
include h

theorem terms_head_blank : f.terms.head?.any Text.isBlank = false :=
  h.terms_trimmed ▸ Text.head?_trim_any f.terms

theorem terms_last_blank : f.terms.getLast?.any Text.isBlank = false :=
  h.terms_trimmed ▸ Text.getLast?_trim_any f.terms

/-- The terms begin with none of the signs that they may not begin with. -/
theorem terms_first_any {p : Char → Bool} (hp : ∀ c, p c = true → c ∈ ("+\x22'" : Text)) :
    f.terms.head?.any p = false := by
  rw [Option.any_eq_false]
  exact fun c hc => Bool.eq_false_iff.2 fun hpc => h.terms_first c hc (hp c hpc)

theorem terms_last_any {p : Char → Bool} (hp : ∀ c, p c = true → c ∈ ("\x22'^:" : Text)) :
    f.terms.getLast?.any p = false := by
  rw [Option.any_eq_false]
  exact fun c hc => Bool.eq_false_iff.2 fun hpc => h.terms_last c hc (hp c hpc)

/-- The terms do not end with the sign for the clipboard. -/
theorem terms_caret (sign : Text) : Text.dropPrefix? ('^' :: sign) f.terms.reverse = none := by
  rw [Text.dropPrefix?_eq_none_iff]
  intro hprefix
  obtain ⟨rest, hrest⟩ := hprefix
  have hlast : f.terms.getLast? = some '^' := by
    rw [← List.head?_reverse, ← hrest]
    rfl
  exact absurd (h.terms_last '^' hlast) (by decide)

/-- Nor with the sign for a bare URL. -/
theorem terms_bangs (sign : Text) :
    Text.dropPrefix? ('!' :: '!' :: sign) f.terms.reverse = none := by
  rw [Text.dropPrefix?_eq_none_iff]
  rintro ⟨rest, hrest⟩
  refine h.terms_end (List.reverse_prefix.1 ?_)
  exact ⟨sign ++ rest, hrest⟩

/-- The signs behind the terms are told from the terms. -/
theorem dropModifiers_marked : Directive.dropModifiers (f.terms ++ f.marks) = f.terms := by
  have hcaret := h.terms_caret
  have hbangs := h.terms_bangs
  unfold Directive.dropModifiers Directive.modifierSuffixes marks
  cases f.urlOnly <;> cases f.clipboard <;>
    simp [Text.dropSuffix?, Text.dropPrefix?, hcaret, hbangs]

theorem clipboard_marked : (Text.endsWith "^" (f.terms ++ f.marks)
    || Text.endsWith "^!!" (f.terms ++ f.marks)) = f.clipboard := by
  have hcaret := h.terms_caret
  have hbangs := h.terms_bangs
  rw [Text.endsWith_eq_isSome, Text.endsWith_eq_isSome]
  unfold marks
  cases f.urlOnly <;> cases f.clipboard <;>
    simp [Text.dropSuffix?, Text.dropPrefix?, hcaret, hbangs]

theorem urlOnly_marked : (Text.endsWith "!!" (f.terms ++ f.marks)
    || Text.endsWith "!!^" (f.terms ++ f.marks)) = f.urlOnly := by
  have hcaret := h.terms_caret
  have hbangs := h.terms_bangs
  rw [Text.endsWith_eq_isSome, Text.endsWith_eq_isSome]
  unfold marks
  cases f.urlOnly <;> cases f.clipboard <;>
    simp [Text.dropSuffix?, Text.dropPrefix?, hcaret, hbangs]

omit h in
/-- What ends the query is a sign for a choice, or ends the terms. -/
theorem last_marked {p : Char → Bool} (hterms : f.terms.getLast?.any p = false)
    (hbang : p '!' = false) (hcaret : p '^' = false) :
    (f.terms ++ f.marks).getLast?.any p = false := by
  unfold marks
  cases f.urlOnly <;> cases f.clipboard <;> simp [hterms, hbang, hcaret]

theorem head?_marked : (f.terms ++ f.marks).head? = f.terms.head? :=
  List.head?_append_of_ne_nil _ h.terms_ne_nil

theorem dropOuterQuotes_marked :
    Directive.dropOuterQuotes (f.terms ++ f.marks) = f.terms ++ f.marks := by
  have hquote : ∀ c, Directive.isQuote c = true → c = '\x22' ∨ c = '\x27' := by
    intro c hc
    simpa [Directive.isQuote] using hc
  have hfirst : f.terms.head?.any Directive.isQuote = false :=
    h.terms_first_any fun c hc => by rcases hquote c hc with rfl | rfl <;> decide
  have hlast : f.terms.getLast?.any Directive.isQuote = false :=
    h.terms_last_any fun c hc => by rcases hquote c hc with rfl | rfl <;> decide
  have hend := last_marked hlast (by decide) (by decide)
  simp only [Directive.dropOuterQuotes, h.head?_marked, hfirst, hend, Bool.false_eq_true,
    ↓reduceIte]

/-- The terms with their signs are read as a search with these choices. -/
theorem search_marked :
    Directive.search f.linkText (some f.trigger) (f.terms ++ f.marks) f.refTitle = f.directive := by
  have hempty : f.terms.isEmpty = false := List.isEmpty_eq_false_iff.2 h.terms_ne_nil
  have hpercent : (f.linkText == ("%" : Text)) = false :=
    beq_eq_false_iff_ne.2 h.linkText_not_title
  have hplus : ∀ rest, f.terms ≠ '+' :: rest := by
    intro rest heq
    have hfirst := h.terms_first '+' (by rw [heq]; rfl)
    exact hfirst (by decide)
  unfold Directive.search
  simp only [h.dropOuterQuotes_marked, h.dropModifiers_marked, h.terms_trimmed, hpercent, hempty,
    h.clipboard_marked, h.urlOnly_marked, Bool.false_and, Bool.false_eq_true, ↓reduceIte]
  rfl

/-! ## Reading the info -/

theorem marked_ne_nil : f.terms ++ f.marks ≠ [] :=
  List.append_ne_nil_of_left_ne_nil h.terms_ne_nil _

theorem last_query {p : Char → Bool} (hterms : f.terms.getLast?.any p = false)
    (hbang : p '!' = false) (hcaret : p '^' = false) : f.query.getLast?.any p = false := by
  have hquery : f.query = '!' :: (f.trigger ++ [' ']) ++ (f.terms ++ f.marks) := by simp [query]
  rw [hquery, List.getLast?_append_of_ne_nil _ h.marked_ne_nil]
  exact last_marked hterms hbang hcaret

theorem last_query_blank : f.query.getLast?.any Text.isBlank = false :=
  h.last_query h.terms_last_blank (by decide) (by decide)

theorem trim_info : Text.trim f.info = f.info := by
  refine Text.trim_eq_self rfl ?_
  have hcolon : Text.isBlank ':' = false := by decide
  unfold info
  cases f.refTitle with
  | true => simp [hcolon]
  | false => simpa using h.last_query_blank

/-- A colon behind the query is the sign for a reference title. -/
theorem endsWith_colon : Text.endsWith ":" f.info = f.refTitle := by
  unfold info
  cases f.refTitle with
  | true => exact List.isSuffixOf_iff_suffix.2 (List.suffix_append ..)
  | false =>
    have hterms : f.terms.getLast?.any (· == ':') = false :=
      h.terms_last_any fun c hc => beq_iff_eq.1 hc ▸ by decide
    have hquery := h.last_query hterms (by decide) (by decide)
    refine Text.endsWith_eq_false (c := ':') rfl fun hlast => ?_
    have hsame : f.query ++ (if (false : Bool) then [':'] else []) = f.query := by simp
    rw [hsame] at hlast
    simp [hlast] at hquery

/-- Without the colon the query is left. -/
theorem withoutColon :
    (if f.refTitle then Text.trimEnd f.info.dropLast else f.info) = f.query := by
  have htrim : Text.trimEnd f.query = f.query :=
    Text.dropEndWhile_eq_self h.last_query_blank
  unfold info
  cases f.refTitle with
  | true => simpa using htrim
  | false => simp

theorem leadingWord_query :
    Text.leadingWord (f.trigger ++ ' ' :: (f.terms ++ f.marks)) = f.trigger :=
  Text.takeWhile_append_stop (List.all_eq_true.2 fun c hc => by simp [h.trigger_word c hc]) rfl

theorem afterWord_query : Text.afterWord (f.trigger ++ ' ' :: (f.terms ++ f.marks))
    = ' ' :: (f.terms ++ f.marks) :=
  Text.dropWhile_append_stop (List.all_eq_true.2 fun c hc => by simp [h.trigger_word c hc]) rfl

theorem trimStart_marked : Text.trimStart (' ' :: (f.terms ++ f.marks)) = f.terms ++ f.marks :=
  Text.dropWhile_append_stop (a := [' ']) rfl (h.head?_marked ▸ h.terms_head_blank)

theorem splitTrigger?_query :
    Directive.splitTrigger? f.query = some (some f.trigger, f.terms ++ f.marks) := by
  have hterms : Text.trim (' ' :: (f.terms ++ f.marks)) = f.terms ++ f.marks := by
    rw [Text.trim, h.trimStart_marked]
    exact Text.dropEndWhile_eq_self (last_marked h.terms_last_blank (by decide) (by decide))
  have hne := h.trigger_ne_nil
  simp only [Directive.splitTrigger?, query, h.leadingWord_query, h.afterWord_query, hterms]

/-- Terms that begin with no quotation mark are no title behind a target. -/
theorem isTitlePart_marked : Directive.isTitlePart (' ' :: (f.terms ++ f.marks)) = false := by
  have hquote : ∀ title, f.terms ++ f.marks ≠ '\x22' :: title := by
    intro title heq
    have hhead : f.terms.head? = some '\x22' := by rw [← h.head?_marked, heq]; rfl
    exact absurd (h.terms_first _ hhead) (by decide)
  unfold Directive.isTitlePart
  rw [h.trimStart_marked]
  split
  · next title heq => exact absurd heq (hquote title)
  · rfl

theorem isLinkTarget_query : Directive.isLinkTarget f.query = false := by
  have hafter : Text.afterWord f.query = ' ' :: (f.terms ++ f.marks) := h.afterWord_query
  have hfragment : (f.query.head? == some '#') = false := rfl
  have hmark : f.query.head?.any (· != '!') = false := rfl
  unfold Directive.isLinkTarget Directive.isTarget
  simp only [hfragment, hmark, hafter, h.isTitlePart_marked, Bool.and_false, Bool.false_and,
    Bool.or_self]

/-- The info is read as the search. -/
theorem read_info : Directive.read f.linkText f.info true = .search f.directive := by
  have hquoted : Directive.takeQuoted f.linkText f.info = (f.linkText, f.info) := by
    simp [Directive.takeQuoted, h.linkText_not_blank]
  have hnote : Directive.note? f.info = none := rfl
  have hempty : f.query.isEmpty = false := rfl
  unfold Directive.read
  simp only [h.trim_info, hquoted, hnote, h.endsWith_colon, Bool.true_and, h.withoutColon,
    h.linkText_not_blank, Bool.false_and, h.isLinkTarget_query, hempty, h.splitTrigger?_query,
    Bool.false_eq_true, ↓reduceIte]
  rw [h.search_marked]

/-! ## Finding the line -/

theorem close_not_mem_info : ')' ∉ f.info := by
  have hmarks : ')' ∉ f.marks := by
    unfold marks
    cases f.urlOnly <;> cases f.clipboard <;> decide
  have hcolon : ')' ∉ (if f.refTitle then [':'] else []) := by cases f.refTitle <;> decide
  simp [info, query, h.trigger_open, h.terms_open, hmarks, hcolon]

theorem feed_not_mem_line : '\n' ∉ f.line := by
  have hmarks : '\n' ∉ f.marks := by
    unfold marks
    cases f.urlOnly <;> cases f.clipboard <;> decide
  have hcolon : '\n' ∉ (if f.refTitle then [':'] else []) := by cases f.refTitle <;> decide
  have htrigger : '\n' ∉ f.trigger := fun hmem => absurd (h.trigger_word _ hmem) (by decide)
  simp [line, info, query, h.linkText_line, h.terms_line, htrigger, hmarks, hcolon]

theorem inText_line : Span.inText f.line = [f.span] := by
  have hturn : Text.cut "](" (f.linkText ++ ("](" ++ (f.info ++ (")" : Text))))
      = some (f.linkText, f.info ++ (")" : Text)) :=
    Text.cut_of_not_mem h.linkText_brackets.2 _
  have hclose : Text.cut ")" (f.info ++ (")" : Text)) = some (f.info, []) :=
    Text.cut_of_not_mem h.close_not_mem_info []
  have hopen : f.line = [] ++ '[' :: (f.linkText ++ ("](" ++ (f.info ++ (")" : Text)))) := by
    simp [line]
  have hnext : Span.Next [] f.line f.span [] :=
    .mk hopen (fun _ _ _ _ => Nat.zero_le _) (Text.cut_eq_some_iff.1 hturn)
      (Text.cut_eq_some_iff.1 hclose)
  rw [Span.inText_of_line h.feed_not_mem_line,
    Span.inLine_of_first? (Span.first?_eq_some_iff.2 hnext),
    Span.inLine_of_none (Span.first?_of_not_mem (by simp) _)]

end SearchForm.Writable

/-- **A search that is written as a directive is read back**: its line is one
span without flags, and on a line of its own this is the search with the choices
that were made for it. -/
theorem SearchForm.read_written (f : SearchForm) (h : f.Writable) :
    Span.inText f.line = [f.span] ∧ f.span.start = 0 ∧ f.span.stop = Text.bytes f.line
      ∧ Text.trim f.line = f.span.text
      ∧ Directive.Flag.strip f.span.info = f.span.info
      ∧ Directive.read f.span.linkText f.span.info true = .search f.directive := by
  have htext : f.span.text = f.line := rfl
  have hlast : f.line.getLast?.any Text.isBlank = false := by
    have hclose : f.line = "[" ++ f.linkText ++ "](" ++ f.info ++ [')'] := rfl
    rw [hclose, List.getLast?_concat]
    decide
  have hstop : f.span.stop = Text.bytes f.line := by rw [Span.stop, htext]; exact Nat.zero_add _
  exact ⟨h.inText_line, rfl, hstop, Text.trim_eq_self rfl hlast,
    Directive.Flag.strip_of_inText_eq_nil h.no_flags, h.read_info⟩

/-- With every choice, behind terms that end with an exclamation mark. -/
theorem SearchForm.read_written_marked :
    let f : SearchForm := { linkText := "Docs (new)", trigger := "docs/", terms := "it's all!"
                            urlOnly := true, clipboard := true, refTitle := true }
    f.line = ("[Docs (new)](!docs/ it's all!!!^:)" : Text) ∧ Span.inText f.line = [f.span]
      ∧ Directive.read f.span.linkText f.span.info true = .search f.directive := by
  intro f
  have hword : (f.trigger.all fun c => !Text.isBlank c) = true := by decide
  have h : f.Writable :=
    { linkText_line := by decide
      linkText_not_blank := by decide
      linkText_brackets := by decide
      linkText_not_title := by decide
      trigger_ne_nil := by decide
      trigger_word := by simpa using hword
      trigger_open := by decide
      terms_line := by decide
      terms_ne_nil := by decide
      terms_trimmed := by decide
      terms_open := by decide
      terms_first := by simp [f]
      terms_last := by simp [f]
      terms_end := by decide
      no_flags := by decide +kernel }
  obtain ⟨hspans, -, -, -, -, hread⟩ := f.read_written h
  exact ⟨by decide, hspans, hread⟩

end InlineSearch
