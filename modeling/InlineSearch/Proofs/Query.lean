/-
InlineSearch.Proofs.Query — what a query for a plain search comes to.

A plain search has a trigger of letters and digits and a phrase to look
for. None of its characters is a sign of the query grammar, so the query
`!t w` is read as the trigger `t` and the terms `w` (`Query.read_plain`);
it carries out one search (`Query.outcome_plain`) and writes its answer as
a link (`Query.output_plain`).
-/
import InlineSearch.Document.Query
import InlineSearch.Proofs.Directive.Flag
import InlineSearch.Proofs.Scope
import InlineSearch.Proofs.Text.Chars
import InlineSearch.Proofs.Text.Phrase

namespace InlineSearch

/-! ## Texts without signs -/

theorem Directive.quotedPart_of_not_mem {t : Text} (h : '\x22' ∉ t) (before : Option Char) :
    quotedPart before t = none := by
  unfold quotedPart
  split
  · simp at h
  · rfl

theorem Query.parenthesised_of_not_mem {t : Text} (h : '(' ∉ t) (before : Option Char) :
    parenthesised before t = none := by
  unfold parenthesised
  split
  · simp at h
  · rfl

namespace Directive.Flag

/-- A text without signs of flags has no flags. -/
theorem inText_of_not_mem {t : Text} (hplus : '+' ∉ t) (hminus : '-' ∉ t) : inText t = [] := by
  rw [inText_eq_nil_iff]
  rintro pre form rest rfl -
  obtain ⟨sign, later, htext, hsign⟩ := form.exists_sign
  have hmem : sign ∈ pre ++ (form.text ++ rest) := by simp [htext]
  rcases hsign with rfl | rfl
  · exact hplus hmem
  · exact hminus hmem

theorem strip_of_not_mem {t : Text} (hplus : '+' ∉ t) (hminus : '-' ∉ t) : strip t = t :=
  strip_of_inText_eq_nil (inText_of_not_mem hplus hminus)

end Directive.Flag

/-! ## Plain searches -/

/-- A trigger and a phrase to search for. -/
structure PlainSearch where
  trigger : Text
  phrase : Text
  trigger_alphanumeric : Text.Alphanumeric trigger
  is_phrase : Text.Phrase phrase

namespace PlainSearch

variable (q : PlainSearch)

/-- The search as a query. -/
def query : Text := '!' :: (q.trigger ++ ' ' :: q.phrase)

/-- The search as a directive. -/
def span : Span := ⟨[], q.phrase, q.query⟩

/-- The search as a document, which has the directive and nothing else. -/
def document : Text := q.span.text

/-- The search that is asked for. -/
def job (config : Config) : Search.Job where
  trigger := some q.trigger
  terms := q.phrase
  linkText := q.phrase
  titleize := false
  config

/-- What is to be written for the search, if it found something. -/
def answer (config : Config) (f : Search.Found) : Text :=
  if f.form != .link then f.plainText
  else Reference.inlineLink f.linkText f.url (Document.Draft.writtenTitle config f)

theorem not_mem_query {c : Char} (hmark : c ≠ '!') (hspace : c ≠ ' ')
    (hsign : Text.isAlphanumeric c = false) : c ∉ q.query := by
  unfold query
  rw [List.mem_cons, List.mem_append, List.mem_cons]
  rintro (hc | hc | hc | hc)
  · exact hmark hc
  · exact q.trigger_alphanumeric.phrase.not_mem hspace hsign hc
  · exact hspace hc
  · exact q.is_phrase.not_mem hspace hsign hc

theorem getLast?_query : q.query.getLast? = q.phrase.getLast? := by
  have hsplit : q.query = ('!' :: (q.trigger ++ [' '])) ++ q.phrase := by simp [query]
  rw [hsplit, List.getLast?_append_of_ne_nil _ q.is_phrase.ne_nil]

theorem trim_query : Text.trim q.query = q.query := by
  refine Text.trim_eq_self rfl ?_
  rw [q.getLast?_query]
  exact q.is_phrase.last_any fun _ => Text.isBlank_of_alphanumeric

theorem flags_query : Directive.Flag.inText q.query = [] :=
  Directive.Flag.inText_of_not_mem
    (q.not_mem_query (by decide) (by decide) (Text.sign_not_alphanumeric (by decide)))
    (q.not_mem_query (by decide) (by decide) (Text.sign_not_alphanumeric (by decide)))

theorem strip_query : Directive.Flag.strip q.query = q.query :=
  Directive.Flag.strip_of_not_mem
    (q.not_mem_query (by decide) (by decide) (Text.sign_not_alphanumeric (by decide)))
    (q.not_mem_query (by decide) (by decide) (Text.sign_not_alphanumeric (by decide)))

/-- Behind the mark stands the trigger, up to a space. -/
theorem leadingWord_query : Text.leadingWord (q.trigger ++ ' ' :: q.phrase) = q.trigger :=
  Text.takeWhile_append_stop q.trigger_alphanumeric.all_not_blank rfl

theorem afterWord_query : Text.afterWord (q.trigger ++ ' ' :: q.phrase) = ' ' :: q.phrase :=
  Text.dropWhile_append_stop q.trigger_alphanumeric.all_not_blank rfl

theorem trimStart_phrase : Text.trimStart (' ' :: q.phrase) = q.phrase :=
  Text.dropWhile_append_stop (a := [' ']) rfl
    (q.is_phrase.head_any fun _ => Text.isBlank_of_alphanumeric)

end PlainSearch

/-! ## The search as a query -/

namespace Query

variable {σ : Type} (q : PlainSearch)

theorem triggered?_plain : triggered? q.query = some (q.trigger, q.phrase) := by
  have hfeed : q.phrase.all (· != '\n') = true := by
    refine List.all_eq_true.2 fun c hc => ?_
    have hne : c ≠ '\n' := by
      rintro rfl
      exact q.is_phrase.not_mem (by decide) (Text.sign_not_alphanumeric (by decide)) hc
    simpa using hne
  have hne : q.trigger.isEmpty = false := List.isEmpty_eq_false_iff.2 q.trigger_alphanumeric.1
  have hmark : Text.dropPrefix? "!" q.query = some (q.trigger ++ ' ' :: q.phrase) := rfl
  unfold triggered?
  rw [hmark]
  dsimp only [Option.bind_eq_bind, Option.bind_some]
  rw [q.leadingWord_query, q.afterWord_query, q.trimStart_phrase, hne, hfeed]
  rfl

/-- The query is read as its trigger and its phrase. -/
theorem read_plain : read q.query
    = { trigger := some q.trigger, terms := q.phrase, linkText := []
        defaultText := q.phrase } := by
  have hopen : '(' ∉ q.query :=
    q.not_mem_query (by decide) (by decide) (Text.sign_not_alphanumeric (by decide))
  have hquote : '\x22' ∉ q.query :=
    q.not_mem_query (by decide) (by decide) (Text.sign_not_alphanumeric (by decide))
  have hadded : Text.hits parenthesised q.query = [] := Text.hits_eq_nil
    fun before suf hsuf => parenthesised_of_not_mem (fun h => hopen (hsuf.subset h)) before
  have hkept : Text.remove parenthesised q.query = q.query := Text.substitute_eq_self
    fun before suf hsuf => parenthesised_of_not_mem (fun h => hopen (hsuf.subset h)) before
  have hquoted : Text.hits Directive.quotedPart q.query = [] := Text.hits_eq_nil
    fun before suf hsuf => Directive.quotedPart_of_not_mem (fun h => hquote (hsuf.subset h)) before
  have hplain : Text.substitute Directive.quotedPart id q.query = q.query :=
    Text.substitute_eq_self fun before suf hsuf =>
      Directive.quotedPart_of_not_mem (fun h => hquote (hsuf.subset h)) before
  unfold read
  simp only [hadded, hkept, hquoted, hplain, q.trim_query, triggered?_plain, q.is_phrase.trim,
    List.flatMap_nil, List.append_nil, List.head?_nil, Option.getD_none]

/-- No sign at its end asks for a way of writing. -/
theorem endsWithSign_plain {sign : Text} {c : Char} {p : Char → Bool}
    (hsign : sign.getLast? = some c) (hc : Text.isAlphanumeric c = false)
    (hp : ∀ c, Text.isAlphanumeric c = true → p c = false) :
    endsWithSign sign p q.query = false := by
  unfold endsWithSign
  rw [Text.dropEndWhile_eq_self (by rw [q.getLast?_query]; exact q.is_phrase.last_any hp)]
  refine Text.endsWith_eq_false hsign ?_
  rw [q.getLast?_query]
  exact q.is_phrase.last_ne hc

theorem isUrl_plain : isUrl q.query = false := by
  have hscheme : dropScheme q.query = q.query := rfl
  have hhost : q.query.takeWhile isHostChar = [] := by
    have hmark : isHostChar '!' = false := by decide +kernel
    simp [PlainSearch.query, hmark]
  unfold isUrl
  dsimp only
  rw [hscheme, hhost]
  rfl

theorem dropSigns_plain : dropSigns q.query = q.query := by
  have hsign : ∀ c, Text.isAlphanumeric c = true → isSign c = false := by
    intro c hc
    unfold isSign
    simp [Text.isBlank_of_alphanumeric hc,
      Text.ne_of_alphanumeric (d := ':') hc (Text.sign_not_alphanumeric (by decide)),
      Text.ne_of_alphanumeric (d := '!') hc (Text.sign_not_alphanumeric (by decide)),
      Text.ne_of_alphanumeric (d := '^') hc (Text.sign_not_alphanumeric (by decide)),
      Text.ne_of_alphanumeric (d := '~') hc (Text.sign_not_alphanumeric (by decide))]
  unfold dropSigns
  rw [Text.dropEndWhile_eq_self (by rw [q.getLast?_query]; exact q.is_phrase.last_any hsign),
    q.trim_query]

section

variable {l : Linker σ} (hknown : l.resolver.registry.knows q.trigger = true)
include hknown

/-- The query carries out the search. -/
theorem outcome_plain (hpage : l.config.emptyUsesPageTitle = false) :
    outcome l l.config q.query = l.resolver.resolve (q.job l.config) 1 := by
  have hfilter : (some q.trigger).filter (Document.isUnknown l.resolver.registry) = none := by
    simp [Option.filter, Document.isUnknown, hknown]
  unfold outcome search
  rw [isUrl_plain, read_plain]
  simp only [hfilter, hpage]
  rfl

/-- **What the query writes** if the search succeeds. -/
theorem output_plain (hpage : l.config.emptyUsesPageTitle = false)
    (hdebug : l.config.debug = false) {s : σ} {f : Search.Found}
    (hfound : (l.resolver.resolve (q.job l.config) 1 s).1 = .found f) :
    (resolve l q.query s).1.output = PlainSearch.answer l.config f := by
  have hconfig : ((Scope.openLine { config := l.config }).setFlags
      (Directive.Flag.inText q.query)).config = l.config := by
    rw [q.flags_query, Scope.setFlags_nil]
    rfl
  have hclipboard : asksForClipboard q.query = false :=
    endsWithSign_plain q (c := '^') rfl (Text.sign_not_alphanumeric (by decide)) fun c hc => by
      simp [Text.ne_of_alphanumeric (d := '!') hc (Text.sign_not_alphanumeric (by decide)),
        Text.ne_of_alphanumeric (d := '~') hc (Text.sign_not_alphanumeric (by decide)),
        Text.ne_of_alphanumeric (d := ':') hc (Text.sign_not_alphanumeric (by decide))]
  have hurl : asksForUrl q.query = false :=
    endsWithSign_plain q (c := '!') rfl (Text.sign_not_alphanumeric (by decide)) fun c hc => by
      simp [Text.ne_of_alphanumeric (d := '^') hc (Text.sign_not_alphanumeric (by decide)),
        Text.ne_of_alphanumeric (d := '~') hc (Text.sign_not_alphanumeric (by decide)),
        Text.ne_of_alphanumeric (d := ':') hc (Text.sign_not_alphanumeric (by decide))]
  have hdefinition : asksForDefinition q.query = false :=
    endsWithSign_plain q (c := ':') rfl (Text.sign_not_alphanumeric (by decide)) fun c hc => by
      simp [Text.ne_of_alphanumeric (d := '!') hc (Text.sign_not_alphanumeric (by decide)),
        Text.ne_of_alphanumeric (d := '^') hc (Text.sign_not_alphanumeric (by decide)),
        Text.ne_of_alphanumeric (d := '~') hc (Text.sign_not_alphanumeric (by decide)),
        Text.isBlank_of_alphanumeric hc]
  obtain ⟨s', hasked⟩ : ∃ s', outcome l l.config q.query s = (.found f, s') := by
    rw [outcome_plain q hknown hpage]
    exact ⟨_, Prod.ext hfound rfl⟩
  have hrun : (resolve l q.query s).1.output = written l.config q.query f := by
    unfold resolve
    simp only [q.trim_query, hconfig, q.strip_query, dropSigns_plain, hdebug, Bool.false_and,
      Bool.false_eq_true, ↓reduceIte]
    simp only [bind, StateT.bind, hasked]
    rfl
  rw [hrun]
  unfold written PlainSearch.answer
  simp only [hclipboard, hurl, hdefinition, Bool.or_self, Bool.false_eq_true, ↓reduceIte]

end

end Query

end InlineSearch
