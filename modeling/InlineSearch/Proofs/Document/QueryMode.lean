/-
InlineSearch.Proofs.Document.QueryMode — a query and a document with one
directive come to the same output.

The query `!t w` and the document `[w](!t w)` ask for one search, for a
trigger `t` and a phrase `w`, and are read by different code. What the
query writes is `Query.output_plain`; this module does the same for the
document (`Directive.read_plain`, `plan_plain`, `output_plain`).

The two differ in one thing. The flags in the value of a trigger hold for
the line of a directive, and a query does not look for them. So query and
document agree where these flags leave the configuration as it is
(`query_agrees`); in general the query has to be resolved in the
configuration with the flags (`output_plain_eq`).
-/
import InlineSearch.Proofs.Comments
import InlineSearch.Proofs.Directive.SoleTrigger
import InlineSearch.Proofs.Document.Calls
import InlineSearch.Proofs.Document.Errors
import InlineSearch.Proofs.Document.Settings
import InlineSearch.Proofs.Query

namespace InlineSearch

/-! ## The search as a document -/

namespace PlainSearch

variable (q : PlainSearch)

theorem not_mem_document {c : Char} (hmark : c ≠ '!') (hspace : c ≠ ' ')
    (hsign : Text.isAlphanumeric c = false) (hbrackets : c ∉ "[]()".toList) : c ∉ q.document := by
  have hphrase := q.is_phrase.not_mem hspace hsign
  have hquery := q.not_mem_query hmark hspace hsign
  simp only [String.reduceToList, List.mem_cons, List.not_mem_nil, or_false, not_or] at hbrackets
  simp [document, Span.text, span, hbrackets, hphrase, hquery]

theorem lines_document : Text.lines q.document = [q.document] :=
  Text.lines_eq_singleton
    (q.not_mem_document (by decide) (by decide)
      (Text.sign_not_alphanumeric (by decide)) (by decide))

theorem first?_document : Span.first? [] q.document = some (q.span, []) := by
  have hphrase : ']' ∉ q.phrase :=
    q.is_phrase.not_mem (by decide) (Text.sign_not_alphanumeric (by decide))
  have hquery : ')' ∉ q.query :=
    q.not_mem_query (by decide) (by decide) (Text.sign_not_alphanumeric (by decide))
  have hdocument : q.document
      = "[".toList ++ (q.phrase ++ ("](".toList ++ (q.query ++ (")".toList ++ [])))) := by
    simp [document, Span.text, span]
  have hopen : ∀ t : Text, Text.cut "[" ("[".toList ++ t) = some ([], t) :=
    Text.cut_self_append (by decide)
  have hlink : Text.cut "](" (q.phrase ++ ("](".toList ++ (q.query ++ (")".toList ++ []))))
      = some (q.phrase, q.query ++ (")".toList ++ [])) := Text.cut_of_not_mem hphrase _
  have hinfo : Text.cut ")" (q.query ++ (")".toList ++ [])) = some (q.query, []) :=
    Text.cut_of_not_mem hquery []
  rw [hdocument]
  unfold Span.first?
  simp only [hopen, hlink, hinfo, Option.bind_eq_bind, Option.bind_some]
  rfl

theorem occursIn_document : Span.occursIn q.document = true := by
  unfold Span.occursIn
  rw [q.lines_document, List.any_cons, q.first?_document]
  rfl

theorem inLine_document : Span.inLine [] q.document = [q.span] := by
  have hrest : Span.inLine (q.span.before ++ q.span.text) [] = [] := by
    rw [Span.inLine_eq_nil_iff]
    rfl
  rw [Span.inLine, q.first?_document]
  exact congrArg (q.span :: ·) hrest

/-- There is no comment to remove. -/
theorem source_document : Document.Run.source q.document = q.document := by
  have hopen : '<' ∉ q.document :=
    q.not_mem_document (by decide) (by decide) (Text.sign_not_alphanumeric (by decide)) (by decide)
  have hnone : ∀ opening : Text, opening.head? = some '<' → ¬ opening <:+: q.document :=
    fun opening hhead hin => hopen (hin.subset (List.mem_of_mem_head? hhead))
  unfold Document.Run.source withoutReports
  rw [withoutComment_eq_self (hnone _ rfl), withoutComment_eq_self (hnone _ rfl)]

end PlainSearch

namespace Directive

variable (q : PlainSearch)

/-- A phrase is searched for as it is. -/
theorem search_plain (trigger : Option Text) : search q.phrase trigger q.phrase false
    = { linkText := q.phrase, trigger, terms := q.phrase, modifiers := {} } := by
  have hquote : ∀ c, Text.isAlphanumeric c = true → isQuote c = false := by
    intro c hc
    simp [isQuote,
      Text.ne_of_alphanumeric (d := '\x22') hc (Text.sign_not_alphanumeric (by decide)),
      Text.ne_of_alphanumeric (d := '\x27') hc (Text.sign_not_alphanumeric (by decide))]
  have houter : dropOuterQuotes q.phrase = q.phrase := by
    simp [dropOuterQuotes, q.is_phrase.head_any hquote, q.is_phrase.last_any hquote]
  have hmark : q.phrase.getLast? ≠ some '!' :=
    q.is_phrase.last_ne (Text.sign_not_alphanumeric (by decide))
  have hcaret : q.phrase.getLast? ≠ some '^' :=
    q.is_phrase.last_ne (Text.sign_not_alphanumeric (by decide))
  have hnone : ∀ sign ∈ modifierSuffixes, Text.dropSuffix? sign q.phrase = none := by
    have hsigns : ∀ sign ∈ modifierSuffixes,
        sign.getLast? = some '!' ∨ sign.getLast? = some '^' := by decide
    intro sign hsign
    rcases hsigns sign hsign with hlast | hlast
    · exact Text.dropSuffix?_eq_none hlast hmark
    · exact Text.dropSuffix?_eq_none hlast hcaret
  have hmodifiers : dropModifiers q.phrase = q.phrase := by
    rw [dropModifiers, List.findSome?_eq_none_iff.2 hnone]
    rfl
  have hpercent : (q.phrase == "%".toList) = false := by
    rw [beq_eq_false_iff_ne]
    intro heq
    exact absurd (heq ▸ q.is_phrase.head) (by decide +kernel)
  have hplus : ∀ rest, q.phrase ≠ '+' :: rest := by
    intro rest heq
    have hhead := q.is_phrase.head
    have hsign : Text.isAlphanumeric '+' = false := Text.sign_not_alphanumeric (by decide)
    rw [heq, List.head?_cons, Option.any_some, hsign] at hhead
    simp at hhead
  have hempty : q.phrase.isEmpty = false := List.isEmpty_eq_false_iff.2 q.is_phrase.ne_nil
  have hends : ∀ sign : Text, sign.getLast? = some '!' ∨ sign.getLast? = some '^' →
      Text.endsWith sign q.phrase = false := by
    rintro sign (hlast | hlast)
    · exact Text.endsWith_eq_false hlast hmark
    · exact Text.endsWith_eq_false hlast hcaret
  -- The terms do not begin with a sign, so nothing is added to them.
  unfold search
  simp only [houter, hmodifiers, q.is_phrase.trim, hpercent, hempty, Bool.false_and,
    Bool.false_eq_true, ↓reduceIte, hends "^" (.inr rfl), hends "^!!" (.inl rfl),
    hends "!!" (.inl rfl), hends "!!^" (.inr rfl), Bool.or_self]

theorem isLinkTarget_plain : isLinkTarget q.query = false := by
  refine isLinkTarget_marked ?_
  rw [q.leadingWord_query]
  exact endsWith_trigger q.trigger_alphanumeric (c := '/') rfl
    (Text.sign_not_alphanumeric (by decide))

theorem splitTrigger?_plain : splitTrigger? q.query = some (some q.trigger, q.phrase) := by
  have hterms : Text.trim (' ' :: q.phrase) = q.phrase := by
    rw [Text.trim, q.trimStart_phrase]
    exact Text.dropEndWhile_eq_self (q.is_phrase.last_any fun _ => Text.isBlank_of_alphanumeric)
  have hne := q.trigger_alphanumeric.1
  simp only [splitTrigger?, PlainSearch.query, q.leadingWord_query, q.afterWord_query, hterms]

/-- The directive is read as a search for its phrase. -/
theorem read_plain : read q.phrase q.query true
    = .search { linkText := q.phrase, trigger := some q.trigger, terms := q.phrase
                modifiers := {} } := by
  have hblank := q.is_phrase.not_blank
  have hquoted : takeQuoted q.phrase q.query = (q.phrase, q.query) := by
    simp [takeQuoted, hblank]
  have hnote : note? q.query = none := rfl
  have hcolon : Text.endsWith ":" q.query = false := by
    refine Text.endsWith_eq_false (c := ':') rfl ?_
    rw [q.getLast?_query]
    exact q.is_phrase.last_ne (Text.sign_not_alphanumeric (by decide))
  have hempty : q.query.isEmpty = false := rfl
  unfold read
  simp only [q.trim_query, hquoted, hnote, hcolon, hblank, isLinkTarget_plain, hempty,
    splitTrigger?_plain, Bool.and_false, Bool.false_and, Bool.false_eq_true, ↓reduceIte]
  rw [search_plain]

end Directive

namespace Document

variable {σ : Type} (q : PlainSearch)

/-- The flags in the value of the trigger. -/
def triggerFlags (r : Search.Registry σ) : List Directive.Flag :=
  match r.resolve? q.trigger with
  | some (.shortcut value) => Directive.Flag.inText value
  | _ => []

/-- The directive as it is planned in a configuration. -/
def plainSpan (config : Config) : PlannedSpan where
  line := 0
  span := q.span
  config
  action := .search (q.job config) {}

theorem planSpan_plain {r : Search.Registry σ} (hknown : r.knows q.trigger = true)
    {scope : Scope}
    (hpage : (scope.setFlags (triggerFlags q r)).config.emptyUsesPageTitle = false) :
    (planSpan r 0 q.document scope q.span).1
      = plainSpan q (scope.setFlags (triggerFlags q r)).config := by
  have hcode : q.span.inCode = false := rfl
  have hwhole : (Text.trim q.document == q.span.text) = true := by
    rw [beq_iff_eq]
    refine Text.trim_eq_self rfl ?_
    have hend : q.document = ("[".toList ++ q.phrase ++ "](".toList ++ q.query) ++ ")".toList := rfl
    rw [hend, List.getLast?_append_of_ne_nil _ (by simp)]
    rfl
  have hinfo : q.span.info = q.query := rfl
  have hlink : q.span.linkText = q.phrase := rfl
  have hflags : shortcutFlags r (.search { linkText := q.phrase, trigger := some q.trigger
                                           terms := q.phrase, modifiers := {} })
      = triggerFlags q r := rfl
  have hfilter : (some q.trigger).filter (isUnknown r) = none := by
    simp [Option.filter, isUnknown, hknown]
  unfold planSpan
  rw [hcode]
  simp only [Bool.false_eq_true, ↓reduceIte, hinfo, hlink, hwhole, q.strip_query,
    Directive.read_plain, q.flags_query, Scope.setFlags_nil, hflags, action, searchAction,
    hfilter, hpage, Bool.or_self]
  rfl

/-- A document of one directive is planned with the flags of its trigger. -/
theorem plan_plain {r : Search.Registry σ} (hknown : r.knows q.trigger = true) {config : Config}
    (hpage : (config.withFlags (triggerFlags q r)).emptyUsesPageTitle = false) :
    plan r config [q.document]
      = ([plainSpan q (config.withFlags (triggerFlags q r))], config) := by
  have hkinds : CodeBlock.classifyLines [q.document] = [.text] := by
    have hplain : CodeBlock.Plain q.document := rfl
    have hindent : CodeBlock.isIndented q.document = false := rfl
    unfold CodeBlock.classifyLines
    rw [CodeBlock.classifyFrom_cons, CodeBlock.classify_none_of_plain hplain, hindent]
    rfl
  have hoption : Directive.assignment? q.document = none := rfl
  have hconfig := Scope.config_setFlags_openLine { config } (triggerFlags q r)
  have hopened : ((Scope.openLine { config }).setFlags (triggerFlags q r)).config.emptyUsesPageTitle
      = false := by
    rw [hconfig]
    exact hpage
  have hspan := planSpan_plain q hknown hopened
  have hscope := scope_planLine r 0 q.document { config }
  rw [hoption] at hscope
  have hline : planLine r 0 q.document { config }
      = ([plainSpan q (config.withFlags (triggerFlags q r))], { config }) := by
    refine Prod.ext ?_ hscope
    unfold planLine
    rw [hoption, q.inLine_document]
    simp only [planSpans, hspan, hconfig]
  unfold plan
  rw [hkinds, List.zip_cons_cons, List.zip_nil_right]
  simp only [planFrom, LineKind.isCode, hline]
  rfl

section

variable {l : Linker σ}

/-- The one search of a document is carried out as its first. -/
theorem resolveJobs_singleton (horder : OnceEach l.completion) (job : Search.Job) (s : σ) :
    (resolveJobs l [job] s).1 = [(0, (l.resolver.resolve job 1 s).1)] := by
  have hranks : l.completion 1 = [0] := List.perm_singleton.1 (horder 1)
  have hjobs : resolveJobs l [job]
      = do return (← (l.completion 1).mapM (resolveRank l.resolver [job])).reduceOption := rfl
  have hrank : resolveRank l.resolver [job] 0
      = (do return some (0, ← l.resolver.resolve job 1)) := rfl
  have hmap := mapM_cons_apply (resolveRank l.resolver [job]) 0 [] s
  rw [hjobs, hranks]
  change (([0].mapM (resolveRank l.resolver [job])) s).1.reduceOption = _
  rw [hmap, hrank]
  generalize l.resolver.resolve job 1 = resolved
  rfl

variable (hknown : l.resolver.registry.knows q.trigger = true)
  {flagged : Config} (hflagged : flagged = l.config.withFlags (triggerFlags q l.resolver.registry))
  (hpage : flagged.emptyUsesPageTitle = false)
include hknown hflagged hpage

/-- A document of one directive has one span. -/
theorem planned_plain : Run.planned l q.document = ([plainSpan q flagged], l.config) := by
  subst hflagged
  unfold Run.planned Run.lines
  rw [q.source_document, q.lines_document]
  exact plan_plain q hknown hpage

/-- The document has one step, which takes in the outcome of its search. -/
theorem spans_plain (horder : OnceEach l.completion) {s : σ} {outcome : Search.Outcome}
    (hfound : (l.resolver.resolve (q.job flagged) 1 s).1 = outcome) :
    Run.spans l q.document s = [(plainSpan q flagged, some outcome)] := by
  have hjobs : [plainSpan q flagged].filterMap PlannedSpan.job? = [q.job flagged] := rfl
  unfold Run.spans
  rw [planned_plain q hknown hflagged hpage, hjobs, resolveJobs_singleton horder, hfound]
  rfl

omit hknown hflagged hpage in
/-- Where links are written in place, the step replaces the directive by the
answer and adds nothing to the footer. -/
theorem after_plain (start : Draft) (hlink : flagged.inline = true) (f : Search.Found) :
    (start.add (plainSpan q flagged) (some (.found f))).edits
        = start.edits ++ [(0, ⟨q.span.start, q.span.stop, PlainSearch.answer flagged f⟩)]
      ∧ (start.add (plainSpan q flagged) (some (.found f))).deleted = start.deleted
      ∧ (start.add (plainSpan q flagged) (some (.found f))).footer.isEmpty
        = start.footer.isEmpty := by
  obtain ⟨t, ht⟩ : ∃ t : Step, t = ⟨start, plainSpan q flagged, some (.found f)⟩ := ⟨_, rfl⟩
  have hstyle : t.found? = some (if f.form != .link then .plain else .inline, f) := by
    simp [ht, Step.found?, plainSpan, Style.of, hlink]
  have hfootnote : t.footnote? = none := by rw [ht]; rfl
  have hnote : t.note? = none := by rw [ht]; rfl
  have hconfig : t.planned.config = flagged := by rw [ht]; rfl
  have hwritten : t.replacement? = some (PlainSearch.answer flagged f) ∧ t.definition? = none
      ∧ t.dropsLine = false := by
    unfold Step.replacement? Step.definition? Step.label? Step.dropsLine PlainSearch.answer
    rw [hfootnote, hstyle, hconfig]
    cases f.form != .link with
    | true => exact ⟨rfl, rfl, rfl⟩
    | false => exact ⟨rfl, rfl, rfl⟩
  obtain ⟨hreplacement, hdefinition, hdrops⟩ := hwritten
  have hedits := t.edits_after
  have hdeleted := t.deleted_after
  have hfooter : t.after.footer.isEmpty = t.before.footer.isEmpty := by
    rw [Reference.Footer.isEmpty, t.references_after, t.footnotes_after, hdefinition, hnote]
    simp [Reference.Footer.isEmpty]
  rw [Step.edit?, hreplacement] at hedits
  rw [hdrops] at hdeleted
  subst ht
  exact ⟨hedits, hdeleted, hfooter⟩

/-- **What the document is rewritten to** if the search succeeds, in the
configuration with the flags of its trigger. -/
theorem output_plain (horder : OnceEach l.completion) (hdebug : flagged.debug = false)
    (hinline : l.config.inline = true) (hlink : flagged.inline = true) {s : σ} {f : Search.Found}
    (hfound : (l.resolver.resolve (q.job flagged) 1 s).1 = .found f) :
    (link l q.document s).1.output = PlainSearch.answer flagged f := by
  have hplanned := planned_plain q hknown hflagged hpage
  obtain ⟨draft, hdraft⟩ : ∃ draft, Run.draft l q.document s = draft := ⟨_, rfl⟩
  have hadd : draft = (Run.start l q.document).add (plainSpan q flagged) (some (.found f)) := by
    rw [← hdraft, Run.draft, spans_plain q hknown hflagged hpage horder hfound]
    rfl
  obtain ⟨hedits, hdeleted, hfooter⟩ := after_plain q (Run.start l q.document) hlink f
  rw [← hadd] at hedits hdeleted hfooter
  have hshown : draft.shown = [] := by
    rw [hadd]
    refine (Step.shown_after ⟨_, plainSpan q flagged, some (.found f)⟩).trans ?_
    have hconfig : (plainSpan q flagged).config.debug = false := hdebug
    rw [hconfig]
    rfl
  -- The directive is the whole line, and its answer takes its place.
  have hspliced : Spliced [] q.document [(q.span, some (PlainSearch.answer flagged f))]
      (PlainSearch.answer flagged f) := by
    have happly : Spliced [] ([] ++ q.span.text ++ [])
        [(q.span, some (PlainSearch.answer flagged f))]
        ([] ++ PlainSearch.answer flagged f ++ []) :=
      Spliced.span rfl (Spliced.rest ([] ++ q.span.text) [])
    simpa [PlainSearch.document] using happly
  have hlines : draft.editedFrom 0 [q.document] = [PlainSearch.answer flagged f] := by
    have happly := hspliced.apply_eq
    have hstart : (Run.start l q.document).edits = [] := rfl
    have hkept : (Run.start l q.document).deleted = [] := rfl
    rw [Draft.editedFrom, hdeleted, hedits, hstart, hkept]
    exact congrArg ([·]) happly
  have hreport : draft.reportBlock l.config
      (decide ((Text.endedLines q.document).length ≤ 1)) 1 = [] := by
    have hsingle : decide ((Text.endedLines q.document).length ≤ 1) = true := by
      rw [Text.endedLines, q.lines_document]
      simp
    rw [hsingle, Draft.reportBlock, hinline]
    simp
  have hempty : draft.footer.isEmpty = true := hfooter
  rw [link_eq l q.document s q.occursIn_document, hplanned, hdraft,
    Draft.output_of_quiet (.inl hshown), Draft.plainOutput, Run.lines, q.source_document,
    q.lines_document, hlines, Text.join_singleton, Draft.withFooter, hempty]
  exact (congrArg (PlainSearch.answer flagged f ++ ·) hreport).trans (List.append_nil _)

/-- **The document comes to what the query comes to** in the configuration with
the flags of its trigger. -/
theorem output_plain_eq (horder : OnceEach l.completion) (hdebug : flagged.debug = false)
    (hinline : l.config.inline = true) (hlink : flagged.inline = true) {s : σ} {f : Search.Found}
    (hfound : (l.resolver.resolve (q.job flagged) 1 s).1 = .found f) :
    (link l q.document s).1.output
      = (Query.resolve { l with config := flagged } q.query s).1.output := by
  rw [output_plain q hknown hflagged hpage horder hdebug hinline hlink hfound,
    Query.output_plain q (l := { l with config := flagged }) hknown hpage hdebug hfound]

end

/-- **Query and document agree** on a search that succeeds, where the flags in
the value of its trigger leave the configuration as it is. -/
theorem query_agrees {l : Linker σ} (horder : OnceEach l.completion)
    (hknown : l.resolver.registry.knows q.trigger = true) (hdebug : l.config.debug = false)
    (hpage : l.config.emptyUsesPageTitle = false) (hinline : l.config.inline = true)
    (hflags : l.config.withFlags (triggerFlags q l.resolver.registry) = l.config) {s : σ}
    {f : Search.Found} (hfound : (l.resolver.resolve (q.job l.config) 1 s).1 = .found f) :
    (link l q.document s).1.output = (Query.resolve l q.query s).1.output := by
  rw [output_plain q hknown hflags.symm hpage horder hdebug hinline hinline hfound,
    Query.output_plain q hknown hpage hdebug hfound]

/-- A shortcut without flags in its value. -/
theorem query_agrees_shortcut :
    let l := Linker.ofConfig { debug := false, inline := true
                               customSiteSearches := [("ex", "https://x.org/$term")] }
      pageLinker.resolver
    (link l "[open source](!ex open source)" ()).1.output
      = (Query.resolve l "!ex open source" ()).1.output :=
  query_agrees ⟨"ex", Text.unwords ["open", "source"], by decide +kernel,
      Text.phrase_unwords (by decide) (by decide +kernel)⟩
    (fun n => .refl _) (by decide +kernel) rfl rfl rfl (by decide +kernel) rfl

/-- The value of the shortcut asks for titles. The document is given one, and
the query is not. -/
theorem query_disagrees_on_shortcut_flags :
    ¬ ∀ (l : Linker Unit) (q : PlainSearch) (f : Search.Found), OnceEach l.completion →
      l.resolver.registry.knows q.trigger = true → l.config.debug = false →
      l.config.report = false → l.config.emptyUsesPageTitle = false → l.config.inline = true →
      (l.resolver.resolve (q.job l.config) 1 ()).1 = .found f →
        (link l q.document ()).1.output = (Query.resolve l q.query ()).1.output := by
  intro h
  exact absurd (h (Linker.ofConfig { debug := false, inline := true
                                     customSiteSearches := [("ex", "https://x.org/$term ++t")] }
      pageLinker.resolver)
    ⟨"ex", Text.unwords ["rust"], by decide +kernel,
      Text.phrase_unwords (by decide) (by decide +kernel)⟩
    _ (fun n => .refl _) (by decide +kernel) rfl rfl rfl rfl rfl) (by decide +kernel)

end Document

end InlineSearch
