/-
InlineSearch.Proofs.Search.Expansion — the user's own triggers are expanded
once.

Such a trigger may have the name of a built-in one, even of the two that
all expansions lead to, and its value may name another. Neither matters: a
job comes to what its expansion comes to where there are no such triggers
at all (`pursue_expandedJob`). So a template always ends as a plain
replacement, and a site is always searched by the provider of the web
search. `shortcut_expanded_once` states this with what is asked on the way.
-/
import InlineSearch.Proofs.Search.Exchange

namespace InlineSearch.Search

/-! ## Built-in searches -/

namespace Resolver

variable {σ : Type} (r : Resolver σ) (job : Job)

/-- The terms of a plain replacement are not changed. -/
theorem target_urlTrigger (terms linkText : Text) : ∃ provider,
    r.target job urlTrigger terms linkText = (.replace, provider, terms, linkText) :=
  ⟨_, rfl⟩

theorem target_webTrigger (terms linkText : Text) :
    r.target job webTrigger terms linkText = (.web, r.registry.webProvider, terms, linkText) := by
  have htarget : r.target job webTrigger terms linkText
      = (.web, r.registry.webProvider.or r.registry.webProvider, terms, linkText) := rfl
  rw [htarget, Option.or_self]

/-! ## One expansion -/

/-- The resolver of a user without own triggers. -/
def withoutShortcuts : Resolver σ := { r with registry := { r.registry with shortcuts := [] } }

/-- The job that is left where a trigger of the user's own is expanded. -/
def expandedJob : Job :=
  { job with
    trigger := some (r.expanded job).1
    terms := (r.expanded job).2.1
    linkText := (r.expanded job).2.2 }

theorem pursue_expandedJob : r.pursue job = r.withoutShortcuts.pursue (r.expandedJob job) := by
  have hexpanded : r.withoutShortcuts.expanded (r.expandedJob job) = r.expanded job :=
    r.withoutShortcuts.expanded_of_none (r.expandedJob job) rfl
  unfold pursue
  rw [hexpanded]
  rfl

end Resolver

/-! ## Templates and sites -/

/-- The value of one of the user's own triggers without the flags in it. -/
def plainValue (value : Text) : Text := Text.trim (Directive.Flag.strip value)

/-- What restricts a web search to a site. -/
def siteTerms (site terms : Text) : Text := "site:" ++ site ++ " " ++ terms

theorem expandShortcut_template {value : Text} (h : isUrlTemplate (plainValue value) = true)
    (terms : Text) :
    expandShortcut value terms = (urlTrigger, fillTemplate (plainValue value) terms) := if_pos h

theorem expandShortcut_site {value : Text} (h : isUrlTemplate (plainValue value) = false)
    (terms : Text) :
    expandShortcut value terms = (webTrigger, siteTerms (plainValue value) terms) :=
  if_neg (Bool.eq_false_iff.1 h)

/-- The link text where one of the user's own triggers is expanded: what was
written stays. -/
def Job.writtenText (job : Job) : Text :=
  if !job.titleize && job.linkText.isEmpty then job.terms else job.linkText

/-- A job became a link to a URL without any search, unless the validator
rejected the link. -/
def Replaces (url linkText : Text) (outcome : Outcome) (record : Record) : Prop :=
  record.searches = [] ∧ outcome =
    if (url, .invalid) ∈ record.validations then
      .failure .notFound ("Link not valid: " ++ url) linkText
    else .found (.ofUrl url linkText)

section

variable {σ : Type} {r : Resolver σ} {job : Job}

theorem Resolver.Checked.searches {check : Bool} {url : Text} {validation : Validation}
    {record : Record} (h : r.Checked check url validation record) : record.searches = [] := by
  rcases h.cases with rfl | ⟨rfl, -⟩
  · rfl
  · rfl

theorem Resolver.Checked.replaces {check : Bool} {url : Text} {validation : Validation}
    {record : Record} (h : r.Checked check url validation record) (linkText : Text) :
    Replaces url linkText (.ofUrl url linkText validation) record := by
  refine ⟨h.searches, ?_⟩
  have hrejected : (url, .invalid) ∈ record.validations ↔ validation = .invalid := by
    rcases h.cases with rfl | ⟨rfl, rfl⟩
    · simp [Record.validations, Exchange.validation?, eq_comm]
    · simp [Record.validations]
  simp only [Outcome.ofUrl, hrejected]

/-- One provider is asked at most. -/
theorem Course.length_searches_le {outcome : Outcome} {record : Record}
    (h : Course r job outcome record) : record.searches.length ≤ 1 := by
  cases h with
  | unasked problem message linkText => exact Nat.zero_le 1
  | unanswered slot request answer problem message linkText => exact Nat.le_refl 1
  | replaced linkText hchecked => simp [hchecked.searches]
  | @settled slot request hit kind linkText title validation titles record htitles hchecked =>
    have hsearches : Record.searches (.search slot request (.ok (some hit)) :: (titles ++ record))
        = [(slot, request)] ++ record.searches :=
      htitles.filterMap_cons (fun _ _ => rfl) ..
    simp [hsearches, hchecked.searches]

/-- Where a provider is asked first it is the only one. -/
theorem Course.searches_eq {outcome : Outcome} {slot : Option Text} {request : Request}
    {answer : Except ProviderError (Option Hit)} {later : Record}
    (h : Course r job outcome (.search slot request answer :: later)) :
    Record.searches (.search slot request answer :: later) = [(slot, request)] := by
  have hsearches : Record.searches (.search slot request answer :: later)
      = (slot, request) :: later.searches := rfl
  have hlength := h.length_searches_le
  rw [hsearches, List.length_cons] at hlength
  have hlater : later.searches = [] := List.eq_nil_of_length_eq_zero (by omega)
  rw [hsearches, hlater]

end

namespace Resolver

variable {σ : Type} (r : Resolver σ) (job : Job) {value : Text}

/-- What is pursued where the value of a trigger is a template. -/
theorem pursue_template (h : r.registry.shortcuts.get? (job.trigger.getD webTrigger) = some value)
    (htemplate : isUrlTemplate (plainValue value) = true) :
    r.pursue job = r.replace job (fillTemplate (plainValue value) job.terms) job.writtenText := by
  obtain ⟨provider, htarget⟩ := r.target_urlTrigger job
    (fillTemplate (plainValue value) job.terms) job.writtenText
  unfold pursue
  rw [r.expanded_of_shortcut job h, expandShortcut_template htemplate]
  dsimp only
  rw [← Job.writtenText, htarget]
  rfl

/-- What is pursued where the value of a trigger is a site. -/
theorem pursue_site (h : r.registry.shortcuts.get? (job.trigger.getD webTrigger) = some value)
    (hsite : isUrlTemplate (plainValue value) = false) {provider : Provider σ}
    (hprovider : r.registry.webProvider = some provider) :
    r.pursue job = r.ask job provider webTrigger .web (siteTerms (plainValue value) job.terms)
      job.writtenText := by
  unfold pursue
  rw [r.expanded_of_shortcut job h, expandShortcut_site hsite]
  dsimp only
  rw [← Job.writtenText, r.target_webTrigger, hprovider]
  rfl

theorem records_pursue_template
    (h : r.registry.shortcuts.get? (job.trigger.getD webTrigger) = some value)
    (htemplate : isUrlTemplate (plainValue value) = true) :
    Records (Replaces (fillTemplate (plainValue value) job.terms) job.writtenText)
      (r.recorded.pursue job) (r.pursue job) := by
  rw [r.pursue_template job h htemplate, r.recorded.pursue_template job h htemplate]
  refine (r.records_replace job _ _).mono fun outcome new hnew => ?_
  obtain ⟨validation, hchecked, rfl⟩ := hnew
  exact hchecked.replaces _

theorem records_pursue_site
    (h : r.registry.shortcuts.get? (job.trigger.getD webTrigger) = some value)
    (hsite : isUrlTemplate (plainValue value) = false) {provider : Provider σ}
    (hprovider : r.registry.webProvider = some provider) :
    Records (fun _ new => new.searches = [(some webTrigger, job.request webTrigger .web
        (siteTerms (plainValue value) job.terms) job.writtenText)])
      (r.recorded.pursue job) (r.pursue job) := by
  have hrecorded : r.recorded.registry.webProvider
      = some (recordedProvider (some webTrigger) provider) := by
    rw [webProvider_recorded, hprovider]
    rfl
  rw [r.pursue_site job h hsite hprovider, r.recorded.pursue_site job h hsite hrecorded]
  refine (r.records_ask job _ _ _ _ _ _).mono fun outcome new hnew => ?_
  obtain ⟨hcourse, answer, later, rfl⟩ := hnew
  exact hcourse.searches_eq

end Resolver

/-- **The user's own triggers are expanded once.** Whatever triggers the user
has, a job with terms comes to what its expansion comes to without any of
them, and one provider is asked at most. Where the value of the trigger is a
template nobody is asked, and the outcome is a link to exactly the filled
template, unless the validator rejects that. Where the value is a site, the
provider of the web search is asked for it, if there is one. -/
theorem shortcut_expanded_once {σ : Type} (r : Resolver σ) {job : Job}
    (hterms : Text.isBlankText job.terms = false) (rank : Nat) (s : σ) :
    r.resolve job rank = r.withoutShortcuts.resolve (r.expandedJob job) rank
    ∧ (r.exchanges job rank s).searches.length ≤ 1
    ∧ ∀ value, r.registry.shortcuts.get? (job.trigger.getD webTrigger) = some value →
      if isUrlTemplate (plainValue value) then
        Replaces (fillTemplate (plainValue value) job.terms) job.writtenText
          (r.resolve job rank s).1 (r.exchanges job rank s)
      else ∀ provider, r.registry.webProvider = some provider →
        (r.exchanges job rank s).searches = [(some webTrigger, job.request webTrigger .web
          (siteTerms (plainValue value) job.terms) job.writtenText)] := by
  refine ⟨?_, (r.course_exchanges job rank s).length_searches_le, fun value hvalue => ?_⟩
  · rw [r.resolve_eq hterms, r.withoutShortcuts.resolve_eq (r.expanded_not_blank job hterms),
      r.pursue_expandedJob]
    rfl
  · split
    · next htemplate =>
      exact Resolver.exchanges_of_records (r.records_resolve_of_pursue hterms
        (r.records_pursue_template job hvalue htemplate) rank) s
    · next hsite =>
      intro provider hprovider
      have hpursue := r.records_pursue_site job hvalue (Bool.eq_false_iff.2 hsite) hprovider
      exact Resolver.exchanges_of_records (r.records_resolve_of_pursue hterms hpursue rank) s

/-- A resolver whose user has triggers with the names of the two that
expansions lead to, each with the other as value. -/
def shadowedPages : Resolver Unit where
  registry := {
    providers := [("g", fun request =>
      pure (.ok (some (.untitled ("https://example.org/" ++ request.terms)))))]
    shortcuts := [("g", "r"), ("r", "https://example.org/$termd")] }

/-- A job for a trigger, in a configuration that checks nothing. -/
def plainJob (trigger terms : Text) : Job where
  trigger := some trigger
  terms
  linkText := []
  titleize := false
  config := {}

/-- The one trigger is a plain replacement, although the trigger that it
expands to is the other; and the other is a search on a site. -/
theorem shortcut_expanded_once_shadowed :
    (shadowedPages.exchanges (plainJob "r" "Rust") 1 ()).searches = []
    ∧ (shadowedPages.resolve (plainJob "r" "Rust") 1 ()).1
      = .found (.ofUrl "https://example.org/rust" "Rust")
    ∧ (shadowedPages.exchanges (plainJob "g" "Rust") 1 ()).searches
      = [(some webTrigger, (plainJob "g" "Rust").request webTrigger .web "site:r Rust" "Rust")] := by
  have hr : Text.isBlankText (plainJob "r" "Rust").terms = false := rfl
  have hg : Text.isBlankText (plainJob "g" "Rust").terms = false := rfl
  have hreplaced := (shortcut_expanded_once shadowedPages hr 1 ()).2.2
    "https://example.org/$termd" rfl
  have hsearched := (shortcut_expanded_once shadowedPages hg 1 ()).2.2 "r" rfl
  have htemplate : isUrlTemplate (plainValue "https://example.org/$termd") = true := by
    decide +kernel
  have hsite : ¬ isUrlTemplate (plainValue "r") = true := by decide +kernel
  have hfilled : fillTemplate (plainValue "https://example.org/$termd") "Rust"
      = "https://example.org/rust" := by
    decide +kernel
  have hvalid : (shadowedPages.exchanges (plainJob "r" "Rust") 1 ()).validations = [] := by
    decide +kernel
  have hterms : siteTerms (plainValue "r") "Rust" = "site:r Rust" := by decide +kernel
  rw [if_pos htemplate] at hreplaced
  obtain ⟨hnone, hfound⟩ := hreplaced
  rw [hvalid, if_neg List.not_mem_nil] at hfound
  refine ⟨hnone, hfound.trans (congrArg (fun url => Outcome.found (.ofUrl url "Rust")) hfilled), ?_⟩
  rw [if_neg hsite] at hsearched
  exact (hsearched _ rfl).trans (congrArg
    (fun terms => [(_, (plainJob "g" "Rust").request webTrigger .web terms "Rust")]) hterms)

end InlineSearch.Search
