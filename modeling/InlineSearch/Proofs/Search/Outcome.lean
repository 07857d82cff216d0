/-
InlineSearch.Proofs.Search.Outcome — what a search comes to.

`Resolved` lists how a job comes to an outcome: nothing was found, the
terms are the URL, the link of a hit was rejected, or a hit was settled on.
`Resolver.gives_resolve` says that there is no other way, in whatever state
the job is resolved; what holds of all outcomes is read off these four
cases.

* `outcome_shape` — a search that succeeds has a URL, and a link text too
  unless that is to be the title of a page without one.
* `Resolved.rejected_of_notes` — a search that fails carries notes only
  where the link of a hit does not resolve.
-/
import InlineSearch.Proofs.Text.Chars
import InlineSearch.Proofs.Text.FoldCase
import InlineSearch.Proofs.Text.Trim
import InlineSearch.Search.Resolve

namespace InlineSearch.Search

/-! ## Actions whose results have a property -/

section

variable {σ α β : Type}

/-- Whatever the state that an action begins in, its result has a
property. -/
def Gives (P : α → Prop) (action : StateM σ α) : Prop := ∀ s : σ, P (action s).1

theorem gives_pure {P : α → Prop} {a : α} (h : P a) : Gives P (pure a : StateM σ α) := fun _ => h

/-- What goes on behind an action goes on from a result that the action has
given in some state. -/
theorem Gives.bind {P : β → Prop} {action : StateM σ α} {next : α → StateM σ β}
    (h : ∀ s, Gives P (next (action s).1)) : Gives P (action >>= next) :=
  fun s => h s (action s).2

/-- What goes on behind an action that gives nothing, made or left out. -/
theorem Gives.behind {P : β → Prop} {c : Prop} [Decidable c] {action : StateM σ Unit}
    {next : Unit → StateM σ β} (h : Gives P (next ())) :
    Gives P (if c then action >>= next else next ()) := by
  split
  · exact Gives.bind fun _ => h
  · exact h

end

/-! ## Terms -/

/-- A pattern that does not match at the start of a text leaves its first
character. -/
theorem substitute_cons {α : Type} {p : Text.Pattern α} {c : Char} {t : Text}
    (h : p none (c :: t) = none) (f : α → Text) :
    ∃ rest, Text.substitute p f (c :: t) = c :: rest :=
  ⟨_, Text.substituteFrom_miss fun taken a hp => by simp [h] at hp⟩

/-- A template begins with a slash or a letter. -/
theorem head_of_isUrlTemplate {value : Text} (h : isUrlTemplate value = true) :
    ∃ c t, value = c :: t ∧ Text.foldChar c ≠ '$' ∧ Text.isBlank c = false := by
  cases value with
  | nil => exact absurd h (by decide)
  | cons c t =>
    refine ⟨c, t, rfl, ?_⟩
    rcases (Bool.or_eq_true ..).mp h with hslash | hhttp
    · have hfirst : ('/' == c && List.isPrefixOf [] t) = true := hslash
      rw [← beq_iff_eq.1 (Bool.and_eq_true_iff.1 hfirst).1]
      decide
    · have hc : c.toLower = 'h' := by
        simp only [Text.sameIgnoringCase, Text.lowerAscii, List.take_succ_cons, List.map_cons,
          beq_iff_eq] at hhttp
        exact (List.cons.inj hhttp).1
      refine ⟨?_, Text.isBlank_eq_false_of (p := (·.toLower == 'h')) (by decide)
        (beq_iff_eq.2 hc)⟩
      unfold Text.foldChar
      split
      · decide
      · decide
      · rw [hc]
        decide

/-- A place of either kind begins with the letters of its sign. -/
theorem wholePlace_eq_none {before : Option Char} {t : Text}
    (h : Text.dropFolded? "$term" t = none) : wholePlace before t = none := by
  unfold wholePlace
  rw [h]
  rfl

theorem numberedPlace_eq_none {before : Option Char} {t : Text}
    (h : Text.dropFolded? "$term" t = none) : numberedPlace before t = none := by
  have hdrop : Text.dropPrefix? "$term" t = none := by
    rw [Option.eq_none_iff_forall_ne_some]
    intro rest hrest
    have hfold : Text.dropFolded? "$term" t = some rest :=
      Text.dropFolded?_eq_some_iff.2 ⟨_, Text.dropPrefix?_eq_some_iff.1 hrest, rfl⟩
    rw [h] at hfold
    cases hfold
  unfold numberedPlace
  rw [hdrop]
  rfl

/-- What fills a template begins as the template does. -/
theorem fillTemplate_cons {template : Text} (h : isUrlTemplate template = true) (terms : Text) :
    ∃ c rest, fillTemplate template terms = c :: rest ∧ Text.isBlank c = false := by
  obtain ⟨c, t, rfl, hc, hblank⟩ := head_of_isUrlTemplate h
  have hsign : Text.dropFolded? "$term" (c :: t) = none := if_neg (Ne.symm hc)
  unfold fillTemplate
  dsimp only
  split
  · obtain ⟨rest, hrest⟩ := substitute_cons (wholePlace_eq_none hsign) _
    exact ⟨c, rest, hrest, hblank⟩
  · obtain ⟨rest, hrest⟩ := substitute_cons (numberedPlace_eq_none hsign) _
    exact ⟨c, rest, hrest, hblank⟩

theorem expandShortcut_not_blank (value terms : Text) :
    Text.isBlankText (expandShortcut value terms).2 = false := by
  unfold expandShortcut
  dsimp only
  split
  · next htemplate =>
    obtain ⟨c, rest, hfill, hblank⟩ := fillTemplate_cons htemplate terms
    dsimp only
    rw [hfill, Text.isBlankText, List.all_cons, hblank, Bool.false_and]
  · rfl

namespace Resolver

variable {σ : Type} (r : Resolver σ) (job : Job)

/-- The terms of a job are not blank, nor are those that one of the user's
own triggers turns them into. -/
theorem expanded_not_blank (h : Text.isBlankText job.terms = false) :
    Text.isBlankText (r.expanded job).2.1 = false := by
  unfold expanded
  dsimp only
  split
  · exact expandShortcut_not_blank _ _
  · exact h

/-- A search on the site of a domain has terms, whatever they were. -/
theorem target_terms_ne_nil {trigger terms linkText : Text} (h : terms ≠ []) :
    (r.target job trigger terms linkText).2.2.1 ≠ [] := by
  unfold target
  split
  · exact h
  · split
    · simp
    · exact h

/-! ## Outcomes, case by case -/

/-- What is known about a link once it was checked, or left unchecked: the
answer of the validator in some state, or that it is valid. -/
def Answers (checked : Bool) (url : Text) (validation : Validation) : Prop :=
  if checked then ∃ s, (r.validate url s).1 = validation else validation = .valid

theorem gives_validated {β : Type} {P : β → Prop} {checked : Bool} {url : Text}
    {next : Validation → StateM σ β}
    (h : ∀ validation, r.Answers checked url validation → Gives P (next validation)) :
    Gives P (if checked then r.validate url >>= next else pure .valid >>= next) := by
  cases checked with
  | true => exact Gives.bind fun s => h _ ⟨s, rfl⟩
  | false => exact h .valid rfl

end Resolver

/-- The link text for a hit: what the provider or the directive gives, or else
the title or the terms. -/
def Hit.shownText (hit : Hit) (job : Job) (terms linkText title : Text) : Text :=
  let given := hit.linkText.getD linkText
  if !given.isEmpty then given else if job.titleize then title else terms

/-- What is found where the terms are the URL. -/
def Found.ofUrl (url linkText : Text) : Found :=
  let linkText := if linkText.isEmpty then url else linkText
  { url, title := linkText, linkText }

/-- What is found where a hit is settled on. -/
def Found.ofHit (hit : Hit) (kind : Kind) (linkText title : Text) (validation : Validation) :
    Found where
  url := hit.url
  title
  linkText
  form := hit.form
  showTitle := kind.showsTitle
  notes := hit.notes ++ Resolver.validationNotes hit.url validation

/-- How a job comes to an outcome. -/
inductive Resolved {σ : Type} (r : Resolver σ) (job : Job) : Outcome → Prop
  /-- There is nothing to link to. -/
  | nothing (problem : Problem) (message linkText : Text) :
      Resolved r job (.failure problem message linkText)
  /-- The terms are the URL, and it was not found invalid. -/
  | replaced {url : Text} (linkText : Text) {validation : Validation} (hurl : url ≠ [])
      (hanswer : r.Answers job.config.validateLinks url validation)
      (hvalid : validation ≠ .invalid) :
      Resolved r job (.found (.ofUrl url linkText))
  /-- There is a hit, but its link does not resolve. -/
  | rejected (hit : Hit) (linkText : Text)
      (hanswer : r.Answers (job.config.validateLinks && hit.form == .link) hit.url .invalid) :
      Resolved r job (.failed { problem := .notFound, message := hit.url, linkText,
                                notes := hit.notes })
  /-- There is a hit, and its link was not found invalid. -/
  | settled (hit : Hit) (kind : Kind) {terms : Text} (linkText title : Text)
      {validation : Validation} (hurl : hit.url ≠ []) (hterms : terms ≠ [])
      (hanswer : r.Answers (job.config.validateLinks && hit.form == .link) hit.url validation)
      (hvalid : validation ≠ .invalid) :
      Resolved r job
        (.found (.ofHit hit kind (hit.shownText job terms linkText title) title validation))

namespace Resolver

variable {σ : Type} (r : Resolver σ) (job : Job)

theorem gives_settle (kind : Kind) {terms : Text} (linkText : Text) {hit : Hit}
    (hurl : hit.url ≠ []) (hterms : terms ≠ []) :
    Gives (Resolved r job) (r.settle job kind terms linkText hit) := by
  unfold settle
  refine Gives.bind fun s => ?_
  refine r.gives_validated fun validation hanswer => ?_
  dsimp only
  split
  · next hinvalid => exact gives_pure (.rejected hit _ (hinvalid ▸ hanswer))
  · next hvalid => exact gives_pure (.settled hit kind linkText _ hurl hterms hanswer hvalid)

theorem gives_replace {url : Text} (linkText : Text) (hurl : url ≠ []) :
    Gives (Resolved r job) (r.replace job url linkText) := by
  unfold replace
  refine r.gives_validated fun validation hanswer => ?_
  dsimp only
  split
  · exact gives_pure (.nothing ..)
  · next hvalid => exact gives_pure (.replaced linkText hurl hanswer hvalid)

theorem gives_ask (provider : Provider σ) (trigger : Text) (kind : Kind) {terms : Text}
    (linkText : Text) (hterms : terms ≠ []) :
    Gives (Resolved r job) (r.ask job provider trigger kind terms linkText) := by
  unfold ask
  refine Gives.bind fun s => ?_
  split
  · next hit _ =>
    split
    · exact gives_pure (.nothing ..)
    · next hurl => exact r.gives_settle job kind linkText (by simpa using hurl) hterms
  · exact gives_pure (.nothing ..)
  · exact gives_pure (.nothing ..)
  · exact gives_pure (.nothing ..)

/-- **There is no other way to an outcome.** -/
theorem gives_resolve (rank : Nat) : Gives (Resolved r job) (r.resolve job rank) := by
  unfold resolve
  split
  · exact gives_pure (.nothing ..)
  · next hblank =>
    refine Gives.behind ?_
    have hterms : (r.expanded job).2.1 ≠ [] := by
      intro hnil
      have hfalse := r.expanded_not_blank job (by simpa using hblank)
      rw [hnil] at hfalse
      exact nomatch hfalse
    split
    next trigger terms linkText hexpanded =>
    rw [hexpanded] at hterms
    have htarget : (r.target job trigger terms linkText).2.2.1 ≠ [] :=
      r.target_terms_ne_nil job hterms
    split
    · next hkind =>
      rw [hkind] at htarget
      exact r.gives_replace job _ htarget
    · next hkind =>
      rw [hkind] at htarget
      exact r.gives_ask job _ _ _ _ htarget
    · exact gives_pure (.nothing ..)

end Resolver

/-! ## What outcomes have in common -/

/-- The URL of an outcome; a search that failed has none. -/
def Outcome.url : Outcome → Text
  | .found f => f.url
  | .failed _ => []

section

variable {σ : Type} {r : Resolver σ} {job : Job}

theorem Resolved.url_ne_nil {f : Found} (h : Resolved r job (.found f)) : f.url ≠ [] := by
  cases h with
  | replaced linkText hurl hanswer hvalid => exact hurl
  | settled hit kind linkText title hurl hterms hanswer hvalid => exact hurl

/-- A link has a link text, unless that is to be the title of a page without
one. -/
theorem Resolved.linkText_ne_nil {f : Found} (h : Resolved r job (.found f))
    (hform : f.form = .link) (htitle : job.titleize = false ∨ f.title ≠ []) :
    f.linkText ≠ [] := by
  cases h with
  | @replaced url linkText validation hurl hanswer hvalid =>
    show (if linkText.isEmpty then url else linkText) ≠ []
    split
    · exact hurl
    · next hne => simpa using hne
  | @settled hit kind terms linkText title validation hurl hterms hanswer hvalid =>
    show hit.shownText job terms linkText title ≠ []
    unfold Hit.shownText
    dsimp only
    split
    · next hne => simpa using hne
    · split
      · next htitleize => exact htitle.resolve_left (by simp [htitleize])
      · exact hterms

/-- Only the link of a hit that does not resolve makes a search with notes
fail. -/
theorem Resolved.rejected_of_notes {f : Failed} (h : Resolved r job (.failed f))
    (hnotes : f.notes ≠ []) : f.problem = .notFound ∧ job.config.validateLinks = true
      ∧ ∃ s, (r.validate f.message s).1 = .invalid := by
  cases h with
  | nothing problem message linkText => exact absurd rfl hnotes
  | rejected hit linkText hanswer =>
    unfold Resolver.Answers at hanswer
    split at hanswer
    · next hchecked => exact ⟨rfl, (Bool.and_eq_true_iff.1 hchecked).1, hanswer⟩
    · exact absurd hanswer (by decide)

end

/-- **The shape of outcomes.** The searches without a URL are those that
failed. A link that was found has a link text as well, unless this is to be
the title of a page without one. -/
theorem outcome_shape {σ : Type} (r : Resolver σ) (job : Job) (rank : Nat) (s : σ) :
    ((r.resolve job rank s).1.url = [] ↔ ∃ f, (r.resolve job rank s).1 = .failed f)
    ∧ ∀ f, (r.resolve job rank s).1 = .found f → f.form = .link →
      job.titleize = false ∨ f.title ≠ [] → f.linkText ≠ [] := by
  have hresolved := r.gives_resolve job rank s
  generalize (r.resolve job rank s).1 = outcome at hresolved
  refine ⟨?_, ?_⟩
  · cases outcome with
    | found f => exact ⟨fun hurl => absurd hurl hresolved.url_ne_nil, fun ⟨f, hf⟩ => nomatch hf⟩
    | failed f => exact ⟨fun _ => ⟨f, rfl⟩, fun _ => rfl⟩
  · rintro f rfl
    exact hresolved.linkText_ne_nil

/-- A resolver that finds pages without titles. -/
def untitledPages : Resolver Unit where
  registry := { providers := [("g", fun request =>
    pure (.ok (some (.untitled ("https://example.org/" ++ request.terms)))))] }

/-- A search that takes the title of the page as link text. -/
def titleJob : Job where
  trigger := some "g"
  terms := "rust"
  linkText := []
  titleize := true
  config := {}

/-- The title of the page is known, and becomes the link text. -/
theorem outcome_shape_titled :
    let r := { untitledPages with titles := some fun _ => pure (some "The Rust book") }
    ∃ f, (r.resolve titleJob 1 ()).1 = .found f ∧ f.linkText = "The Rust book".toList
      ∧ f.linkText ≠ [] := by
  intro r
  have hfound : (r.resolve titleJob 1 ()).1 = .found
      ⟨"https://example.org/rust", "The Rust book", "The Rust book", .link, false, []⟩ := by
    decide +kernel
  exact ⟨_, hfound, rfl,
    (outcome_shape r titleJob 1 ()).2 _ hfound rfl (.inr (by decide))⟩

/-- No title is known for the page that is found, so the link is left without
a text. -/
theorem link_without_text : ¬ ∀ f, (untitledPages.resolve titleJob 1 ()).1 = .found f →
    f.form = .link → f.linkText ≠ [] := by
  intro h
  exact h ⟨"https://example.org/rust", [], [], .link, false, []⟩ (by decide +kernel) rfl rfl

end InlineSearch.Search
