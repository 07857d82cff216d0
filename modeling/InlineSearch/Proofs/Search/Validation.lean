/-
InlineSearch.Proofs.Search.Validation — what becomes of a checked link.

A link is checked in two places: where a provider has a hit, and where the
terms are the URL. In both the validator is asked about the link itself,
once, and a link that does not resolve makes the search fail. They differ
in what is remarked on a link that the validator cannot decide about: the
note that goes with a hit is missing where the terms are the URL.
`validation_reported_iff` says all this of the exchanges of a search, and
exactly when the notes tell that the validator was undecided.
-/
import InlineSearch.Proofs.Search.Exchange

namespace InlineSearch.Search

/-! ## Undecided validations -/

/-- Whether the validator keeps a link that it cannot decide about. -/
def Validation.isUndecided : Validation → Bool
  | .blocked _ | .unknown _ => true
  | .valid | .invalid => false

/-- One of the notes says that it could not be decided whether a link
resolves. -/
def Doubts (notes : List Note) : Prop := ∃ note ∈ notes, note.problem = .linkValidation

theorem doubts_append_iff {notes later : List Note} :
    Doubts (notes ++ later) ↔ Doubts notes ∨ Doubts later := by
  simp only [Doubts, List.mem_append, or_and_right, exists_or]

theorem doubts_validationNotes_iff {url : Text} {validation : Validation} :
    Doubts (Resolver.validationNotes url validation) ↔ validation.isUndecided = true := by
  cases validation <;> simp [Doubts, Resolver.validationNotes, Validation.isUndecided]

theorem not_doubts_ofUrl (url linkText : Text) : ¬ Doubts (Found.ofUrl url linkText).notes :=
  fun ⟨_, hnote, _⟩ => nomatch hnote

section

variable {σ : Type} {r : Resolver σ}

/-- Where there is a validator it is asked whenever a link is to be checked. -/
theorem Resolver.Checked.record_eq {url : Text} {validation : Validation} {record : Record}
    (h : r.Checked true url validation record) (hvalidator : r.validator.isSome = true) :
    record = [.validation url validation] := by
  unfold Resolver.Checked at h
  rwa [hvalidator, Bool.and_self, if_pos rfl] at h

/-- No link is checked that is not to be. -/
theorem Resolver.Checked.valid {url : Text} {validation : Validation} {record : Record}
    (h : r.Checked false url validation record) : record = [] ∧ validation = .valid := by
  unfold Resolver.Checked at h
  rwa [Bool.false_and, if_neg Bool.false_ne_true] at h

/-! ## What is reported -/

/-- The validator was asked about a link that was found, and nothing else, and
did not find it invalid. The notes tell whether it was undecided, unless no
provider was asked or the provider has such a note of its own. -/
def Reported (f : Found) (record : Record) : Prop :=
  ∃ answer, record.validations = [(f.url, answer)] ∧ answer ≠ .invalid
    ∧ ((Doubts f.notes ↔ answer.isUndecided = true)
      ↔ (record.hits = [] → answer.isUndecided = false)
        ∧ ∀ hit ∈ record.hits, Doubts hit.notes → answer.isUndecided = true)

theorem reported_ofUrl {url linkText : Text} {validation : Validation} {record : Record}
    (h : r.Checked true url validation record) (hvalidator : r.validator.isSome = true)
    (hvalid : validation ≠ .invalid) : Reported (.ofUrl url linkText) record := by
  rw [h.record_eq hvalidator]
  refine ⟨validation, rfl, hvalid, ?_⟩
  have hhits : Record.hits [.validation url validation] = [] := rfl
  rw [hhits, iff_false_left (not_doubts_ofUrl url linkText)]
  simp

theorem reported_ofHit {slot : Option Text} {request : Request} {hit : Hit} {kind : Kind}
    {linkText title : Text} {validation : Validation} {titles record : Record}
    (htitles : titles.OnlyTitles) (h : r.Checked true hit.url validation record)
    (hvalidator : r.validator.isSome = true) (hvalid : validation ≠ .invalid) :
    Reported (.ofHit hit kind linkText title validation)
      (.search slot request (.ok (some hit)) :: (titles ++ record)) := by
  rw [h.record_eq hvalidator]
  refine ⟨validation, htitles.filterMap_cons (fun _ _ => rfl) .., hvalid, ?_⟩
  have hhits : Record.hits (.search slot request (.ok (some hit))
      :: (titles ++ [.validation hit.url validation])) = [hit] :=
    htitles.filterMap_cons (fun _ _ => rfl) ..
  have hnotes : Doubts (Found.ofHit hit kind linkText title validation).notes
      ↔ Doubts hit.notes ∨ validation.isUndecided = true :=
    doubts_append_iff.trans (or_congr_right doubts_validationNotes_iff)
  rw [hhits, hnotes, or_iff_right_iff_imp]
  simp

variable {job : Job} {outcome : Outcome} {record : Record}

/-- A link that is found where links are checked. -/
theorem Course.reported (h : Course r job outcome record)
    (hvalidator : r.validator.isSome = true) (hcheck : job.config.validateLinks = true)
    {f : Found} (hfound : outcome = .found f) (hform : f.form = .link) : Reported f record := by
  cases h with
  | unasked problem message linkText => exact nomatch hfound
  | unanswered slot request answer problem message linkText => exact nomatch hfound
  | @replaced url linkText validation record hchecked =>
    rw [hcheck] at hchecked
    unfold Outcome.ofUrl at hfound
    split at hfound
    · exact nomatch hfound
    · next hvalid =>
      rw [← Outcome.found.inj hfound]
      exact reported_ofUrl hchecked hvalidator hvalid
  | settled slot request hit kind linkText title htitles hchecked =>
    unfold Outcome.ofHit at hfound
    split at hfound
    · exact nomatch hfound
    · next hvalid =>
      rw [← Outcome.found.inj hfound] at hform ⊢
      have hlink : (hit.form == .link) = true := beq_iff_eq.2 hform
      rw [hcheck, hlink, Bool.and_self] at hchecked
      exact reported_ofHit htitles hchecked hvalidator hvalid

/-- A link that the validator finds invalid makes the search fail. -/
theorem Course.not_found (h : Course r job outcome record) {url : Text}
    (hinvalid : (url, .invalid) ∈ record.validations) :
    ∃ f, outcome = .failed f ∧ f.problem = .notFound := by
  -- Of what was asked about a link only the answer that decides is left.
  have hanswer : ∀ {check : Bool} {url' : Text} {validation : Validation} {record : Record},
      r.Checked check url' validation record → (url, .invalid) ∈ record.validations →
        validation = .invalid := by
    intro check url' validation record hchecked hmem
    rcases hchecked.cases with rfl | ⟨rfl, -⟩
    · exact (Prod.mk.inj (List.mem_singleton.1 hmem)).2.symm
    · simp [Record.validations] at hmem
  cases h with
  | unasked problem message linkText => simp [Record.validations] at hinvalid
  | unanswered slot request answer problem message linkText =>
    simp [Record.validations, Exchange.validation?] at hinvalid
  | replaced linkText hchecked =>
    rw [Outcome.ofUrl, if_pos (hanswer hchecked hinvalid)]
    exact ⟨_, rfl, rfl⟩
  | settled slot request hit kind linkText title htitles hchecked =>
    unfold Record.validations at hinvalid
    rw [htitles.filterMap_cons fun _ _ => rfl] at hinvalid
    rw [Outcome.ofHit, if_pos (hanswer hchecked hinvalid)]
    exact ⟨_, rfl, rfl⟩

end

/-! ## Checked links -/

/-- **What a validation leads to.** Where links are checked, each link that a
search finds is the one link that the validator was asked about, and was not
found invalid. A note tells that the validator was undecided exactly if it
was, up to two cases: a link whose URL was given has no such note, and a
provider may add such a note by itself. A link that is found invalid makes
the search fail. -/
theorem validation_reported_iff {σ : Type} {r : Resolver σ} (hvalidator : r.validator.isSome = true)
    {job : Job} (hcheck : job.config.validateLinks = true) (rank : Nat) (s : σ) :
    (∀ f, (r.resolve job rank s).1 = .found f → f.form = .link →
      Reported f (r.exchanges job rank s))
    ∧ ∀ url, (url, .invalid) ∈ (r.exchanges job rank s).validations →
      ∃ f, (r.resolve job rank s).1 = .failed f ∧ f.problem = .notFound :=
  ⟨fun _ hfound hform => (r.course_exchanges job rank s).reported hvalidator hcheck hfound hform,
    fun _ hinvalid => (r.course_exchanges job rank s).not_found hinvalid⟩

/-- A resolver that finds a page for whatever it searches for, with a validator
that is refused everywhere. -/
def refusedPages : Resolver Unit where
  registry := { providers := [("g", fun request =>
    pure (.ok (some (.untitled ("https://example.org/" ++ request.terms)))))] }
  validator := some fun _ => pure (.blocked "405")

/-- A job for a trigger, in a configuration that checks links. -/
def checkedJob (trigger terms : Text) : Job where
  trigger := some trigger
  terms
  linkText := []
  titleize := false
  config := { validateLinks := true }

/-- The page of a provider is kept, with a note that it could not be checked. -/
theorem validation_reported_refused :
    ∃ f, (refusedPages.resolve (checkedJob "g" "rust") 1 ()).1 = .found f
      ∧ f.url = "https://example.org/rust" ∧ Doubts f.notes := by
  have hfound : (refusedPages.resolve (checkedJob "g" "rust") 1 ()).1 = .found
      { url := "https://example.org/rust", title := [], linkText := "rust"
        notes := [⟨.linkValidation, "Validation blocked: https://example.org/rust (405)"⟩] } := by
    decide +kernel
  have hasked : (refusedPages.exchanges (checkedJob "g" "rust") 1 ()).validations
      = [(("https://example.org/rust" : Text), Validation.blocked "405")] := by
    decide +kernel
  have hhits : (refusedPages.exchanges (checkedJob "g" "rust") 1 ()).hits
      = [.untitled "https://example.org/rust"] := by
    decide +kernel
  have hvalidator : refusedPages.validator.isSome = true := rfl
  have hcheck : (checkedJob "g" "rust").config.validateLinks = true := rfl
  obtain ⟨answer, hanswer, -, hnotes⟩ :=
    (validation_reported_iff hvalidator hcheck 1 ()).1 _ hfound rfl
  rw [hasked] at hanswer
  obtain rfl : Validation.blocked "405" = answer := (Prod.mk.inj (List.cons.inj hanswer).1).2
  refine ⟨_, hfound, rfl, (hnotes.2 ⟨fun hnone => ?_, fun _ _ _ => rfl⟩).2 rfl⟩
  rw [hhits] at hnone
  exact nomatch hnone

/-- A given URL is kept too, and no note tells that it could not be checked. -/
theorem refused_url_without_note :
    ¬ ∀ f, (refusedPages.resolve (checkedJob "r" "https://example.org/rust") 1 ()).1 = .found f →
      f.form = .link → ∃ answer,
        (refusedPages.exchanges (checkedJob "r" "https://example.org/rust") 1 ()).validations
          = [(f.url, answer)]
        ∧ answer ≠ .invalid ∧ (Doubts f.notes ↔ answer.isUndecided = true) := by
  intro h
  have hfound : (refusedPages.resolve (checkedJob "r" "https://example.org/rust") 1 ()).1
      = .found (.ofUrl "https://example.org/rust" []) := by
    decide +kernel
  have hasked : (refusedPages.exchanges (checkedJob "r" "https://example.org/rust") 1 ()).validations
      = [(("https://example.org/rust" : Text), Validation.blocked "405")] := by
    decide +kernel
  obtain ⟨answer, hanswer, -, hnotes⟩ := h _ hfound rfl
  rw [hasked] at hanswer
  obtain rfl : Validation.blocked "405" = answer := (Prod.mk.inj (List.cons.inj hanswer).1).2
  exact not_doubts_ofUrl _ _ (hnotes.2 rfl)

end InlineSearch.Search
