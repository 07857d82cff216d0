/-
InlineSearch.Proofs.Document.Triggers — every trigger that is searched for
counts for something.

A resolver that is given a trigger which is neither known nor a domain
ignores it and searches the bare terms (`Resolver.Discards`). Nothing that
a document or a query asks for comes to that. Whoever makes a job tests its
trigger (`Job.Known`), with the user's own triggers among the known ones;
the resolver looks it up again once those are expanded, and then without
them. The two tests fit together because an expansion always leads to one
of two built-in triggers (`not_discards`).

`trigger_never_discarded` is the main statement, about all the jobs of a
document (`Run.jobs`) and the one job of a query (`Query.job?`).
-/
import InlineSearch.Proofs.Document.Notes
import InlineSearch.Proofs.Search.Exchange

namespace InlineSearch

/-! ## Triggers that count for nothing -/

namespace Search

variable {σ : Type}

/-- The trigger of a job, if it names one, is known or a domain. -/
def Job.Known (r : Registry σ) (job : Job) : Prop :=
  ∀ trigger, job.trigger = some trigger → r.knows trigger = true ∨ isDomain trigger = true

/-- The trigger of a job counts for nothing: once it is expanded, it is
neither built in nor a domain. -/
def Resolver.Discards (r : Resolver σ) (job : Job) : Prop :=
  r.registry.builtin? (r.expanded job).1 = none ∧ isDomain (r.expanded job).1 = false

/-- Where a trigger counts for nothing the terms alone are searched. -/
theorem Resolver.target_of_discards {r : Resolver σ} {job : Job} (h : r.Discards job)
    (terms linkText : Text) : r.target job (r.expanded job).1 terms linkText
      = (.web, r.registry.webProvider, terms, linkText) := by
  unfold Resolver.target
  rw [h.1, h.2]
  rfl

example : untitledPages.Discards { titleJob with trigger := some "nope" } :=
  ⟨by decide +kernel, by decide +kernel⟩

/-- What one of the user's own triggers expands to is built in. -/
theorem Registry.builtin?_expandShortcut (r : Registry σ) (value terms : Text) :
    (r.builtin? (expandShortcut value terms).1).isSome = true := by
  unfold expandShortcut
  dsimp only
  split
  · rfl
  · rfl

/-- A known trigger that is not the user's own is built in. -/
theorem Registry.builtin?_of_knows {r : Registry σ} {trigger : Text}
    (h : r.knows trigger = true) (hown : r.shortcuts.get? trigger = none) :
    (r.builtin? trigger).isSome = true := by
  unfold Registry.knows Registry.resolve? at h
  rw [hown] at h
  simpa using h

/-- A trigger that is known or a domain is not ignored. -/
theorem Resolver.not_discards {r : Resolver σ} {job : Job} (h : job.Known r.registry) :
    ¬ r.Discards job := by
  rintro ⟨hbuiltin, hdomain⟩
  cases hown : r.registry.shortcuts.get? (job.trigger.getD webTrigger) with
  | some value =>
    have hsome := r.registry.builtin?_expandShortcut value job.terms
    rw [r.expanded_of_shortcut job hown] at hbuiltin
    rw [hbuiltin] at hsome
    exact nomatch hsome
  | none =>
    rw [r.expanded_of_none job hown] at hbuiltin hdomain
    cases htrigger : job.trigger with
    | none =>
      rw [htrigger] at hbuiltin
      exact nomatch hbuiltin
    | some trigger =>
      rw [htrigger] at hbuiltin hdomain hown
      rcases h trigger htrigger with hknown | hsite
      · have hsome := Registry.builtin?_of_knows hknown hown
        rw [Option.getD_some] at hbuiltin
        rw [hbuiltin] at hsome
        exact nomatch hsome
      · rw [Option.getD_some, hsite] at hdomain
        exact nomatch hdomain

end Search

open Search (Job Outcome Registry)

variable {σ : Type}

/-! ## Jobs of a document -/

namespace Document

/-- What stays of a trigger when the unknown ones are sorted out. -/
theorem known_of_filter_eq_none {r : Registry σ} {job : Job}
    (h : job.trigger.filter (isUnknown r) = none) : job.Known r := by
  intro trigger htrigger
  have hknown : isUnknown r trigger = false := by simpa [htrigger] using h
  simpa [isUnknown, or_iff_not_imp_left] using hknown

theorem known_of_mem_jobs {l : Linker σ} {input : Text} {job : Job}
    (h : job ∈ Run.jobs l input) : job.Known l.resolver.registry := by
  obtain ⟨p, hp, hjob⟩ := List.mem_filterMap.1 h
  obtain ⟨line, span, scope, -, -, hplan⟩ := exists_planSpan_of_mem _ _ hp
  obtain ⟨modifiers, haction⟩ := PlannedSpan.job?_eq_some_iff.1 hjob
  rw [hplan] at haction
  obtain ⟨d, -, hknown, htrigger, -, -⟩ := exists_directive_of_search _ haction
  rw [← htrigger] at hknown
  exact known_of_filter_eq_none hknown

end Document

/-! ## The job of a query -/

namespace Query

/-- The job of a query that is searched for: it has terms, is no URL, and its
trigger is not unknown. -/
def job? (l : Linker σ) (query : Text) : Option Job :=
  let t := dropSigns (Text.trim (Directive.Flag.strip (Text.trim query)))
  let parts := read t
  let titleize := (config l query).emptyUsesPageTitle
  if t.isEmpty || isUrl t then none
  else match parts.trigger.filter (Document.isUnknown l.resolver.registry) with
    | some _ => none
    | none => some {
        trigger := parts.trigger
        terms := parts.terms
        linkText := if parts.linkText.isEmpty && !titleize then parts.defaultText else parts.linkText
        titleize
        config := config l query }

/-- A query resolves its job, or nothing at all. -/
theorem answer_eq (l : Linker σ) (query : Text) :
    (∃ job, job? l query = some job ∧ answer l query = l.resolver.resolve job 1)
      ∨ job? l query = none ∧ ∃ o, answer l query = pure o := by
  unfold job? answer outcome
  dsimp only
  generalize dropSigns (Text.trim (Directive.Flag.strip (Text.trim query))) = t
  cases t.isEmpty with
  | true => exact .inr ⟨rfl, _, rfl⟩
  | false =>
    cases isUrl t with
    | true => exact .inr ⟨rfl, _, rfl⟩
    | false =>
      simp only [Bool.or_self, Bool.false_eq_true, ↓reduceIte, search]
      cases (read t).trigger.filter (Document.isUnknown l.resolver.registry) with
      | some trigger => exact .inr ⟨rfl, _, rfl⟩
      | none => exact .inl ⟨_, rfl, rfl⟩

/-- All that a query does to the state is to resolve its job. -/
theorem state_resolve (l : Linker σ) (query : Text) (s : σ) : (resolve l query s).2
    = match job? l query with
      | some job => (l.resolver.resolve job 1 s).2
      | none => s := by
  have hstate : (resolve l query s).2 = (answer l query s).2 := by
    obtain ⟨reached, hreached⟩ : ∃ reached, answer l query s = reached := ⟨_, rfl⟩
    rw [hreached]
    unfold answer config at hreached
    unfold resolve
    simp only [bind, StateT.bind, hreached]
    rfl
  rw [hstate]
  rcases answer_eq l query with ⟨job, hjob, hanswer⟩ | ⟨hnone, o, hanswer⟩
  · rw [hjob, hanswer]
  · rw [hnone, hanswer]
    rfl

theorem known_of_job? {l : Linker σ} {query : Text} {job : Job} (h : job? l query = some job) :
    job.Known l.resolver.registry := by
  unfold job? at h
  dsimp only at h
  generalize read (dropSigns (Text.trim (Directive.Flag.strip (Text.trim query)))) = parts at h
  split at h
  · exact nomatch h
  · split at h
    · exact nomatch h
    · next hnone =>
      rw [← Option.some.inj h]
      exact Document.known_of_filter_eq_none hnone

end Query

/-! ## No trigger is discarded -/

namespace Document

/-- **No trigger is discarded.** All that a document or a query does to the
outside is to resolve its jobs. The trigger of each of them, if it names one,
is known or a domain, and no job comes to a search for the bare terms because
its trigger, once expanded, counts for nothing. -/
theorem trigger_never_discarded (l : Linker σ) (s : σ) :
    (∀ input, (link l input s).2
        = (if Span.occursIn input then (resolveJobs l (Run.jobs l input) s).2 else s)
      ∧ ∀ job ∈ Run.jobs l input, job.Known l.resolver.registry ∧ ¬ l.resolver.Discards job)
    ∧ ∀ query, (Query.resolve l query s).2
        = (match Query.job? l query with
          | some job => (l.resolver.resolve job 1 s).2
          | none => s)
      ∧ ∀ job, Query.job? l query = some job →
        job.Known l.resolver.registry ∧ ¬ l.resolver.Discards job := by
  refine ⟨fun input => ⟨?_, fun job hjob => ?_⟩,
    fun query => ⟨Query.state_resolve l query s, fun job hjob => ?_⟩⟩
  · cases hspan : Span.occursIn input with
    | true => exact state_link l input s hspan
    | false =>
      unfold link
      rw [hspan]
      rfl
  · have hknown := known_of_mem_jobs hjob
    exact ⟨hknown, Search.Resolver.not_discards hknown⟩
  · have hknown := Query.known_of_job? hjob
    exact ⟨hknown, Search.Resolver.not_discards hknown⟩

/-- A linker whose user has one trigger. -/
def ownTriggerLinker : Linker Unit where
  config := {}
  resolver := { registry := { shortcuts := [("own", "nope.org")] } }

/-- A trigger of the user's own, a domain, an unknown trigger and a built-in
one; and the unknown one in a query, beside the user's own. -/
theorem trigger_never_discarded_mixed_triggers :
    let input : Text := "[a](!own x) [b](!example.org y) [c](!nope z) [d](!g w)"
    (Run.jobs ownTriggerLinker input).map Job.trigger
      = [some "own".toList, some "example.org".toList, some "g".toList]
    ∧ (∀ job ∈ Run.jobs ownTriggerLinker input, ¬ ownTriggerLinker.resolver.Discards job)
    ∧ Query.job? ownTriggerLinker "!nope z" = none
    ∧ ∃ job, Query.job? ownTriggerLinker "!own x" = some job
      ∧ ¬ ownTriggerLinker.resolver.Discards job := by
  obtain ⟨hdocument, hquery⟩ := trigger_never_discarded ownTriggerLinker ()
  refine ⟨by decide +kernel, fun job hjob => ((hdocument _).2 job hjob).2, by decide +kernel, ?_⟩
  have hsome : (Query.job? ownTriggerLinker "!own x").isSome = true := by decide +kernel
  obtain ⟨job, hjob⟩ := Option.isSome_iff_exists.1 hsome
  exact ⟨job, hjob, ((hquery _).2 job hjob).2⟩

end Document

end InlineSearch
