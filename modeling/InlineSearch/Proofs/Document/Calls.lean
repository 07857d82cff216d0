/-
InlineSearch.Proofs.Document.Calls — each search of a document gets its own
outcome.

A run carries out its searches one after the other, in an order of its own
choosing, and then gives the outcomes to the spans in document order.
`Calls` lists what was carried out: each call with its job, its rank among
the searches of the document and its outcome.

* `exists_calls` — resolving jobs makes one call for each of them, under
  its rank, and nothing else.
* `withOutcomes_eq` — a planned search is given the outcome of its own
  rank; no other span is given any.
* `own_outcomes` — put together: in whatever order the searches are
  carried out, each span has the outcome of its own search. If that
  outcome does not depend on the state, neither does the result of the
  run depend on the order.
-/
import InlineSearch.Proofs.Document.Trace
import InlineSearch.Proofs.Search.Steady
import Mathlib.Data.List.Basic

namespace InlineSearch.Document

open Search (Job Outcome Resolver)

variable {σ : Type}

/-! ## Calls -/

/-- A search that has been carried out. -/
structure Call where
  job : Job
  /-- The rank of the search in its document, counted from zero. -/
  rank : Nat
  outcome : Outcome

/-- The calls lead from one state to another: they are made one after the
other, each as the search of its rank, and nothing else is done. -/
inductive Calls (r : Resolver σ) : σ → List Call → σ → Prop
  | done (s : σ) : Calls r s [] s
  | call {s last : σ} {calls : List Call} (job : Job) (rank : Nat)
      (later : Calls r (r.resolve job (rank + 1) s).2 calls last) :
      Calls r s (⟨job, rank, (r.resolve job (rank + 1) s).1⟩ :: calls) last

/-- Every outcome of a call comes from resolving its job. -/
theorem Calls.exists_outcome {r : Resolver σ} {s last : σ} {calls : List Call}
    (h : Calls r s calls last) {c : Call} (hc : c ∈ calls) :
    ∃ s', c.outcome = (r.resolve c.job (c.rank + 1) s').1 := by
  induction h with
  | done s => simp at hc
  | @call s last calls job rank later ih =>
    rcases List.mem_cons.1 hc with rfl | hc
    · exact ⟨s, rfl⟩
    · exact ih hc

/-- Carries out the search of a rank. -/
def resolveRank (r : Resolver σ) (jobs : List Job) (rank : Nat) :
    StateM σ (Option (Nat × Outcome)) :=
  match jobs[rank]? with
  | some job => do return some (rank, ← r.resolve job (rank + 1))
  | none => pure none

theorem mapM_cons_apply {α β : Type} (f : α → StateM σ β) (a : α) (rest : List α) (s : σ) :
    (a :: rest).mapM f s
      = ((f a s).1 :: (rest.mapM f (f a s).2).1, (rest.mapM f (f a s).2).2) := by
  rw [List.mapM_cons]
  rfl

/-- Carrying out ranks makes one call for each of them that has a job. -/
theorem exists_calls_of_ranks (r : Resolver σ) (jobs : List Job) (ranks : List Nat) (s : σ) :
    ∃ calls, Calls r s calls (ranks.mapM (resolveRank r jobs) s).2
      ∧ (ranks.mapM (resolveRank r jobs) s).1.reduceOption
        = calls.map (fun c => (c.rank, c.outcome))
      ∧ calls.map (fun c => (c.job, c.rank))
        = ranks.filterMap fun rank => jobs[rank]?.map (·, rank) := by
  induction ranks generalizing s with
  | nil => exact ⟨[], .done s, rfl, rfl⟩
  | cons rank ranks ih =>
    obtain ⟨calls, hcalls, houtcomes, hjobs⟩ := ih (resolveRank r jobs rank s).2
    rw [mapM_cons_apply, List.filterMap_cons]
    cases hjob : jobs[rank]? with
    | none =>
      have hidle : resolveRank r jobs rank = pure none := by
        unfold resolveRank
        rw [hjob]
      rw [hidle] at hcalls houtcomes ⊢
      exact ⟨calls, hcalls, houtcomes, hjobs⟩
    | some job =>
      have hcall : resolveRank r jobs rank
          = (do return some (rank, ← r.resolve job (rank + 1))) := by
        unfold resolveRank
        rw [hjob]
      rw [hcall] at hcalls houtcomes ⊢
      refine ⟨⟨job, rank, (r.resolve job (rank + 1) s).1⟩ :: calls, hcalls.call job rank, ?_, ?_⟩
      · rw [List.map_cons, ← houtcomes]
        rfl
      · rw [List.map_cons, hjobs]
        rfl

/-- Every search is carried out once. -/
def OnceEach (completion : Nat → List Nat) : Prop := ∀ n, (completion n).Perm (List.range n)

theorem filterMap_range (jobs : List Job) :
    ((List.range jobs.length).filterMap fun rank => jobs[rank]?.map (·, rank)) = jobs.zipIdx := by
  have hranks : List.range jobs.length = jobs.zipIdx.map Prod.snd := by
    rw [List.zipIdx_map_snd, List.range_eq_range']
  rw [hranks, List.filterMap_map]
  refine (List.filterMap_congr ?_).trans List.filterMap_some
  intro entry hentry
  have hget := List.mem_zipIdx_iff_getElem?.1 hentry
  simp only [Function.comp_apply, hget, Option.map_some]

/-- Resolving jobs makes one call for each job, under its rank. -/
theorem exists_calls (l : Linker σ) (horder : OnceEach l.completion) (jobs : List Job) (s : σ) :
    ∃ calls, Calls l.resolver s calls (resolveJobs l jobs s).2
      ∧ (resolveJobs l jobs s).1 = calls.map (fun c => (c.rank, c.outcome))
      ∧ (calls.map fun c => (c.job, c.rank)).Perm jobs.zipIdx := by
  obtain ⟨calls, hcalls, houtcomes, hjobs⟩ :=
    exists_calls_of_ranks l.resolver jobs (l.completion jobs.length) s
  refine ⟨calls, hcalls, houtcomes, ?_⟩
  rw [hjobs, ← filterMap_range]
  exact (horder jobs.length).filterMap _

/-- The jobs that are called under a rank are the job of that rank. -/
theorem exists_call_iff {calls : List Call} {jobs : List Job}
    (h : (calls.map fun c => (c.job, c.rank)).Perm jobs.zipIdx) {job : Job} {rank : Nat} :
    (∃ c ∈ calls, c.job = job ∧ c.rank = rank) ↔ jobs[rank]? = some job := by
  have hmem : (job, rank) ∈ calls.map (fun c => (c.job, c.rank)) ↔ jobs[rank]? = some job := by
    rw [h.mem_iff]
    exact List.mem_zipIdx_iff_getElem?
  simpa only [List.mem_map, Prod.mk.injEq] using hmem

/-- Steady searches have one outcome each, whatever the order. -/
theorem lookup_resolveJobs {l : Linker σ} (horder : OnceEach l.completion)
    (hsteady : l.resolver.Steady) (jobs : List Job) (s s' : σ) (rank : Nat) :
    (resolveJobs l jobs s).1.lookup rank
      = jobs[rank]?.map fun job => (l.resolver.resolve job (rank + 1) s').1 := by
  obtain ⟨calls, hcalls, houtcomes, hjobs⟩ := exists_calls l horder jobs s
  rw [houtcomes]
  cases hlookup : (calls.map fun c => (c.rank, c.outcome)).lookup rank with
  | none =>
    cases hjob : jobs[rank]? with
    | none => rfl
    | some job =>
      -- The job of the rank has been called, so the rank is found.
      obtain ⟨c, hc, -, hrank⟩ := (exists_call_iff hjobs).2 hjob
      have hne := List.lookup_eq_none_iff.1 hlookup _ (List.mem_map_of_mem hc)
      simp [hrank] at hne
  | some outcome =>
    obtain ⟨before, after, hsplit, -⟩ := List.lookup_eq_some_iff.1 hlookup
    have hmem : (rank, outcome) ∈ calls.map fun c => (c.rank, c.outcome) := by simp [hsplit]
    obtain ⟨c, hc, hcall⟩ := List.mem_map.1 hmem
    obtain ⟨rfl, rfl⟩ := Prod.mk.inj hcall
    rw [(exists_call_iff hjobs).1 ⟨c, hc, rfl, rfl⟩]
    obtain ⟨before, houtcome⟩ := hcalls.exists_outcome hc
    rw [houtcome, Option.map_some, hsteady.resolve c.job (c.rank + 1) before s']

/-! ## Spans -/

/-- How many searches are planned before a span. -/
def searchesBefore (planned : List PlannedSpan) (i : Nat) : Nat :=
  ((planned.take i).filterMap PlannedSpan.job?).length

/-- A planned search is given the outcome of its rank, and no other span is
given any. -/
theorem withOutcomes_eq (outcomes : List (Nat × Outcome)) (rank : Nat)
    (planned : List PlannedSpan) : withOutcomes outcomes rank planned
      = planned.mapIdx fun i p =>
        (p, p.job?.bind fun _ => outcomes.lookup (rank + searchesBefore planned i)) := by
  induction planned generalizing rank with
  | nil => rfl
  | cons p rest ih =>
    unfold withOutcomes
    cases hjob : p.job? with
    | none =>
      simp only [List.mapIdx_cons, hjob, ih, searchesBefore, List.take_succ_cons,
        List.filterMap_cons, Option.bind_none]
    | some job =>
      simp only [List.mapIdx_cons, hjob, ih, searchesBefore, List.take_succ_cons,
        List.filterMap_cons, List.take_zero, List.filterMap_nil, List.length_nil, Nat.add_zero,
        Option.bind_some, List.length_cons, Nat.add_assoc, Nat.add_comm 1]

/-- The search of a span has the rank of the span among the searches. -/
theorem getElem?_searches {planned : List PlannedSpan} {i : Nat} {p : PlannedSpan} {job : Job}
    (hp : planned[i]? = some p) (hjob : p.job? = some job) :
    (planned.filterMap PlannedSpan.job?)[searchesBefore planned i]? = some job := by
  obtain ⟨hi, hget⟩ := List.getElem?_eq_some_iff.1 hp
  have hsplit : planned.take i ++ p :: planned.drop (i + 1) = planned := by
    rw [← hget, ← List.drop_eq_getElem_cons hi, List.take_append_drop]
  have hsearches : planned.filterMap PlannedSpan.job?
      = (planned.take i).filterMap PlannedSpan.job?
        ++ job :: (planned.drop (i + 1)).filterMap PlannedSpan.job? := by
    rw [← List.filterMap_cons_some hjob, ← List.filterMap_append, hsplit]
  rw [hsearches, searchesBefore, List.getElem?_append_right (Nat.le_refl _), Nat.sub_self]
  rfl

/-- A step takes in the span of its place, with the outcome that the span was
given. -/
theorem getElem?_spans {l : Linker σ} {input : Text} {s : σ} {i : Nat} {t : Step}
    (h : (Run.steps l input s)[i]? = some t) :
    (Run.spans l input s)[i]? = some (t.planned, t.outcome) := by
  rw [← trace_spans (Run.start l input) (Run.spans l input s), List.getElem?_map]
  exact congrArg (Option.map _) h

/-! ## Runs -/

/-- All that a run does to the state is to resolve its searches. -/
theorem state_link (l : Linker σ) (input : Text) (s : σ) (h : Span.occursIn input = true) :
    (link l input s).2
      = (resolveJobs l ((Run.planned l input).1.filterMap PlannedSpan.job?) s).2 := by
  unfold link
  simp only [h, Bool.not_true, Bool.false_eq_true, ↓reduceIte]
  rfl

section

variable {l : Linker σ} (horder : OnceEach l.completion) (hsteady : l.resolver.Steady)
include horder hsteady

/-- Each planned span of a run with the outcome of its own search. -/
theorem spans_eq (input : Text) (s s' : σ) : Run.spans l input s
    = (Run.planned l input).1.mapIdx fun i p =>
      (p, p.job?.map fun job =>
        (l.resolver.resolve job (searchesBefore (Run.planned l input).1 i + 1) s').1) := by
  rw [Run.spans, withOutcomes_eq]
  refine List.ext_getElem? fun i => ?_
  rw [List.getElem?_mapIdx, List.getElem?_mapIdx]
  cases hp : (Run.planned l input).1[i]? with
  | none => rfl
  | some p =>
    cases hjob : p.job? with
    | none => simp [hjob]
    | some job =>
      simp only [Option.map_some, hjob, Option.bind_some, Nat.zero_add,
        lookup_resolveJobs horder hsteady _ s s', getElem?_searches hp hjob]

/-- Another order gives the same result. -/
theorem link_completion (input : Text) (s s' : σ) {completion : Nat → List Nat}
    (horder' : OnceEach completion) :
    (link { l with completion } input s').1 = (link l input s).1 := by
  cases hspan : Span.occursIn input with
  | false => rw [link_of_not_occursIn _ _ _ hspan, link_of_not_occursIn _ _ _ hspan]
  | true =>
    have hspans : Run.spans { l with completion } input s' = Run.spans l input s :=
      (spans_eq (l := { l with completion }) horder' hsteady input s' s).trans
        (spans_eq horder hsteady input s s).symm
    rw [link_eq _ _ _ hspan, link_eq _ _ _ hspan, Run.draft, hspans]
    rfl

/-- **Each search gets its own outcome.** Whatever the order in which they are
carried out, each planned search is called once, under its rank, and each
span of the run has the outcome of its own call; a span that is no search has
none. So another order gives the same result. -/
theorem own_outcomes (input : Text) (s : σ) :
    (∃ calls, (Span.occursIn input = true → Calls l.resolver s calls (link l input s).2)
      ∧ (calls.map fun c => (c.job, c.rank)).Perm
        ((Run.planned l input).1.filterMap PlannedSpan.job?).zipIdx
      ∧ ∀ i t, (Run.steps l input s)[i]? = some t →
        (t.planned.job? = none → t.outcome = none)
        ∧ ∀ job, t.planned.job? = some job → ∃ c ∈ calls, c.job = job
          ∧ c.rank = searchesBefore (Run.planned l input).1 i ∧ t.outcome = some c.outcome
          ∧ ∀ s', c.outcome = (l.resolver.resolve job (c.rank + 1) s').1)
    ∧ ∀ completion s', OnceEach completion →
      (link { l with completion } input s').1 = (link l input s).1 := by
  refine ⟨?_, fun completion s' horder' => link_completion horder hsteady input s s' horder'⟩
  obtain ⟨calls, hcalls, -, hjobs⟩ :=
    exists_calls l horder ((Run.planned l input).1.filterMap PlannedSpan.job?) s
  refine ⟨calls, fun hspan => ?_, hjobs, ?_⟩
  · rw [state_link l input s hspan]
    exact hcalls
  intro i t ht
  have hspan := getElem?_spans ht
  rw [spans_eq horder hsteady input s s, List.getElem?_mapIdx] at hspan
  obtain ⟨p, hp, hpair⟩ := Option.map_eq_some_iff.1 hspan
  obtain ⟨rfl, houtcome⟩ := Prod.mk.inj hpair
  refine ⟨fun hjob => ?_, fun job hjob => ?_⟩
  · rw [← houtcome, hjob]
    rfl
  · obtain ⟨c, hc, hown, hrank⟩ := (exists_call_iff hjobs).2 (getElem?_searches hp hjob)
    obtain ⟨before, hbefore⟩ := hcalls.exists_outcome hc
    have hsame : ∀ s', c.outcome = (l.resolver.resolve job (c.rank + 1) s').1 := by
      intro s'
      rw [hbefore, hown]
      exact hsteady.resolve job (c.rank + 1) before s'
    refine ⟨c, hc, hown, hrank, ?_, hsame⟩
    rw [← houtcome, hjob, hsame s, hrank]
    rfl

end

/-- A linker that writes down what it searches for, and carries out the last
search first. -/
def backwardLinker : Linker (List Text) where
  config := {}
  resolver := { registry := { providers := [("g", fun request asked =>
    (.ok (some (.untitled ("https://example.org/" ++ request.terms))),
      asked ++ [request.terms]))] } }
  completion n := (List.range n).reverse

theorem onceEach_backward : OnceEach backwardLinker.completion := fun n =>
  List.reverse_perm (List.range n)

theorem steady_backward : backwardLinker.resolver.Steady where
  providers entry hentry request s s' := by
    rw [List.mem_singleton.1 hentry]
  history provider hprovider := by simp [backwardLinker] at hprovider
  validator validator hvalidator := by simp [backwardLinker] at hvalidator
  titles titles htitles := by simp [backwardLinker] at htitles

/-- Two searches, the last one carried out first, and inline code between
them. -/
theorem own_outcomes_backward :
    let input : Text := "[x](!g rust) \x60[y](!g c)\x60 [z](!g lean)"
    (link backwardLinker input []).2 = ["lean", "rust"]
    ∧ (Run.steps backwardLinker input []).map (fun t => t.found?.map fun f => f.2.url)
      = [some ("https://example.org/rust" : Text), none, some ("https://example.org/lean" : Text)]
    ∧ (link { backwardLinker with completion := List.range } input []).1
      = (link backwardLinker input []).1 :=
  ⟨by decide +kernel, by decide +kernel,
    (own_outcomes onceEach_backward steady_backward _ []).2 List.range [] fun _ => .refl _⟩

end InlineSearch.Document
