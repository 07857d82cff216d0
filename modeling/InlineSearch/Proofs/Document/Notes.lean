/-
InlineSearch.Proofs.Document.Notes — which remarks of providers are logged.

A search comes to an outcome, and an outcome carries notes whether or not
the search succeeded. `Outcome.remarks` is what there is to say about an
outcome: the error, if the search failed, and its notes. `Outcome.logged`
is what a run or a query logs of it, and `Outcome.dropped` the rest: the
notes of a search that failed.

* `outcomes_steps` — the spans of a run are given the outcomes of its
  searches, each of them once.
* `notes_logged_iff` — the errors of a run, or of a query, are the remarks
  on its outcomes exactly where no search that failed carries notes. Such
  notes come from a hit whose link was found invalid.
-/
import InlineSearch.Document.Query
import InlineSearch.Proofs.Document.Calls
import InlineSearch.Proofs.Document.Errors
import InlineSearch.Proofs.Search.Outcome
import Mathlib.Data.List.Perm.Basic

namespace InlineSearch

open Search (Failed Found Job Outcome)

/-! ## Remarks on an outcome -/

namespace Search.Outcome

/-- The remarks that a search comes with. -/
def notes : Outcome → List Note
  | .found f => f.notes
  | .failed f => f.notes

/-- The notes at a position, behind their labels. -/
def noteEntries (position : Option Position) (o : Outcome) : List (Text × LogEntry) :=
  o.notes.map fun note => (note.problem.label, ⟨position, note.message⟩)

/-- The error of a search that failed, which quotes what was searched for. -/
def failure? (position : Option Position) (quoted : Text) : Outcome → Option (Text × LogEntry)
  | .found _ => none
  | .failed f => some (f.problem.label, ⟨position, quoting f.message quoted⟩)

/-- All that there is to say about an outcome. -/
def remarks (position : Option Position) (quoted : Text) (o : Outcome) : List (Text × LogEntry) :=
  (o.failure? position quoted).toList ++ o.noteEntries position

/-- Whether notes get lost: those of a search that failed. -/
def dropsNotes : Outcome → Bool
  | .found _ => false
  | .failed f => !f.notes.isEmpty

/-- What is logged of an outcome. -/
def logged (position : Option Position) (quoted : Text) (o : Outcome) : List (Text × LogEntry) :=
  match o with
  | .found _ => o.noteEntries position
  | .failed _ => (o.failure? position quoted).toList

/-- What is not logged of an outcome. -/
def dropped (position : Option Position) : Outcome → List (Text × LogEntry)
  | .found _ => []
  | .failed f => (Outcome.failed f).noteEntries position

/-- A search fails because the link of its hit was found invalid. -/
def Rejected {σ : Type} (r : Resolver σ) (config : Config) (o : Outcome) : Prop :=
  ∃ f, o = .failed f ∧ f.problem = .notFound ∧ config.validateLinks = true
    ∧ ∃ s, (r.validate f.message s).1 = .invalid

/-- Notes get lost only where a hit is rejected. -/
theorem rejected_of_dropsNotes {σ : Type} {r : Resolver σ} {job : Job} {o : Outcome}
    (h : Resolved r job o) (hdrops : o.dropsNotes = true) : o.Rejected r job.config := by
  cases o with
  | found f => exact absurd hdrops Bool.false_ne_true
  | failed f =>
    have hnotes : f.notes ≠ [] := by simpa [dropsNotes] using hdrops
    exact ⟨f, rfl, h.rejected_of_notes hnotes⟩

theorem remarks_eq (position : Option Position) (quoted : Text) (o : Outcome) :
    o.remarks position quoted = o.logged position quoted ++ o.dropped position := by
  cases o with
  | found f => exact (List.append_nil _).symm
  | failed f => rfl

theorem dropped_eq_nil_iff (position : Option Position) (o : Outcome) :
    o.dropped position = [] ↔ o.dropsNotes = false := by
  cases o with
  | found f => exact ⟨fun _ => rfl, fun _ => rfl⟩
  | failed f => simp [dropped, dropsNotes, noteEntries, notes]

end Search.Outcome

/-- A log tells all exactly if nothing is left over. -/
theorem ErrorLog.tells_all_iff {lines : List Text} {logged rest : List (Text × LogEntry)}
    (hlines : lines.Perm (logged.map line)) {all : List (Text × LogEntry)}
    (hall : all.Perm (logged ++ rest)) : lines.Perm (all.map line) ↔ rest = [] := by
  constructor
  · intro hperm
    have hlength := (hlines.symm.trans hperm).length_eq
    rw [List.length_map, List.length_map, hall.length_eq, List.length_append] at hlength
    exact List.length_eq_zero_iff.1 (by omega)
  · rintro rfl
    rw [List.append_nil] at hall
    exact hlines.trans (hall.symm.map _)

/-! ## The outcomes of a run -/

namespace Document

variable {σ : Type}

/-- Values under different keys are found under their keys. -/
theorem filterMap_lookup {β : Type} {entries : List (Nat × β)}
    (h : (entries.map Prod.fst).Nodup) :
    (entries.map Prod.fst).filterMap (fun key => entries.lookup key) = entries.map Prod.snd := by
  have hfound : ∀ entry ∈ entries, entries.lookup entry.1 = some entry.2 := by
    intro entry hentry
    obtain ⟨before, after, hsplit⟩ := List.append_of_mem hentry
    refine List.lookup_eq_some_iff.2 ⟨before, after, hsplit, fun other hother => ?_⟩
    rw [hsplit, List.map_append, List.map_cons, List.nodup_append] at h
    have hne := h.2.2 _ (List.mem_map_of_mem hother) _ (List.mem_cons_self ..)
    simpa using Ne.symm hne
  rw [List.filterMap_map, ← List.filterMap_eq_map]
  exact List.filterMap_congr hfound

/-- The planned searches are given the outcomes of their ranks. -/
theorem filterMap_withOutcomes (outcomes : List (Nat × Outcome)) (rank : Nat)
    (planned : List PlannedSpan) : (withOutcomes outcomes rank planned).filterMap Prod.snd
      = (List.range' rank (planned.filterMap PlannedSpan.job?).length).filterMap
        fun rank => outcomes.lookup rank := by
  induction planned generalizing rank with
  | nil => rfl
  | cons p rest ih =>
    unfold withOutcomes
    cases hjob : p.job? with
    | none => simp only [List.filterMap_cons, hjob, ih]
    | some job => simp only [List.filterMap_cons, hjob, List.length_cons, List.range'_succ, ih]

namespace Run

variable (l : Linker σ) (input : Text) (s : σ)

/-- The searches of a run. -/
def jobs : List Job := (planned l input).1.filterMap PlannedSpan.job?

/-- What the searches of a run come to, in the order in which they are
carried out. -/
def outcomes : List Outcome := (resolveJobs l (jobs l input) s).1.map Prod.snd

end Run

section

variable {l : Linker σ} (horder : OnceEach l.completion) (input : Text) (s : σ)
include horder

/-- The spans are given the outcomes of the searches, each of them once. -/
theorem outcomes_steps :
    ((Run.steps l input s).filterMap Step.outcome).Perm (Run.outcomes l input s) := by
  obtain ⟨calls, -, houtcomes, hjobs⟩ := exists_calls l horder (Run.jobs l input) s
  have hranks : (calls.map Call.rank).Perm (List.range (Run.jobs l input).length) := by
    have hsnd := hjobs.map Prod.snd
    rw [List.map_map, List.zipIdx_map_snd, ← List.range_eq_range'] at hsnd
    exact hsnd
  have hkeys : (resolveJobs l (Run.jobs l input) s).1.map Prod.fst = calls.map Call.rank := by
    rw [houtcomes, List.map_map]
    rfl
  have hnodup : ((resolveJobs l (Run.jobs l input) s).1.map Prod.fst).Nodup := by
    rw [hkeys]
    exact hranks.nodup_iff.2 List.nodup_range
  have hsteps : (Run.steps l input s).filterMap Step.outcome
      = (List.range (Run.jobs l input).length).filterMap
        fun rank => (resolveJobs l (Run.jobs l input) s).1.lookup rank := by
    have hspans := congrArg (List.filterMap Prod.snd)
      (trace_spans (Run.start l input) (Run.spans l input s))
    rw [List.filterMap_map] at hspans
    refine hspans.trans ?_
    rw [Run.spans, filterMap_withOutcomes, ← List.range_eq_range']
    rfl
  rw [hsteps, Run.outcomes, ← filterMap_lookup hnodup, hkeys]
  exact hranks.symm.filterMap _

omit horder in
/-- An outcome of a run is what one of its searches comes to. -/
theorem resolved_of_mem_outcomes {o : Outcome} (h : o ∈ Run.outcomes l input s) :
    ∃ job ∈ Run.jobs l input, Search.Resolved l.resolver job o := by
  obtain ⟨calls, hcalls, houtcomes, hjobs⟩ := exists_calls_of_ranks l.resolver (Run.jobs l input)
    (l.completion (Run.jobs l input).length) s
  have hall : (resolveJobs l (Run.jobs l input) s).1
      = calls.map (fun c => (c.rank, c.outcome)) := houtcomes
  rw [Run.outcomes, hall, List.map_map] at h
  obtain ⟨c, hc, rfl⟩ := List.mem_map.1 h
  obtain ⟨before, houtcome⟩ := hcalls.exists_outcome hc
  have hresolved : Search.Resolved l.resolver c.job c.outcome := by
    rw [houtcome]
    exact l.resolver.gives_resolve c.job (c.rank + 1) before
  refine ⟨c.job, ?_, hresolved⟩
  have hcall : (c.job, c.rank) ∈ calls.map fun c => (c.job, c.rank) := List.mem_map_of_mem hc
  rw [hjobs] at hcall
  obtain ⟨rank, -, hrank⟩ := List.mem_filterMap.1 hcall
  obtain ⟨job, hjob, hpair⟩ := Option.map_eq_some_iff.1 hrank
  rw [← (Prod.mk.inj hpair).1]
  exact List.mem_of_getElem? hjob

end

/-! ## The remarks of a run -/

namespace Step

/-- What there is to say about a span: the remarks on the outcome of its
search, or its own error where there is no search. -/
def remarks (t : Step) : List (Text × LogEntry) :=
  match t.outcome with
  | some o => o.remarks (some t.planned.position) t.planned.span.text
  | none => t.entries

/-- What is not logged about a span. -/
def dropped (t : Step) : List (Text × LogEntry) :=
  (t.outcome.map (Outcome.dropped (some t.planned.position))).getD []

/-- A span that is given an outcome is a search. -/
def Searches (t : Step) : Prop := t.planned.job? = none → t.outcome = none

theorem entries_eq_logged {t : Step} (h : t.Searches) {o : Outcome} (ho : t.outcome = some o) :
    t.entries = o.logged (some t.planned.position) t.planned.span.text := by
  have hjob : t.planned.job? ≠ none := fun hnone => by
    have hidle := h hnone
    rw [ho] at hidle
    exact nomatch hidle
  obtain ⟨job, hsome⟩ := Option.ne_none_iff_exists'.1 hjob
  obtain ⟨modifiers, ha⟩ := PlannedSpan.job?_eq_some_iff.1 hsome
  cases o with
  | found f => simp only [entries, ha, ho]; rfl
  | failed f => simp only [entries, ha, ho]; rfl

theorem remarks_eq {t : Step} (h : t.Searches) : t.remarks = t.entries ++ t.dropped := by
  unfold remarks dropped
  cases ho : t.outcome with
  | none => exact (List.append_nil _).symm
  | some o =>
    rw [entries_eq_logged h ho]
    exact o.remarks_eq _ _

theorem dropped_eq_nil_iff {t : Step} :
    t.dropped = [] ↔ ∀ o, t.outcome = some o → o.dropsNotes = false := by
  unfold dropped
  cases ho : t.outcome with
  | none => simp
  | some o => simpa using o.dropped_eq_nil_iff _

end Step

section

variable {l : Linker σ} {input : Text} {s : σ}

/-- Only searches are given outcomes. -/
theorem searches_of_mem {t : Step} (ht : t ∈ Run.steps l input s) : t.Searches := by
  obtain ⟨i, hi⟩ := List.mem_iff_getElem?.1 ht
  have hspan := getElem?_spans hi
  rw [Run.spans, withOutcomes_eq, List.getElem?_mapIdx] at hspan
  obtain ⟨p, -, hpair⟩ := Option.map_eq_some_iff.1 hspan
  obtain ⟨rfl, houtcome⟩ := Prod.mk.inj hpair
  intro hjob
  rw [← houtcome, hjob]
  rfl

/-- The remarks of a run are what it logs and what it drops. -/
theorem remarks_steps : ((Run.steps l input s).flatMap Step.remarks).Perm
    (logged (Run.steps l input s) ++ (Run.steps l input s).flatMap Step.dropped) := by
  have hsplit : (Run.steps l input s).flatMap Step.remarks
      = (Run.steps l input s).flatMap fun t => t.entries ++ t.dropped :=
    List.flatMap_congr fun t ht => Step.remarks_eq (searches_of_mem ht)
  rw [hsplit]
  exact (List.flatMap_append_perm ..).symm

theorem dropped_steps_iff (horder : OnceEach l.completion) :
    (Run.steps l input s).flatMap Step.dropped = []
      ↔ ∀ o ∈ Run.outcomes l input s, o.dropsNotes = false := by
  have hmem : ∀ o, o ∈ Run.outcomes l input s ↔ ∃ t ∈ Run.steps l input s, t.outcome = some o := by
    intro o
    rw [← (outcomes_steps horder input s).mem_iff, List.mem_filterMap]
  rw [List.flatMap_eq_nil_iff]
  constructor
  · intro h o ho
    obtain ⟨t, ht, houtcome⟩ := (hmem o).1 ho
    exact Step.dropped_eq_nil_iff.1 (h t ht) o houtcome
  · intro h t ht
    exact Step.dropped_eq_nil_iff.2 fun o ho => h o ((hmem o).2 ⟨t, ht, ho⟩)

end

end Document

/-! ## The remarks of a query -/

namespace Query

variable {σ : Type}

/-- The configuration of a query: its flags hold for it. -/
def config (l : Linker σ) (query : Text) : Config :=
  (Scope.setFlags (Scope.openLine { config := l.config })
    (Directive.Flag.inText (Text.trim query))).config

/-- What a query comes to. -/
def answer (l : Linker σ) (query : Text) : StateM σ Outcome :=
  outcome l (config l query) (dropSigns (Text.trim (Directive.Flag.strip (Text.trim query))))

/-- A query logs of its outcome what a run logs, without a position. -/
theorem errors_eq_grouped (query : Text) (o : Outcome) :
    errors query o = ErrorLog.grouped (o.logged none query) := by
  rw [← ErrorLog.pushAll_eq_grouped]
  cases o with
  | found f =>
    show _ = ErrorLog.pushAll [] (f.notes.map _)
    rw [ErrorLog.pushAll, List.foldl_map]
    rfl
  | failed f => rfl

theorem errors_resolve (l : Linker σ) (query : Text) (s : σ) :
    (resolve l query s).1.errors = (errors (Text.trim query) (answer l query s).1).lines := by
  obtain ⟨reached, hreached⟩ : ∃ reached, answer l query s = reached := ⟨_, rfl⟩
  rw [hreached]
  unfold answer config at hreached
  unfold resolve
  simp only [bind, StateT.bind, hreached]
  rfl

theorem errors_perm_iff (l : Linker σ) (query : Text) (s : σ) :
    (resolve l query s).1.errors.Perm
        (((answer l query s).1.remarks none (Text.trim query)).map ErrorLog.line)
      ↔ (answer l query s).1.dropsNotes = false := by
  rw [errors_resolve, errors_eq_grouped,
    ErrorLog.tells_all_iff (ErrorLog.lines_grouped _) (.of_eq (Outcome.remarks_eq ..)),
    Outcome.dropped_eq_nil_iff]

/-- A query drops the notes of a hit that is rejected, and no others. -/
theorem rejected_of_dropsNotes (l : Linker σ) (query : Text) (s : σ)
    (h : (answer l query s).1.dropsNotes = true) :
    (answer l query s).1.Rejected l.resolver (config l query) := by
  have hgives : Search.Gives (fun o : Outcome => o.dropsNotes = true →
      o.Rejected l.resolver (config l query)) (answer l query) := by
    unfold answer outcome
    split
    · exact Search.gives_pure fun hdrops => absurd hdrops Bool.false_ne_true
    split
    · exact Search.gives_pure fun hdrops => absurd hdrops Bool.false_ne_true
    unfold search
    dsimp only
    split
    · exact Search.gives_pure fun hdrops => absurd hdrops Bool.false_ne_true
    · exact fun s => Outcome.rejected_of_dropsNotes (l.resolver.gives_resolve _ 1 s)
  exact hgives s h

end Query

/-! ## Notes on record -/

namespace Document

/-- **Which notes are logged.** A run gives each outcome of its searches to one
span. Its errors are the remarks on them, each of them once, exactly if none
of the outcomes that failed carries notes; and so are the errors of a query.
An outcome that does is that of a hit whose link was found invalid. -/
theorem notes_logged_iff {σ : Type} (l : Linker σ) (horder : OnceEach l.completion) (s : σ) :
    (∀ input, Span.occursIn input = true →
      ((Run.steps l input s).filterMap Step.outcome).Perm (Run.outcomes l input s)
      ∧ ((link l input s).1.errors.Perm
          (((Run.steps l input s).flatMap Step.remarks).map ErrorLog.line)
        ↔ ∀ o ∈ Run.outcomes l input s, o.dropsNotes = false)
      ∧ ∀ o ∈ Run.outcomes l input s, o.dropsNotes = true →
        ∃ job ∈ Run.jobs l input, o.Rejected l.resolver job.config)
    ∧ ∀ query,
      ((Query.resolve l query s).1.errors.Perm
          (((Query.answer l query s).1.remarks none (Text.trim query)).map ErrorLog.line)
        ↔ (Query.answer l query s).1.dropsNotes = false)
      ∧ ((Query.answer l query s).1.dropsNotes = true →
        (Query.answer l query s).1.Rejected l.resolver (Query.config l query)) := by
  refine ⟨fun input hoccurs => ⟨outcomes_steps horder input s, ?_, fun o ho hdrops => ?_⟩,
    fun query => ⟨Query.errors_perm_iff l query s, Query.rejected_of_dropsNotes l query s⟩⟩
  · have hlines := (((errors_logged l input).2 s).1 hoccurs).complete
    rw [ErrorLog.tells_all_iff hlines remarks_steps, dropped_steps_iff horder]
  · obtain ⟨job, hjob, hresolved⟩ := resolved_of_mem_outcomes input s ho
    exact ⟨job, hjob, Outcome.rejected_of_dropsNotes hresolved hdrops⟩

/-- A linker that finds one page, and alters the spelling of the terms to find
it. -/
def alteringLinker : Linker Unit where
  config := { validateLinks := true, debug := false }
  resolver := { registry := { providers := [("g", fun request => pure (.ok
    (if request.terms = "rust".toList then
      some { url := "https://example.org/rust", notes := [⟨.spelling, "Spelling altered"⟩] }
    else none)))] } }

/-- A search that is found with a note, one that fails without any, and a
query with a note. -/
theorem notes_logged_altered :
    let input : Text := "[a](!g rust) [b](!g zinc)"
    let errors : List Text := ["(Spelling) (1:0:12): Spelling altered",
      "(No results) (1:13:12): zinc ([b](!g zinc))"]
    (link alteringLinker input ()).1.errors = errors
    ∧ errors.Perm (((Run.steps alteringLinker input ()).flatMap Step.remarks).map ErrorLog.line)
    ∧ (Query.resolve alteringLinker "!g rust" ()).1.errors.Perm
      [("(Spelling) (?:?:?): Spelling altered" : Text)] := by
  intro input errors
  have herrors : (link alteringLinker input ()).1.errors = errors := by decide +kernel
  have hlogged := notes_logged_iff alteringLinker (fun n => .refl _) ()
  refine ⟨herrors, ?_, (hlogged.2 "!g rust").1.2 (by decide +kernel)⟩
  rw [← herrors]
  exact (hlogged.1 input (by decide)).2.1.2 (by decide +kernel)

/-- With a validator that rejects the page, the note is lost, by a run and by a
query. -/
theorem note_lost :
    let l := { alteringLinker with
      resolver := { alteringLinker.resolver with validator := some fun _ => pure .invalid } }
    (¬ ∀ o ∈ Run.outcomes l "[a](!g rust)" (), ∀ note ∈ o.notes,
      (link l "[a](!g rust)" ()).1.errors.any
        (Text.startsWith ("(" ++ note.problem.label ++ ") ")) = true)
    ∧ ¬ ∀ note ∈ (Query.answer l "!g rust" ()).1.notes,
      (Query.resolve l "!g rust" ()).1.errors.any
        (Text.startsWith ("(" ++ note.problem.label ++ ") ")) = true := by
  decide +kernel

end Document

end InlineSearch
