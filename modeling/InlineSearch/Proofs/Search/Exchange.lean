/-
InlineSearch.Proofs.Search.Exchange — what a search asks of the outside.

Providers, validator and title source act on a state of the caller's, and
nothing but that state tells what they were asked. `Resolver.recorded` is
the resolver with all of them writing down each exchange. The record
changes neither outcome nor state (`recorded_resolve`), so
`Resolver.exchanges` is what a search asks and what it is answered.

`Course` lists how a search comes to its outcome, with the exchanges on the
way; `course_exchanges` says that there is no other way. It is proved with
one lemma a function (`records_validated`, `records_settle`,
`records_replace`, `records_ask`), each about both resolvers at once.
-/
import InlineSearch.Proofs.Search.Outcome

namespace InlineSearch.Search

/-! ## Exchanges -/

/-- One question to the outside, with its answer. -/
inductive Exchange where
  /-- A provider is asked. The slot is the trigger that it is registered for;
  the provider of the history triggers has none. -/
  | search (slot : Option Text) (request : Request)
      (answer : Except ProviderError (Option Hit))
  | title (url : Text) (answer : Option Text)
  | validation (url : Text) (answer : Validation)

namespace Exchange

/-- What a provider is asked, and which one. -/
def search? : Exchange → Option (Option Text × Request)
  | search slot request _ => some (slot, request)
  | _ => none

/-- What a provider found. -/
def hit? : Exchange → Option Hit
  | search _ _ (.ok (some hit)) => some hit
  | _ => none

/-- What the validator says about a link. -/
def validation? : Exchange → Option (Text × Validation)
  | validation url answer => some (url, answer)
  | _ => none

/-- Whether the title of a page is asked for. -/
def isTitle : Exchange → Bool
  | title .. => true
  | _ => false

end Exchange

/-- Exchanges, the first one first. -/
abbrev Record := List Exchange

namespace Record

/-- The providers that are asked, each with its request. -/
def searches (record : Record) : List (Option Text × Request) :=
  record.filterMap Exchange.search?

/-- What the providers found. -/
def hits (record : Record) : List Hit := record.filterMap Exchange.hit?

/-- The links that are checked, each with the answer. -/
def validations (record : Record) : List (Text × Validation) :=
  record.filterMap Exchange.validation?

/-- Titles alone are asked for. -/
def OnlyTitles (record : Record) : Prop := ∀ e ∈ record, e.isTitle = true

/-- Titles that are asked for between a first exchange and others do not show
where only other exchanges are seen. -/
theorem OnlyTitles.filterMap_cons {β : Type} {view : Exchange → Option β} {titles : Record}
    (h : titles.OnlyTitles) (hview : ∀ url answer, view (.title url answer) = none)
    (first : Exchange) (record : Record) :
    (first :: (titles ++ record)).filterMap view
      = (view first).toList ++ record.filterMap view := by
  have hnone : titles.filterMap view = [] := by
    refine List.filterMap_eq_nil_iff.2 fun e he => ?_
    cases e with
    | title url answer => exact hview url answer
    | search slot request answer => exact absurd (h _ he) Bool.false_ne_true
    | validation url answer => exact absurd (h _ he) Bool.false_ne_true
  rw [List.filterMap_cons, List.filterMap_append, hnone]
  cases view first <;> rfl

end Record

/-! ## Recording -/

section

variable {σ α β : Type}

/-- The action with its exchange at the end of the record. -/
def recording (action : StateM σ α) (exchange : α → Exchange) : StateM (σ × Record) α :=
  fun (s, record) => ((action s).1, (action s).2, record ++ [exchange (action s).1])

/-- A provider that writes down what it is asked and what it answers. -/
def recordedProvider (slot : Option Text) (provider : Provider σ) : Provider (σ × Record) :=
  fun request => recording (provider request) (.search slot request)

/-- An action on a state with a record does what the action on the state
does, and what it adds to the record goes with the result. -/
def Records (P : α → Record → Prop) (recorded : StateM (σ × Record) α)
    (action : StateM σ α) : Prop :=
  ∀ s, ∃ new, (∀ record, recorded (s, record) = ((action s).1, (action s).2, record ++ new))
    ∧ P (action s).1 new

theorem records_pure {P : α → Record → Prop} {a : α} (h : P a []) :
    Records P (pure a : StateM (σ × Record) α) (pure a) :=
  fun s => ⟨[], fun record => by rw [List.append_nil]; rfl, h⟩

theorem records_recording (action : StateM σ α) (exchange : α → Exchange) :
    Records (fun a new => new = [exchange a]) (recording action exchange) action :=
  fun _ => ⟨_, fun _ => rfl, rfl⟩

theorem Records.mono {P Q : α → Record → Prop} {recorded : StateM (σ × Record) α}
    {action : StateM σ α} (h : Records P recorded action) (hPQ : ∀ a new, P a new → Q a new) :
    Records Q recorded action := by
  intro s
  obtain ⟨new, hrun, hnew⟩ := h s
  exact ⟨new, hrun, hPQ _ _ hnew⟩

/-- Of actions one after the other the records are put together. -/
theorem Records.bind {Q : α → Record → Prop} {P : β → Record → Prop}
    {recorded : StateM (σ × Record) α} {action : StateM σ α}
    {recordedNext : α → StateM (σ × Record) β} {next : α → StateM σ β}
    (h : Records Q recorded action)
    (hnext : ∀ a new, Q a new →
      Records (fun b later => P b (new ++ later)) (recordedNext a) (next a)) :
    Records P (recorded >>= recordedNext) (action >>= next) := by
  intro s
  obtain ⟨new, hrun, hnew⟩ := h s
  obtain ⟨later, hlater, hP⟩ := hnext _ _ hnew (action s).2
  refine ⟨new ++ later, fun record => ?_, hP⟩
  show recordedNext (recorded (s, record)).1 (recorded (s, record)).2 = _
  rw [hrun, hlater, List.append_assoc]
  rfl

/-- Behind an action that gives nothing and records nothing, made or left
out. -/
theorem Records.behind {P : β → Record → Prop} {c : Prop} [Decidable c]
    {recorded : StateM (σ × Record) Unit} {action : StateM σ Unit}
    {recordedNext : Unit → StateM (σ × Record) β} {next : Unit → StateM σ β}
    (haction : Records (fun _ new => new = []) recorded action)
    (h : Records P (recordedNext ()) (next ())) :
    Records P (if c then recorded >>= recordedNext else recordedNext ())
      (if c then action >>= next else next ()) := by
  split
  · refine haction.bind fun _ new hnew => ?_
    rw [hnew]
    exact h
  · exact h

end

namespace Resolver

variable {σ : Type} (r : Resolver σ)

/-- The resolver with a record of what is asked. -/
def recorded : Resolver (σ × Record) where
  registry := {
    providers := r.registry.providers.map fun (trigger, provider) =>
      (trigger, recordedProvider (some trigger) provider)
    history := r.registry.history.map (recordedProvider none)
    shortcuts := r.registry.shortcuts }
  validator := r.validator.map fun validator url => recording (validator url) (.validation url)
  titles := r.titles.map fun titles url => recording (titles url) (.title url)
  throttle := r.throttle
  pause := fun milliseconds (s, record) => ((), (r.pause milliseconds s).2, record)

/-- What is asked of the outside while a job is resolved. -/
def exchanges (job : Job) (rank : Nat) (s : σ) : Record :=
  (r.recorded.resolve job rank (s, [])).2.2

/-! ## Providers -/

theorem lookup_recorded (trigger : Text) : r.recorded.registry.providers.lookup trigger
    = (r.registry.providers.lookup trigger).map (recordedProvider (some trigger)) := by
  show (r.registry.providers.map _).lookup trigger = _
  induction r.registry.providers with
  | nil => rfl
  | cons entry rest ih =>
    rw [List.map_cons, List.lookup_cons, List.lookup_cons]
    cases hkey : trigger == entry.1 with
    | true => rw [beq_iff_eq.1 hkey]; rfl
    | false => exact ih

/-- The slot of the provider of a built-in trigger. -/
def slotOf (trigger : Text) : Option Text :=
  if (historySources? trigger).isSome then none else some trigger

theorem builtin?_recorded (trigger : Text) : r.recorded.registry.builtin? trigger
    = (r.registry.builtin? trigger).map fun (kind, provider) =>
      (kind, provider.map (recordedProvider (slotOf trigger))) := by
  unfold Registry.builtin? slotOf
  cases historySources? trigger with
  | some sources => rfl
  | none =>
    dsimp only
    rw [lookup_recorded]
    cases Builtin.find? trigger <;> rfl

theorem webProvider_recorded : r.recorded.registry.webProvider
    = r.registry.webProvider.map (recordedProvider (some webTrigger)) :=
  r.lookup_recorded webTrigger

/-! ## Expanding and looking up -/

section

variable (job : Job)

/-- One of the user's own triggers is expanded. -/
theorem expanded_of_shortcut {value : Text}
    (h : r.registry.shortcuts.get? (job.trigger.getD webTrigger) = some value) :
    r.expanded job = ((expandShortcut value job.terms).1, (expandShortcut value job.terms).2,
      if !job.titleize && job.linkText.isEmpty then job.terms else job.linkText) := by
  have hresolve : r.registry.resolve? (job.trigger.getD webTrigger) = some (.shortcut value) := by
    unfold Registry.resolve?
    rw [h]
  unfold expanded
  dsimp only
  rw [hresolve]

/-- Any other trigger stays. -/
theorem expanded_of_none (h : r.registry.shortcuts.get? (job.trigger.getD webTrigger) = none) :
    r.expanded job = (job.trigger.getD webTrigger, job.terms, job.linkText) := by
  have hresolve : r.registry.resolve? (job.trigger.getD webTrigger)
      = (r.registry.builtin? (job.trigger.getD webTrigger)).map fun (kind, provider) =>
        .builtin kind provider := by
    unfold Registry.resolve?
    rw [h]
  unfold expanded
  dsimp only
  rw [hresolve]
  cases r.registry.builtin? (job.trigger.getD webTrigger) <;> rfl

theorem expanded_recorded : r.recorded.expanded job = r.expanded job := by
  cases h : r.registry.shortcuts.get? (job.trigger.getD webTrigger) with
  | some value => rw [r.expanded_of_shortcut job h, r.recorded.expanded_of_shortcut job h]
  | none => rw [r.expanded_of_none job h, r.recorded.expanded_of_none job h]

/-- The two resolvers ask the same provider for the same. -/
theorem target_recorded (trigger terms linkText : Text) :
    ∃ slot, r.recorded.target job trigger terms linkText
      = ((r.target job trigger terms linkText).1,
        (r.target job trigger terms linkText).2.1.map (recordedProvider slot),
        (r.target job trigger terms linkText).2.2) := by
  unfold target
  rw [builtin?_recorded, webProvider_recorded]
  cases r.registry.builtin? trigger with
  | some found =>
    obtain ⟨kind, provider⟩ := found
    cases provider with
    | some provider => exact ⟨slotOf trigger, rfl⟩
    | none => exact ⟨some webTrigger, rfl⟩
  | none =>
    refine ⟨some webTrigger, ?_⟩
    dsimp only [Option.map_none]
    split <;> rfl

/-- What a job leads to: the terms are the URL, or a provider is asked. -/
def pursue : StateM σ Outcome :=
  let (trigger, terms, linkText) := r.expanded job
  let (kind, provider, terms, linkText) := r.target job trigger terms linkText
  if kind = .replace then r.replace job terms linkText
  else match provider with
    | some provider => r.ask job provider trigger kind terms linkText
    | none => return .failure .noResults terms linkText

/-- Terms that are not blank are pursued, possibly behind a pause. -/
theorem resolve_eq {job : Job} (h : Text.isBlankText job.terms = false) (rank : Nat) :
    r.resolve job rank = (if r.throttle.pausesBefore rank = true then
      r.pause r.throttle.delay >>= fun _ => r.pursue job else r.pursue job) := by
  unfold resolve
  refine (if_neg (by simp [h])).trans ?_
  unfold pursue
  obtain ⟨trigger, terms, linkText⟩ := r.expanded job
  dsimp only
  obtain ⟨kind, provider, terms, linkText⟩ := r.target job trigger terms linkText
  cases kind <;> cases provider <;> rfl

end

/-! ## Titles and validations -/

theorem records_pageTitle (url : Text) :
    Records (fun _ new => Record.OnlyTitles new) (r.recorded.pageTitle url) (r.pageTitle url) := by
  unfold pageTitle recorded
  dsimp only
  cases r.titles with
  | none => exact records_pure (by simp [Record.OnlyTitles])
  | some titles =>
    refine (records_recording (titles url) (.title url)).bind fun answer new hnew => ?_
    exact records_pure (by simp [hnew, Record.OnlyTitles, Exchange.isTitle])

theorem records_hitTitle (job : Job) (hit : Hit) :
    Records (fun _ new => Record.OnlyTitles new) (r.recorded.hitTitle job hit)
      (r.hitTitle job hit) := by
  unfold hitTitle
  dsimp only
  split
  · exact r.records_pageTitle hit.url
  · exact records_pure (by simp [Record.OnlyTitles])

/-- What is asked about a link that is to be checked or not, and what is
known about it then. -/
def Checked (check : Bool) (url : Text) (validation : Validation) (new : Record) : Prop :=
  if check && r.validator.isSome then new = [.validation url validation]
  else new = [] ∧ validation = .valid

variable {r} in
theorem Checked.cases {check : Bool} {url : Text} {validation : Validation} {new : Record}
    (h : r.Checked check url validation new) :
    new = [.validation url validation] ∨ new = [] ∧ validation = .valid := by
  unfold Checked at h
  split at h
  · exact .inl h
  · exact .inr h

theorem records_validate (url : Text) :
    Records (r.Checked true url) (r.recorded.validate url) (r.validate url) := by
  unfold validate Checked recorded
  dsimp only
  cases r.validator with
  | none => exact records_pure ⟨rfl, rfl⟩
  | some validator => exact records_recording (validator url) (.validation url)

/-- A validation that is made or left out, and what goes on behind it. -/
theorem records_validated {β : Type} {P : β → Record → Prop} {check : Bool} {url : Text}
    {recordedNext : Validation → StateM (σ × Record) β} {next : Validation → StateM σ β}
    (h : ∀ validation new, r.Checked check url validation new →
      Records (fun b later => P b (new ++ later)) (recordedNext validation) (next validation)) :
    Records P
      (if check then r.recorded.validate url >>= recordedNext
        else pure .valid >>= recordedNext)
      (if check then r.validate url >>= next else pure .valid >>= next) := by
  cases check with
  | true => exact (r.records_validate url).bind h
  | false => exact h .valid [] ⟨rfl, rfl⟩

end Resolver

/-! ## Courses -/

/-- What a provider is asked for a job. -/
def Job.request (job : Job) (trigger : Text) (kind : Kind) (terms linkText : Text) : Request :=
  { trigger, kind, terms, linkText, config := job.config }

/-- The outcome for a URL that was checked. -/
def Outcome.ofUrl (url linkText : Text) (validation : Validation) : Outcome :=
  if validation = .invalid then .failure .notFound ("Link not valid: " ++ url) linkText
  else .found (.ofUrl url linkText)

/-- The outcome for a hit whose link was checked. -/
def Outcome.ofHit (hit : Hit) (kind : Kind) (linkText title : Text) (validation : Validation) :
    Outcome :=
  if validation = .invalid then
    .failed { problem := .notFound, message := hit.url, linkText, notes := hit.notes }
  else .found (.ofHit hit kind linkText title validation)

/-- How a job comes to its outcome, and what is asked on the way. -/
inductive Course {σ : Type} (r : Resolver σ) (job : Job) : Outcome → Record → Prop
  /-- There is nothing to search for, or nobody to ask. -/
  | unasked (problem : Problem) (message linkText : Text) :
      Course r job (.failure problem message linkText) []
  /-- The provider that is asked finds no page. -/
  | unanswered (slot : Option Text) (request : Request)
      (answer : Except ProviderError (Option Hit)) (problem : Problem) (message linkText : Text) :
      Course r job (.failure problem message linkText) [.search slot request answer]
  /-- The terms are the URL. -/
  | replaced {url : Text} (linkText : Text) {validation : Validation} {record : Record}
      (hchecked : r.Checked job.config.validateLinks url validation record) :
      Course r job (.ofUrl url linkText validation) record
  /-- The provider that is asked has a hit. -/
  | settled (slot : Option Text) (request : Request) (hit : Hit) (kind : Kind)
      (linkText title : Text) {validation : Validation} {titles record : Record}
      (htitles : titles.OnlyTitles)
      (hchecked : r.Checked (job.config.validateLinks && hit.form == .link) hit.url validation
        record) :
      Course r job (.ofHit hit kind linkText title validation)
        (.search slot request (.ok (some hit)) :: (titles ++ record))

namespace Resolver

variable {σ : Type} (r : Resolver σ) (job : Job)

theorem records_settle (slot : Option Text) (request : Request) (kind : Kind)
    (terms linkText : Text) (hit : Hit) :
    Records (fun outcome new => Course r job outcome (.search slot request (.ok (some hit)) :: new))
      (r.recorded.settle job kind terms linkText hit) (r.settle job kind terms linkText hit) := by
  unfold settle
  refine (r.records_hitTitle job hit).bind fun title titles htitles => ?_
  refine r.records_validated fun validation new hchecked => ?_
  have hcourse : Course r job _ _ := .settled slot request hit kind
    (hit.shownText job terms linkText title) title htitles hchecked
  unfold Outcome.ofHit at hcourse
  dsimp only
  split
  · next hinvalid =>
    rw [if_pos hinvalid] at hcourse
    exact records_pure (by rwa [List.append_nil])
  · next hvalid =>
    rw [if_neg hvalid] at hcourse
    exact records_pure (by rwa [List.append_nil])

/-- Where the terms are the URL, nothing but the link is asked about. -/
theorem records_replace (url linkText : Text) :
    Records (fun outcome new => ∃ validation,
        r.Checked job.config.validateLinks url validation new
          ∧ outcome = .ofUrl url linkText validation)
      (r.recorded.replace job url linkText) (r.replace job url linkText) := by
  unfold replace
  refine r.records_validated fun validation new hchecked => ?_
  rw [← List.append_nil new] at hchecked
  unfold Outcome.ofUrl
  dsimp only
  split
  · next hinvalid => exact records_pure ⟨validation, hchecked, (if_pos hinvalid).symm⟩
  · next hvalid => exact records_pure ⟨validation, hchecked, (if_neg hvalid).symm⟩

/-- A provider is asked first. -/
theorem records_ask (slot : Option Text) (provider : Provider σ) (trigger : Text) (kind : Kind)
    (terms linkText : Text) :
    Records (fun outcome new => Course r job outcome new ∧ ∃ answer later,
        new = .search slot (job.request trigger kind terms linkText) answer :: later)
      (r.recorded.ask job (recordedProvider slot provider) trigger kind terms linkText)
      (r.ask job provider trigger kind terms linkText) := by
  unfold ask
  refine (records_recording (provider _) (.search slot _)).bind fun answer new hnew => ?_
  subst hnew
  have hunanswered : ∀ message, Course r job (.failure .noResults message linkText)
      [.search slot (job.request trigger kind terms linkText) answer] :=
    fun message => .unanswered ..
  split
  · next hit =>
    split
    · exact records_pure ⟨hunanswered terms, _, _, rfl⟩
    · exact (r.records_settle job slot (job.request trigger kind terms linkText) kind terms linkText
        hit).mono fun outcome later h => ⟨h, _, _, rfl⟩
  · next message => exact records_pure ⟨hunanswered message, _, _, rfl⟩
  · exact records_pure ⟨hunanswered terms, _, _, rfl⟩
  · exact records_pure ⟨hunanswered terms, _, _, rfl⟩

theorem records_pursue : Records (Course r job) (r.recorded.pursue job) (r.pursue job) := by
  obtain ⟨slot, htarget⟩ :=
    r.target_recorded job (r.expanded job).1 (r.expanded job).2.1 (r.expanded job).2.2
  unfold pursue
  rw [r.expanded_recorded job]
  dsimp only
  rw [htarget]
  obtain ⟨kind, provider, terms, linkText⟩ :=
    r.target job (r.expanded job).1 (r.expanded job).2.1 (r.expanded job).2.2
  dsimp only
  split
  · refine (r.records_replace job terms linkText).mono fun outcome new h => ?_
    obtain ⟨validation, hchecked, rfl⟩ := h
    exact .replaced linkText hchecked
  · cases provider with
    | none => exact records_pure (.unasked ..)
    | some provider =>
      exact (r.records_ask job slot provider (r.expanded job).1 kind terms linkText).mono
        fun outcome new h => h.1

/-- A pursuit is recorded as the whole search is. -/
theorem records_resolve_of_pursue {P : Outcome → Record → Prop} {job : Job}
    (hblank : Text.isBlankText job.terms = false)
    (h : Records P (r.recorded.pursue job) (r.pursue job)) (rank : Nat) :
    Records P (r.recorded.resolve job rank) (r.resolve job rank) := by
  rw [r.resolve_eq hblank, r.recorded.resolve_eq hblank]
  refine Records.behind (fun s => ⟨[], fun record => ?_, rfl⟩) h
  rw [List.append_nil]
  rfl

theorem records_resolve (rank : Nat) :
    Records (Course r job) (r.recorded.resolve job rank) (r.resolve job rank) := by
  cases hblank : Text.isBlankText job.terms with
  | false => exact r.records_resolve_of_pursue hblank (r.records_pursue job) rank
  | true =>
    unfold resolve
    rw [if_pos hblank, if_pos hblank]
    exact records_pure (.unasked ..)

variable {r job} in
/-- What holds of all records of a search holds of its exchanges. -/
theorem exchanges_of_records {P : Outcome → Record → Prop} {rank : Nat}
    (h : Records P (r.recorded.resolve job rank) (r.resolve job rank)) (s : σ) :
    P (r.resolve job rank s).1 (r.exchanges job rank s) := by
  obtain ⟨new, hrun, hnew⟩ := h s
  unfold Resolver.exchanges
  rw [hrun []]
  exact hnew

/-- **The record changes nothing.** It has the outcome and the state of the
search, and what is asked at its end. -/
theorem recorded_resolve (rank : Nat) (s : σ) (record : Record) :
    r.recorded.resolve job rank (s, record)
      = ((r.resolve job rank s).1, (r.resolve job rank s).2, record ++ r.exchanges job rank s) := by
  obtain ⟨new, hrun, -⟩ := r.records_resolve job rank s
  have hnew : r.exchanges job rank s = new := by
    unfold exchanges
    rw [hrun []]
    rfl
  rw [hnew]
  exact hrun record

/-- **There is no other course.** -/
theorem course_exchanges (rank : Nat) (s : σ) :
    Course r job (r.resolve job rank s).1 (r.exchanges job rank s) :=
  exchanges_of_records (r.records_resolve job rank) s

end Resolver

end InlineSearch.Search
