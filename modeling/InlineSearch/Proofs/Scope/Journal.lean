/-
InlineSearch.Proofs.Scope.Journal — an account of what is done to a scope.

Scopes may be opened inside one another, flags come and go, options are set
for good in between, and a scope may be closed by the depth that any scope
before it was opened at. A `Journal` keeps account of such a history without
a configuration: it lists the settings that fit their options and the flags,
each with the number of scopes that were open around it, and closing scopes
strikes out what they hold. `Follows` says that the frames of a scope agree
with a journal at every depth. Each step keeps that (`Follows.step`), unless it
sets an option to a value that does not fit while a flag of an open scope has
switched it: the journal does not admit that.
-/
import InlineSearch.Proofs.Directive.Flag
import InlineSearch.Proofs.Scope.Restore
import Mathlib.Data.Option.Basic

namespace InlineSearch

/-! ## The options of inline flags -/

namespace Directive.Flag

open Config (Key)

/-- An inline flag switches one of the options that flags may switch. -/
theorem mem_flags_of_mem_inText {t : Text} {flag : Flag} (h : flag ∈ inText t) :
    flag.1 ∈ Key.flags := by
  obtain ⟨_, hflags, hflag⟩ := List.mem_flatten.1 h
  obtain ⟨-, form, -, -, -, rfl⟩ := exists_of_mem_hits hflags
  exact Form.mem_flags_of_mem hflag

/-- Each of these options can be switched on and off. -/
theorem exists_inText_eq {key : Key} (h : key ∈ Key.flags) (on : Bool) :
    ∃ t : Text, inText t = [(key, on)] := by
  refine ⟨(if on then "--" else "--no-" : String).toList ++ key.name, ?_⟩
  revert h on
  cases key <;> decide +kernel

end Directive.Flag

namespace Scope

open Config (Key Value)

/-! ## Histories -/

/-- What can be done to a scope. -/
inductive Step where
  /-- Opens a scope. -/
  | openLine
  /-- Opens a scope, and applies the flags of a line to it. -/
  | openFlagged (line : Text)
  /-- Applies the flags of a text. -/
  | applyFlags (text : Text)
  /-- Sets an option for good, to a value of either shape. -/
  | setForGood (key : Key) (value : Value)
  /-- Takes a line as an option line, if it is one. -/
  | assign (line : Text)
  /-- Closes scopes until `depth` of them are open. The depth is that of any
  scope that has been opened, the last one or not, and still open or not. -/
  | restore (depth : Nat)
deriving DecidableEq, Repr

/-- The scope after a step. -/
def step (s : Scope) : Step → Scope
  | .openLine => s.openLine
  | .openFlagged line => s.openLine.setFlags (Directive.Flag.inText line)
  | .applyFlags text => s.setFlags (Directive.Flag.inText text)
  | .setForGood key value => s.setForGood key value
  | .assign line =>
    match Directive.assignment? line with
    | some (key, value) => s.setForGood key value
    | none => s
  | .restore depth => s.restore depth

/-- The scope after steps. -/
def run (s : Scope) (steps : List Step) : Scope := steps.foldl step s

/-- The setting that a step makes for good, whether or not it fits. -/
def Step.setting? : Step → Option (Key × Value)
  | .setForGood key value => some (key, value)
  | .assign line => Directive.assignment? line
  | _ => none

/-- Whether a step gives an option a value that does not fit it. -/
def Step.misfits (step : Step) : Bool :=
  step.setting?.any fun (key, value) => !decide (value.Fits key)

/-- The settings of a history that fit their options, in their order. -/
def kept (steps : List Step) : List (Key × Value) :=
  (steps.filterMap Step.setting?).filter fun (key, value) => decide (value.Fits key)

/-! ## Journals -/

/-- A setting or a flag, with the number of scopes that it stands in. What is
set for good stands in none. -/
structure Entry where
  level : Nat
  key : Key
  value : Value

/-- The number of open scopes, and what is in force with them, in the order
in which it was written. -/
structure Journal where
  depth : Nat := 0
  entries : List Entry := []

namespace Journal

/-- What is in force. -/
def settings (j : Journal) : List (Key × Value) := j.entries.map fun e => (e.key, e.value)

/-- A flag in an open scope switches an option. -/
def Switches (j : Journal) (key : Key) : Prop := ∃ e ∈ j.entries, 0 < e.level ∧ e.key = key

/-- One more scope is open. -/
def opened (j : Journal) : Journal := { j with depth := j.depth + 1 }

/-- Flags as entries. -/
def ofFlags (level : Nat) (flags : List Directive.Flag) : List Entry :=
  flags.map fun flag => ⟨level, flag.1, .flag flag.2⟩

/-- With flags in the innermost scope, if one is open. -/
def switched (j : Journal) (flags : List Directive.Flag) : Journal :=
  if j.depth = 0 then j else { j with entries := j.entries ++ ofFlags j.depth flags }

/-- With an option set for good, if the value fits. -/
def fixed (j : Journal) (key : Key) (value : Value) : Journal :=
  if value.Fits key then { j with entries := j.entries ++ [⟨0, key, value⟩] } else j

/-- With no more than `depth` scopes open, and without what the others
hold. -/
def upTo (j : Journal) (depth : Nat) : Journal where
  depth := min j.depth depth
  entries := j.entries.filter (·.level ≤ depth)

/-- The journal after a step. -/
def step (j : Journal) : Step → Journal
  | .openLine => j.opened
  | .openFlagged line => j.opened.switched (Directive.Flag.inText line)
  | .applyFlags text => j.switched (Directive.Flag.inText text)
  | .setForGood key value => j.fixed key value
  | .assign line =>
    match Directive.assignment? line with
    | some (key, value) => j.fixed key value
    | none => j
  | .restore depth => j.upTo depth

/-- The journal after steps. -/
def run (j : Journal) (steps : List Step) : Journal := steps.foldl step j

/-- A step sets no option that a flag of an open scope has switched to a value
that does not fit. -/
def Admits (j : Journal) (step : Step) : Prop :=
  ∀ key value, step.setting? = some (key, value) → value.Fits key ∨ ¬ j.Switches key

instance (j : Journal) (key : Key) : Decidable (j.Switches key) :=
  inferInstanceAs (Decidable (∃ e ∈ j.entries, 0 < e.level ∧ e.key = key))

instance (j : Journal) (step : Step) : Decidable (j.Admits step) :=
  decidable_of_iff (∀ setting ∈ step.setting?, setting.2.Fits setting.1 ∨ ¬ j.Switches setting.1)
    ⟨fun h key value => h (key, value), fun h setting => h setting.1 setting.2⟩

/-- Each step of a history is admitted by the journal of the steps before. -/
def AdmitsAll (j : Journal) : List Step → Prop
  | [] => True
  | first :: rest => j.Admits first ∧ (j.step first).AdmitsAll rest

instance decidableAdmitsAll : (j : Journal) → (steps : List Step) → Decidable (j.AdmitsAll steps)
  | _, [] => inferInstanceAs (Decidable True)
  | j, first :: rest =>
    have : Decidable ((j.step first).AdmitsAll rest) := decidableAdmitsAll _ rest
    inferInstanceAs (Decidable (_ ∧ _))

theorem upTo_of_le {j : Journal} (hlevels : ∀ e ∈ j.entries, e.level ≤ j.depth)
    {depth : Nat} (h : j.depth ≤ depth) : j.upTo depth = j := by
  have hentries : j.entries.filter (·.level ≤ depth) = j.entries :=
    List.filter_eq_self.2 fun e he => decide_eq_true (Nat.le_trans (hlevels e he) h)
  unfold upTo
  rw [hentries, Nat.min_eq_left h]

theorem settings_ofFlags (level : Nat) (flags : List Directive.Flag) :
    (ofFlags level flags).map (fun e => (e.key, e.value))
      = flags.map fun (key, on) => (key, .flag on) :=
  List.map_map

theorem switched_of_open {j : Journal} (h : 0 < j.depth) (flags : List Directive.Flag) :
    j.switched flags = { j with entries := j.entries ++ ofFlags j.depth flags } :=
  if_neg (Nat.ne_of_gt h)

theorem upTo_switched {j : Journal} {depth : Nat} (h : depth < j.depth)
    (flags : List Directive.Flag) : (j.switched flags).upTo depth = j.upTo depth := by
  have hnone : (ofFlags j.depth flags).filter (·.level ≤ depth) = [] := by
    refine List.filter_eq_nil_iff.2 fun e he => ?_
    obtain ⟨flag, -, rfl⟩ := List.mem_map.1 he
    simpa using h
  rw [switched_of_open (Nat.zero_lt_of_lt h)]
  unfold upTo
  rw [List.filter_append, hnone, List.append_nil]

theorem switches_switched {j : Journal} (h : 0 < j.depth) (flags : List Directive.Flag)
    (key : Key) :
    (j.switched flags).Switches key ↔ j.Switches key ∨ ∃ flag ∈ flags, flag.1 = key := by
  rw [switched_of_open h]
  constructor
  · rintro ⟨e, he, hlevel, hkey⟩
    rcases List.mem_append.1 he with he | he
    · exact .inl ⟨e, he, hlevel, hkey⟩
    · obtain ⟨flag, hflag, rfl⟩ := List.mem_map.1 he
      exact .inr ⟨flag, hflag, hkey⟩
  · rintro (⟨e, he, hlevel, hkey⟩ | ⟨flag, hflag, hkey⟩)
    · exact ⟨e, List.mem_append_left _ he, hlevel, hkey⟩
    · exact ⟨_, List.mem_append_right _ (List.mem_map_of_mem hflag), h, hkey⟩

theorem upTo_upTo (j : Journal) (depth depth' : Nat) :
    (j.upTo depth).upTo depth' = j.upTo (min depth depth') := by
  unfold upTo
  rw [List.filter_filter, Nat.min_assoc]
  congr 1
  refine List.filter_congr fun e _ => ?_
  rw [← Bool.decide_and, decide_eq_decide]
  omega

end Journal

theorem kept_append (steps later : List Step) :
    kept (steps ++ later) = kept steps ++ kept later := by
  unfold kept
  rw [List.filterMap_append, List.filter_append]

theorem step_of_setting {st : Step} {key : Key} {value : Value}
    (h : st.setting? = some (key, value)) (s : Scope) (j : Journal) :
    s.step st = s.setForGood key value ∧ j.step st = j.fixed key value := by
  cases st with
  | setForGood key' value' =>
    obtain ⟨rfl, rfl⟩ := Prod.mk.inj (Option.some.inj h)
    exact ⟨rfl, rfl⟩
  | assign line =>
    have hline : Directive.assignment? line = some (key, value) := h
    unfold Scope.step Journal.step
    simp only [hline, and_self]
  | _ => cases h

theorem exists_of_misfits {st : Step} (h : st.misfits = true) :
    ∃ key value, st.setting? = some (key, value) ∧ ¬ value.Fits key := by
  unfold Step.misfits at h
  cases hsetting : st.setting? with
  | none => simp [hsetting] at h
  | some setting => exact ⟨setting.1, setting.2, rfl, by simpa [hsetting] using h⟩

/-! ## What journals keep -/

namespace Journal

theorem settings_fixed (j : Journal) (key : Key) (value : Value) :
    ((j.fixed key value).upTo 0).settings
      = (j.upTo 0).settings ++ kept [.setForGood key value] := by
  unfold fixed
  split
  · next hvalue => simp [upTo, settings, kept, Step.setting?, hvalue]
  · next hvalue => simp [kept, Step.setting?, hvalue]

theorem upTo_zero_switched (j : Journal) (flags : List Directive.Flag) :
    (j.switched flags).upTo 0 = j.upTo 0 := by
  by_cases hopen : 0 < j.depth
  · exact upTo_switched hopen flags
  · rw [switched, if_pos (Nat.eq_zero_of_not_pos hopen)]

/-- Outside of all scopes there are the settings that fit. -/
theorem settings_step (j : Journal) (st : Step) :
    ((j.step st).upTo 0).settings = (j.upTo 0).settings ++ kept [st] := by
  cases st with
  | openLine => exact (List.append_nil _).symm
  | openFlagged line =>
    show ((j.opened.switched _).upTo 0).settings = _
    rw [upTo_zero_switched]
    exact (List.append_nil _).symm
  | applyFlags text =>
    show ((j.switched _).upTo 0).settings = _
    rw [upTo_zero_switched]
    exact (List.append_nil _).symm
  | setForGood key value => exact settings_fixed j key value
  | assign line =>
    cases hline : Directive.assignment? line with
    | some setting =>
      have hkept : kept [.assign line] = kept [.setForGood setting.1 setting.2] := by
        simp [kept, Step.setting?, hline]
      have hsetting : (Step.assign line).setting? = some (setting.1, setting.2) := hline
      rw [(step_of_setting hsetting { config := {} } j).2, settings_fixed, hkept]
    | none =>
      have hkept : kept [.assign line] = [] := by simp [kept, Step.setting?, hline]
      have hsame : j.step (.assign line) = j := by simp [step, hline]
      rw [hsame, hkept, List.append_nil]
  | restore depth =>
    show ((j.upTo depth).upTo 0).settings = _
    rw [upTo_upTo, Nat.min_zero]
    exact (List.append_nil _).symm

theorem settings_run (j : Journal) (steps : List Step) :
    ((j.run steps).upTo 0).settings = (j.upTo 0).settings ++ kept steps := by
  induction steps generalizing j with
  | nil => exact (List.append_nil _).symm
  | cons st steps ih =>
    show (((j.step st).run steps).upTo 0).settings = _
    rw [ih, settings_step, List.append_assoc, ← kept_append, List.singleton_append]

theorem admitsAll_append {j : Journal} {steps later : List Step} :
    j.AdmitsAll (steps ++ later) ↔ j.AdmitsAll steps ∧ (j.run steps).AdmitsAll later := by
  induction steps generalizing j with
  | nil => exact ⟨fun h => ⟨trivial, h⟩, And.right⟩
  | cons st steps ih =>
    show j.Admits st ∧ (j.step st).AdmitsAll (steps ++ later) ↔ _
    rw [ih, ← and_assoc]
    rfl

/-- Steps that set nothing are always admitted. -/
theorem admitsAll_of_settingless (j : Journal) {steps : List Step}
    (h : ∀ st ∈ steps, st.setting? = none) : j.AdmitsAll steps := by
  induction steps generalizing j with
  | nil => trivial
  | cons st steps ih =>
    refine ⟨fun key value hsetting => ?_, ih _ fun st' hst' => h st' (List.mem_cons_of_mem _ hst')⟩
    rw [h st (List.mem_cons_self ..)] at hsetting
    cases hsetting

/-- The first step that is not admitted. -/
theorem exists_of_not_admitsAll {j : Journal} {steps : List Step} (h : ¬ j.AdmitsAll steps) :
    ∃ before st rest, steps = before ++ st :: rest ∧ j.AdmitsAll before
      ∧ ¬ (j.run before).Admits st := by
  induction steps generalizing j with
  | nil => exact absurd trivial h
  | cons st steps ih =>
    by_cases hfirst : j.Admits st
    · obtain ⟨before, st', rest, rfl, hbefore, hst'⟩ := ih fun hrest => h ⟨hfirst, hrest⟩
      exact ⟨st :: before, st', rest, rfl, ⟨hfirst, hbefore⟩, hst'⟩
    · exact ⟨[], st, steps, rfl, trivial, hfirst⟩

/-- The options that open scopes switch are among those that flags may. -/
def Permitted (j : Journal) : Prop := ∀ e ∈ j.entries, 0 < e.level → e.key ∈ Key.flags

theorem Permitted.switched {j : Journal} (h : j.Permitted) (t : Text) :
    (j.switched (Directive.Flag.inText t)).Permitted := by
  intro e he hlevel
  unfold Journal.switched at he
  split at he
  · exact h e he hlevel
  · rcases List.mem_append.1 he with he | he
    · exact h e he hlevel
    · obtain ⟨flag, hflag, rfl⟩ := List.mem_map.1 he
      exact Directive.Flag.mem_flags_of_mem_inText hflag

theorem Permitted.fixed {j : Journal} (h : j.Permitted) (key : Key) (value : Value) :
    (j.fixed key value).Permitted := by
  intro e he hlevel
  unfold Journal.fixed at he
  split at he
  · rcases List.mem_append.1 he with he | he
    · exact h e he hlevel
    · rw [List.mem_singleton.1 he] at hlevel
      exact absurd hlevel (Nat.lt_irrefl 0)
  · exact h e he hlevel

theorem Permitted.step {j : Journal} (h : j.Permitted) (st : Step) : (j.step st).Permitted := by
  cases st with
  | openLine => exact h
  | openFlagged line => exact switched (j := j.opened) h line
  | applyFlags text => exact h.switched text
  | setForGood key value => exact h.fixed key value
  | assign line =>
    unfold Journal.step
    dsimp only
    split
    · exact h.fixed _ _
    · exact h
  | restore depth => exact fun e he => h e (List.mem_filter.1 he).1

theorem Permitted.run {j : Journal} (h : j.Permitted) (steps : List Step) :
    (j.run steps).Permitted := by
  induction steps generalizing j with
  | nil => exact h
  | cons st steps ih => exact ih (h.step st)

/-- Flags switch no options but those that they may. -/
theorem mem_flags_of_switches {steps : List Step} {key : Key}
    (h : (run {} steps).Switches key) : key ∈ Key.flags := by
  have hnone : Permitted {} := by simp [Permitted]
  obtain ⟨e, he, hlevel, rfl⟩ := h
  exact hnone.run steps e he hlevel

end Journal

/-! ## Scopes and journals -/

/-- A scope agrees with a journal at every depth: closing as many scopes of
both leaves a configuration with what is in force, and recorded values of the
options that flags still switch. -/
structure Follows (start : Config) (s : Scope) (j : Journal) : Prop where
  depth : s.depth = j.depth
  levels : ∀ e ∈ j.entries, e.level ≤ j.depth
  fits : ∀ frame ∈ s.frames, Frame.Fits frame
  config : ∀ depth, (s.restore depth).config = start.withSettings (j.upTo depth).settings
  records : ∀ depth key, (s.restore depth).Records key ↔ (j.upTo depth).Switches key

namespace Follows

variable {start : Config} {s : Scope} {j : Journal}

/-- A scope that has not been touched. -/
theorem untouched (start : Config) : Follows start { config := start } {} where
  depth := rfl
  levels := by simp
  fits := by simp
  config depth := by rw [restore_nil]; rfl
  records depth key := by
    rw [restore_nil]
    simp [Records, Journal.Switches, Journal.upTo]

theorem config_eq (h : Follows start s j) : s.config = start.withSettings j.settings := by
  have hconfig := h.config j.depth
  rwa [Journal.upTo_of_le h.levels (Nat.le_refl _), restore_of_le (Nat.le_of_eq h.depth)]
    at hconfig

theorem records_iff (h : Follows start s j) (key : Key) : s.Records key ↔ j.Switches key := by
  have hrecords := h.records j.depth key
  rwa [Journal.upTo_of_le h.levels (Nat.le_refl _), restore_of_le (Nat.le_of_eq h.depth)]
    at hrecords

theorem openLine (h : Follows start s j) : Follows start s.openLine j.opened := by
  have hback : ∀ depth, depth ≤ s.depth → s.openLine.restore depth = s.restore depth :=
    fun depth hle => restore_cons hle
  have hover : ∀ depth, s.depth < depth → s.openLine.restore depth = s.openLine :=
    fun depth hlt => restore_of_le hlt
  have hup : ∀ depth, (j.opened.upTo depth).entries = (j.upTo depth).entries := fun _ => rfl
  refine ⟨congrArg (· + 1) h.depth, fun e he => Nat.le_succ_of_le (h.levels e he), ?_, ?_, ?_⟩
  · intro frame hframe
    rcases List.mem_cons.1 hframe with rfl | hframe
    · simp [Frame.Fits]
    · exact h.fits frame hframe
  · intro depth
    rw [Journal.settings, hup, ← Journal.settings, ← h.config]
    by_cases hle : depth ≤ s.depth
    · rw [hback depth hle]
    · rw [hover depth (by omega), restore_of_le (Nat.le_of_lt (by omega))]
      rfl
  · intro depth key
    rw [Journal.Switches, hup, ← Journal.Switches, ← h.records]
    by_cases hle : depth ≤ s.depth
    · rw [hback depth hle]
    · rw [hover depth (by omega), restore_of_le (Nat.le_of_lt (by omega))]
      simp [Records, Scope.openLine]

theorem restore (h : Follows start s j) (depth : Nat) :
    Follows start (s.restore depth) (j.upTo depth) := by
  refine ⟨?_, ?_, ?_, ?_, ?_⟩
  · rw [depth_restore, h.depth]
    rfl
  · intro e he
    obtain ⟨hmem, hlevel⟩ := List.mem_filter.1 he
    exact Nat.le_min.2 ⟨h.levels e hmem, of_decide_eq_true hlevel⟩
  · intro frame hframe
    exact h.fits frame (List.mem_of_mem_drop hframe)
  · intro depth'
    rw [restore_restore, Journal.upTo_upTo, h.config]
  · intro depth' key
    rw [restore_restore, Journal.upTo_upTo, h.records]

/-- A setting that fits. -/
theorem setForGood (h : Follows start s j) {key : Key} {value : Value} (hvalue : value.Fits key) :
    Follows start (s.setForGood key value) (j.fixed key value) := by
  have hfixed : j.fixed key value = { j with entries := j.entries ++ [⟨0, key, value⟩] } :=
    if_pos hvalue
  have hup : ∀ depth, ((j.fixed key value).upTo depth).entries
      = (j.upTo depth).entries ++ [⟨0, key, value⟩] := by
    intro depth
    rw [hfixed]
    simp [Journal.upTo]
  rw [hfixed] at hup ⊢
  refine ⟨?_, ?_, ?_, ?_, ?_⟩
  · rw [← h.depth]
    exact List.length_map ..
  · intro e he
    rcases List.mem_append.1 he with he | he
    · exact h.levels e he
    · rw [List.mem_singleton.1 he]
      exact Nat.zero_le _
  · intro _ hset
    obtain ⟨frame, hframe, rfl⟩ := List.mem_map.1 hset
    exact fits_overwrite (h.fits frame hframe) hvalue
  · intro depth
    rw [restore_setForGood s hvalue, Journal.settings, hup, List.map_append,
      Config.withSettings_append, ← Journal.settings, ← h.config]
    rfl
  · intro depth other
    rw [restore_setForGood s hvalue, records_setForGood, h.records, Journal.Switches,
      Journal.Switches, hup]
    simp

/-- A setting that does not fit, of an option that no flag switches. -/
theorem misfit (h : Follows start s j) {key : Key} {value : Value} (hvalue : ¬ value.Fits key)
    (hswitches : ¬ j.Switches key) :
    s.setForGood key value = s ∧ j.fixed key value = j :=
  ⟨setForGood_misfit hvalue (mt (h.records_iff key).1 hswitches), if_neg hvalue⟩

theorem setFlags (h : Follows start s j) (flags : List Directive.Flag) :
    Follows start (s.setFlags flags) (j.switched flags) := by
  by_cases hopen : 0 < j.depth
  · have hdepth : (s.setFlags flags).depth = j.depth := (depth_setFlags flags s).trans h.depth
    have hnew := Journal.switched_of_open hopen flags
    have hlevels : ∀ e ∈ (j.switched flags).entries, e.level ≤ (j.switched flags).depth := by
      intro e he
      rw [hnew] at he ⊢
      rcases List.mem_append.1 he with he | he
      · exact h.levels e he
      · obtain ⟨flag, -, rfl⟩ := List.mem_map.1 he
        exact Nat.le_refl _
    -- Below the innermost scope the flags are closed, elsewhere they are in force.
    have habove : ∀ depth, ¬ depth < j.depth → (s.setFlags flags).restore depth = s.setFlags flags
        ∧ (j.switched flags).upTo depth = j.switched flags := by
      intro depth hle
      refine ⟨restore_of_le (by omega), Journal.upTo_of_le hlevels ?_⟩
      rw [hnew]
      exact Nat.le_of_not_lt hle
    refine ⟨by rw [hdepth, hnew], hlevels, fits_setFlags h.fits flags, ?_, ?_⟩
    · intro depth
      by_cases hlt : depth < j.depth
      · rw [restore_setFlags h.fits flags (h.depth ▸ hlt), Journal.upTo_switched hlt, h.config]
      · rw [(habove depth hlt).1, (habove depth hlt).2, config_setFlags flags (h.depth ▸ hopen),
          h.config_eq, Config.withFlags_eq, ← Config.withSettings_append,
          ← Journal.settings_ofFlags j.depth, hnew, Journal.settings, Journal.settings,
          List.map_append]
    · intro depth key
      by_cases hlt : depth < j.depth
      · rw [restore_setFlags h.fits flags (h.depth ▸ hlt), Journal.upTo_switched hlt, h.records]
      · rw [(habove depth hlt).1, (habove depth hlt).2, Journal.switches_switched hopen,
          records_setFlags h.fits flags (h.depth ▸ hopen), h.records_iff]
  · -- Outside of all scopes flags have no effect.
    have hclosed : s.frames = [] := by
      rw [← List.length_eq_zero_iff]
      exact h.depth.trans (Nat.eq_zero_of_not_pos hopen)
    have hsame : s.setFlags flags = s := by
      unfold Scope.setFlags
      rw [hclosed]
    rw [hsame, Journal.switched, if_pos (Nat.eq_zero_of_not_pos hopen)]
    exact h

/-- A setting that a journal admits. -/
theorem admitted (h : Follows start s j) {key : Key} {value : Value}
    (hadmits : value.Fits key ∨ ¬ j.Switches key) :
    Follows start (s.setForGood key value) (j.fixed key value) := by
  by_cases hvalue : value.Fits key
  · exact h.setForGood hvalue
  · obtain ⟨hs, hj⟩ := h.misfit hvalue (hadmits.resolve_left hvalue)
    rwa [hs, hj]

/-- A scope goes on to follow its journal, as long as that admits the steps. -/
theorem step (h : Follows start s j) {st : Step} (hadmits : j.Admits st) :
    Follows start (s.step st) (j.step st) := by
  cases st with
  | openLine => exact h.openLine
  | openFlagged line => exact h.openLine.setFlags _
  | applyFlags text => exact h.setFlags _
  | setForGood key value => exact h.admitted (hadmits key value rfl)
  | assign line =>
    unfold Scope.step Journal.step
    dsimp only
    split
    · next key value hline => exact h.admitted (hadmits key value hline)
    · exact h
  | restore depth => exact h.restore depth

theorem run (h : Follows start s j) {steps : List Step} (hclean : j.AdmitsAll steps) :
    Follows start (s.run steps) (j.run steps) := by
  induction steps generalizing s j with
  | nil => exact h
  | cons st steps ih => exact ih (h.step hclean.1) hclean.2

end Follows

/-- What does not fit makes no difference. -/
theorem Follows.run_filter {start : Config} {s : Scope} {j : Journal} (h : Follows start s j)
    {steps : List Step} (hclean : j.AdmitsAll steps) :
    s.run (steps.filter (!·.misfits)) = s.run steps := by
  induction steps generalizing s j with
  | nil => rfl
  | cons st steps ih =>
    obtain ⟨hfirst, hrest⟩ := hclean
    rw [List.filter_cons]
    split
    · exact ih (h.step hfirst) hrest
    · next hmisfits =>
      have hany : st.misfits = true := by simpa using hmisfits
      obtain ⟨key, value, hsetting, hvalue⟩ := exists_of_misfits hany
      obtain ⟨hs, hj⟩ := step_of_setting hsetting s j
      obtain ⟨hs', hj'⟩ := h.misfit hvalue ((hfirst key value hsetting).resolve_left hvalue)
      have hsame : s.run (st :: steps) = s.run steps := congrArg (Scope.run · steps) (hs.trans hs')
      rw [hj, hj'] at hrest
      rw [hsame]
      exact ih h hrest

end Scope

end InlineSearch
