/-
InlineSearch.Proofs.Scope.History — what remains of a scope after any history.

A setting that does not fit its option is recorded in place of the value to put
back, where an open scope has switched the option, and so the flag stays. A
history without such a setting is `Clean`: it leaves what was set for good, and
nothing else (`Clean.restores`). `restores_iff` says that no other history can
be relied on for that, whichever flags and scopes come after it.
-/
import InlineSearch.Proofs.Scope.Journal

namespace InlineSearch

namespace Directive

open Config (Key Value)

theorem fits_of_read? {key : Key} {raw : Text} {value : Value}
    (h : Value.read? key raw = some value) : value.Fits key := by
  unfold Value.read? at h
  dsimp only at h
  split at h
  · next hflag =>
    split at h
    · rw [← Option.some.inj h]
      exact hflag
    · split at h
      · rw [← Option.some.inj h]
        exact hflag
      · simp at h
  · next hflag =>
    rw [← Option.some.inj h]
    exact eq_false_of_ne_true hflag

/-- An option line gives its option a value that fits. -/
theorem fits_of_assignment? {line : Text} {key : Key} {value : Value}
    (h : assignment? line = some (key, value)) : value.Fits key := by
  rw [assignment?] at h
  simp only [Option.bind_eq_bind, Option.bind_eq_some_iff] at h
  obtain ⟨_, _, _, _, _, _, h⟩ := h
  split at h
  · simp only [Option.bind_eq_some_iff, Option.pure_def, Option.some.injEq, Prod.mk.injEq] at h
    obtain ⟨_, hvalue, rfl, rfl⟩ := h
    exact fits_of_read? hvalue
  · simp at h

end Directive

namespace Scope

open Config (Key Value)

/-! ## Clean histories -/

/-- What is in force after a history: the settings that fit, and the flags of
scopes that are still open. -/
def inForce (steps : List Step) : List (Key × Value) := (Journal.run {} steps).settings

/-- No step sets an option to a value that does not fit while a flag of an open
scope has switched it. -/
def Clean (steps : List Step) : Prop := Journal.AdmitsAll {} steps

instance (steps : List Step) : Decidable (Clean steps) :=
  inferInstanceAs (Decidable (Journal.AdmitsAll {} steps))

/-- After a history the configuration is the one that the history began with,
changed by what was set for good, and by no flag of a scope that was closed. -/
structure Restores (start : Config) (steps : List Step) : Prop where
  /-- With every scope closed, there are the settings alone. -/
  settled : (run { config := start } steps).settled = start.withSettings (kept steps)
  /-- So it is where no scope is open. -/
  at_rest : (run { config := start } steps).frames = [] →
    (run { config := start } steps).config = start.withSettings (kept steps)
  /-- In between there are the flags of open scopes besides. -/
  in_force : (run { config := start } steps).config = start.withSettings (inForce steps)
  /-- A value that does not fit makes no difference, now or later. -/
  misfits : run { config := start } (steps.filter (!·.misfits)) = run { config := start } steps

/-- Option lines set nothing that does not fit. -/
theorem misfits_assign (line : Text) : (Step.assign line).misfits = false := by
  refine eq_false_of_ne_true fun h => ?_
  obtain ⟨key, value, hline, hvalue⟩ := exists_of_misfits h
  exact hvalue (Directive.fits_of_assignment? hline)

/-- Histories without values that do not fit are clean, those of option lines
and flags among them. -/
theorem clean_of_fitting {steps : List Step} (h : ∀ st ∈ steps, st.misfits = false) :
    Clean steps := by
  have hadmits : ∀ j : Journal, j.AdmitsAll steps := by
    induction steps with
    | nil => exact fun _ => trivial
    | cons st steps ih =>
      intro j
      refine ⟨fun key value hsetting => .inl ?_, ih (fun st' hst' => h st' (.tail _ hst')) _⟩
      have hfits := h st (.head _)
      simpa [Step.misfits, hsetting] using hfits
  exact hadmits {}

/-- A clean history restores. -/
theorem Clean.restores {steps : List Step} (h : Clean steps) (start : Config) :
    Restores start steps := by
  have hfollows : Follows start (run { config := start } steps) (Journal.run {} steps) :=
    (Follows.untouched start).run h
  have hsettled : (run { config := start } steps).settled = start.withSettings (kept steps) := by
    rw [settled, hfollows.config 0, Journal.settings_run]
    rfl
  refine ⟨hsettled, fun hclosed => ?_, hfollows.config_eq, (Follows.untouched start).run_filter h⟩
  rw [← hsettled, settled, restore_of_le]
  rw [Scope.depth, hclosed]
  exact Nat.le_refl 0

/-- Steps that set nothing for good leave nothing. -/
theorem kept_of_settingless {steps : List Step} (h : ∀ st ∈ steps, st.setting? = none) :
    kept steps = [] := by
  unfold kept
  rw [List.filterMap_eq_nil_iff.2 h]
  rfl

/-- After a value that does not fit, for an option that an open scope has
switched, a history can go on so that a flag outlives its scope. -/
theorem exists_outliving (start : Config) {before : List Step}
    (hbefore : Journal.AdmitsAll {} before) {st : Step} {key : Key} {value : Value}
    (hsetting : st.setting? = some (key, value)) (hvalue : ¬ value.Fits key)
    (hswitches : (Journal.run {} before).Switches key) (on : Bool) :
    ∃ later : List Step, (∀ st ∈ later, st.setting? = none)
      ∧ (run { config := start } (before ++ [st] ++ later)).settled.get key = .flag on := by
  have hfollows := (Follows.untouched start).run hbefore
  obtain ⟨frame, hframe, hrecorded⟩ := (hfollows.records_iff key).2 hswitches
  obtain ⟨inner, outer, hframes⟩ := List.append_of_mem hframe
  obtain ⟨text, htext⟩ :=
    Directive.Flag.exists_inText_eq (Journal.mem_flags_of_switches hswitches) on
  -- The flag goes into the scope of the value that does not fit.
  refine ⟨[.restore (outer.length + 1), .applyFlags text], by simp [Step.setting?], ?_⟩
  have hrun : run { config := start }
        (before ++ [st] ++ [.restore (outer.length + 1), .applyFlags text])
      = (((run { config := start } before).setForGood key value).restore
          (outer.length + 1)).setFlags [(key, on)] := by
    rw [← htext, ← (step_of_setting hsetting (run { config := start } before) {}).1]
    simp only [run, List.foldl_append]
    rfl
  have hmisfit : (((run { config := start } before).setForGood key value).restore
        (outer.length + 1)).frames = (frame :: outer).map (overwrite key value) := by
    have hdrop : (inner.length + (outer.length + 1)) - (outer.length + 1) = inner.length := by
      omega
    rw [frames_restore]
    unfold Scope.depth setForGood
    rw [hframes]
    simp [hdrop]
  rw [hrun]
  exact get_settled_of_overwritten (Journal.mem_flags_of_switches hswitches) hvalue hmisfit
    hrecorded on

/-- **What a history leaves.** The histories after which, however they go on,
nothing is left but what was set for good are the clean ones. -/
theorem restores_iff (start : Config) (steps : List Step) :
    Clean steps ↔ ∀ before later, before <+: steps → (∀ st ∈ later, st.setting? = none) →
      Restores start (before ++ later) := by
  constructor
  · rintro hclean before later ⟨rest, rfl⟩ hlater
    have hbefore := (Journal.admitsAll_append.1 hclean).1
    exact Clean.restores
      (Journal.admitsAll_append.2 ⟨hbefore, Journal.admitsAll_of_settingless _ hlater⟩) start
  · intro hrestores
    refine Classical.byContradiction fun hclean => ?_
    -- Up to the first step that is not admitted the scope follows its journal.
    obtain ⟨before, st, rest, rfl, hbefore, hst⟩ := Journal.exists_of_not_admitsAll hclean
    simp only [Journal.Admits, Classical.not_forall, not_or, Classical.not_not] at hst
    obtain ⟨key, value, hsetting, hvalue, hswitches⟩ := hst
    have hflags : ∀ on, (start.withSettings (kept (before ++ [st]))).get key = .flag on := by
      intro on
      obtain ⟨later, hlater, hon⟩ :=
        exists_outliving start hbefore hsetting hvalue hswitches on
      have hsettled := (hrestores (before ++ [st]) later ⟨rest, by simp⟩ hlater).settled
      rwa [hsettled, kept_append (before ++ [st]), kept_of_settingless hlater,
        List.append_nil] at hon
    cases (hflags true).symm.trans (hflags false)

/-- Scopes in one another, closed by the depth of the outer one first, and a
value that does not fit in between. -/
theorem restores_nested :
    Clean [.openFlagged "[rust](!g ++i)".toList, .openLine, .applyFlags "--no-titles".toList,
        .setForGood .countryCode (.text "DE".toList), .setForGood .debug (.text "yes".toList),
        .restore 0, .restore 1]
      ∧ Restores {} [.openFlagged "[rust](!g ++i)".toList, .openLine,
        .applyFlags "--no-titles".toList, .setForGood .countryCode (.text "DE".toList),
        .setForGood .debug (.text "yes".toList), .restore 0, .restore 1] := by
  have hclean : Clean [.openFlagged "[rust](!g ++i)".toList, .openLine,
      .applyFlags "--no-titles".toList, .setForGood .countryCode (.text "DE".toList),
      .setForGood .debug (.text "yes".toList), .restore 0, .restore 1] := by decide +kernel
  exact ⟨hclean, (restores_iff {} _).1 hclean _ [] (List.prefix_refl _) (by simp)⟩

/-- A text for an option that a flag has switched: the flag outlives its
scope. -/
theorem flag_outlives_scope :
    ¬ Restores {} [.openLine, .applyFlags "++i".toList, .setForGood .inline (.text "yes".toList),
      .restore 0] := by
  intro h
  have hinline : (run { config := {} } [.openLine, .applyFlags "++i".toList,
      .setForGood .inline (.text "yes".toList), .restore 0]).settled.inline = true := by
    decide +kernel
  rw [h.settled] at hinline
  exact absurd hinline (by decide +kernel)

end Scope

end InlineSearch
