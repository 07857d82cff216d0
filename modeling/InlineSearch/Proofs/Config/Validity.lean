/-
InlineSearch.Proofs.Config.Validity — which configurations are acceptable,
and which settings keep them so.

`validate` reads two things, the country code and the user's own triggers
(`validate_eq_ok_iff`). A document cannot touch the triggers, and of the
options that it can set only the country code is read. So whether a valid
configuration is still valid after some settings and flags depends on the
last country code among them alone (`validate_changed_iff`).
-/
import InlineSearch.Proofs.Scope
import InlineSearch.Proofs.Text.Trim

namespace InlineSearch

/-! ## Checks one after the other -/

/-- A check of every entry of a list succeeds exactly if all of them pass. -/
theorem forM_eq_ok_iff {α ε : Type} (check : α → Except ε Unit) (entries : List α) :
    entries.forM check = .ok () ↔ ∀ e ∈ entries, check e = .ok () := by
  induction entries with
  | nil => simp [pure, Except.pure]
  | cons e rest ih =>
    have hstep : (e :: rest).forM check = check e >>= fun _ => rest.forM check := rfl
    rw [hstep, List.forall_mem_cons, ← ih]
    cases check e with
    | ok u => simp [bind, Except.bind]
    | error fault => simp [bind, Except.bind]

namespace Config

theorem requireNonBlank_eq_ok_iff (t field : Text) :
    requireNonBlank t field = .ok () ↔ Text.isBlankText t = false := by
  unfold requireNonBlank
  cases Text.isBlankText t <;> simp

theorem validateShortcut_eq_ok_iff (trigger value : Text) : validateShortcut trigger value = .ok ()
    ↔ Text.isBlankText trigger = false ∧ isTrigger trigger = true
      ∧ Text.isBlankText value = false := by
  unfold validateShortcut requireNonBlank
  cases Text.isBlankText trigger with
  | true => simp [bind, Except.bind]
  | false =>
    cases isTrigger trigger with
    | true => cases Text.isBlankText value <;> simp [bind, Except.bind]
    | false => simp [bind, Except.bind, throw, throwThe, MonadExceptOf.throw]

/-- A country code is not blank, so this needs no check of its own. -/
theorem isBlankText_of_isCountryCode {t : Text} (h : isCountryCode t = true) :
    Text.isBlankText t = false := by
  obtain ⟨hbytes, hletters⟩ := Bool.and_eq_true_iff.1 h
  cases t with
  | nil => exact absurd hbytes (by decide)
  | cons c t =>
    have hc : Text.isAlphabetic c = true := List.all_eq_true.1 hletters c (List.mem_cons_self ..)
    have hblank : Text.isBlank c = false :=
      Text.isBlank_eq_false_of (p := Text.isAlphabetic) (by decide +kernel) hc
    rw [Text.isBlankText, List.all_cons, hblank, Bool.false_and]

/-- **Acceptable configurations.** The country code is one, and every trigger
of the user's own is a single word with a value. -/
theorem validate_eq_ok_iff (config : Config) : config.validate = .ok ()
    ↔ isCountryCode config.countryCode = true
      ∧ ∀ e ∈ config.customSiteSearches, Text.isBlankText e.1 = false ∧ isTrigger e.1 = true
        ∧ Text.isBlankText e.2 = false := by
  unfold validate
  simp only [← validateShortcut_eq_ok_iff]
  rw [← forM_eq_ok_iff fun e : Text × Text => validateShortcut e.1 e.2]
  cases hcode : isCountryCode config.countryCode with
  | true =>
    have hblank := (requireNonBlank_eq_ok_iff _ "country_code").2
      (isBlankText_of_isCountryCode hcode)
    rw [hblank]
    simp [bind, Except.bind]
  | false =>
    cases requireNonBlank config.countryCode "country_code" with
    | ok u => simp [bind, Except.bind, throw, throwThe, MonadExceptOf.throw]
    | error fault => simp [bind, Except.bind]

/-! ## Settings -/

/-- The country code that a setting gives. -/
def countryCode? : Key × Value → Option Text
  | (.countryCode, .text code) => some code
  | _ => none

/-- The country code that settings leave behind, if they give one. -/
def lastCountryCode? (settings : List (Key × Value)) : Option Text :=
  (settings.filterMap countryCode?).getLast?

theorem countryCode_set (config : Config) (key : Key) (value : Value) :
    (config.set key value).countryCode
      = (countryCode? (key, value)).getD config.countryCode := by
  cases key <;> cases value <;> rfl

/-- No document sets the user's own triggers. -/
theorem customSiteSearches_set (config : Config) (key : Key) (value : Value) :
    (config.set key value).customSiteSearches = config.customSiteSearches := by
  cases key <;> cases value <;> rfl

/-- Of several country codes the last one counts. -/
theorem countryCode_withSettings (config : Config) (settings : List (Key × Value)) :
    (config.withSettings settings).countryCode
      = (lastCountryCode? settings).getD config.countryCode := by
  induction settings generalizing config with
  | nil => rfl
  | cons setting rest ih =>
    have hstep : config.withSettings (setting :: rest)
        = (config.set setting.1 setting.2).withSettings rest := rfl
    rw [hstep, ih, countryCode_set, lastCountryCode?, lastCountryCode?, List.filterMap_cons]
    cases countryCode? setting with
    | none => rfl
    | some code =>
      dsimp only
      rw [List.getLast?_cons]
      rfl

theorem customSiteSearches_withSettings (config : Config) (settings : List (Key × Value)) :
    (config.withSettings settings).customSiteSearches = config.customSiteSearches := by
  induction settings generalizing config with
  | nil => rfl
  | cons setting rest ih => exact (ih _).trans (customSiteSearches_set ..)

/-- Inline flags are settings that give no country code. -/
theorem exists_settings_of_flags (config : Config) (flags : List Directive.Flag) :
    ∃ settings, config.withFlags flags = config.withSettings settings
      ∧ lastCountryCode? settings = none := by
  refine ⟨flags.map fun flag => (flag.1, .flag flag.2), ?_, ?_⟩
  · rw [withSettings, List.foldl_map]
    rfl
  · have hnone : ∀ flag : Directive.Flag, countryCode? (flag.1, .flag flag.2) = none := by
      rintro ⟨key, on⟩
      cases key <;> rfl
    simp [lastCountryCode?, List.filterMap_map, hnone]

/-- **What keeps a configuration valid.** After settings and flags it is valid
exactly if the last country code among the settings, if they give one, is a
country code. -/
theorem validate_changed_iff {config : Config} (h : config.validate = .ok ())
    (settings : List (Key × Value)) (flags : List Directive.Flag) :
    ((config.withSettings settings).withFlags flags).validate = .ok ()
      ↔ ∀ code, lastCountryCode? settings = some code → isCountryCode code = true := by
  obtain ⟨switched, hflags, hnone⟩ := exists_settings_of_flags (config.withSettings settings) flags
  obtain ⟨hcode, hshortcuts⟩ := (validate_eq_ok_iff config).1 h
  rw [hflags, validate_eq_ok_iff, countryCode_withSettings, countryCode_withSettings,
    customSiteSearches_withSettings, customSiteSearches_withSettings, hnone, Option.getD_none,
    and_iff_left hshortcuts]
  cases lastCountryCode? settings with
  | none => simpa using hcode
  | some code => simp

end Config

end InlineSearch
