/-
InlineSearch.Proofs.Config.WellFormed — the configurations that are meant to be
accepted, and those that are.

A country code is meant to be two letters (`WellFormed`). The check counts bytes in
the place of letters, and these are as many for the letters of ASCII alone: a single
letter of two bytes is accepted, and two letters are refused if they take more than two
bytes (`Miscounted`). So a configuration is accepted as it is meant to be exactly if its
country code is neither of these, or if one of the user's own triggers stands in the way
anyway (`accepted_as_meant_iff`).

What is refused is refused for a fault that it has, and what is accepted has none
(`Faulty`).
-/
import InlineSearch.Proofs.Config.Validity
import Mathlib.Data.List.Basic
import Mathlib.Tactic.Tauto

namespace InlineSearch.Config

/-! ## What is meant -/

/-- Two letters. -/
def TwoLetters (t : Text) : Prop :=
  ∃ c d, t = [c, d] ∧ Text.isAlphabetic c = true ∧ Text.isAlphabetic d = true

/-- A trigger of the user's own is a single word without a mark in front, and stands
for something. -/
structure ShortcutWellFormed (trigger value : Text) : Prop where
  nonblank : ∃ c ∈ trigger, Text.isBlank c = false
  one_word : ∀ c ∈ trigger, Text.isBlank c = false
  unmarked : trigger.head? ≠ some '!'
  value_nonblank : ∃ c ∈ value, Text.isBlank c = false

/-- The country code is two letters, and the triggers of the user's own are as they
should be. -/
structure WellFormed (config : Config) : Prop where
  country : TwoLetters config.countryCode
  shortcuts : ∀ e ∈ config.customSiteSearches, ShortcutWellFormed e.1 e.2

/-- The faults that a configuration has. -/
inductive Faulty (config : Config) : Fault → Prop where
  | no_country : Text.isBlankText config.countryCode = true →
      Faulty config (.blank "country_code")
  | country : isCountryCode config.countryCode = false →
      Faulty config (.countryCode config.countryCode)
  | no_trigger {e : Text × Text} : e ∈ config.customSiteSearches →
      Text.isBlankText e.1 = true → Faulty config (.blank "custom_site_searches key")
  | trigger {e : Text × Text} : e ∈ config.customSiteSearches → isTrigger e.1 = false →
      Faulty config (.trigger e.1)
  | no_value {e : Text × Text} : e ∈ config.customSiteSearches →
      Text.isBlankText e.2 = true → Faulty config (.blank ("custom_site_searches." ++ e.1))

theorem isBlankText_eq_false_iff {t : Text} :
    Text.isBlankText t = false ↔ ∃ c ∈ t, Text.isBlank c = false := by
  rw [Text.isBlankText, List.all_eq_false]
  simp only [Bool.not_eq_true]

/-- A trigger is a single word without a mark in front. -/
theorem isTrigger_iff {t : Text} :
    isTrigger t = true ↔ (∀ c ∈ t, Text.isBlank c = false) ∧ t.head? ≠ some '!' := by
  have hword : (!t.any Text.isBlank) = true ↔ ∀ c ∈ t, Text.isBlank c = false := by
    rw [Bool.not_eq_true', List.any_eq_false]
    simp only [Bool.not_eq_true]
  have hmark : (!Text.startsWith "!" t) = true ↔ t.head? ≠ some '!' := by
    cases t with
    | nil => simp [Text.startsWith]
    | cons c t =>
      have hhead : Text.startsWith "!" (c :: t) = ('!' == c) := by
        simp [Text.startsWith, List.isPrefixOf]
      rw [hhead, Bool.not_eq_true', beq_eq_false_iff_ne, List.head?_cons, ne_eq, ne_eq,
        Option.some.injEq, eq_comm]
  rw [isTrigger, Bool.and_eq_true_iff, hword, hmark]

theorem shortcutWellFormed_iff {trigger value : Text} : ShortcutWellFormed trigger value
    ↔ Text.isBlankText trigger = false ∧ isTrigger trigger = true
      ∧ Text.isBlankText value = false := by
  rw [isBlankText_eq_false_iff, isBlankText_eq_false_iff, isTrigger_iff]
  constructor
  · intro h
    exact ⟨h.nonblank, ⟨h.one_word, h.unmarked⟩, h.value_nonblank⟩
  · rintro ⟨hnonblank, ⟨hword, hmark⟩, hvalue⟩
    exact ⟨hnonblank, hword, hmark, hvalue⟩

/-! ## Letters and bytes -/

/-- Letters of which there are not as many as there seem to be: one letter that takes
two bytes, or two letters that take more than two. -/
inductive Miscounted : Text → Prop where
  | one {c : Char} : Text.isAlphabetic c = true → c.utf8Size = 2 → Miscounted [c]
  | two {c d : Char} : Text.isAlphabetic c = true → Text.isAlphabetic d = true →
      2 < c.utf8Size + d.utf8Size → Miscounted [c, d]

/-- Miscounted are letters that take two bytes without being two, or the other way
round. -/
theorem miscounted_iff {t : Text} : Miscounted t
    ↔ (∀ c ∈ t, Text.isAlphabetic c = true) ∧ ¬ (Text.bytes t = 2 ↔ t.length = 2) := by
  constructor
  · intro h
    cases h with
    | @one c hc hsize =>
      refine ⟨List.forall_mem_singleton.2 hc, ?_⟩
      simp [hsize]
    | @two c d hc hd hsize =>
      refine ⟨List.forall_mem_cons.2 ⟨hc, List.forall_mem_singleton.2 hd⟩, ?_⟩
      have hlength : ([c, d] : Text).length = 2 := rfl
      rw [Text.bytes_cons, Text.bytes_cons, Text.bytes_nil, hlength]
      omega
  · rintro ⟨hletters, hcount⟩
    match t with
    | [] => simp at hcount
    | [c] =>
      have hsize : c.utf8Size = 2 := by simpa using hcount
      exact .one (hletters c (by simp)) hsize
    | [c, d] =>
      have hsize : c.utf8Size + d.utf8Size ≠ 2 := by simpa using hcount
      have hcpos := c.utf8Size_pos
      have hdpos := d.utf8Size_pos
      exact .two (hletters c (by simp)) (hletters d (by simp)) (by omega)
    | c :: d :: e :: t =>
      -- Three letters and more are neither two letters nor two bytes.
      have hcpos := c.utf8Size_pos
      have hdpos := d.utf8Size_pos
      have hepos := e.utf8Size_pos
      have hbytes : Text.bytes (c :: d :: e :: t) ≠ 2 := by
        rw [Text.bytes_cons, Text.bytes_cons, Text.bytes_cons]
        omega
      exact absurd (iff_of_false hbytes (by simp)) hcount

theorem isCountryCode_iff {t : Text} : isCountryCode t = true
    ↔ Text.bytes t = 2 ∧ ∀ c ∈ t, Text.isAlphabetic c = true := by
  rw [isCountryCode, Bool.and_eq_true_iff, beq_iff_eq, List.all_eq_true]

theorem twoLetters_iff {t : Text} :
    TwoLetters t ↔ t.length = 2 ∧ ∀ c ∈ t, Text.isAlphabetic c = true := by
  rw [List.length_eq_two]
  constructor
  · rintro ⟨c, d, rfl, hc, hd⟩
    exact ⟨⟨c, d, rfl⟩, List.forall_mem_cons.2 ⟨hc, List.forall_mem_singleton.2 hd⟩⟩
  · rintro ⟨⟨c, d, rfl⟩, hletters⟩
    obtain ⟨hc, hd⟩ := List.forall_mem_cons.1 hletters
    exact ⟨c, d, rfl, hc, hd d (List.mem_singleton_self d)⟩

/-- Two letters are what passes for a country code, unless they are miscounted. -/
theorem isCountryCode_as_meant_iff {t : Text} :
    (isCountryCode t = true ↔ TwoLetters t) ↔ ¬ Miscounted t := by
  rw [isCountryCode_iff, twoLetters_iff, miscounted_iff]
  tauto

/-! ## Faults -/

theorem forM_eq_error {α ε : Type} {check : α → Except ε Unit} {entries : List α} {fault : ε}
    (h : entries.forM check = .error fault) : ∃ e ∈ entries, check e = .error fault := by
  induction entries with
  | nil => cases h
  | cons e rest ih =>
    have hstep : (e :: rest).forM check = check e >>= fun _ => rest.forM check := rfl
    rw [hstep] at h
    cases hcheck : check e with
    | error other =>
      rw [hcheck] at h
      exact ⟨e, List.mem_cons_self .., hcheck.trans h⟩
    | ok u =>
      rw [hcheck] at h
      obtain ⟨found, hfound, herror⟩ := ih h
      exact ⟨found, List.mem_cons_of_mem _ hfound, herror⟩

theorem requireNonBlank_eq_error {t field : Text} {fault : Fault}
    (h : requireNonBlank t field = .error fault) :
    fault = .blank field ∧ Text.isBlankText t = true := by
  unfold requireNonBlank at h
  split at h
  · next hblank => exact ⟨(Except.error.inj h).symm, hblank⟩
  · cases h

/-- What is said about a trigger of the user's own is true of it. -/
theorem faulty_of_validateShortcut {config : Config} {e : Text × Text} {fault : Fault}
    (he : e ∈ config.customSiteSearches) (h : validateShortcut e.1 e.2 = .error fault) :
    Faulty config fault := by
  unfold validateShortcut at h
  cases htrigger : requireNonBlank e.1 "custom_site_searches key" with
  | error other =>
    rw [htrigger] at h
    obtain rfl := Except.error.inj h
    obtain ⟨rfl, hblank⟩ := requireNonBlank_eq_error htrigger
    exact .no_trigger he hblank
  | ok u =>
    rw [htrigger] at h
    cases hword : isTrigger e.1 with
    | false =>
      rw [hword] at h
      obtain rfl := Except.error.inj h
      exact .trigger he hword
    | true =>
      rw [hword] at h
      obtain ⟨rfl, hblank⟩ := requireNonBlank_eq_error h
      exact .no_value he hblank

/-- What is refused has the fault that it is refused for. -/
theorem faulty_of_validate {config : Config} {fault : Fault}
    (h : config.validate = .error fault) : Faulty config fault := by
  unfold validate at h
  -- The checks are made in this order, and a check is reached if all before it pass.
  cases hcountry : requireNonBlank config.countryCode "country_code" with
  | error other =>
    rw [hcountry] at h
    obtain rfl := Except.error.inj h
    obtain ⟨rfl, hblank⟩ := requireNonBlank_eq_error hcountry
    exact .no_country hblank
  | ok u =>
    rw [hcountry] at h
    cases hcode : isCountryCode config.countryCode with
    | false =>
      rw [hcode] at h
      obtain rfl := Except.error.inj h
      exact .country hcode
    | true =>
      rw [hcode] at h
      obtain ⟨e, he, herror⟩ := forM_eq_error h
      exact faulty_of_validateShortcut he herror

/-- What is accepted has no fault. -/
theorem not_faulty_of_validate {config : Config} (h : config.validate = .ok ()) (fault : Fault) :
    ¬ Faulty config fault := by
  obtain ⟨hcode, hshortcuts⟩ := (validate_eq_ok_iff config).1 h
  intro hfault
  cases hfault with
  | no_country hblank => simp [isBlankText_of_isCountryCode hcode] at hblank
  | country hno => simp [hcode] at hno
  | no_trigger he hblank => simp [(hshortcuts _ he).1] at hblank
  | trigger he hno => simp [(hshortcuts _ he).2.1] at hno
  | no_value he hblank => simp [(hshortcuts _ he).2.2] at hblank

/-! ## The verdict -/

theorem wellFormed_iff {config : Config} : WellFormed config
    ↔ TwoLetters config.countryCode
      ∧ ∀ e ∈ config.customSiteSearches, ShortcutWellFormed e.1 e.2 :=
  ⟨fun h => ⟨h.country, h.shortcuts⟩, fun h => ⟨h.1, h.2⟩⟩

/-- **Acceptance as it is meant.** To be accepted and to be well formed are the same,
unless the country code is miscounted and nothing is wrong with the triggers of the
user's own. In any case a configuration is accepted without a fault, or refused for a
fault that it has. -/
theorem accepted_as_meant_iff (config : Config) :
    ((config.validate = .ok () ↔ WellFormed config)
      ↔ ¬ (Miscounted config.countryCode
        ∧ ∀ e ∈ config.customSiteSearches, ShortcutWellFormed e.1 e.2))
    ∧ ((config.validate = .ok () ∧ ∀ fault, ¬ Faulty config fault)
      ∨ ∃ fault, config.validate = .error fault ∧ Faulty config fault) := by
  constructor
  · have hcounted := isCountryCode_as_meant_iff (t := config.countryCode)
    rw [validate_eq_ok_iff, wellFormed_iff]
    simp only [← shortcutWellFormed_iff]
    tauto
  · cases hverdict : config.validate with
    | ok u => exact .inl ⟨rfl, not_faulty_of_validate hverdict⟩
    | error fault => exact .inr ⟨fault, rfl, faulty_of_validate hverdict⟩

/-- A single letter of two bytes is accepted, and two of them are refused. -/
theorem two_bytes_pass_for_two_letters :
    (({ countryCode := ['é'] } : Config).validate = .ok ()
      ∧ ¬ WellFormed { countryCode := ['é'] })
    ∧ ({ countryCode := ['é', 'é'] } : Config).validate = .error (.countryCode ['é', 'é'])
      ∧ WellFormed { countryCode := ['é', 'é'] } := by
  have hletter : Text.isAlphabetic 'é' = true := by decide +kernel
  refine ⟨⟨by decide +kernel, ?_⟩, by decide +kernel, ?_⟩
  · intro h
    obtain ⟨hlength, -⟩ := twoLetters_iff.1 h.country
    cases hlength
  · exact ⟨⟨'é', 'é', rfl, hletter, hletter⟩, fun e he => by cases he⟩

end InlineSearch.Config
