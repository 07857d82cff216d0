/-
InlineSearch.Proofs.Document.Validity — which documents keep the
configuration valid.

A configuration is checked when it is loaded, and a document changes it
later. Inline flags never make it invalid, nor do most option lines. But an
option line may give any word as the country code, and from there on the
configuration is as valid as that word is a country code, up to the next
such line. `configs_valid_iff` says so of the configuration of each span,
of each search, and of the one behind the last line.
-/
import InlineSearch.Proofs.Config.Validity
import InlineSearch.Proofs.Document.AtRest
import InlineSearch.Proofs.Document.Trace

namespace InlineSearch.Document

open Config (lastCountryCode? isCountryCode)

variable {σ : Type}

/-- The configuration of a span: the settings of the lines before its own, and
flags. -/
theorem exists_flags_of_mem (r : Search.Registry σ) (config : Config) {lines : List Text}
    {p : PlannedSpan} (hp : p ∈ (plan r config lines).1) :
    ∃ flags, p.config = (config.withSettings
      (settings (((CodeBlock.classifyLines lines).zip lines).take p.line))).withFlags flags := by
  obtain ⟨text, -, -, hline, -, -⟩ := exists_planSpan_of_mem r config hp
  obtain ⟨kind, hkind⟩ := CodeBlock.getElem?_zip_classifyLines hline
  have hplan := onLine_planFrom r 0 { config } hkind
  rw [Nat.zero_add, scope_planFrom] at hplan
  have hmem : p ∈ (plan r config lines).1.filter (·.line == p.line) :=
    List.mem_filter.2 ⟨hp, by simp⟩
  rw [show (plan r config lines).1.filter (·.line == p.line) = _ from hplan] at hmem
  split at hmem
  · simp at hmem
  · unfold planLine at hmem
    split at hmem
    · simp at hmem
    · -- Along the line the flags of the spans up to this one add up.
      have hpair := List.mem_map_of_mem (f := fun p => (p.span, p.config)) hmem
      rw [configs_planSpans] at hpair
      obtain ⟨i, hi, hconfig⟩ := List.mem_mapIdx.1 hpair
      rw [Scope.config_setFlags_openLine] at hconfig
      exact ⟨_, (Prod.mk.inj hconfig).2.symm⟩

/-- A search runs with the configuration of its span. -/
theorem config_of_job? (r : Search.Registry σ) (config : Config) {lines : List Text}
    {p : PlannedSpan} (hp : p ∈ (plan r config lines).1) {job : Search.Job}
    (hjob : p.job? = some job) : job.config = p.config := by
  obtain ⟨text, span, scope, -, -, hplan⟩ := exists_planSpan_of_mem r config hp
  obtain ⟨modifiers, haction⟩ := PlannedSpan.job?_eq_some_iff.1 hjob
  rw [hplan] at haction ⊢
  exact config_of_planSpan r haction

/-- **What a document does to a valid configuration.** The configuration of a
span, which is also that of its search, is valid exactly if the last country
code that option lines before the span give, if they give one, is a country
code; and so is the configuration behind the document, with all of its option
lines. No flag and no other option makes a difference. -/
theorem configs_valid_iff {l : Linker σ} (hvalid : l.config.validate = .ok ()) (input : Text) :
    let lines := (CodeBlock.classifyLines (Run.lines input)).zip (Run.lines input)
    (∀ p ∈ (Run.planned l input).1,
      (p.config.validate = .ok () ↔ ∀ code,
        lastCountryCode? (settings (lines.take p.line)) = some code → isCountryCode code = true)
      ∧ ∀ job, p.job? = some job → job.config = p.config)
    ∧ ((Run.planned l input).2.validate = .ok () ↔ ∀ code,
      lastCountryCode? (settings lines) = some code → isCountryCode code = true) := by
  intro lines
  refine ⟨fun p hp => ⟨?_, fun job hjob => config_of_job? _ _ hp hjob⟩, ?_⟩
  · obtain ⟨flags, hconfig⟩ := exists_flags_of_mem _ _ hp
    rw [hconfig]
    exact Config.validate_changed_iff hvalid _ flags
  · have hlast : (Run.planned l input).2 = (l.config.withSettings (settings lines)).withFlags [] :=
      plan_lastConfig ..
    rw [hlast]
    exact Config.validate_changed_iff hvalid _ []

/-- A word that is no country code does no harm where a country code follows
it before the next span. -/
theorem configs_valid_iff_reset :
    let input : Text := "country_code: USA\ncountry_code: GB\n[x](!g rust ++t)"
    (Run.planned pageLinker input).1.map (fun p => (p.line, p.config.countryCode))
        = [(2, "GB".toList)]
    ∧ (∀ p ∈ (Run.planned pageLinker input).1, p.config.validate = .ok ())
    ∧ (Run.planned pageLinker input).2.validate = .ok () := by
  intro input
  have hvalid : pageLinker.config.validate = .ok () := by decide +kernel
  have hplanned : (Run.planned pageLinker input).1.map (fun p => (p.line, p.config.countryCode))
      = [(2, "GB".toList)] := by
    decide +kernel
  have hbefore : lastCountryCode? (settings
      (((CodeBlock.classifyLines (Run.lines input)).zip (Run.lines input)).take 2))
      = some "GB" := by
    decide +kernel
  have hall : lastCountryCode? (settings
      ((CodeBlock.classifyLines (Run.lines input)).zip (Run.lines input))) = some "GB" := by
    decide +kernel
  have hcode : isCountryCode "GB" = true := by decide +kernel
  obtain ⟨hspans, hbehind⟩ := configs_valid_iff hvalid input
  refine ⟨hplanned, fun p hp => (hspans p hp).1.2 fun code hlast => ?_,
    hbehind.2 fun code hlast => ?_⟩
  · have hp' := List.mem_map_of_mem (f := fun p => (p.line, p.config.countryCode)) hp
    rw [hplanned, List.mem_singleton] at hp'
    rw [(Prod.mk.inj hp').1, hbefore] at hlast
    rw [← Option.some.inj hlast]
    exact hcode
  · rw [hall] at hlast
    rw [← Option.some.inj hlast]
    exact hcode

/-- A word of three letters is taken as the country code, and the valid
configuration of a run is not valid any more. -/
theorem country_code_of_three_letters :
    let input : Text := "country_code: USA\n[x](!g rust)"
    ¬ (pageLinker.config.validate = .ok () →
      (∀ p ∈ (Run.planned pageLinker input).1, p.config.validate = .ok ())
        ∧ (Run.planned pageLinker input).2.validate = .ok ()) := by
  decide +kernel

end InlineSearch.Document
