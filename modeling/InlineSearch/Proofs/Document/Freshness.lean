/-
InlineSearch.Proofs.Document.Freshness — which labels the markers of a run
can meet.

Along a run the count of markers only goes up, by one at most at each step
(`markers_addAll`), so a marker that is drawn has a number above all that
were counted in the document. `fresh_marker_iff` says what follows: a marker
meets the label of a definition only where something else than a space comes
first behind the colon of that definition.
-/
import InlineSearch.Proofs.Document.References
import InlineSearch.Proofs.Reference.Spelling

namespace InlineSearch.Document

open Reference (Markers)

/-! ## The count along a run -/

namespace Step

/-- A drawn marker has the next number. -/
theorem generated?_eq {t : Step} {marker : Text} (h : t.generated? = some marker) :
    marker = t.before.markers.start t.planned.config.prefixRandom
      ++ Reference.fourDigits (Markers.next t.before.markers.links) := by
  unfold generated? at h
  split at h
  · split at h
    · simp at h
    · exact (Option.some.inj h).symm
  · simp at h

/-- A step leaves the count alone or counts one marker. -/
theorem nextMarkers_cases (t : Step) :
    t.nextMarkers.randomPrefix = t.before.markers.randomPrefix
      ∧ (t.nextMarkers.links = t.before.markers.links
        ∨ t.nextMarkers.links = Markers.next t.before.markers.links) := by
  unfold nextMarkers
  split
  · next linkText note ha =>
    unfold Draft.footnoteId
    dsimp only
    split
    · exact ⟨rfl, .inl rfl⟩
    · exact ⟨rfl, .inl rfl⟩
  · split
    · exact ⟨rfl, .inr rfl⟩
    · exact ⟨rfl, .inl rfl⟩

end Step

/-- Far below the last number, the count goes up by one at most for each
span. -/
theorem markers_addAll (d : Draft) (spans : List (PlannedSpan × Option Search.Outcome))
    (h : d.markers.links + spans.length ≤ Text.maxWord) :
    d.markers.links ≤ (d.addAll spans).markers.links
      ∧ (d.addAll spans).markers.links ≤ d.markers.links + spans.length := by
  induction spans generalizing d with
  | nil => exact ⟨Nat.le_refl _, Nat.le_refl _⟩
  | cons span rest ih =>
    let t : Step := ⟨d, span.1, span.2⟩
    have hafter : (d.add span.1 span.2).markers = t.nextMarkers := Step.markers_after t
    obtain ⟨-, hlinks⟩ := t.nextMarkers_cases
    have hnext : Markers.next d.markers.links = d.markers.links + 1 := by
      refine Nat.min_eq_left ?_
      rw [List.length_cons] at h
      omega
    have hstep : d.markers.links ≤ t.nextMarkers.links
        ∧ t.nextMarkers.links ≤ d.markers.links + 1 := by
      rcases hlinks with hlinks | hlinks
      · rw [hlinks]
        exact ⟨Nat.le_refl _, Nat.le_succ _⟩
      · rw [hlinks]
        exact ⟨hnext ▸ Nat.le_succ _, Nat.le_of_eq hnext⟩
    rw [List.length_cons] at h ⊢
    have hlater := ih (d.add span.1 span.2) (by rw [hafter]; omega)
    rw [hafter] at hlater
    obtain ⟨hfrom, hto⟩ := hlater
    refine ⟨Nat.le_trans hstep.1 hfrom, ?_⟩
    rw [addAll_cons]
    omega

/-! ## Markers and labels -/

/-- Half as many numbers as 64 bits have. -/
def halfWord : Nat := Nat.pow 2 63

theorem halfWord_add_halfWord : halfWord + halfWord ≤ Text.maxWord + 1 := by decide

section

variable {σ : Type} {l : Linker σ} {input : Text} {s : σ}

/-- Markers begin the same way all along a run. -/
theorem randomPrefix_eq {t : Step} (ht : t ∈ Run.steps l input s) :
    t.before.markers.randomPrefix
      = (Markers.ofDocument l.random (Run.source input)).randomPrefix := by
  refine (trace_invariant (P := fun d => d.markers.randomPrefix
    = (Markers.ofDocument l.random (Run.source input)).randomPrefix) ?_ rfl).1 t ht
  intro u _ hu
  rw [Step.markers_after, u.nextMarkers_cases.1, hu]

/-- A drawn marker is written with digits and a dash. -/
theorem mem_of_generated? {t : Step} (ht : t ∈ Run.steps l input s) {marker : Text}
    (h : t.generated? = some marker) {c : Char} (hc : c ∈ marker) :
    Text.isDecimal c = true ∨ c = '-' := by
  rw [Step.generated?_eq h] at hc
  rcases List.mem_append.1 hc with hc | hc
  · unfold Markers.start at hc
    split at hc
    · exact Markers.mem_randomPrefix (randomPrefix_eq ht ▸ hc)
    · simp at hc
  · exact .inl (Text.isDecimal_of_isDigit (Reference.isDigit_of_mem_fourDigits hc))

/-- A run draws markers whose numbers lie above all that were counted. -/
theorem number_of_generated? (hnumbers : ∀ n ∈ Reference.numbers (Run.source input), n < halfWord)
    (hspans : (Run.planned l input).1.length < halfWord) {t : Step} (ht : t ∈ Run.steps l input s)
    {marker : Text} (h : t.generated? = some marker) :
    ∃ n, (∀ m ∈ Reference.numbers (Run.source input), m < n) ∧ n ≤ Text.maxWord
      ∧ marker = (Markers.ofDocument l.random (Run.source input)).start
        t.planned.config.prefixRandom ++ Reference.fourDigits n := by
  -- The count before `t` is the count behind the spans that come earlier.
  obtain ⟨earlier, later, hsplit, hbefore, -⟩ := trace_split ht
  have hlength : earlier.length < halfWord := by
    have hall : (Run.spans l input s).length = (Run.planned l input).1.length := by
      rw [← List.length_map (f := Prod.fst), Run.spans, withOutcomes_map_fst]
    rw [hsplit, List.length_append] at hall
    omega
  have hstart : (Run.start l input).markers.links < halfWord :=
    Markers.highest_lt (by decide) hnumbers
  have hword := halfWord_add_halfWord
  obtain ⟨hfrom, hto⟩ := markers_addAll (Run.start l input) earlier (by omega)
  rw [← hbefore] at hfrom hto
  have hnext : Markers.next t.before.markers.links = t.before.markers.links + 1 :=
    Nat.min_eq_left (by omega)
  refine ⟨t.before.markers.links + 1, ?_, by omega, ?_⟩
  · intro m hm
    have hle : m ≤ (Run.start l input).markers.links := Markers.le_highest hm
    omega
  · have hbegin : t.before.markers.start t.planned.config.prefixRandom
        = (Markers.ofDocument l.random (Run.source input)).start t.planned.config.prefixRandom := by
      unfold Markers.start
      rw [randomPrefix_eq ht]
    rw [Step.generated?_eq h, hnext, hbegin]

/-- A drawn marker labels no definition behind whose colon a space comes
first. -/
theorem head?_gap_of_label_eq (hrandom : l.random < 10000)
    (hnumbers : ∀ n ∈ Reference.numbers (Run.source input), n < halfWord)
    (hspans : (Run.planned l input).1.length < halfWord) {t : Step} (ht : t ∈ Run.steps l input s)
    {marker : Text} (h : t.generated? = some marker) {d : Reference.SpacedDefinition}
    (hd : d ∈ Reference.spacedDefinitions (Run.source input)) (hlabel : d.label = marker) :
    d.gap.head? ≠ some ' ' := by
  intro hgap
  obtain ⟨n, habove, hword, hmarker⟩ := number_of_generated? hnumbers hspans ht h
  have hmem : n ∈ Reference.numbers (Run.source input) :=
    Reference.number_mem hd hgap (Markers.start_ofDocument hrandom ..) (hlabel.trans hmarker) hword
  exact absurd (habove n hmem) (Nat.lt_irrefl n)

/-- **When drawn markers are fresh.** The markers that a run draws differ
from the label of every definition of the document exactly if they differ
from those whose colon is followed by something else than a space. -/
theorem fresh_marker_iff (hrandom : l.random < 10000)
    (hnumbers : ∀ n ∈ Reference.numbers (Run.source input), n < halfWord)
    (hspans : (Run.planned l input).1.length < halfWord) :
    (∀ t ∈ Run.steps l input s, ∀ marker, t.generated? = some marker →
      ∀ d ∈ Reference.definitions (Run.source input), d.1 ≠ marker)
    ↔ ∀ t ∈ Run.steps l input s, ∀ marker, t.generated? = some marker →
      ∀ d ∈ Reference.spacedDefinitions (Run.source input),
        d.gap.head? ≠ some ' ' → d.label ≠ marker := by
  rw [Reference.definitions_eq]
  constructor
  · intro h t ht marker hmarker d hd _
    exact h t ht marker hmarker _ (List.mem_map_of_mem hd)
  · intro h t ht marker hmarker entry hentry hlabel
    obtain ⟨d, hd, rfl⟩ := List.mem_map.1 hentry
    exact h t ht marker hmarker d hd
      (head?_gap_of_label_eq hrandom hnumbers hspans ht hmarker hd hlabel) hlabel

end

/-- A document with one definition, which is counted. -/
theorem fresh_marker_iff_counted :
    let input : Text := "[0007]: https://old.example\n\n[x](!g rust)"
    (Run.steps pageLinker input ()).map Step.generated? = [some ("0008" : Text)]
    ∧ ((∀ t ∈ Run.steps pageLinker input (), ∀ marker, t.generated? = some marker →
        ∀ d ∈ Reference.definitions (Run.source input), d.1 ≠ marker)
      ↔ ∀ t ∈ Run.steps pageLinker input (), ∀ marker, t.generated? = some marker →
        ∀ d ∈ Reference.spacedDefinitions (Run.source input),
          d.gap.head? ≠ some ' ' → d.label ≠ marker) :=
  ⟨by decide +kernel,
    fresh_marker_iff (by decide) (by decide +kernel) (by decide +kernel)⟩

/-- A tab behind the colon: the definition has a marker in the table, but its
number is not counted, so the first marker that is drawn is its label. -/
theorem marker_not_fresh_behind_tab :
    ¬ ∀ t ∈ Run.steps pageLinker "[0001]:\thttps://old.example\n\n[x](!g rust)" (),
      ∀ marker, t.generated? = some marker →
        ∀ d ∈ Reference.definitions
          (Run.source "[0001]:\thttps://old.example\n\n[x](!g rust)"), d.1 ≠ marker := by
  intro h
  have hdrawn : (Run.steps pageLinker "[0001]:\thttps://old.example\n\n[x](!g rust)" ()).map
      Step.generated? = [some ("0001" : Text)] := by decide +kernel
  have hdefined : (("0001" : Text), ("https://old.example" : Text)) ∈ Reference.definitions
      (Run.source "[0001]:\thttps://old.example\n\n[x](!g rust)") := by decide +kernel
  obtain ⟨t, rest, hsteps, hmarker, -⟩ := List.map_eq_cons_iff.1 hdrawn
  exact h t (hsteps ▸ List.mem_cons_self ..) "0001" hmarker _ hdefined rfl

end InlineSearch.Document
