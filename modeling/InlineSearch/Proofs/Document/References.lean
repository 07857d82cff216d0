/-
InlineSearch.Proofs.Document.References — one marker for each URL.

Whatever a run does, its table only grows at the end. The URLs of the
table stay distinct (`nodup_links`), so each definition that a run adds is
for a URL that had no marker, and every link to a URL gets the one marker
that the table holds for it behind the last step (`draft_get?`).
-/
import InlineSearch.Proofs.Document.Trace
import InlineSearch.Proofs.Reference.Table

namespace InlineSearch.Document

open Reference (Table)
open Search (Found)

/-! ## One step -/

namespace Step

/-- A definition is added for a URL that has no marker. -/
theorem contains_of_definition? {t : Step} {n : NewDefinition} (h : t.definition? = some n) :
    t.before.links.contains n.url = false := by
  unfold definition? at h
  split at h
  · split at h
    · simp at h
    · next hc =>
      rw [← Option.some.inj h]
      simpa using hc
  · simp at h

/-- A step keeps the URLs of the table distinct. -/
theorem nodup_links_after (t : Step) (h : (t.before.links.map Prod.fst).Nodup) :
    (t.after.links.map Prod.fst).Nodup := by
  rw [links_after]
  cases hn : t.definition? with
  | none => simpa using h
  | some n => exact Table.nodup_snoc h (contains_of_definition? hn) n.label

/-- A marker that is referred to was known, or is drawn and defined. -/
theorem reference?_cases {t : Step} {f : Found} {marker : Text}
    (h : t.reference? = some (f, marker)) :
    t.before.links.get? f.url = some marker
      ∨ t.before.links.contains f.url = false ∧ t.generated? = some marker
        ∧ t.definition?
          = some ⟨marker, f.url, Draft.writtenTitle t.planned.config f⟩ := by
  unfold reference? at h
  split at h
  · next g hf =>
    obtain ⟨rfl, rfl⟩ := Prod.mk.inj (Option.some.inj h)
    cases hg : t.before.links.get? g.url with
    | some marker =>
      refine .inl ?_
      simp only [Draft.markerOf, hg]
    | none =>
      have hc : t.before.links.contains g.url = false := by simp [Table.contains, hg]
      refine .inr ⟨hc, ?_, ?_⟩
      · simp only [generated?, hf, hc, Draft.markerOf, hg]
        rfl
      · simp only [definition?, label?, hf, hc, Draft.markerOf, hg]
        rfl
  · simp at h

/-- Behind a reference the table holds its marker. -/
theorem get?_after {t : Step} {f : Found} {marker : Text} (h : t.reference? = some (f, marker)) :
    t.after.links.get? f.url = some marker := by
  rw [links_after]
  rcases reference?_cases h with hknown | ⟨hnew, -, hdef⟩
  · exact Table.get?_of_prefix (List.prefix_append ..) hknown
  · have hnone : List.lookup f.url t.before.links = none := by
      simpa [Table.contains, Table.get?] using hnew
    simp only [hdef, Option.map_some, Option.toList_some, Table.get?]
    rw [List.lookup_append, hnone]
    simp

/-- The link that a reference writes. -/
theorem edit?_of_reference? {t : Step} {f : Found} {marker : Text}
    (h : t.reference? = some (f, marker)) :
    t.edit? = some (t.planned.line, ⟨t.planned.span.start, t.planned.span.stop,
      Reference.referenceLink f.linkText marker⟩) := by
  unfold reference? at h
  split at h
  · next g hf =>
    obtain ⟨rfl, rfl⟩ := Prod.mk.inj (Option.some.inj h)
    have hid : t.footnote? = none := by
      unfold footnote?
      split
      · next linkText note ha => simp [found?, ha] at hf
      · rfl
    simp only [edit?, replacement?, hid, hf, Option.map_some]
  · simp at h

end Step

/-! ## Runs -/

/-- The table behind a step is the beginning of the table at the end. -/
theorem links_grow {d : Draft} {spans : List (PlannedSpan × Option Search.Outcome)} {t : Step}
    (h : t ∈ trace d spans) : t.after.links <+: (d.addAll spans).links := by
  obtain ⟨_, later, _, _, hlater⟩ := trace_split h
  rw [hlater, addAll_accumulates Draft.links _ Step.links_after]
  exact List.prefix_append ..

section

variable {σ : Type} (l : Linker σ) (input : Text) (s : σ)

/-- The definitions that a run adds. -/
def Run.definitions : List NewDefinition := (Run.steps l input s).filterMap Step.definition?

/-- The table at the end of a run holds every marker that the run has
referred to. -/
theorem draft_get? {t : Step} (ht : t ∈ Run.steps l input s) {f : Found} {marker : Text}
    (h : t.reference? = some (f, marker)) :
    (Run.draft l input s).links.get? f.url = some marker :=
  Table.get?_of_prefix (links_grow ht) (Step.get?_after h)

theorem nodup_links : ((Run.draft l input s).links.map Prod.fst).Nodup :=
  (trace_invariant (P := fun d => (d.links.map Prod.fst).Nodup)
    (fun t _ => t.nodup_links_after) (Table.nodup_ofDocument (Run.source input))).2

/-- The URLs of the table are those of the document and those that the run
has defined. -/
theorem draft_urls : (Run.draft l input s).links.map Prod.fst
    = (Table.ofDocument (Run.source input)).map Prod.fst
      ++ (Run.definitions l input s).map NewDefinition.url := by
  rw [draft_links, List.map_append, Run.definitions, List.map_filterMap, List.map_filterMap]
  congr 2
  funext t
  cases t.definition? <;> rfl

/-- The definitions that a run adds to its footer. -/
theorem draft_definitions : (Run.draft l input s).footer.references
    = (Run.definitions l input s).map NewDefinition.line := by
  rw [draft_references, Run.definitions, List.map_filterMap]

/-- The definitions that a run adds are for distinct URLs, and for none that
the document defines. -/
theorem nodup_definitions : ((Run.definitions l input s).map NewDefinition.url).Nodup
    ∧ ∀ n ∈ Run.definitions l input s,
      (Table.ofDocument (Run.source input)).contains n.url = false := by
  have hnodup := nodup_links l input s
  rw [draft_urls, List.nodup_append] at hnodup
  obtain ⟨-, hdefinitions, hapart⟩ := hnodup
  refine ⟨hdefinitions, ?_⟩
  intro n hn
  rw [Table.contains_eq_false_iff]
  intro hmem
  exact hapart n.url hmem n.url (List.mem_map_of_mem hn) rfl

/-- **One marker for each URL.** Two links of a run to the same URL have the
same marker, and both are written with it. The definitions that a run adds
to the footer are for distinct URLs, and for none that the document defines
already. -/
theorem one_marker_per_url :
    (∀ t ∈ Run.steps l input s, ∀ u ∈ Run.steps l input s, ∀ f g marker marker',
      t.reference? = some (f, marker) → u.reference? = some (g, marker') → f.url = g.url →
        marker = marker')
    ∧ (∀ t ∈ Run.steps l input s, ∀ f marker, t.reference? = some (f, marker) →
      (t.planned.line, (⟨t.planned.span.start, t.planned.span.stop,
        Reference.referenceLink f.linkText marker⟩ : Edit)) ∈ (Run.draft l input s).edits)
    ∧ (Run.draft l input s).footer.references
      = (Run.definitions l input s).map NewDefinition.line
    ∧ ((Run.definitions l input s).map NewDefinition.url).Nodup
    ∧ ∀ n ∈ Run.definitions l input s,
      (Table.ofDocument (Run.source input)).contains n.url = false := by
  refine ⟨?_, ?_, draft_definitions l input s, nodup_definitions l input s⟩
  · intro t ht u hu f g marker marker' hf hg hurl
    have htable := draft_get? l input s ht hf
    rw [hurl, draft_get? l input s hu hg] at htable
    exact (Option.some.inj htable).symm
  · intro t ht f marker hf
    rw [draft_edits]
    exact List.mem_filterMap.2 ⟨t, ht, Step.edit?_of_reference? hf⟩

end

/-- Two links to one page, with the marker that both have. -/
theorem one_marker_for_two_links :
    let steps := Run.steps pageLinker "[x](!g rust)\n\nand [y](!g rust)" ()
    steps.map (fun t => t.reference?.map Prod.snd) = [some ("0001" : Text), some ("0001" : Text)]
    ∧ ∀ t ∈ steps, ∀ u ∈ steps, ∀ f g marker marker', t.reference? = some (f, marker) →
      u.reference? = some (g, marker') → f.url = g.url → marker = marker' :=
  ⟨by decide +kernel, (one_marker_per_url pageLinker _ ()).1⟩

end InlineSearch.Document
