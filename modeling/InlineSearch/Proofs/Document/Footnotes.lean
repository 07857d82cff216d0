/-
InlineSearch.Proofs.Document.Footnotes — which footnote ids a run can write
twice.

The id of a footnote is its link text where that is one word
(`Step.literalId?`), and is drawn otherwise (`Step.drawnId?`). Drawn ids are
numbered on from the highest number that was counted in the document
(`drawnNumbers_trace`), so no id is drawn twice. What the count does not see
are the link texts, and the definitions with something else than a space
behind their colon: `footnote_ids_fresh_iff` says that a drawn id can meet
these, and no others.
-/
import InlineSearch.Proofs.Document.Freshness
import InlineSearch.Proofs.Reference.Footnote
import Mathlib.Data.List.Nodup
import Mathlib.Data.List.Perm.Basic

namespace InlineSearch.Document

open Reference (Markers footnoteId idNumber?)

/-! ## Ids of a step -/

/-- Whether a text is one word. -/
def isOneWord (t : Text) : Bool := !t.isEmpty && !t.any Text.isBlank

theorem Draft.footnoteId_eq (d : Draft) (p : PlannedSpan) (linkText : Text) :
    d.footnoteId p linkText
      = if isOneWord (Text.trim linkText) then (Text.trim linkText, d)
        else ((d.markers.freshFootnote p.config.prefixRandom).1,
          { d with markers := (d.markers.freshFootnote p.config.prefixRandom).2 }) := rfl

namespace Step

/-- Whether the span is a footnote whose link text is no id. -/
def drawsId (t : Step) : Bool :=
  match t.planned.action with
  | .footnote linkText _ => !isOneWord (Text.trim linkText)
  | _ => false

/-- The id that is drawn for a footnote. -/
def drawnId? (t : Step) : Option Text :=
  if t.drawsId then some (t.before.markers.freshFootnote t.planned.config.prefixRandom).1 else none

/-- The number of the id that is drawn. -/
def drawnNumber? (t : Step) : Option Nat :=
  if t.drawsId then some (Markers.next t.before.markers.footnotes) else none

/-- The id that the author has written for a footnote. -/
def literalId? (t : Step) : Option Text := if t.drawsId then none else t.footnote?

theorem drawnId?_eq (t : Step) : t.drawnId?
    = t.drawnNumber?.map (footnoteId (t.before.markers.start t.planned.config.prefixRandom)) := by
  unfold drawnId? drawnNumber?
  split
  · rfl
  · rfl

/-- A footnote has the id that is drawn or the id that is written. -/
theorem footnote?_toList (t : Step) :
    t.footnote?.toList = t.drawnId?.toList ++ t.literalId?.toList := by
  unfold literalId? drawnId?
  cases hdraws : t.drawsId with
  | false => rfl
  | true =>
    have hid : t.footnote?
        = some (t.before.markers.freshFootnote t.planned.config.prefixRandom).1 := by
      unfold drawsId at hdraws
      split at hdraws
      · next linkText note ha =>
        have hwords : isOneWord (Text.trim linkText) = false := by simpa using hdraws
        simp only [footnote?, ha, Draft.footnoteId_eq, hwords, Bool.false_eq_true, ↓reduceIte]
      · exact absurd hdraws Bool.false_ne_true
    rw [hid]
    rfl

/-- A drawn id is counted. -/
theorem footnoteCount_after (t : Step) : t.after.markers.footnotes
    = if t.drawsId then Markers.next t.before.markers.footnotes
      else t.before.markers.footnotes := by
  rw [markers_after]
  unfold nextMarkers
  split
  · next linkText note ha =>
    have hdraws : t.drawsId = !isOneWord (Text.trim linkText) := by simp only [drawsId, ha]
    rw [Draft.footnoteId_eq, hdraws]
    cases isOneWord (Text.trim linkText) with
    | true => rfl
    | false => rfl
  · next hother =>
    have hdraws : t.drawsId = false := by
      unfold drawsId
      split
      · next linkText note ha => exact absurd ha (hother linkText note)
      · rfl
    rw [hdraws, if_neg Bool.false_ne_true]
    split
    · rfl
    · rfl

end Step

/-! ## Ids of a run -/

/-- The numbers that are drawn follow each other. -/
theorem drawnNumbers_trace (d : Draft) (spans : List (PlannedSpan × Option Search.Outcome))
    (h : d.markers.footnotes + (trace d spans).countP Step.drawsId ≤ Text.maxWord) :
    (trace d spans).filterMap Step.drawnNumber?
      = List.range' (d.markers.footnotes + 1) ((trace d spans).countP Step.drawsId) := by
  induction spans generalizing d with
  | nil => rfl
  | cons span rest ih =>
    let t : Step := ⟨d, span.1, span.2⟩
    have hafter : (d.add span.1 span.2).markers.footnotes
        = if t.drawsId then Markers.next d.markers.footnotes else d.markers.footnotes :=
      t.footnoteCount_after
    have htrace : trace d (span :: rest) = t :: trace (d.add span.1 span.2) rest := rfl
    rw [htrace] at h ⊢
    cases hdraws : t.drawsId with
    | false =>
      have hnumber : t.drawnNumber? = none := by simp [Step.drawnNumber?, hdraws]
      rw [hdraws, if_neg Bool.false_ne_true] at hafter
      rw [List.countP_cons_of_neg (by simp [hdraws])] at h ⊢
      rw [List.filterMap_cons_none hnumber, ih _ (by rw [hafter]; exact h), hafter]
    | true =>
      rw [List.countP_cons_of_pos hdraws] at h ⊢
      have hnext : Markers.next d.markers.footnotes = d.markers.footnotes + 1 :=
        Nat.min_eq_left (by omega)
      have hnumber : t.drawnNumber? = some (d.markers.footnotes + 1) := by
        simp only [Step.drawnNumber?, hdraws, if_true]
        exact congrArg some hnext
      rw [hdraws, if_pos rfl, hnext] at hafter
      rw [List.filterMap_cons_some hnumber, ih _ (by rw [hafter]; omega), hafter,
        List.range'_succ]

namespace Run

variable {σ : Type} (l : Linker σ) (input : Text) (s : σ)

/-- The ids of the footnotes of a run. -/
def footnoteIds : List Text := (steps l input s).filterMap Step.footnote?

/-- The ids that a run draws. -/
def drawnIds : List Text := (steps l input s).filterMap Step.drawnId?

/-- The ids that the author has written. -/
def literalIds : List Text := (steps l input s).filterMap Step.literalId?

/-- The footnotes of a run have the drawn ids and the written ones. -/
theorem footnoteIds_perm :
    (footnoteIds l input s).Perm (drawnIds l input s ++ literalIds l input s) := by
  unfold footnoteIds drawnIds literalIds
  simp only [List.filterMap_eq_flatMap_toList, Step.footnote?_toList]
  exact (List.flatMap_append_perm ..).symm

end Run

section

variable {σ : Type} {l : Linker σ} {input : Text} {s : σ}

/-- What a drawn id begins with is the same all along a run. -/
theorem drawnId?_of_mem {t : Step} (ht : t ∈ Run.steps l input s) : t.drawnId?
    = t.drawnNumber?.map (footnoteId
      ((Markers.ofDocument l.random (Run.source input)).start t.planned.config.prefixRandom)) := by
  rw [t.drawnId?_eq, Markers.start, Markers.start, randomPrefix_eq ht]

variable (hrandom : l.random < 10000)
  (hcount : Markers.highest (Reference.footnoteNumbers (Run.source input))
    + (Run.steps l input s).countP Step.drawsId ≤ Text.maxWord)

include hrandom in
/-- The numbers can be read back from the ids. -/
theorem map_idNumber? : (Run.drawnIds l input s).map idNumber?
    = ((Run.steps l input s).filterMap Step.drawnNumber?).map some := by
  unfold Run.drawnIds
  rw [List.map_filterMap, List.map_filterMap]
  refine List.filterMap_congr fun t ht => ?_
  rw [drawnId?_of_mem ht, Option.map_map]
  congr 1
  funext n
  exact Reference.idNumber?_footnoteId (Markers.start_ofDocument hrandom ..) n

include hcount in
theorem drawnNumbers_eq : (Run.steps l input s).filterMap Step.drawnNumber?
    = List.range' (Markers.highest (Reference.footnoteNumbers (Run.source input)) + 1)
      ((Run.steps l input s).countP Step.drawsId) :=
  drawnNumbers_trace (Run.start l input) (Run.spans l input s) hcount

include hrandom hcount

/-- No id is drawn twice. -/
theorem nodup_drawnIds : (Run.drawnIds l input s).Nodup := by
  refine List.Nodup.of_map idNumber? ?_
  rw [map_idNumber? hrandom, drawnNumbers_eq hcount]
  exact (List.nodup_range' ..).map (Option.some_injective _)

/-- A drawn id labels no definition behind whose colon a space comes first. -/
theorem head?_rest_of_id_eq {id : Text} (hid : id ∈ Run.drawnIds l input s)
    {d : Reference.FootnoteDefinition}
    (hd : d ∈ Reference.footnoteDefinitions (Run.source input)) (heq : d.id = id) :
    d.rest.head? ≠ some ' ' := by
  intro hrest
  obtain ⟨t, ht, hdrawn⟩ := List.mem_filterMap.1 hid
  rw [drawnId?_of_mem ht] at hdrawn
  obtain ⟨n, hn, hwritten⟩ := Option.map_eq_some_iff.1 hdrawn
  have hrange : n ∈ (Run.steps l input s).filterMap Step.drawnNumber? :=
    List.mem_filterMap.2 ⟨t, ht, hn⟩
  rw [drawnNumbers_eq hcount, List.mem_range'_1] at hrange
  have hmem : n ∈ Reference.footnoteNumbers (Run.source input) :=
    Reference.footnoteNumber_mem hd hrest (Markers.start_ofDocument hrandom ..)
      (heq.trans hwritten.symm) (by omega)
  have hle := Markers.le_highest hmem
  omega

/-- **Which footnote ids are fresh.** The ids that a run draws are numbered on
from the highest number of the document, so they are distinct. They differ from
the ids that the author has written exactly if no link text spells one of them,
and from those of the document exactly if they differ from those whose colon is
followed by something else than a space. -/
theorem footnote_ids_fresh_iff :
    (∀ t ∈ Run.steps l input s, t.drawnId? = t.drawnNumber?.map (footnoteId
      ((Markers.ofDocument l.random (Run.source input)).start t.planned.config.prefixRandom)))
    ∧ (Run.steps l input s).filterMap Step.drawnNumber?
      = List.range' (Markers.highest (Reference.footnoteNumbers (Run.source input)) + 1)
        ((Run.steps l input s).countP Step.drawsId)
    ∧ (Run.drawnIds l input s).Nodup
    ∧ ((Run.footnoteIds l input s).Nodup ↔ (Run.literalIds l input s).Nodup
      ∧ ∀ id ∈ Run.drawnIds l input s, id ∉ Run.literalIds l input s)
    ∧ ((∀ id ∈ Run.drawnIds l input s,
        ∀ d ∈ Reference.footnoteDefinitions (Run.source input), d.id ≠ id)
      ↔ ∀ id ∈ Run.drawnIds l input s,
        ∀ d ∈ Reference.footnoteDefinitions (Run.source input),
          d.rest.head? ≠ some ' ' → d.id ≠ id) := by
  have hnodup := nodup_drawnIds hrandom hcount
  refine ⟨fun t => drawnId?_of_mem, drawnNumbers_eq hcount, hnodup, ?_, ?_⟩
  · rw [(Run.footnoteIds_perm l input s).nodup_iff, List.nodup_append]
    constructor
    · rintro ⟨-, hliteral, hapart⟩
      exact ⟨hliteral, fun id hdrawn hmem => hapart id hdrawn id hmem rfl⟩
    · rintro ⟨hliteral, hapart⟩
      exact ⟨hnodup, hliteral, fun id hdrawn other hmem heq => hapart id hdrawn (heq ▸ hmem)⟩
  · constructor
    · intro h id hid d hd _
      exact h id hid d hd
    · intro h id hid d hd heq
      exact h id hid d hd (head?_rest_of_id_eq hrandom hcount hid hd heq) heq

end

/-- A document with one footnote, which is counted, and an id of the author
between two that are drawn. -/
theorem footnote_ids_fresh_counted :
    let input : Text := "[^fn0003]: old\n\n[two words](^one) and [lit](^two) and [](^three)"
    Run.footnoteIds pageLinker input () = ["fn0004".toList, "lit".toList, "fn0005".toList]
    ∧ (Run.footnoteIds pageLinker input ()).Nodup
    ∧ ∀ id ∈ Run.drawnIds pageLinker input (),
      ∀ d ∈ Reference.footnoteDefinitions (Run.source input), d.id ≠ id := by
  intro input
  obtain ⟨-, -, -, hids, hdefined⟩ :=
    @footnote_ids_fresh_iff Unit pageLinker input () (by decide) (by decide +kernel)
  exact ⟨by decide +kernel, hids.2 ⟨by decide +kernel, by decide +kernel⟩,
    hdefined.2 (by decide +kernel)⟩

/-- The author has written the id that is drawn for an earlier footnote. -/
theorem footnote_id_written_twice :
    ¬ ∀ id ∈ Run.drawnIds pageLinker "[two words](^one) and [fn0001](^two)" (),
      id ∉ Run.literalIds pageLinker "[two words](^one) and [fn0001](^two)" () := by
  decide +kernel

end InlineSearch.Document
