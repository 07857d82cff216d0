/-
InlineSearch.Proofs.Match.Spacing — which blanks the matchers take for
separators.

Terms end at any blank. In the text that is looked through only a space
separates words, and all other blanks are dropped with the punctuation: the
words on both sides of a line break become one. The matchers know nothing of a
text but its bare words, so the kind of blank does not matter to them exactly
where no such blank keeps two words apart (`SpacesApart`).

* `spacing_ignored_iff` — for which texts the kind of blank does not matter.
-/
import InlineSearch.Proofs.Match.Phrase
import Mathlib.Data.List.Forall2

namespace InlineSearch.Match

open Text (isBlank)

/-- A text with some of its blanks replaced by spaces. -/
def Respaced : (t spaced : Text) → Prop :=
  List.Forall₂ fun c d => d = c ∨ (isBlank c = true ∧ d = ' ')

/-- No part of a text between spaces has more than one term. -/
def SpacesApart (t : Text) : Prop := ∀ part ∈ t.splitOn ' ', (terms part).length ≤ 1

instance : DecidablePred SpacesApart := fun _ => inferInstanceAs (Decidable (∀ _ ∈ _, _))

/-- The matchers answer the same about two texts, whatever is sought. -/
def AnswerAlike (a b : Text) : Prop :=
  ∀ sought, exactly a sought = exactly b sought ∧ any a sought = any b sought
    ∧ all a sought = all b sought

theorem answerAlike_of_bareWords_eq {a b : Text} (h : bareWords a = bareWords b) :
    AnswerAlike a b := by
  intro sought
  refine ⟨?_, ?_, ?_⟩
  · rw [Bool.eq_iff_iff, exactly_iff, exactly_iff, h]
  · rw [Bool.eq_iff_iff, any_iff, any_iff, h]
  · rw [Bool.eq_iff_iff, all_iff, all_iff, h]

/-- Texts about which the matchers answer the same have equally many words. -/
theorem length_bareWords_le_of_answerAlike {a b : Text} (h : AnswerAlike a b) :
    (bareWords a).length ≤ (bareWords b).length := by
  by_cases hnil : bareWords a = []
  · simp [hnil]
  · -- All of the words of the one text, as a phrase, are found in the other.
    have hsought : bareWords (Text.unwords (bareWords a)) = bareWords a :=
      bareWords_unwords fun w hw => plainWord_of_mem_bareWords hw
    have hself : exactly a (Text.unwords (bareWords a)) = true := by
      rw [exactly_iff, hsought]
      exact ⟨hnil, bareWords a, List.suffix_refl _, beginWith_self _⟩
    rw [(h _).1, exactly_iff, hsought] at hself
    obtain ⟨-, last, hlast, hbegin⟩ := hself
    exact hbegin.length_le.trans hlast.length_le

/-! ## Spaces for blanks -/

theorem words_of_respaced {t spaced : Text} (h : Respaced t spaced) :
    Text.words spaced = Text.words t := by
  have hsplit : spaced.splitOnP isBlank = t.splitOnP isBlank := by
    induction h with
    | nil => rfl
    | @cons c d t spaced hcd hlater ih =>
      rw [List.splitOnP_cons_eq_if_modifyHead, List.splitOnP_cons_eq_if_modifyHead, ih]
      rcases hcd with rfl | ⟨hc, rfl⟩
      · rfl
      · have hspace : isBlank ' ' = true := rfl
        rw [if_pos hspace, if_pos hc]
  unfold Text.words
  rw [hsplit]

theorem terms_of_respaced {t spaced : Text} (h : Respaced t spaced) : terms spaced = terms t := by
  unfold terms
  rw [words_of_respaced h]

theorem letters_of_respaced {t spaced : Text} (h : Respaced t spaced) :
    letters spaced = letters t := by
  rw [← flatten_terms, terms_of_respaced h, flatten_terms]

/-- A text with all of its blanks replaced by spaces. -/
def spaced (t : Text) : Text := t.map fun c => if isBlank c then ' ' else c

theorem respaced_spaced (t : Text) : Respaced t (spaced t) := by
  unfold Respaced spaced
  rw [List.forall₂_map_right_iff, List.forall₂_same]
  intro c _
  split
  · next hc => exact .inr ⟨hc, rfl⟩
  · exact .inl rfl

theorem bareWords_spaced (t : Text) : bareWords (spaced t) = terms t := by
  induction t using parts_induction isBlank with
  | part t ht =>
    have hself : spaced t = t :=
      (List.map_congr_left fun c hc => by simp [ht c hc]).trans (List.map_id t)
    have hspace : ' ' ∉ t := fun hmem => absurd (ht ' ' hmem) (by decide)
    rw [hself, bareWords_eq hspace, terms_eq ht]
  | behind a c b hc hfirst hlater =>
    have hsplit : spaced (a ++ c :: b) = spaced a ++ ' ' :: spaced b := by
      simp [spaced, hc]
    rw [hsplit, bareWords_append_cons, terms_append_cons hc, hfirst, hlater]

/-! ## Parts between spaces -/

theorem spacesApart_of_not_mem {t : Text} (h : ' ' ∉ t) :
    SpacesApart t ↔ (terms t).length ≤ 1 := by
  unfold SpacesApart
  rw [List.splitOn_eq_singleton h, List.forall_mem_singleton]

theorem spacesApart_append_cons {a b : Text} :
    SpacesApart (a ++ ' ' :: b) ↔ SpacesApart a ∧ SpacesApart b := by
  unfold SpacesApart
  rw [List.splitOn_append_cons_self, List.forall_mem_append]

/-- Blanks other than spaces keep no words apart where there are as many bare
words as terms. -/
theorem spacesApart_of_length_le {t : Text} (h : (terms t).length ≤ (bareWords t).length) :
    SpacesApart t := by
  induction t using spaces_induction with
  | part t ht =>
    rw [bareWords_eq ht] at h
    exact (spacesApart_of_not_mem ht).2 (h.trans (length_wordOf_le t))
  | behind a b hfirst hlater =>
    rw [terms_append_cons rfl, bareWords_append_cons, List.length_append, List.length_append] at h
    have ha := length_bareWords_le a
    have hb := length_bareWords_le b
    exact spacesApart_append_cons.2 ⟨hfirst (by omega), hlater (by omega)⟩

/-- Spaces stay where they are. -/
theorem exists_of_respaced_append {a b spaced : Text} (h : Respaced (a ++ b) spaced) :
    ∃ a' b', spaced = a' ++ b' ∧ Respaced a a' ∧ Respaced b b' := by
  induction a generalizing spaced with
  | nil => exact ⟨[], spaced, rfl, .nil, h⟩
  | cons c a ih =>
    obtain ⟨d, later, hcd, hlater, rfl⟩ := List.forall₂_cons_left_iff.1 h
    obtain ⟨a', b', rfl, ha, hb⟩ := ih hlater
    exact ⟨d :: a', b', rfl, .cons hcd ha, hb⟩

theorem bareWords_of_respaced {t spaced : Text} (hapart : SpacesApart t) (h : Respaced t spaced) :
    bareWords spaced = bareWords t := by
  induction t using spaces_induction generalizing spaced with
  | part t ht =>
    have hlength := length_bareWords_le spaced
    rw [terms_of_respaced h] at hlength
    rw [bareWords_eq ht]
    refine eq_wordOf (fun w hw => plainWord_of_mem_bareWords hw)
      (hlength.trans ((spacesApart_of_not_mem ht).1 hapart)) ?_
    rw [flatten_bareWords, letters_of_respaced h]
  | behind a b hfirst hlater =>
    obtain ⟨ha, hb⟩ := spacesApart_append_cons.1 hapart
    obtain ⟨a', later, rfl, hfirst', hlater'⟩ := exists_of_respaced_append h
    obtain ⟨d, b', hspace, hb', rfl⟩ := List.forall₂_cons_left_iff.1 hlater'
    obtain rfl : d = ' ' := hspace.elim id And.right
    rw [bareWords_append_cons, bareWords_append_cons, hfirst ha hfirst', hlater hb hb']

/-- **The kind of blank.** Replacing blanks of a text by spaces changes no answer
of a matcher, whatever blanks are replaced and whatever is sought, exactly if no
part of the text between spaces has more than one term. -/
theorem spacing_ignored_iff (t : Text) :
    (∀ spaced, Respaced t spaced → AnswerAlike spaced t) ↔ SpacesApart t := by
  constructor
  · intro halike
    have hlength := length_bareWords_le_of_answerAlike (halike (spaced t) (respaced_spaced t))
    rw [bareWords_spaced] at hlength
    exact spacesApart_of_length_le hlength
  · intro hapart spaced hspaced
    exact answerAlike_of_bareWords_eq (bareWords_of_respaced hapart hspaced)

example : SpacesApart "Rust:\n the \tbook" := by decide +kernel

/-- A line break glues the words on both sides of it together: behind it nothing
is found that is found behind a space. -/
theorem words_glued_at_line_break :
    Respaced "rust\nbook" "rust book"
    ∧ exactly "rust book" "rust book" = true ∧ exactly "rust\nbook" "rust book" = false
    ∧ any "rust book" "book" = true ∧ any "rust\nbook" "book" = false
    ∧ all "rust book" "book" = true ∧ all "rust\nbook" "book" = false := by
  refine ⟨respaced_spaced "rust\nbook", ?_⟩
  decide +kernel

end InlineSearch.Match
