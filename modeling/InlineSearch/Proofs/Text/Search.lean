/-
InlineSearch.Proofs.Text.Search — what a walk from left to right finds behind
parts in which there is nothing to find.

A search tries one suffix after another, so it passes over a text in which no
success begins (`splitFirst?_append`), and what it finds begins at one of them
(`exists_of_splitFirst?`). Replacing passes over a part in which the
old text does not begin, whatever follows (`Passes`), and so replaces a text that
is put together from such parts and from old texts part by part
(`replaceAll_flatMap`).
-/
import InlineSearch.Proofs.Text.Cut
import Mathlib.Data.List.Infix

namespace InlineSearch.Text

/-! ## Starts -/

/-- What begins with two texts begins with the one inside the other. -/
theorem not_prefix_append {old part : Text} (h : ¬ old <+: part) (h' : ¬ part <+: old) (t : Text) :
    ¬ old <+: part ++ t := by
  intro hold
  rcases List.prefix_or_prefix_of_prefix hold (List.prefix_append part t) with hin | hin
  · exact h hin
  · exact h' hin

/-- A text does not begin inside a part and go on behind a character that it has
at its start only. -/
theorem cons_prefix_append_cons {d c : Char} {rest a : Text} (hc : c ∉ rest) (hne : a ≠ [])
    (b : Text) : d :: rest <+: a ++ c :: b ↔ d :: rest <+: a := by
  obtain ⟨e, a, rfl⟩ := List.exists_cons_of_ne_nil hne
  rw [List.cons_append, List.cons_prefix_cons, List.cons_prefix_cons, prefix_append_cons hc]

/-- No occurrence of a text begins inside a part, whatever follows the part. -/
def Passes (old part : Text) : Prop :=
  ∀ suf ∈ part.tails, suf ≠ [] → ¬ old <+: suf ∧ ¬ suf <+: old

instance (old part : Text) : Decidable (Passes old part) :=
  inferInstanceAs (Decidable (∀ _ ∈ _, _))

theorem Passes.not_prefix {old part suf : Text} (h : Passes old part) (hsuf : suf <:+ part)
    (hne : suf ≠ []) (t : Text) : ¬ old <+: suf ++ t := by
  obtain ⟨hin, hin'⟩ := h suf ((List.mem_tails ..).2 hsuf) hne
  exact not_prefix_append hin hin' t

theorem Passes.tail {old part : Text} {c : Char} (h : Passes old (c :: part)) :
    Passes old part := by
  intro suf hsuf
  rw [List.mem_tails] at hsuf
  exact h suf ((List.mem_tails ..).2 (hsuf.trans (List.suffix_cons c part)))

/-- No text begins at a character that it does not begin with. -/
theorem passes_singleton {d c : Char} (hne : d ≠ c) (rest : Text) : Passes (d :: rest) [c] := by
  intro suf hsuf hsome
  rw [List.mem_tails, List.suffix_cons_iff, List.suffix_nil] at hsuf
  obtain rfl := hsuf.resolve_right hsome
  rw [List.cons_prefix_cons, List.cons_prefix_cons]
  exact ⟨fun h => hne h.1, fun h => hne h.1.symm⟩

/-! ## First successes -/

section

variable {α : Type} {f : Text → Option α} {a b t : Text} {x : α}

/-- A search passes over a text in which no success begins. -/
theorem splitFirst?_append (hmiss : ∀ suf, suf <:+ a → suf ≠ [] → f (suf ++ b) = none)
    (h : f b = some x) : splitFirst? f (a ++ b) = some (a, x) := by
  induction a with
  | nil =>
    rw [List.nil_append]
    cases b with
    | nil => rw [splitFirst?, h]; rfl
    | cons c b => rw [splitFirst?, h]
  | cons c a ih =>
    have hnone : f (c :: (a ++ b)) = none :=
      hmiss (c :: a) (List.suffix_refl _) (List.cons_ne_nil c a)
    have hlater := ih fun suf hsuf => hmiss suf (hsuf.trans (List.suffix_cons c a))
    rw [List.cons_append, splitFirst?, hnone, hlater]
    rfl

theorem splitFirst?_eq_none (hmiss : ∀ suf, suf <:+ t → f suf = none) :
    splitFirst? f t = none := by
  induction t with
  | nil => rw [splitFirst?, hmiss [] (List.suffix_refl _)]; rfl
  | cons c t ih =>
    rw [splitFirst?, hmiss (c :: t) (List.suffix_refl _),
      ih fun suf hsuf => hmiss suf (hsuf.trans (List.suffix_cons c t))]
    rfl

/-- A success is found at what stands behind the text in front of it. -/
theorem exists_of_splitFirst? {before : Text} (h : splitFirst? f t = some (before, x)) :
    ∃ suf, t = before ++ suf ∧ f suf = some x := by
  induction t generalizing before with
  | nil =>
    simp only [splitFirst?, Option.map_eq_some_iff, Prod.mk.injEq] at h
    obtain ⟨a, ha, rfl, rfl⟩ := h
    exact ⟨[], rfl, ha⟩
  | cons c t ih =>
    rw [splitFirst?] at h
    split at h
    · next a ha =>
      cases h
      exact ⟨c :: t, rfl, ha⟩
    · simp only [Option.map_eq_some_iff, Prod.mk.injEq, Prod.exists] at h
      obtain ⟨later, a, hlater, rfl, rfl⟩ := h
      obtain ⟨suf, rfl, ha⟩ := ih hlater
      exact ⟨suf, rfl, ha⟩

/-- In a text of one line every success begins on the first line. -/
theorem splitInLine?_eq (hline : '\n' ∉ t) : splitInLine? f t = splitFirst? f t := by
  unfold splitInLine?
  cases hfound : splitFirst? f t with
  | none => rfl
  | some found =>
    have hbefore : found.1.all (· != '\n') = true := by
      rw [List.all_eq_true]
      intro c hc
      obtain ⟨suf, rfl, -⟩ := exists_of_splitFirst? hfound
      exact bne_iff_ne.2 fun heq => hline (heq ▸ List.mem_append_left suf hc)
    simp [hbefore]

theorem findSuffix?_append (hmiss : ∀ suf, suf <:+ a → suf ≠ [] → f (suf ++ b) = none)
    (h : f b = some x) : findSuffix? f (a ++ b) = some x := by
  rw [findSuffix?, splitFirst?_append hmiss h]
  rfl

theorem exists_of_findSuffix? (h : findSuffix? f t = some x) :
    ∃ suf, suf <:+ t ∧ f suf = some x := by
  obtain ⟨⟨before, a⟩, hfound, rfl⟩ := Option.map_eq_some_iff.1 h
  obtain ⟨suf, rfl, ha⟩ := exists_of_splitFirst? hfound
  exact ⟨suf, List.suffix_append before suf, ha⟩

theorem findSuffix?_eq_none (hmiss : ∀ suf, suf <:+ t → f suf = none) :
    findSuffix? f t = none := by
  rw [findSuffix?, splitFirst?_eq_none hmiss]
  rfl

end

/-! ## Replacing part by part -/

/-- The walk goes on behind the characters of an occurrence. -/
theorem replaceFrom_append (old new taken t : Text) :
    replaceFrom old new taken.length (taken ++ t) = replaceFrom old new 0 t := by
  induction taken with
  | nil => rfl
  | cons c taken ih => exact ih

theorem replaceAll_self_append {old : Text} (hne : old ≠ []) (new t : Text) :
    replaceAll old new (old ++ t) = new ++ replaceAll old new t := by
  obtain ⟨d, rest, rfl⟩ := List.exists_cons_of_ne_nil hne
  have hstart : (d :: rest).isPrefixOf (d :: (rest ++ t)) = true :=
    List.isPrefixOf_iff_prefix.2 (List.prefix_append (d :: rest) t)
  unfold replaceAll
  rw [List.cons_append, replaceFrom, if_pos hstart]
  exact congrArg (new ++ ·) (replaceFrom_append (d :: rest) new rest t)

theorem replaceAll_append_of_passes {old part : Text} (h : Passes old part) (new t : Text) :
    replaceAll old new (part ++ t) = part ++ replaceAll old new t := by
  unfold replaceAll
  induction part with
  | nil => rfl
  | cons c part ih =>
    have hstart : ¬ old.isPrefixOf (c :: (part ++ t)) = true := by
      rw [List.isPrefixOf_iff_prefix, ← List.cons_append]
      exact h.not_prefix (List.suffix_refl _) (List.cons_ne_nil c part) t
    rw [List.cons_append, replaceFrom, if_neg hstart, ih h.tail, List.cons_append]

/-- A text of parts each of which is the old text or passed over is replaced part
by part. -/
theorem replaceAll_flatMap {α : Type} {old new : Text} (hne : old ≠ []) {f g : α → Text}
    (h : ∀ a, (f a = old ∧ g a = new) ∨ (Passes old (f a) ∧ g a = f a)) (l : List α) :
    replaceAll old new (l.flatMap f) = l.flatMap g := by
  induction l with
  | nil => rfl
  | cons a l ih =>
    rw [List.flatMap_cons, List.flatMap_cons]
    rcases h a with ⟨hf, hg⟩ | ⟨hpasses, hg⟩
    · rw [hf, hg, replaceAll_self_append hne, ih]
    · rw [hg, replaceAll_append_of_passes hpasses, ih]

end InlineSearch.Text
