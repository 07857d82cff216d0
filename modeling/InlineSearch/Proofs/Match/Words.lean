/-
InlineSearch.Proofs.Match.Words — the two ways in which texts are cut into
words to be compared.

Sought terms are cut at every blank and then reduced to their letters and digits
(`terms`). A text that is looked through loses everything but letters, digits
and spaces first, and only what spaces keep apart is a word of it
(`bareWords`). Both cut the letters and digits of the text, in their order
(`flatten_terms`, `flatten_bareWords`), and the terms of a text are never fewer
than its bare words (`length_bareWords_le`).
-/
import InlineSearch.Match
import InlineSearch.Proofs.Text.Trim
import InlineSearch.Proofs.Text.Words

namespace InlineSearch.Match

open Text (isBlank)

/-! ## Letters and digits -/

/-- The ASCII letters and digits of a text. -/
def letters (t : Text) : Text := t.filter Char.isAlphanum

/-- A word of ASCII letters and digits. -/
def PlainWord (w : Text) : Prop := w ≠ [] ∧ ∀ c ∈ w, c.isAlphanum = true

/-- What holds of the letters and digits among the first characters holds of
all letters and digits. -/
theorem forall_isAlphanum {p : Char → Bool}
    (h : ∀ n < 128, (Char.ofNat n).isAlphanum = true → p (Char.ofNat n) = true) {c : Char}
    (hc : c.isAlphanum = true) : p c = true := by
  have hsmall : c.toNat < 128 := by
    delta Char.isAlphanum Char.isAlpha Char.isUpper Char.isLower Char.isDigit at hc
    simp only [Bool.or_eq_true, Bool.and_eq_true, decide_eq_true_eq, ge_iff_le,
      UInt32.le_iff_toNat_le] at hc
    have hZ : 'Z'.val.toNat = 90 := rfl
    have hz : 'z'.val.toNat = 122 := rfl
    have h9 : '9'.val.toNat = 57 := rfl
    unfold Char.toNat
    omega
  have hp := h c.toNat hsmall
  rw [Char.ofNat_toNat] at hp
  exact hp hc

theorem isBlank_of_isAlphanum {c : Char} (h : c.isAlphanum = true) : isBlank c = false :=
  Text.isBlank_eq_false_of (by decide +kernel) h

theorem isWord_of_isAlphanum {c : Char} (h : c.isAlphanum = true) : Text.isWord c = true :=
  forall_isAlphanum (by decide +kernel) h

theorem PlainWord.unbroken {w : Text} (h : PlainWord w) : Text.Unbroken w :=
  ⟨h.1, fun c hc => isBlank_of_isAlphanum (h.2 c hc)⟩

theorem PlainWord.letters_eq {w : Text} (h : PlainWord w) : letters w = w :=
  List.filter_eq_self.2 h.2

theorem plainWord_letters {t : Text} (h : letters t ≠ []) : PlainWord (letters t) :=
  ⟨h, fun _ hc => (List.mem_filter.1 hc).2⟩

theorem letters_append (a b : Text) : letters (a ++ b) = letters a ++ letters b :=
  List.filter_append ..

theorem letters_cons_blank {c : Char} (hc : isBlank c = true) (t : Text) :
    letters (c :: t) = letters t := by
  refine List.filter_cons_of_neg fun halpha => ?_
  rw [isBlank_of_isAlphanum halpha] at hc
  cases hc

/-- The letters and digits of a text as its only word, if there are any. -/
def wordOf (t : Text) : List Text := if letters t = [] then [] else [letters t]

theorem plainWord_of_mem_wordOf {t word : Text} (h : word ∈ wordOf t) : PlainWord word := by
  unfold wordOf at h
  split at h
  · cases h
  · next hne =>
    obtain rfl := List.mem_singleton.1 h
    exact plainWord_letters hne

theorem flatten_wordOf (t : Text) : (wordOf t).flatten = letters t := by
  unfold wordOf
  split
  · next hnil => rw [hnil, List.flatten_nil]
  · rw [List.flatten_singleton]

theorem length_wordOf_le (t : Text) : (wordOf t).length ≤ 1 := by
  unfold wordOf
  split <;> simp

/-- A text that is cut into one word at most is cut into this word. -/
theorem eq_wordOf {t : Text} {ws : List Text} (hplain : ∀ w ∈ ws, PlainWord w)
    (hlength : ws.length ≤ 1) (hflatten : ws.flatten = letters t) : ws = wordOf t := by
  unfold wordOf
  rw [← hflatten]
  match ws with
  | [] => rfl
  | [w] => simp [(hplain w (List.mem_singleton_self w)).1]
  | _ :: _ :: _ => simp at hlength

/-! ## Where a text is cut -/

/-- What holds of the parts between the characters of a class, and of two texts
with such a character between them if it holds of both, holds of every text. -/
@[elab_as_elim]
theorem parts_induction {motive : Text → Prop} (p : Char → Bool)
    (part : ∀ t, (∀ c ∈ t, p c = false) → motive t)
    (behind : ∀ a c b, p c = true → motive a → motive b → motive (a ++ c :: b))
    (t : Text) : motive t := by
  induction hlength : t.length using Nat.strongRecOn generalizing t with
  | ind n ih =>
    have hsplit := List.takeWhile_append_dropWhile (p := (!p ·)) (l := t)
    have hfirst : ∀ c ∈ t.takeWhile (!p ·), p c = false := by
      intro c hc
      simpa using List.mem_takeWhile_imp hc
    cases hrest : t.dropWhile (!p ·) with
    | nil =>
      rw [hrest, List.append_nil] at hsplit
      exact part t (hsplit ▸ hfirst)
    | cons c b =>
      rw [hrest] at hsplit
      have hc : p c = true := by
        have hhead := List.head?_dropWhile_not (!p ·) t
        simpa [hrest] using hhead
      have hshorter : b.length < n := by
        rw [← hlength, ← hsplit, List.length_append, List.length_cons]
        omega
      have hlater : motive b := ih b.length hshorter b rfl
      rw [← hsplit]
      exact behind _ c b hc (part _ hfirst) hlater

/-- What holds of the parts between spaces, and of two texts with a space between
them if it holds of both, holds of every text. -/
@[elab_as_elim]
theorem spaces_induction {motive : Text → Prop} (part : ∀ t, ' ' ∉ t → motive t)
    (behind : ∀ a b, motive a → motive b → motive (a ++ ' ' :: b)) (t : Text) : motive t := by
  induction t using parts_induction (· == ' ') with
  | part t ht => exact part t fun hmem => by simpa using ht ' ' hmem
  | behind a c b hc hfirst hlater =>
    obtain rfl := beq_iff_eq.1 hc
    exact behind a b hfirst hlater

/-! ## Terms -/

/-- A text without blanks is one term, or none. -/
theorem terms_eq {sought : Text} (h : ∀ c ∈ sought, isBlank c = false) :
    terms sought = wordOf sought := by
  unfold terms wordOf letters
  cases sought with
  | nil => rfl
  | cons c sought =>
    have hmap : [c :: sought].map (·.filter Char.isAlphanum)
        = [(c :: sought).filter Char.isAlphanum] := rfl
    rw [Text.words_of_unbroken ⟨List.cons_ne_nil c sought, h⟩, hmap]
    generalize (c :: sought).filter Char.isAlphanum = left
    cases left with
    | nil => rfl
    | cons d left => simp

/-- A blank keeps terms apart. -/
theorem terms_append_cons {c : Char} (hc : isBlank c = true) (a b : Text) :
    terms (a ++ c :: b) = terms a ++ terms b := by
  unfold terms
  rw [Text.words_append_cons hc, List.map_append, List.filter_append]

/-- The terms are what is left of the sought words. -/
theorem mem_terms_iff {sought term : Text} :
    term ∈ terms sought ↔ ∃ word ∈ Text.words sought, letters word = term ∧ term ≠ [] := by
  unfold terms
  rw [List.mem_filter, List.mem_map, Bool.not_eq_true', List.isEmpty_eq_false_iff]
  constructor
  · rintro ⟨⟨word, hword, hletters⟩, hne⟩
    exact ⟨word, hword, hletters, hne⟩
  · rintro ⟨word, hword, hletters, hne⟩
    exact ⟨⟨word, hword, hletters⟩, hne⟩

theorem plainWord_of_mem_terms {sought term : Text} (h : term ∈ terms sought) :
    PlainWord term := by
  obtain ⟨word, -, rfl, hne⟩ := mem_terms_iff.1 h
  exact plainWord_letters hne

theorem flatten_terms (sought : Text) : (terms sought).flatten = letters sought := by
  induction sought using parts_induction isBlank with
  | part t ht => rw [terms_eq ht, flatten_wordOf]
  | behind a c b hc hfirst hlater =>
    rw [terms_append_cons hc, List.flatten_append, hfirst, hlater, letters_append,
      letters_cons_blank hc]

theorem terms_eq_nil_iff {sought : Text} : terms sought = [] ↔ letters sought = [] := by
  rw [← flatten_terms]
  constructor
  · intro h
    rw [h, List.flatten_nil]
  · intro h
    rw [List.eq_nil_iff_forall_not_mem]
    intro term hmem
    exact (plainWord_of_mem_terms hmem).1 (List.flatten_eq_nil_iff.1 h term hmem)

/-! ## Bare words -/

/-- The words of a text without its punctuation. -/
def bareWords (t : Text) : List Text := Text.words (simplified t)

theorem simplified_append (a b : Text) : simplified (a ++ b) = simplified a ++ simplified b :=
  List.filter_append ..

/-- A text of letters, digits and spaces. -/
def Simple (t : Text) : Prop := ∀ c ∈ t, c.isAlphanum = true ∨ c = ' '

theorem simple_simplified (t : Text) : Simple (simplified t) := by
  intro c hc
  simpa using (List.mem_filter.1 hc).2

/-- A space keeps bare words apart. -/
theorem bareWords_append_cons (a b : Text) :
    bareWords (a ++ ' ' :: b) = bareWords a ++ bareWords b := by
  have hspace : simplified (' ' :: b) = ' ' :: simplified b := rfl
  unfold bareWords
  rw [simplified_append, hspace, Text.words_append_cons rfl]

theorem simplified_eq_letters {t : Text} (h : ' ' ∉ t) : simplified t = letters t :=
  List.filter_congr fun c hc => by
    have hne : c ≠ ' ' := fun heq => h (heq ▸ hc)
    simp [hne]

/-- A text without spaces is one bare word, or none. -/
theorem bareWords_eq {t : Text} (h : ' ' ∉ t) : bareWords t = wordOf t := by
  unfold bareWords wordOf
  rw [simplified_eq_letters h]
  split
  · next hnil => rw [hnil]; rfl
  · next hne => rw [Text.words_of_unbroken (plainWord_letters hne).unbroken]

theorem plainWord_of_mem_bareWords {t word : Text} (h : word ∈ bareWords t) : PlainWord word := by
  induction t using spaces_induction with
  | part t ht =>
    rw [bareWords_eq ht] at h
    exact plainWord_of_mem_wordOf h
  | behind a b hfirst hlater =>
    rw [bareWords_append_cons] at h
    exact (List.mem_append.1 h).elim hfirst hlater

theorem flatten_bareWords (t : Text) : (bareWords t).flatten = letters t := by
  induction t using spaces_induction with
  | part t ht => rw [bareWords_eq ht, flatten_wordOf]
  | behind a b hfirst hlater =>
    rw [bareWords_append_cons, List.flatten_append, hfirst, hlater, letters_append,
      letters_cons_blank rfl]

/-- Plain words that are joined by spaces are the bare words of the result. -/
theorem bareWords_unwords {ws : List Text} (h : ∀ w ∈ ws, PlainWord w) :
    bareWords (Text.unwords ws) = ws := by
  have hsimple : simplified (Text.unwords ws) = Text.unwords ws := by
    refine List.filter_eq_self.2 fun c hc => ?_
    rcases Text.mem_join hc with hspace | ⟨w, hw, hc⟩
    · have heq : c = ' ' := List.mem_singleton.1 hspace
      simp [heq]
    · simp [(h w hw).2 c hc]
  unfold bareWords
  rw [hsimple, Text.words_unwords fun w hw => (h w hw).unbroken]

/-- Spaces are blanks, so a text is cut into terms wherever it is cut into bare
words. -/
theorem length_bareWords_le (t : Text) : (bareWords t).length ≤ (terms t).length := by
  induction t using spaces_induction with
  | part t ht =>
    rw [bareWords_eq ht]
    unfold wordOf
    split
    · exact Nat.zero_le _
    · next hne => exact List.length_pos_iff.2 fun hnil => hne (terms_eq_nil_iff.1 hnil)
  | behind a b hfirst hlater =>
    rw [bareWords_append_cons, terms_append_cons rfl, List.length_append, List.length_append]
    exact Nat.add_le_add hfirst hlater

/-- Every bare word begins with a term. -/
theorem exists_term_prefix {t word : Text} (h : word ∈ bareWords t) :
    ∃ term ∈ terms t, term <+: word := by
  induction t using spaces_induction with
  | part t ht =>
    rw [bareWords_eq ht] at h
    unfold wordOf at h
    split at h
    · cases h
    · next hne =>
      obtain rfl := List.mem_singleton.1 h
      obtain ⟨term, later, hterms⟩ :=
        List.exists_cons_of_ne_nil fun hnil => hne (terms_eq_nil_iff.1 hnil)
      refine ⟨term, by rw [hterms]; exact List.mem_cons_self .., ?_⟩
      rw [← flatten_terms, hterms, List.flatten_cons]
      exact List.prefix_append ..
  | behind a b hfirst hlater =>
    rw [bareWords_append_cons] at h
    rw [terms_append_cons rfl]
    rcases List.mem_append.1 h with h | h
    · obtain ⟨term, hterm, hprefix⟩ := hfirst h
      exact ⟨term, List.mem_append_left _ hterm, hprefix⟩
    · obtain ⟨term, hterm, hprefix⟩ := hlater h
      exact ⟨term, List.mem_append_right _ hterm, hprefix⟩

end InlineSearch.Match
