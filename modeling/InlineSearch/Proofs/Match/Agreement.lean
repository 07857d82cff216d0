/-
InlineSearch.Proofs.Match.Agreement — where the matchers and the score agree.

The matchers see a text without its punctuation and the score sees it with it.
So a hyphen begins a word for the score and is nothing for the matchers, and
either may find a term that the other misses. Which terms the score finds is
told by the runs of letters and digits at the starts of words (`wordStarts`),
and which terms the matchers find by the bare words.

* `matchers_agree_iff` — on which texts they agree, whatever the terms are.
-/
import InlineSearch.Proofs.Match.Phrase

namespace InlineSearch.Match

open Text (foldChar dropFolded?)

/-! ## What the score finds -/

/-- The letters and digits at the start of a text, in small letters. -/
def run (t : Text) : Text := (t.map foldChar).takeWhile Char.isAlphanum

/-- The runs at the starts of the words of a text that stands behind the
character `before`. -/
def wordStartsFrom : (before : Option Char) → Text → List Text
  | _, [] => []
  | before, c :: t =>
    if Text.isWord? before then wordStartsFrom (some c) t
    else run (c :: t) :: wordStartsFrom (some c) t

/-- The runs of letters and digits at the starts of the words of a text. -/
def wordStarts (t : Text) : List Text := (wordStartsFrom .none t).filter (!·.isEmpty)

theorem isAlphanum_foldChar {c : Char} (h : c.isAlphanum = true) :
    (foldChar c).isAlphanum = true :=
  forall_isAlphanum (p := fun c => (foldChar c).isAlphanum) (by decide +kernel) h

/-- A letter that a character is folded to is small. -/
theorem foldChar_foldChar {c : Char} (h : (foldChar c).isAlphanum = true) :
    foldChar (foldChar c) = foldChar c := by
  cases hlower : (foldChar c).isLower with
  | false => exact congrArg foldChar (Text.eq_of_foldChar_eq rfl hlower).symm
  | true =>
    have hsmall := forall_isAlphanum (p := fun d => !d.isLower || foldChar d == d)
      (by decide +kernel) h
    simpa [hlower] using hsmall

theorem begins_iff_prefix_run {term t : Text} (h : PlainWord term) :
    Begins term t ↔ term.map foldChar <+: run t := by
  have hall : ∀ d ∈ term.map foldChar, d.isAlphanum = true := by
    intro d hd
    obtain ⟨c, hc, rfl⟩ := List.mem_map.1 hd
    exact isAlphanum_foldChar (h.2 c hc)
  constructor
  · rintro ⟨rest, hrest⟩
    unfold run
    rw [← hrest, List.takeWhile_append_of_pos hall]
    exact List.prefix_append ..
  · exact fun hrun => hrun.trans (List.takeWhile_prefix _)

theorem somewhere_iff_wordStartsFrom {term : Text} (h : PlainWord term) (before : Option Char)
    (t : Text) : somewhere true (fun rest => (dropFolded? term rest).isSome) before t = true
      ↔ ∃ start ∈ wordStartsFrom before t, term.map foldChar <+: start := by
  induction t generalizing before with
  | nil =>
    obtain ⟨c, letters, rfl⟩ := List.exists_cons_of_ne_nil h.1
    simp [somewhere, wordStartsFrom, dropFolded?]
  | cons c t ih =>
    rw [wordStartsFrom, somewhere, Bool.or_eq_true, Bool.and_eq_true, ih (some c)]
    split
    · next hword => simp [hword]
    · next hword =>
      rw [begins_iff, begins_iff_prefix_run h]
      simp [hword]

theorem startsWord_iff {term t : Text} (h : PlainWord term) :
    StartsWord term t ↔ ∃ start ∈ wordStarts t, term.map foldChar <+: start := by
  rw [← occurs_true_iff, occurs, somewhere_iff_wordStartsFrom h]
  constructor
  · rintro ⟨start, hstart, hprefix⟩
    have hne : start ≠ [] := by
      rintro rfl
      exact h.1 (List.map_eq_nil_iff.1 (List.prefix_nil.1 hprefix))
    exact ⟨start, List.mem_filter.2 ⟨hstart, by simp [hne]⟩, hprefix⟩
  · rintro ⟨start, hstart, hprefix⟩
    exact ⟨start, (List.mem_filter.1 hstart).1, hprefix⟩

theorem exists_run_of_mem {start t : Text} {before : Option Char}
    (h : start ∈ wordStartsFrom before t) : ∃ suf, start = run suf := by
  induction t generalizing before with
  | nil => cases h
  | cons c t ih =>
    rw [wordStartsFrom] at h
    split at h
    · exact ih h
    · rcases List.mem_cons.1 h with rfl | h
      · exact ⟨c :: t, rfl⟩
      · exact ih h

/-- A run is a term, and it is folded to itself. -/
theorem plainWord_of_mem_wordStarts {start t : Text} (h : start ∈ wordStarts t) :
    PlainWord start ∧ start.map foldChar = start := by
  obtain ⟨hmem, hne⟩ := List.mem_filter.1 h
  obtain ⟨suf, rfl⟩ := exists_run_of_mem hmem
  have hletters : ∀ d ∈ run suf, d.isAlphanum = true := fun d hd => List.mem_takeWhile_imp hd
  refine ⟨⟨by simpa using hne, hletters⟩, ?_⟩
  refine (List.map_congr_left fun d hd => ?_).trans (List.map_id _)
  obtain ⟨c, -, rfl⟩ := List.mem_map.1 ((List.takeWhile_prefix _).subset hd)
  exact foldChar_foldChar (hletters _ hd)

/-- The starts of words are left at the start of some words where all terms that
begin one of the starts begin one of the words. -/
theorem starts_kept_iff {starts words : List Text}
    (h : ∀ start ∈ starts, PlainWord start ∧ start.map foldChar = start) :
    (∀ start ∈ starts, ∃ word ∈ words, start <+: word.map foldChar)
      ↔ ∀ term, PlainWord term → (∃ start ∈ starts, term.map foldChar <+: start) →
        ∃ word ∈ words, Begins term word := by
  constructor
  · rintro hkept term - ⟨start, hstart, hprefix⟩
    obtain ⟨word, hword, hlater⟩ := hkept start hstart
    exact ⟨word, hword, hprefix.trans hlater⟩
  · -- A start is itself a term.
    intro hbegins start hstart
    obtain ⟨hplain, hfold⟩ := h start hstart
    obtain ⟨word, hword, hlater⟩ := hbegins start hplain ⟨start, hstart, by rw [hfold]⟩
    rw [Begins, hfold] at hlater
    exact ⟨word, hword, hlater⟩

/-! ## Agreement -/

/-- The score is above zero where some term matches, and the highest where all
of them match. -/
def Agree (t sought : Text) : Prop :=
  (any t sought = true ↔ 0 < score t sought)
    ∧ (all t sought = true ↔ score t sought = fullScore)

/-- A text has the same beginnings of words with its punctuation and without. -/
structure SameStarts (t : Text) : Prop where
  /-- The bare words hold what stands at the starts of words. -/
  kept : ∀ start ∈ wordStarts t, ∃ word ∈ bareWords t, start <+: word.map foldChar
  /-- The bare words stand at the starts of words. -/
  unbroken : ∀ word ∈ bareWords t, ∃ start ∈ wordStarts t, word.map foldChar <+: start

instance : DecidablePred SameStarts := fun t =>
  decidable_of_iff
    ((∀ start ∈ wordStarts t, ∃ word ∈ bareWords t, start <+: word.map foldChar)
      ∧ ∀ word ∈ bareWords t, ∃ start ∈ wordStarts t, word.map foldChar <+: start)
    ⟨fun h => ⟨h.1, h.2⟩, fun h => ⟨h.kept, h.unbroken⟩⟩

/-- The same begins the words of a text with its punctuation and without where no
term tells the two apart. -/
theorem sameStarts_iff {t : Text} : SameStarts t ↔ ∀ term, PlainWord term →
    (StartsWord term t ↔ ∃ word ∈ bareWords t, Begins term word) := by
  have hkept : (∀ start ∈ wordStarts t, ∃ word ∈ bareWords t, start <+: word.map foldChar) ↔ _ :=
    starts_kept_iff fun _ => plainWord_of_mem_wordStarts
  constructor
  · intro h term hterm
    rw [startsWord_iff hterm]
    refine ⟨hkept.1 h.kept term hterm, ?_⟩
    rintro ⟨word, hword, hprefix⟩
    obtain ⟨start, hstart, hlater⟩ := h.unbroken word hword
    exact ⟨start, hstart, hprefix.trans hlater⟩
  · intro h
    refine ⟨hkept.2 fun term hterm hstarts =>
      (h term hterm).1 ((startsWord_iff hterm).2 hstarts), fun word hword => ?_⟩
    have hplain := plainWord_of_mem_bareWords hword
    exact (startsWord_iff hplain).1 ((h word hplain).2 ⟨word, hword, List.prefix_refl _⟩)

theorem terms_of_plainWord {term : Text} (h : PlainWord term) : terms term = [term] := by
  rw [terms_eq h.unbroken.2, wordOf, h.letters_eq, if_neg h.1]

/-- **Matchers and score.** For terms with a letter or a digit the matchers find
what begins a word of the text without its punctuation, and the score what
begins a word of the text as it is. So on a text they agree for all terms
exactly if the same begins its words with the punctuation and without. -/
theorem matchers_agree_iff (t : Text) :
    (∀ sought, letters sought ≠ [] →
      (any t sought = true ↔ ∃ term ∈ terms sought, ∃ word ∈ bareWords t, Begins term word)
      ∧ (all t sought = true ↔ ∀ term ∈ terms sought, ∃ word ∈ bareWords t, Begins term word)
      ∧ (0 < score t sought ↔ ∃ term ∈ terms sought, StartsWord term t)
      ∧ (score t sought = fullScore ↔ ∀ term ∈ terms sought, StartsWord term t))
    ∧ ((∀ sought, letters sought ≠ [] → Agree t sought) ↔ SameStarts t) := by
  refine ⟨fun sought hletters => ⟨any_iff, all_iff, score_pos_iff,
    score_eq_fullScore_iff (mt terms_eq_nil_iff.1 hletters)⟩, ?_, ?_⟩
  · -- A single term that begins the one and not the other tells them apart.
    intro hagree
    rw [sameStarts_iff]
    intro term hplain
    have hscore := (hagree term (hplain.letters_eq.symm ▸ hplain.1)).1
    rw [any_iff, score_pos_iff, terms_of_plainWord hplain] at hscore
    simpa using hscore.symm
  · intro hsame sought hletters
    have hterm : ∀ term ∈ terms sought,
        (StartsWord term t ↔ ∃ word ∈ bareWords t, Begins term word) := fun term hterm =>
      sameStarts_iff.1 hsame term (plainWord_of_mem_terms hterm)
    unfold Agree
    rw [any_iff, all_iff, score_pos_iff, score_eq_fullScore_iff (mt terms_eq_nil_iff.1 hletters)]
    exact ⟨exists_congr fun term => and_congr_right fun h => (hterm term h).symm,
      forall₂_congr fun term h => (hterm term h).symm⟩

example : SameStarts "Rust: the book (2nd edition)" := by decide +kernel

/-- At a hyphen the matchers find a term that the score does not know, and the
score one that no matcher finds. -/
theorem matchers_disagree_at_hyphen :
    (letters "email" ≠ [] ∧ any "e-mail" "email" = true ∧ all "e-mail" "email" = true
      ∧ score "e-mail" "email" = 0 ∧ ¬ Agree "e-mail" "email")
    ∧ (letters "lang" ≠ [] ∧ any "rust-lang" "lang" = false ∧ all "rust-lang" "lang" = false
      ∧ score "rust-lang" "lang" = fullScore ∧ ¬ Agree "rust-lang" "lang") := by
  unfold Agree
  decide +kernel

end InlineSearch.Match
