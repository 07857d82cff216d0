/-
InlineSearch.Proofs.Match.Phrase — what the matchers find.

Without its punctuation a text is a row of bare words with spaces between them.
A phrase stands in it where its words are found one behind the other, the last
of them at least at its beginning (`BeginWith`, `somewhere_phrase_iff`), and a
term is a phrase of one word. So the answers of the matchers are told by the
bare words alone: `any_iff`, `all_iff`, `exactly_iff`.
-/
import InlineSearch.Proofs.Match.Occurrence

namespace InlineSearch.Match

open Text (isBlank foldChar dropFolded?)

/-! ## Phrases -/

/-- Words begin with the words of a phrase: with all but the last of them in
full, and with the last at least. -/
def BeginWith : (phrase words : List Text) → Prop
  | [], _ => True
  | [last], word :: _ => Begins last word
  | first :: next :: phrase, word :: words =>
    first.map foldChar = word.map foldChar ∧ BeginWith (next :: phrase) words
  | _ :: _, [] => False

/-- At a letter or a digit a text of letters, digits and spaces begins with a
word. -/
theorem exists_word_append {c : Char} {s : Text} (hc : c.isAlphanum = true)
    (hs : Simple (c :: s)) :
    ∃ w rest, PlainWord w ∧ Simple rest ∧ rest.head?.all (· == ' ') = true
      ∧ c :: s = w ++ rest := by
  have hrest : Simple ((c :: s).dropWhile Char.isAlphanum) := fun d hd =>
    hs d ((List.dropWhile_suffix _).subset hd)
  refine ⟨(c :: s).takeWhile Char.isAlphanum, (c :: s).dropWhile Char.isAlphanum,
    ⟨by simp [hc], fun d hd => List.mem_takeWhile_imp hd⟩, hrest, ?_,
    List.takeWhile_append_dropWhile.symm⟩
  have hnot := Text.head?_dropWhile_any Char.isAlphanum (c :: s)
  cases hcons : (c :: s).dropWhile Char.isAlphanum with
  | nil => rfl
  | cons d rest =>
    rw [hcons] at hnot hrest
    rcases hrest d (List.mem_cons_self ..) with hd | rfl
    · simp [hd] at hnot
    · rfl

theorem all_isBlank_of_space {c : Option Char} (h : c.all (· == ' ') = true) :
    c.all isBlank = true := by
  cases c with
  | none => rfl
  | some c =>
    obtain rfl : c = ' ' := beq_iff_eq.1 h
    rfl

/-- A text of letters, digits and spaces begins, behind spaces, with its first
word, if it has one. -/
theorem exists_first_word {s : Text} (hs : Simple s) :
    (Text.words s = [] ∧ s.dropWhile (· == ' ') = [])
      ∨ ∃ w rest, PlainWord w ∧ Simple rest ∧ rest.head?.all (· == ' ') = true
        ∧ s.dropWhile (· == ' ') = w ++ rest ∧ Text.words s = w :: Text.words rest := by
  induction s with
  | nil => exact .inl ⟨rfl, rfl⟩
  | cons c s ih =>
    rcases hs c (List.mem_cons_self ..) with hc | rfl
    · obtain ⟨w, rest, hw, hrest, hhead, hsplit⟩ := exists_word_append hc hs
      have hspace : ¬ (c == ' ') = true := by
        rw [beq_iff_eq]
        rintro rfl
        cases hc
      refine .inr ⟨w, rest, hw, hrest, hhead, ?_, ?_⟩
      · rw [List.dropWhile_cons_of_neg (by simpa using hspace), hsplit]
      · rw [hsplit, Text.words_append_of_head hw.unbroken (all_isBlank_of_space hhead)]
    · rw [Text.words_cons_blank rfl, List.dropWhile_cons_of_pos rfl]
      exact ih fun d hd => hs d (List.mem_cons_of_mem _ hd)

theorem begins_append {term w rest : Text} (h : PlainWord term)
    (hrest : rest.head?.all (· == ' ') = true) : Begins term (w ++ rest) ↔ Begins term w := by
  cases rest with
  | nil => rw [List.append_nil]
  | cons c rest =>
    obtain rfl := beq_iff_eq.1 hrest
    unfold Begins
    rw [List.map_append, List.map_cons]
    exact Text.prefix_append_cons (space_not_mem_fold h)

/-- Behind a term stands a space only where the term is the whole first word. -/
theorem dropFolded?_eq_some_space_iff {term w rest later : Text} (hterm : PlainWord term)
    (hw : PlainWord w) (hrest : rest.head?.all (· == ' ') = true) :
    dropFolded? term (w ++ rest) = some (' ' :: later)
      ↔ term.map foldChar = w.map foldChar ∧ rest = ' ' :: later := by
  rw [Text.dropFolded?_eq_some_iff]
  constructor
  · rintro ⟨start, hsplit, hfold⟩
    rcases List.append_eq_append_iff.1 hsplit with ⟨more, rfl, rfl⟩ | ⟨more, rfl, hmore⟩
    · -- What the term took of the rest would begin with a space.
      cases more with
      | nil => exact ⟨by simpa using hfold.symm, rfl⟩
      | cons d more =>
        obtain rfl : d = ' ' := beq_iff_eq.1 hrest
        have hspace := space_not_mem_fold hterm
        rw [← hfold] at hspace
        exact absurd (List.mem_map.2 ⟨' ', by simp, rfl⟩) hspace
    · cases more with
      | nil => exact ⟨by simpa using hfold.symm, hmore.symm⟩
      | cons d more =>
        obtain ⟨rfl, -⟩ := List.cons.inj hmore
        have hspace := hw.2 ' ' (by simp)
        cases hspace
  · rintro ⟨hfold, rfl⟩
    exact ⟨w, rfl, hfold.symm⟩

/-- A phrase of two words or more starts a text with its first word and a space,
and goes on behind the spaces there. -/
theorem startsPhrase_cons_cons_iff {first next : Text} {phrase : List Text} {t : Text} :
    startsPhrase (first :: next :: phrase) t = true ↔ ∃ later,
      dropFolded? first t = some (' ' :: later)
        ∧ startsPhrase (next :: phrase) ((' ' :: later).dropWhile (· == ' ')) = true := by
  rw [startsPhrase]
  · cases hdrop : dropFolded? first t with
    | none => simp
    | some rest =>
      rw [Bool.and_eq_true, beq_iff_eq, List.head?_eq_some_iff]
      constructor
      · rintro ⟨⟨later, rfl⟩, hstarts⟩
        exact ⟨later, rfl, hstarts⟩
      · rintro ⟨later, hrest, hstarts⟩
        obtain rfl := Option.some.inj hrest
        exact ⟨⟨later, rfl⟩, hstarts⟩
  · simp

/-- Behind its leading spaces a text starts with a phrase where its words begin
with the words of the phrase. -/
theorem startsPhrase_iff {phrase : List Text} (hphrase : ∀ w ∈ phrase, PlainWord w) {s : Text}
    (hs : Simple s) :
    startsPhrase phrase (s.dropWhile (· == ' ')) = true ↔ BeginWith phrase (Text.words s) := by
  induction phrase generalizing s with
  | nil => simp [startsPhrase, BeginWith]
  | cons first phrase ih =>
    have hfirst := hphrase first (List.mem_cons_self ..)
    have hlater := fun w hw => hphrase w (List.mem_cons_of_mem _ hw)
    rcases exists_first_word hs with ⟨hwords, hdrop⟩ | ⟨w, rest, hw, hsimple, hrest, hdrop, hwords⟩
    · obtain ⟨c, letters, rfl⟩ := List.exists_cons_of_ne_nil hfirst.1
      rw [hwords, hdrop]
      cases phrase <;> simp [startsPhrase, dropFolded?, BeginWith]
    · rw [hwords, hdrop]
      cases phrase with
      | nil => rw [startsPhrase, begins_iff, begins_append hfirst hrest, BeginWith]
      | cons next phrase =>
        rw [startsPhrase_cons_cons_iff, BeginWith, ← ih hlater hsimple]
        simp only [dropFolded?_eq_some_space_iff hfirst hw hrest]
        constructor
        · rintro ⟨later, ⟨hfold, rfl⟩, hstarts⟩
          exact ⟨hfold, hstarts⟩
        · rintro ⟨hfold, hstarts⟩
          cases rest with
          | nil =>
            -- No word of the phrase starts an empty text.
            obtain ⟨c, word, rfl⟩ := List.exists_cons_of_ne_nil (hlater next (by simp)).1
            cases phrase <;> simp [startsPhrase, dropFolded?] at hstarts
          | cons d later =>
            obtain rfl : d = ' ' := beq_iff_eq.1 hrest
            exact ⟨later, ⟨hfold, rfl⟩, hstarts⟩

/-- No phrase starts a text at a space. -/
theorem head?_of_startsPhrase {phrase : List Text} (hne : phrase ≠ [])
    (hphrase : ∀ w ∈ phrase, PlainWord w) {t : Text} (h : startsPhrase phrase t = true) :
    t.head?.any (· == ' ') = false := by
  obtain ⟨first, phrase, rfl⟩ := List.exists_cons_of_ne_nil hne
  have hfirst := hphrase first (List.mem_cons_self ..)
  obtain ⟨d, letters, rfl⟩ := List.exists_cons_of_ne_nil hfirst.1
  cases t with
  | nil => rfl
  | cons c t =>
    rw [List.head?_cons, Option.any_some, beq_eq_false_iff_ne]
    rintro rfl
    have hfold : foldChar d ≠ foldChar ' ' := fun heq =>
      space_not_mem_fold hfirst (by rw [List.map_cons, heq]; exact List.mem_cons_self ..)
    cases phrase <;> simp [startsPhrase, dropFolded?, hfold] at h

theorem suffix_append_cases {α : Type} {l a b : List α} (h : l <:+ a ++ b) :
    l <:+ b ∨ ∃ front, front ≠ [] ∧ front <:+ a ∧ l = front ++ b := by
  obtain ⟨before, hsplit⟩ := h
  rcases List.append_eq_append_iff.1 hsplit with ⟨front, rfl, rfl⟩ | ⟨more, rfl, rfl⟩
  · cases front with
    | nil => exact .inl (List.suffix_refl b)
    | cons x front => exact .inr ⟨x :: front, List.cons_ne_nil x front, List.suffix_append .., rfl⟩
  · exact .inl (List.suffix_append ..)

/-- The last words of a simple text are the words from some start of a word on. -/
theorem exists_of_suffix_words {s : Text} (hs : Simple s) {last : List Text} (hne : last ≠ [])
    (h : last <:+ Text.words s) :
    ∃ a b, s = a ++ b ∧ Text.isWord? a.getLast? = false ∧ b.head?.any (· == ' ') = false
      ∧ Text.words b = last := by
  induction s using spaces_induction generalizing last with
  | part s hspace =>
    by_cases hnil : s = []
    · subst hnil
      exact absurd (List.suffix_nil.1 h) hne
    · have hplain : PlainWord s := ⟨hnil, fun c hc =>
        (hs c hc).resolve_right fun heq => hspace (heq ▸ hc)⟩
      have hwords := Text.words_of_unbroken hplain.unbroken
      rw [hwords, List.suffix_cons_iff, List.suffix_nil, or_iff_left hne] at h
      refine ⟨[], s, rfl, rfl, ?_, hwords.trans h.symm⟩
      obtain ⟨c, t, rfl⟩ := List.exists_cons_of_ne_nil hnil
      rw [List.head?_cons, Option.any_some, beq_eq_false_iff_ne]
      rintro rfl
      exact hspace (List.mem_cons_self ..)
  | behind x y hx hy =>
    have hsx : Simple x := fun c hc => hs c (by simp [hc])
    have hsy : Simple y := fun c hc => hs c (by simp [hc])
    rw [Text.words_append_cons rfl] at h
    rcases suffix_append_cases h with h | ⟨front, hfront, hsuffix, rfl⟩
    · obtain ⟨a, b, rfl, hword, hhead, hwords⟩ := hy hsy hne h
      refine ⟨x ++ ' ' :: a, b, by simp, ?_, hhead, hwords⟩
      rcases List.eq_nil_or_concat a with rfl | ⟨init, c, rfl⟩
      · rw [List.getLast?_concat]
        rfl
      · rw [List.concat_eq_append] at hword ⊢
        rwa [← List.cons_append, ← List.append_assoc, List.getLast?_concat,
          ← List.getLast?_concat (l := init)]
    · obtain ⟨a, b, rfl, hword, hhead, rfl⟩ := hx hsx hfront hsuffix
      refine ⟨a, b ++ ' ' :: y, by simp, hword, ?_, Text.words_append_cons rfl b y⟩
      cases b with
      | nil => exact absurd rfl hfront
      | cons c b => exact hhead

/-- A phrase stands in a simple text where its words are found one behind the
other among the words of the text. -/
theorem somewhere_phrase_iff {phrase : List Text} (hne : phrase ≠ [])
    (hphrase : ∀ w ∈ phrase, PlainWord w) {s : Text} (hs : Simple s) :
    somewhere true (startsPhrase phrase) .none s = true
      ↔ ∃ last, last <:+ Text.words s ∧ BeginWith phrase last := by
  simp only [somewhere_true_iff, lastOf_none]
  constructor
  · rintro ⟨a, b, rfl, hword, hstarts⟩
    have hb : Simple b := fun c hc => hs c (List.mem_append_right _ hc)
    have hdrop : b.dropWhile (· == ' ') = b :=
      Text.dropWhile_append_stop (a := []) rfl (head?_of_startsPhrase hne hphrase hstarts)
    refine ⟨Text.words b, ?_, (startsPhrase_iff hphrase hb).1 (hdrop.symm ▸ hstarts)⟩
    rcases List.eq_nil_or_concat a with rfl | ⟨init, c, rfl⟩
    · exact List.suffix_refl _
    · have hc : c = ' ' := by
        refine (hs c (by simp)).resolve_left fun halpha => ?_
        have hisWord := isWord_of_isAlphanum halpha
        simp [Text.isWord?, hisWord] at hword
      rw [hc, List.concat_eq_append, List.append_assoc, List.singleton_append,
        Text.words_append_cons rfl]
      exact List.suffix_append ..
  · rintro ⟨last, hlast, hbegin⟩
    have hnil : last ≠ [] := by
      rintro rfl
      obtain ⟨first, phrase, rfl⟩ := List.exists_cons_of_ne_nil hne
      cases phrase <;> exact hbegin
    obtain ⟨a, b, rfl, hword, hhead, rfl⟩ := exists_of_suffix_words hs hnil hlast
    have hb : Simple b := fun c hc => hs c (List.mem_append_right _ hc)
    have hdrop : b.dropWhile (· == ' ') = b := Text.dropWhile_append_stop (a := []) rfl hhead
    refine ⟨a, b, rfl, hword, ?_⟩
    rw [← hdrop]
    exact (startsPhrase_iff hphrase hb).2 hbegin

/-- A phrase is no longer than the words that begin with it. -/
theorem BeginWith.length_le {phrase words : List Text} (h : BeginWith phrase words) :
    phrase.length ≤ words.length := by
  induction phrase generalizing words with
  | nil => exact Nat.zero_le _
  | cons first phrase ih =>
    cases words with
    | nil => cases phrase <;> exact absurd h not_false
    | cons word words =>
      cases phrase with
      | nil => simp
      | cons next phrase => exact Nat.succ_le_succ (ih h.2)

theorem beginWith_self (phrase : List Text) : BeginWith phrase phrase := by
  induction phrase with
  | nil => trivial
  | cons first phrase ih =>
    cases phrase with
    | nil => exact List.prefix_refl _
    | cons next phrase => exact ⟨rfl, ih⟩

theorem BeginWith.exists_begins {first : Text} {phrase words : List Text}
    (h : BeginWith (first :: phrase) words) : ∃ word ∈ words, Begins first word := by
  cases words with
  | nil => cases phrase <;> exact absurd h not_false
  | cons word words =>
    refine ⟨word, List.mem_cons_self .., ?_⟩
    cases phrase with
    | nil => exact h
    | cons next phrase =>
      unfold Begins
      rw [h.1]

/-! ## Matchers -/

theorem beginWith_singleton_iff {term : Text} {words : List Text} :
    (∃ last, last <:+ words ∧ BeginWith [term] last) ↔ ∃ word ∈ words, Begins term word := by
  constructor
  · rintro ⟨last, hlast, hbegin⟩
    cases last with
    | nil => exact absurd hbegin not_false
    | cons word later => exact ⟨word, hlast.subset (List.mem_cons_self ..), hbegin⟩
  · rintro ⟨word, hword, hbegin⟩
    obtain ⟨before, later, rfl⟩ := List.append_of_mem hword
    exact ⟨word :: later, List.suffix_append .., hbegin⟩

/-- Without punctuation a term starts the bare words that begin with it. -/
theorem occurs_simplified_iff {t term : Text} (h : PlainWord term) :
    occurs true (simplified t) term = true ↔ ∃ word ∈ bareWords t, Begins term word := by
  have hphrase : startsPhrase [term] = fun rest => (dropFolded? term rest).isSome := by
    funext rest
    rw [startsPhrase]
  rw [occurs, ← hphrase, somewhere_phrase_iff (List.cons_ne_nil term [])
    (List.forall_mem_singleton.2 h) (simple_simplified t), beginWith_singleton_iff]
  rfl

theorem any_iff {t sought : Text} :
    any t sought = true ↔ ∃ term ∈ terms sought, ∃ word ∈ bareWords t, Begins term word := by
  rw [any, List.any_eq_true]
  exact exists_congr fun term => and_congr_right fun hterm =>
    occurs_simplified_iff (plainWord_of_mem_terms hterm)

theorem all_iff {t sought : Text} :
    all t sought = true ↔ ∀ term ∈ terms sought, ∃ word ∈ bareWords t, Begins term word := by
  rw [all, List.all_eq_true]
  exact forall₂_congr fun term hterm => occurs_simplified_iff (plainWord_of_mem_terms hterm)

theorem exactly_iff {t sought : Text} : exactly t sought = true
    ↔ bareWords sought ≠ [] ∧ ∃ last, last <:+ bareWords t ∧ BeginWith (bareWords sought) last := by
  unfold exactly
  rw [Bool.and_eq_true, Bool.not_eq_true', List.isEmpty_eq_false_iff]
  exact and_congr_right fun hne =>
    somewhere_phrase_iff hne (fun w hw => plainWord_of_mem_bareWords hw) (simple_simplified t)

/-- Where the whole phrase is found, one of its words is. -/
theorem any_of_exactly {t sought : Text} (h : exactly t sought = true) : any t sought = true := by
  obtain ⟨hne, last, hlast, hbegin⟩ := exactly_iff.1 h
  obtain ⟨first, phrase, hphrase⟩ := List.exists_cons_of_ne_nil hne
  rw [hphrase] at hbegin
  obtain ⟨word, hword, hfirst⟩ := hbegin.exists_begins
  have hmem : first ∈ bareWords sought := by
    rw [hphrase]
    exact List.mem_cons_self ..
  obtain ⟨term, hterm, hstart⟩ := exists_term_prefix hmem
  have hbegins : Begins term word := (hstart.map foldChar).trans hfirst
  exact any_iff.2 ⟨term, hterm, word, hlast.subset hword, hbegins⟩

/-! ## Words that are held -/

/-- What is left of some sought word without its punctuation occurs in a text,
with the punctuation of the text or without. -/
def HoldsWord (sought t : Text) : Prop :=
  ∃ word ∈ Text.words sought, Contains word (simplified t) ∨ Contains word t

theorem holdsWord_of_any {t sought : Text} (h : any t sought = true) : HoldsWord sought t := by
  obtain ⟨term, hterm, hoccurs⟩ := List.any_eq_true.1 h
  obtain ⟨word, hword, rfl, hne⟩ := mem_terms_iff.1 hterm
  exact ⟨word, hword, .inl ⟨hne, (occurs_true_iff.1 hoccurs).occursFolded⟩⟩

theorem HoldsWord.letters_ne_nil {t sought : Text} (h : HoldsWord sought t) :
    letters sought ≠ [] := by
  obtain ⟨word, hword, hcontains⟩ := h
  have hne : letters word ≠ [] := hcontains.elim And.left And.left
  intro hnil
  have hterm := mem_terms_iff.2 ⟨word, hword, rfl, hne⟩
  rw [terms_eq_nil_iff.2 hnil] at hterm
  cases hterm

end InlineSearch.Match
