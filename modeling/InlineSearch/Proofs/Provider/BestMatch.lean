/-
InlineSearch.Proofs.Provider.BestMatch — which bookmarks a search can answer
with.

Both kinds of bookmarks are searched in one walk that keeps the best of those
that qualify (`champion`), so the answer qualifies, and there is one if any
bookmark does. What qualifies is told by the bare words of a bookmark. Among
the bookmarks of a browser those qualify in which every term is found, so all
of them do where nothing is left of the sought text to be found, and none that
has a sought word only where its punctuation is needed to see it.

* `match_has_word_iff` — whether an answer holds a word that was sought.
* `Bookmarks.bookmark_found_iff` — for which bookmarks there is an answer.
-/
import InlineSearch.Proofs.Match.Agreement
import InlineSearch.Provider.Bookmarks
import InlineSearch.Provider.Pinboard

namespace InlineSearch

open Match (letters terms bareWords wordStarts Begins PlainWord StartsWord)
open Text (foldChar)

namespace Provider

/-! ## The best of some candidates -/

section

variable {α : Type} {beats : α → α → Bool} {candidates : List α} {best : α}

/-- The candidate that is left where each is compared with the best before it. -/
def champion (beats : α → α → Bool) (candidates : List α) : Option α :=
  candidates.foldl (fun best? a =>
    match best? with
    | some best => some (if beats a best then a else best)
    | none => some a) none

theorem champion_concat (beats : α → α → Bool) (candidates : List α) (a : α) :
    champion beats (candidates ++ [a])
      = match champion beats candidates with
        | some best => some (if beats a best then a else best)
        | none => some a := List.foldl_concat ..

theorem champion_eq_none_iff : champion beats candidates = none ↔ candidates = [] := by
  rcases List.eq_nil_or_concat candidates with rfl | ⟨init, a, rfl⟩
  · simp [champion]
  · rw [List.concat_eq_append, champion_concat]
    cases champion beats init <;> simp

theorem mem_of_champion (h : champion beats candidates = some best) : best ∈ candidates := by
  induction candidates using List.reverseRecOn generalizing best with
  | nil => cases h
  | append_singleton init a ih =>
    rw [champion_concat] at h
    cases hinit : champion beats init with
    | none =>
      rw [hinit] at h
      obtain rfl := Option.some.inj h
      simp
    | some earlier =>
      rw [hinit] at h
      obtain rfl := Option.some.inj h
      split
      · simp
      · exact List.mem_append_left _ (ih hinit)

/-- No candidate is above the one that is left, in an order in which none is
below what it beats nor above what it does not beat. -/
theorem rel_of_champion (rel : α → α → Prop) (refl : ∀ a, rel a a)
    (trans : ∀ a b c, rel a b → rel b c → rel a c) (wins : ∀ a b, beats a b = true → rel b a)
    (loses : ∀ a b, beats a b = false → rel a b) (h : champion beats candidates = some best) :
    ∀ a ∈ candidates, rel a best := by
  induction candidates using List.reverseRecOn generalizing best with
  | nil => cases h
  | append_singleton init a ih =>
    rw [champion_concat] at h
    rw [List.forall_mem_append, List.forall_mem_singleton]
    cases hinit : champion beats init with
    | none =>
      rw [hinit] at h
      obtain rfl := Option.some.inj h
      have hnil : init = [] := champion_eq_none_iff.1 hinit
      rw [hnil]
      exact ⟨List.forall_mem_nil _, refl a⟩
    | some earlier =>
      rw [hinit] at h
      obtain rfl := Option.some.inj h
      split
      · next hbeats =>
        exact ⟨fun b hb => trans b earlier a (ih hinit b hb) (wins a earlier hbeats), refl a⟩
      · next hbeats => exact ⟨ih hinit, loses a earlier (Bool.eq_false_iff.2 hbeats)⟩

end

/-! ## Bookmarks of a browser -/

namespace Bookmarks

variable {bookmarks : List Bookmark} {sought : Text} {found : Bookmark}

theorem best?_eq (bookmarks : List Bookmark) (sought : Text) :
    best? bookmarks sought = champion (fun b best => b.atLeast sought best)
      (bookmarks.filter fun b => Match.all b.searched sought) := by
  unfold best? champion
  congr 1
  funext best? b
  cases best? <;> rfl

theorem mem_of_best? (h : best? bookmarks sought = some found) :
    found ∈ bookmarks ∧ Match.all found.searched sought = true := by
  rw [best?_eq] at h
  exact List.mem_filter.1 (mem_of_champion h)

theorem exists_best?_iff : (∃ found, best? bookmarks sought = some found)
    ↔ ∃ b ∈ bookmarks, Match.all b.searched sought = true := by
  rw [← Option.ne_none_iff_exists', best?_eq, ne_eq, champion_eq_none_iff, List.filter_eq_nil_iff]
  simp

theorem Bookmark.atLeast_iff {a b : Bookmark} : a.atLeast sought b = true
    ↔ Match.score b.searched sought < Match.score a.searched sought
      ∨ (Match.score a.searched sought = Match.score b.searched sought ∧ b.added ≤ a.added) := by
  simp [Bookmark.atLeast]

theorem Bookmark.atLeast_refl (b : Bookmark) (sought : Text) : b.atLeast sought b = true :=
  Bookmark.atLeast_iff.2 (.inr ⟨rfl, Nat.le_refl _⟩)

theorem Bookmark.atLeast_trans {a b c : Bookmark} (hba : b.atLeast sought a = true)
    (hcb : c.atLeast sought b = true) : c.atLeast sought a = true := by
  rw [Bookmark.atLeast_iff] at hba hcb ⊢
  rcases hba with hba | ⟨heq, hba⟩
  · rcases hcb with hcb | ⟨heq', -⟩
    · exact .inl (hba.trans hcb)
    · exact .inl (heq'.symm ▸ hba)
  · rcases hcb with hcb | ⟨heq', hcb⟩
    · exact .inl (heq ▸ hcb)
    · exact .inr ⟨heq'.trans heq, hba.trans hcb⟩

/-- Of two bookmarks one is at least as good as the other. -/
theorem Bookmark.atLeast_of_not_atLeast {a b : Bookmark} (h : a.atLeast sought b = false) :
    b.atLeast sought a = true := by
  rw [← Bool.not_eq_true, Bookmark.atLeast_iff, not_or, not_and, not_lt, not_le] at h
  rw [Bookmark.atLeast_iff]
  rcases h.1.lt_or_eq with hlt | heq
  · exact .inl hlt
  · exact .inr ⟨heq.symm, (h.2 heq).le⟩

/-- The answer is as good as any bookmark in which all terms are found. -/
theorem atLeast_of_best? (h : best? bookmarks sought = some found) :
    ∀ b ∈ bookmarks, Match.all b.searched sought = true → found.atLeast sought b = true := by
  rw [best?_eq] at h
  intro b hb hall
  refine rel_of_champion (fun a best => best.atLeast sought a = true)
    (fun a => a.atLeast_refl sought) (fun _ _ _ => Bookmark.atLeast_trans)
    (fun _ _ hwins => hwins) (fun _ _ => Bookmark.atLeast_of_not_atLeast) h b ?_
  exact List.mem_filter.2 ⟨hb, hall⟩

/-- Where nothing is left of the sought text to be found, every bookmark
qualifies, and the answer is one that was added last. -/
theorem exists_newest (h : letters sought = []) (hne : bookmarks ≠ []) :
    ∃ found ∈ bookmarks, best? bookmarks sought = some found
      ∧ ∀ b ∈ bookmarks, b.added ≤ found.added := by
  have hall : ∀ b : Bookmark, Match.all b.searched sought = true := by
    intro b
    rw [Match.all_iff, Match.terms_eq_nil_iff.2 h]
    exact List.forall_mem_nil _
  obtain ⟨b, hb⟩ := List.exists_mem_of_ne_nil bookmarks hne
  obtain ⟨found, hfound⟩ := exists_best?_iff.2 ⟨b, hb, hall b⟩
  refine ⟨found, (mem_of_best? hfound).1, hfound, fun other hother => ?_⟩
  have hbest := atLeast_of_best? hfound other hother (hall other)
  rw [Bookmark.atLeast_iff, Match.score_of_letters_nil h, Match.score_of_letters_nil h] at hbest
  exact (hbest.resolve_left (lt_irrefl 0)).2

end Bookmarks

/-! ## Bookmarks at the service -/

namespace Pinboard

variable {bookmarks : List Bookmark} {sought : Text} {found : Bookmark}

theorem bestScored?_eq (bookmarks : List Bookmark) (sought : Text) :
    bestScored? bookmarks sought = champion (fun b best => b.better sought best)
      (bookmarks.filter fun b => 0 < b.score sought) := by
  unfold bestScored? champion
  congr 1
  funext best? b
  cases best? <;> rfl

theorem Bookmark.bareWords_titleAndTags (b : Bookmark) :
    bareWords b.titleAndTags = bareWords b.title ++ bareWords b.tags := by
  unfold Bookmark.titleAndTags
  rw [List.append_assoc]
  exact Match.bareWords_append_cons b.title b.tags

theorem Bookmark.bareWords_searched (b : Bookmark) : bareWords b.searched
    = bareWords b.title ++ (bareWords b.description ++ bareWords b.tags) := by
  unfold Bookmark.searched
  rw [List.append_assoc, List.append_assoc, List.append_assoc]
  exact (Match.bareWords_append_cons b.title _).trans
    (congrArg _ (Match.bareWords_append_cons b.description b.tags))

/-- What is found in the title and the tags is found in the whole bookmark. -/
theorem Bookmark.any_of_titleAndTags {b : Bookmark}
    (h : Match.any b.titleAndTags sought = true) : Match.any b.searched sought = true := by
  rw [Match.any_iff, b.bareWords_titleAndTags] at h
  rw [Match.any_iff, b.bareWords_searched]
  obtain ⟨term, hterm, word, hword, hbegins⟩ := h
  refine ⟨term, hterm, word, ?_, hbegins⟩
  rcases List.mem_append.1 hword with hword | hword
  · exact List.mem_append_left _ hword
  · exact List.mem_append_right _ (List.mem_append_right _ hword)

/-- A bookmark that scores holds one of the terms. -/
theorem Bookmark.any_of_score_pos {b : Bookmark} (h : 0 < b.score sought) :
    Match.any b.searched sought = true := by
  unfold Bookmark.score at h
  split at h
  · next hexact => exact Bookmark.any_of_titleAndTags (Match.any_of_exactly hexact)
  · split at h
    · next hexact => exact Match.any_of_exactly hexact
    · split at h
      · next hany => exact hany
      · exact absurd h (lt_irrefl 0)

theorem mem_of_best? (hphrase : phrase? sought = none)
    (h : best? bookmarks sought = some found) :
    found ∈ bookmarks ∧ Match.any found.searched sought = true := by
  unfold best? at h
  rw [hphrase] at h
  dsimp only at h
  split at h
  · next b hfind =>
    obtain rfl := Option.some.inj h
    have hscore := List.find?_some hfind
    have hpos : 0 < titleScore := by decide
    exact ⟨List.mem_of_find?_eq_some hfind,
      Bookmark.any_of_score_pos (hpos.trans_le (of_decide_eq_true hscore))⟩
  · rw [bestScored?_eq] at h
    obtain ⟨hbookmark, hscore⟩ := List.mem_filter.1 (mem_of_champion h)
    exact ⟨hbookmark, Bookmark.any_of_score_pos (of_decide_eq_true hscore)⟩

end Pinboard

/-! ## Answers hold a sought word -/

/-- **Answers hold a sought word.** A bookmark at the service is found only for a
word of the sought text of which letters or digits are left and that occurs in
it, and so is a bookmark of a browser, if any letters or digits are left of the
sought text. If none are, every bookmark of a browser is taken for a match, and
the answer is one that was added last. -/
theorem match_has_word_iff (sought : Text) :
    ((∀ bookmarks found, Bookmarks.best? bookmarks sought = some found →
        found ∈ bookmarks ∧ Match.HoldsWord sought found.searched) ↔ letters sought ≠ [])
    ∧ (letters sought = [] → ∀ bookmarks, bookmarks ≠ [] → ∃ found ∈ bookmarks,
        Bookmarks.best? bookmarks sought = some found ∧ ∀ b ∈ bookmarks, b.added ≤ found.added)
    ∧ (Pinboard.phrase? sought = none → ∀ bookmarks,
        (∀ found, Pinboard.best? bookmarks sought = some found →
          found ∈ bookmarks ∧ Match.HoldsWord sought found.searched)
        ∧ (letters sought = [] → Pinboard.best? bookmarks sought = none)) := by
  refine ⟨⟨?_, ?_⟩, fun hnil bookmarks hne => Bookmarks.exists_newest hnil hne, ?_⟩
  · intro hholds hnil
    obtain ⟨found, -, hfound, -⟩ :=
      Bookmarks.exists_newest hnil (List.cons_ne_nil ⟨[], [], 0⟩ [])
    exact (hholds _ found hfound).2.letters_ne_nil hnil
  · intro hletters bookmarks found hfound
    obtain ⟨hmem, hall⟩ := Bookmarks.mem_of_best? hfound
    obtain ⟨term, hterm⟩ :=
      List.exists_mem_of_ne_nil _ (mt Match.terms_eq_nil_iff.1 hletters)
    rw [Match.all_iff] at hall
    exact ⟨hmem, Match.holdsWord_of_any (Match.any_iff.2 ⟨term, hterm, hall term hterm⟩)⟩
  · intro hphrase bookmarks
    have hholds : ∀ found, Pinboard.best? bookmarks sought = some found →
        found ∈ bookmarks ∧ Match.HoldsWord sought found.searched := fun found hfound =>
      (Pinboard.mem_of_best? hphrase hfound).imp_right Match.holdsWord_of_any
    refine ⟨hholds, fun hnil => ?_⟩
    rw [Option.eq_none_iff_forall_ne_some]
    exact fun found hfound => (hholds found hfound).2.letters_ne_nil hnil

/-- Terms in another script match any bookmark. -/
theorem match_without_word :
    letters "日本" = []
    ∧ Bookmarks.best? [⟨"https://rust-lang.org", "Rust", 1⟩] "日本"
      = some ⟨"https://rust-lang.org", "Rust", 1⟩
    ∧ ¬ Match.HoldsWord "日本" (Bookmarks.Bookmark.searched ⟨"https://rust-lang.org", "Rust", 1⟩) := by
  have hnil : letters "日本" = [] := by decide +kernel
  exact ⟨hnil, by decide +kernel, fun hholds => hholds.letters_ne_nil hnil⟩

/-! ## Every match is found -/

/-- Sought words that are made of letters and digits, one or more. -/
structure PlainSearch (sought : Text) : Prop where
  some_word : Text.words sought ≠ []
  plain : ∀ word ∈ Text.words sought, PlainWord word

theorem PlainSearch.terms_eq {sought : Text} (h : PlainSearch sought) :
    terms sought = Text.words sought := by
  have hletters : (Text.words sought).map (·.filter Char.isAlphanum) = Text.words sought :=
    (List.map_congr_left fun w hw => (h.plain w hw).letters_eq).trans (List.map_id _)
  unfold terms
  rw [hletters, List.filter_eq_self]
  intro w hw
  simp [(h.plain w hw).1]

theorem plainSearch_of_plainWord {word : Text} (h : PlainWord word) : PlainSearch word := by
  have hwords := Text.words_of_unbroken h.unbroken
  refine ⟨by rw [hwords]; exact List.cons_ne_nil _ _, ?_⟩
  rw [hwords, List.forall_mem_singleton]
  exact h

namespace Bookmarks

theorem Bookmark.bareWords_searched (b : Bookmark) :
    bareWords b.searched = bareWords b.title ++ bareWords b.url := by
  unfold Bookmark.searched
  rw [List.append_assoc]
  exact Match.bareWords_append_cons b.title b.url

/-- Each of the sought words starts a word of the title or of the URL. -/
def Bookmark.HasWords (b : Bookmark) (sought : Text) : Prop :=
  ∀ word ∈ Text.words sought, StartsWord word b.title ∨ StartsWord word b.url

/-- What starts the words of the title and of the URL is left at the start of a
bare word. -/
def Bookmark.KeepsStarts (b : Bookmark) : Prop :=
  ∀ start ∈ wordStarts b.title ++ wordStarts b.url,
    ∃ word ∈ bareWords b.title ++ bareWords b.url, start <+: word.map foldChar

instance : DecidablePred Bookmark.KeepsStarts := fun _ =>
  inferInstanceAs (Decidable (∀ _ ∈ _, ∃ _ ∈ _, _))

theorem Bookmark.startsWord_iff {b : Bookmark} {word : Text} (h : PlainWord word) :
    StartsWord word b.title ∨ StartsWord word b.url
      ↔ ∃ start ∈ wordStarts b.title ++ wordStarts b.url, word.map foldChar <+: start := by
  rw [Match.startsWord_iff h, Match.startsWord_iff h]
  simp only [List.mem_append, or_and_right, exists_or]

/-- No start of a word is lost where every word that starts one begins a bare
word. -/
theorem Bookmark.keepsStarts_iff {b : Bookmark} : b.KeepsStarts
    ↔ ∀ word, PlainWord word → StartsWord word b.title ∨ StartsWord word b.url →
      ∃ bare ∈ bareWords b.title ++ bareWords b.url, Begins word bare := by
  unfold Bookmark.KeepsStarts
  rw [Match.starts_kept_iff fun start hstart => (List.mem_append.1 hstart).elim
    Match.plainWord_of_mem_wordStarts Match.plainWord_of_mem_wordStarts]
  exact forall₂_congr fun word h => imp_congr_left (Bookmark.startsWord_iff h).symm

theorem exists_best?_iff_bareWords {sought : Text} (h : PlainSearch sought)
    (bookmarks : List Bookmark) : (∃ found, best? bookmarks sought = some found)
      ↔ ∃ b ∈ bookmarks, ∀ word ∈ Text.words sought,
        ∃ bare ∈ bareWords b.title ++ bareWords b.url, Begins word bare := by
  simp only [exists_best?_iff, Match.all_iff, h.terms_eq, Bookmark.bareWords_searched]

/-- **Which bookmarks are found.** For words of letters and digits there is an
answer exactly if each of them begins a bare word of one bookmark. So a bookmark
is enough for an answer whenever it has all of the sought words at the start of
words, exactly if its punctuation can be dropped without losing the start of a
word. -/
theorem bookmark_found_iff (b : Bookmark) :
    (∀ bookmarks sought, PlainSearch sought →
      ((∃ found, best? bookmarks sought = some found)
        ↔ ∃ b ∈ bookmarks, ∀ word ∈ Text.words sought,
          ∃ bare ∈ bareWords b.title ++ bareWords b.url, Begins word bare))
    ∧ ((∀ bookmarks sought, b ∈ bookmarks → PlainSearch sought → b.HasWords sought →
        ∃ found, best? bookmarks sought = some found) ↔ b.KeepsStarts) := by
  refine ⟨fun bookmarks sought h => exists_best?_iff_bareWords h bookmarks, ?_, ?_⟩
  · intro hfound
    rw [Bookmark.keepsStarts_iff]
    intro term hplain hstarts
    have hsought := plainSearch_of_plainWord hplain
    have hwords := Text.words_of_unbroken hplain.unbroken
    have hhas : b.HasWords term := by
      unfold Bookmark.HasWords
      rw [hwords, List.forall_mem_singleton]
      exact hstarts
    have hanswer := hfound [b] term (List.mem_singleton_self b) hsought hhas
    rw [exists_best?_iff_bareWords hsought, hwords] at hanswer
    simpa using hanswer
  · intro hkeeps bookmarks sought hb hsought hhas
    rw [exists_best?_iff_bareWords hsought]
    exact ⟨b, hb, fun word hword =>
      Bookmark.keepsStarts_iff.1 hkeeps word (hsought.plain word hword) (hhas word hword)⟩

/-- A bookmark all of whose words are found: those of its URL start its title. -/
example : Bookmark.KeepsStarts ⟨"https://rust", "Rust, the book (2nd edition)", 1⟩ := by
  decide +kernel

/-- A word of a path is lost, since the URL without its punctuation is one word. -/
theorem bookmark_lost_behind_slash :
    PlainSearch "book"
    ∧ Bookmark.HasWords ⟨"https://doc.rust-lang.org/book/", "Rust", 1⟩ "book"
    ∧ best? [⟨"https://doc.rust-lang.org/book/", "Rust", 1⟩] "book" = none := by
  have hplain : PlainWord "book" := ⟨by decide, List.all_eq_true.1 (by decide)⟩
  refine ⟨plainSearch_of_plainWord hplain, ?_, by decide +kernel⟩
  unfold Bookmark.HasWords
  rw [Text.words_of_unbroken hplain.unbroken]
  decide +kernel

end Bookmarks

end Provider

end InlineSearch
