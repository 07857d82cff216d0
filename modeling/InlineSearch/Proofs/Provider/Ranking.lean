/-
InlineSearch.Proofs.Provider.Ranking — the bookmark that ranks highest.

A walk that keeps the best candidate so far ends with a greatest one, and of
several greatest ones with the first, whatever the list and its order
(`exists_split_of_champion`). Bookmarks at the service rank by their points and
then by their time (`Bookmark.rank`), and a bookmark is better than another
exactly if it ranks higher (`Bookmark.better_iff`).

Points are fractions with one denominator (`Bookmark.points_cases`), so they are
equal as soon as they are closer to each other than these fractions can be
(`Bookmark.better_iff_within`).

* `highest_rank_found` — which bookmark a search answers with.
-/
import InlineSearch.Proofs.Provider.BestMatch
import InlineSearch.Proofs.Text.Trim
import Mathlib.Algebra.Order.Group.Abs
import Mathlib.Data.Char
import Mathlib.Data.List.Lex
import Mathlib.Data.Prod.Lex
import Mathlib.Tactic.Linarith
import Mathlib.Tactic.Ring

namespace InlineSearch.Provider

/-! ## The first of the greatest -/

/-- The candidate that is left is a greatest one, and the first of these. -/
theorem exists_split_of_champion {α κ : Type} [LinearOrder κ] (key : α → κ)
    {beats : α → α → Bool} (hbeats : ∀ a b, beats a b = true ↔ key b < key a)
    {candidates : List α} {best : α} (h : champion beats candidates = some best) :
    ∃ earlier later, candidates = earlier ++ best :: later
      ∧ (∀ a ∈ earlier, key a < key best) ∧ ∀ a ∈ later, key a ≤ key best := by
  induction candidates using List.reverseRecOn generalizing best with
  | nil => cases h
  | append_singleton init a ih =>
    rw [champion_concat] at h
    cases hinit : champion beats init with
    | none =>
      rw [hinit] at h
      obtain rfl := Option.some.inj h
      rw [champion_eq_none_iff.1 hinit]
      exact ⟨[], [], rfl, List.forall_mem_nil _, List.forall_mem_nil _⟩
    | some current =>
      rw [hinit] at h
      obtain rfl := Option.some.inj h
      obtain ⟨earlier, later, rfl, hearlier, hlater⟩ := ih hinit
      by_cases hwins : beats a current = true
      · -- What does not exceed the best so far is exceeded by what beats it.
        have hlt := (hbeats a current).1 hwins
        rw [if_pos hwins]
        refine ⟨earlier ++ current :: later, [], rfl, ?_, List.forall_mem_nil _⟩
        rw [List.forall_mem_append, List.forall_mem_cons]
        exact ⟨fun b hb => (hearlier b hb).trans hlt, hlt, fun b hb => (hlater b hb).trans_lt hlt⟩
      · have hle : key a ≤ key current := not_lt.1 (mt (hbeats a current).2 hwins)
        rw [if_neg hwins]
        refine ⟨earlier, later ++ [a], by simp, hearlier, ?_⟩
        rw [List.forall_mem_append, List.forall_mem_singleton]
        exact ⟨hlater, hle⟩

/-- What the selected members of a list lie between, the member lies between in
the list. -/
theorem exists_split_of_filter {α : Type} {p : α → Bool} {l front back : List α} {a : α}
    (h : l.filter p = front ++ a :: back) : ∃ earlier later, l = earlier ++ a :: later ∧ p a = true
      ∧ (∀ b ∈ earlier, p b = true → b ∈ front) ∧ ∀ b ∈ later, p b = true → b ∈ back := by
  obtain ⟨before, behind, rfl, rfl, hbehind⟩ := List.filter_eq_append_iff.1 h
  obtain ⟨skipped, later, rfl, hskipped, ha, rfl⟩ := List.filter_eq_cons_iff.1 hbehind
  refine ⟨before ++ skipped, later, (List.append_assoc ..).symm, ha, fun b hb hp => ?_,
    fun b hb hp => List.mem_filter.2 ⟨hb, hp⟩⟩
  rcases List.mem_append.1 hb with hb | hb
  · exact List.mem_filter.2 ⟨hb, hp⟩
  · exact absurd hp (hskipped b hb)

namespace Pinboard

open Match (terms fullScore)

variable {sought : Text} {bookmarks : List Bookmark}

/-! ## Points and ranks -/

/-- The terms stand as a phrase in the title and the tags of a bookmark. -/
def Bookmark.Titled (sought : Text) (b : Bookmark) : Prop :=
  Match.exactly b.titleAndTags sought = true

instance (sought : Text) : DecidablePred (Bookmark.Titled sought) := fun b =>
  inferInstanceAs (Decidable (Match.exactly b.titleAndTags sought = true))

/-- The points of a bookmark that does not have the terms in its title and
tags. -/
def Bookmark.points (sought : Text) (b : Bookmark) : Rat :=
  if Match.exactly b.searched sought then phraseScore
  else if Match.any b.searched sought then Match.score b.searched sought
  else 0

/-- Bookmarks rank by their points, and then by their time. -/
def Bookmark.rank (sought : Text) (b : Bookmark) : Rat ×ₗ Text := toLex (b.points sought, b.time)

theorem Bookmark.score_of_titled {b : Bookmark} (h : b.Titled sought) :
    b.score sought = titleScore := if_pos h

theorem Bookmark.score_of_not_titled {b : Bookmark} (h : ¬ b.Titled sought) :
    b.score sought = b.points sought := if_neg h

/-- Points are those of the phrase, or a number of terms out of all terms. -/
theorem Bookmark.points_cases (sought : Text) (b : Bookmark) : b.points sought = phraseScore
    ∨ ∃ found ≤ (terms sought).length,
      b.points sought = (found : Rat) / (terms sought).length * fullScore := by
  unfold Bookmark.points
  split
  · exact .inl rfl
  · right
    split
    · exact ⟨_, List.countP_le_length, rfl⟩
    · exact ⟨0, Nat.zero_le _, by simp⟩

/-- The terms that are found are a fraction of all terms. -/
theorem fraction_mem {found all : Nat} (h : found ≤ all) :
    0 ≤ (found : Rat) / all * fullScore ∧ (found : Rat) / all * fullScore ≤ fullScore := by
  have hfull : (0 : Rat) ≤ fullScore := by decide
  have hle : (found : Rat) / all ≤ 1 := div_le_one_of_le₀ (Nat.cast_le.2 h) (Nat.cast_nonneg all)
  exact ⟨mul_nonneg (div_nonneg (Nat.cast_nonneg found) (Nat.cast_nonneg all)) hfull,
    mul_le_of_le_one_left hfull hle⟩

theorem Bookmark.points_nonneg (sought : Text) (b : Bookmark) : 0 ≤ b.points sought := by
  rcases b.points_cases sought with h | ⟨found, hfound, h⟩
  · rw [h]
    decide
  · rw [h]
    exact (fraction_mem hfound).1

theorem Bookmark.points_lt_titleScore (sought : Text) (b : Bookmark) :
    b.points sought < titleScore := by
  rcases b.points_cases sought with h | ⟨found, hfound, h⟩
  · rw [h]
    decide
  · rw [h]
    exact (fraction_mem hfound).2.trans_lt (by decide)

theorem Bookmark.titled_iff {b : Bookmark} : titleScore ≤ b.score sought ↔ b.Titled sought := by
  constructor
  · intro h
    by_contra hnot
    rw [Bookmark.score_of_not_titled hnot] at h
    exact absurd (b.points_lt_titleScore sought) (not_lt.2 h)
  · intro h
    rw [Bookmark.score_of_titled h]

/-- Bookmarks are compared by their scores, and then by their times. -/
def Bookmark.standing (sought : Text) (b : Bookmark) : Rat ×ₗ Text := toLex (b.score sought, b.time)

theorem Bookmark.better_iff {a b : Bookmark} :
    a.better sought b = true ↔ b.standing sought < a.standing sought := by
  unfold Bookmark.better Bookmark.standing
  rw [Prod.Lex.toLex_lt_toLex]
  simp only [Bool.or_eq_true, Bool.and_eq_true, decide_eq_true_eq]
  exact or_congr_right (and_congr_left fun _ => eq_comm)

theorem Bookmark.rank_of_not_titled {b : Bookmark} (h : ¬ b.Titled sought) :
    b.rank sought = b.standing sought := by
  unfold Bookmark.rank Bookmark.standing
  rw [Bookmark.score_of_not_titled h]

/-- A bookmark without points ranks below one with points. -/
theorem Bookmark.rank_lt_of_points {a b : Bookmark} (ha : ¬ 0 < a.points sought)
    (hb : 0 < b.points sought) : a.rank sought < b.rank sought :=
  Prod.Lex.toLex_lt_toLex.2 (.inl ((not_lt.1 ha).trans_lt hb))

/-! ## Points within a tolerance -/

section

variable {tolerance : Rat}

/-- One term more makes a difference that no tolerance below it hides. -/
theorem found_le_of_close {all found other : Nat} (hall : 0 < all)
    (hterm : tolerance * all ≤ fullScore)
    (h : (found : Rat) / all * fullScore - (other : Rat) / all * fullScore < tolerance) :
    found ≤ other := by
  by_contra hlt
  have hpos : (0 : Rat) < all := Nat.cast_pos.2 hall
  have hmore : ((other : Rat) + 1) / all * fullScore ≤ (found : Rat) / all * fullScore := by
    have hle : (other : Rat) + 1 ≤ found := by exact_mod_cast Nat.lt_of_not_le hlt
    exact mul_le_mul_of_nonneg_right (div_le_div_of_nonneg_right hle hpos.le) (by decide)
  have hone : ((other : Rat) + 1) / all * fullScore
      = (other : Rat) / all * fullScore + fullScore / all := by ring
  have hsmall : tolerance ≤ fullScore / all := (le_div_iff₀ hpos).2 hterm
  linarith

/-- The points of a phrase are apart from those of any terms. -/
theorem phraseScore_apart (hone : tolerance ≤ 1) {points : Rat} (h : points ≤ fullScore) :
    tolerance ≤ phraseScore - points := by
  have hapart : fullScore + 1 ≤ phraseScore := by
    unfold fullScore phraseScore
    norm_num
  linarith

/-- Points that are closer to each other than one term is are equal. -/
theorem Bookmark.points_eq_iff (hpos : 0 < tolerance) (hone : tolerance ≤ 1)
    (hterm : tolerance * (terms sought).length ≤ fullScore) (a b : Bookmark) :
    a.points sought = b.points sought ↔ |a.points sought - b.points sought| < tolerance := by
  constructor
  · intro heq
    rwa [heq, sub_self, abs_zero]
  · intro hclose
    rw [abs_sub_lt_iff] at hclose
    rcases a.points_cases sought with ha | ⟨found, hfound, ha⟩
    · rcases b.points_cases sought with hb | ⟨other, hother, hb⟩
      · rw [ha, hb]
      · rw [ha, hb] at hclose
        exact absurd hclose.1 (not_lt.2 (phraseScore_apart hone (fraction_mem hother).2))
    · rcases b.points_cases sought with hb | ⟨other, hother, hb⟩
      · rw [ha, hb] at hclose
        exact absurd hclose.2 (not_lt.2 (phraseScore_apart hone (fraction_mem hfound).2))
      · rw [ha, hb] at hclose ⊢
        rcases Nat.eq_zero_or_pos (terms sought).length with hzero | hall
        · rw [hzero, Nat.cast_zero, div_zero, div_zero]
        · rw [(found_le_of_close hall hterm hclose.1).antisymm
            (found_le_of_close hall hterm hclose.2)]

/-- It makes no difference if points that are closer to each other than one term
is are taken for equal. -/
theorem Bookmark.rank_lt_iff_within (hpos : 0 < tolerance) (hone : tolerance ≤ 1)
    (hterm : tolerance * (terms sought).length ≤ fullScore) (a b : Bookmark) :
    b.rank sought < a.rank sought
      ↔ b.points sought < a.points sought
        ∨ (|a.points sought - b.points sought| < tolerance ∧ b.time < a.time) := by
  unfold Bookmark.rank
  rw [Prod.Lex.toLex_lt_toLex, ← Bookmark.points_eq_iff hpos hone hterm]
  exact or_congr_right (and_congr_left fun _ => eq_comm)

end

/-! ## Answers -/

/-- The terms ask for a phrase if they begin with a quote. -/
theorem phrase?_eq_none_iff :
    phrase? sought = none ↔ (Text.trimStart sought).head? ≠ some '\x27' := by
  unfold phrase?
  cases htrim : Text.trimStart sought with
  | nil => simp [Text.dropPrefix?]
  | cons c t =>
    by_cases hc : c = '\x27'
    · simp [Text.dropPrefix?, hc]
    · simp [Text.dropPrefix?, hc, Ne.symm hc]

/-- The first bookmark with the terms in its title and tags wins. -/
theorem best?_of_titled (hphrase : phrase? sought = none) {b : Bookmark} (hb : b ∈ bookmarks)
    (htitled : b.Titled sought) : ∃ earlier found later, bookmarks = earlier ++ found :: later
      ∧ (∀ b ∈ earlier, ¬ b.Titled sought) ∧ found.Titled sought
      ∧ best? bookmarks sought = some found := by
  cases hfind : bookmarks.find? fun b => titleScore ≤ b.score sought with
  | none =>
    have hnone := List.find?_eq_none.1 hfind b hb
    rw [decide_eq_true_eq, Bookmark.titled_iff] at hnone
    exact absurd htitled hnone
  | some found =>
    obtain ⟨hfound, earlier, later, hsplit, hearlier⟩ := List.find?_eq_some_iff_append.1 hfind
    rw [decide_eq_true_eq, Bookmark.titled_iff] at hfound
    refine ⟨earlier, found, later, hsplit, fun b hb => ?_, hfound, ?_⟩
    · have hnot := hearlier b hb
      rwa [Bool.not_eq_true', decide_eq_false_iff_not, Bookmark.titled_iff] at hnot
    · unfold best?
      rw [hphrase]
      dsimp only
      rw [hfind]

/-- Without one, the bookmarks with points are compared. -/
theorem best?_of_not_titled (hphrase : phrase? sought = none)
    (h : ∀ b ∈ bookmarks, ¬ b.Titled sought) : best? bookmarks sought
      = champion (fun b best => b.better sought best)
        (bookmarks.filter fun b => 0 < b.points sought) := by
  have hfind : (bookmarks.find? fun b => titleScore ≤ b.score sought) = none := by
    rw [List.find?_eq_none]
    intro b hb
    rw [decide_eq_true_eq, Bookmark.titled_iff]
    exact h b hb
  have hpoints : (bookmarks.filter fun b => 0 < b.score sought)
      = bookmarks.filter fun b => 0 < b.points sought :=
    List.filter_congr fun b hb => by rw [Bookmark.score_of_not_titled (h b hb)]
  unfold best?
  rw [hphrase]
  dsimp only
  rw [hfind, ← hpoints]
  exact bestScored?_eq bookmarks sought

/-- There is an answer if any bookmark has points. -/
theorem best?_eq_none_iff (hphrase : phrase? sought = none)
    (h : ∀ b ∈ bookmarks, ¬ b.Titled sought) :
    best? bookmarks sought = none ↔ ∀ b ∈ bookmarks, b.points sought = 0 := by
  rw [best?_of_not_titled hphrase h, champion_eq_none_iff, List.filter_eq_nil_iff]
  refine forall₂_congr fun b _ => ?_
  rw [decide_eq_true_eq, not_lt]
  exact ⟨fun hle => hle.antisymm (b.points_nonneg sought), fun heq => heq.le⟩

/-- The answer is the first of the bookmarks that rank highest. -/
theorem best?_ranks_highest (hphrase : phrase? sought = none)
    (h : ∀ b ∈ bookmarks, ¬ b.Titled sought) {found : Bookmark}
    (hfound : best? bookmarks sought = some found) : 0 < found.points sought
      ∧ ∃ earlier later, bookmarks = earlier ++ found :: later
        ∧ (∀ b ∈ earlier, b.rank sought < found.rank sought)
        ∧ ∀ b ∈ later, b.rank sought ≤ found.rank sought := by
  rw [best?_of_not_titled hphrase h] at hfound
  obtain ⟨front, back, hfilter, hfront, hback⟩ :=
    exists_split_of_champion (Bookmark.standing sought) (fun _ _ => Bookmark.better_iff) hfound
  obtain ⟨earlier, later, rfl, hpoints, hearlier, hlater⟩ := exists_split_of_filter hfilter
  rw [decide_eq_true_eq] at hpoints
  have hrank : ∀ b ∈ earlier ++ found :: later, b.rank sought = b.standing sought :=
    fun b hb => b.rank_of_not_titled (h b hb)
  have hself := hrank found (by simp)
  refine ⟨hpoints, earlier, later, rfl, fun b hb => ?_, fun b hb => ?_⟩
  · by_cases hb' : 0 < b.points sought
    · rw [hrank b (by simp [hb]), hself]
      exact hfront b (hearlier b hb (decide_eq_true hb'))
    · exact Bookmark.rank_lt_of_points hb' hpoints
  · by_cases hb' : 0 < b.points sought
    · rw [hrank b (by simp [hb]), hself]
      exact hback b (hlater b hb (decide_eq_true hb'))
    · exact (Bookmark.rank_lt_of_points hb' hpoints).le

/-- **The answer ranks highest.** For terms that do not ask for a phrase, the
first bookmark with the terms as a phrase in its title and tags is found. If
there is none, nothing is found where no bookmark has points, and otherwise the
bookmark with the most points, of these one with the latest time, and of these
the first. It makes no difference if points that are closer to each other than
one term is are taken for equal. -/
theorem highest_rank_found (hquote : (Text.trimStart sought).head? ≠ some '\x27')
    (bookmarks : List Bookmark) :
    ((∃ b ∈ bookmarks, b.Titled sought) →
      ∃ earlier found later, bookmarks = earlier ++ found :: later
        ∧ (∀ b ∈ earlier, ¬ b.Titled sought) ∧ found.Titled sought
        ∧ best? bookmarks sought = some found)
    ∧ ((∀ b ∈ bookmarks, ¬ b.Titled sought) →
      (best? bookmarks sought = none ↔ ∀ b ∈ bookmarks, b.points sought = 0)
      ∧ ∀ found, best? bookmarks sought = some found → 0 < found.points sought
        ∧ ∃ earlier later, bookmarks = earlier ++ found :: later
          ∧ (∀ b ∈ earlier, b.rank sought < found.rank sought)
          ∧ ∀ b ∈ later, b.rank sought ≤ found.rank sought)
    ∧ ∀ tolerance : Rat, 0 < tolerance → tolerance ≤ 1 →
      tolerance * (terms sought).length ≤ fullScore → ∀ a b : Bookmark,
        (b.rank sought < a.rank sought
          ↔ b.points sought < a.points sought
            ∨ (|a.points sought - b.points sought| < tolerance ∧ b.time < a.time)) := by
  have hphrase := phrase?_eq_none_iff.2 hquote
  refine ⟨?_, ?_, ?_⟩
  · rintro ⟨b, hb, htitled⟩
    exact best?_of_titled hphrase hb htitled
  · intro hnot
    exact ⟨best?_eq_none_iff hphrase hnot, fun found => best?_ranks_highest hphrase hnot⟩
  · intro tolerance hpos hone hterm a b
    exact Bookmark.rank_lt_iff_within hpos hone hterm a b

/-- Bookmarks of which two have the same rank. -/
def sample : List Bookmark := [
  ⟨"https://a.example", "Async Rust", "Futures explained", "rust async", "2023-01-01T00:00:00Z"⟩,
  ⟨"https://c.example", "Error handling", "thiserror and anyhow", "rust", "2022-01-01T00:00:00Z"⟩,
  ⟨"https://d.example", "Error handling", "thiserror and anyhow", "rust", "2024-06-01T00:00:00Z"⟩,
  ⟨"https://e.example", "Error handling", "anyhow or thiserror", "rust", "2024-06-01T00:00:00Z"⟩]

/-- Of several bookmarks with all terms the latest one is found, and of two
latest ones the first. -/
theorem highest_rank_found_among_equals :
    (Text.trimStart "anyhow, thiserror!").head? ≠ some '\x27'
    ∧ (∀ b ∈ sample, ¬ b.Titled "anyhow, thiserror!")
    ∧ ∃ found : Bookmark, found.url = ("https://d.example" : Text)
      ∧ best? sample "anyhow, thiserror!" = some found ∧ 0 < found.points "anyhow, thiserror!"
      ∧ ∃ earlier later, sample = earlier ++ found :: later
        ∧ (∀ b ∈ earlier, b.rank "anyhow, thiserror!" < found.rank "anyhow, thiserror!")
        ∧ ∀ b ∈ later, b.rank "anyhow, thiserror!" ≤ found.rank "anyhow, thiserror!" := by
  have hquote : (Text.trimStart "anyhow, thiserror!").head? ≠ some '\x27' := by decide
  have hnot : ∀ b ∈ sample, ¬ b.Titled "anyhow, thiserror!" := by decide +kernel
  have hfound : best? sample "anyhow, thiserror!" = some ⟨"https://d.example", "Error handling",
      "thiserror and anyhow", "rust", "2024-06-01T00:00:00Z"⟩ := by decide +kernel
  exact ⟨hquote, hnot, _, rfl, hfound, ((highest_rank_found hquote sample).2.1 hnot).2 _ hfound⟩

end Pinboard

end InlineSearch.Provider
