/-
InlineSearch.Proofs.Text.Hits — where the hits of a pattern are.

Hits do not overlap, so a pattern that matches at a position need not hit
there: an earlier hit may cover the position.

* `exists_of_piecesFrom_eq_append` — where the pieces of a text are cut, the
  text is cut as well.
* `exists_of_mem_hits` — every hit is a match at some position.
* `mem_hits_or_covered` — every match is a hit, or a hit that began before
  it covers it.
* `hits_map` — patterns that take the same characters hit at the same
  places.
-/
import InlineSearch.Text.Scan

namespace InlineSearch.Text

variable {α β : Type}

/-- The character before the text that follows `pre`, when `before` stands
before `pre`. -/
def lastOf : (before : Option Char) → (pre : Text) → Option Char
  | before, [] => before
  | _, c :: pre => lastOf (some c) pre

theorem lastOf_append (before : Option Char) (a b : Text) :
    lastOf before (a ++ b) = lastOf (lastOf before a) b := by
  induction a generalizing before with
  | nil => rfl
  | cons c a ih => exact ih (some c)

/-- Behind a text that is not empty stands its last character. -/
theorem exists_lastOf {pre : Text} (hne : pre ≠ []) (before : Option Char) :
    ∃ init c, pre = init ++ [c] ∧ lastOf before pre = some c := by
  rcases List.eq_nil_or_concat pre with rfl | ⟨init, c, rfl⟩
  · exact absurd rfl hne
  · refine ⟨init, c, List.concat_eq_append .., ?_⟩
    rw [List.concat_eq_append, lastOf_append]
    rfl

/-! ## The walk -/

theorem piecesFrom_hit {p : Pattern α} {before : Option Char} {c : Char} {t : Text} {taken : Nat}
    {a : α} (h : p before (c :: t) = some (taken + 1, a)) :
    piecesFrom p 0 before (c :: t) = .hit a :: piecesFrom p taken (some c) t := by
  rw [piecesFrom, h]

theorem piecesFrom_miss {p : Pattern α} {before : Option Char} {c : Char} {t : Text}
    (h : ∀ taken a, p before (c :: t) ≠ some (taken + 1, a)) :
    piecesFrom p 0 before (c :: t) = .char c :: piecesFrom p 0 (some c) t := by
  rw [piecesFrom]
  split
  · next taken a hp => exact absurd hp (h taken a)
  · rfl

/-- Behind the characters that a match takes the walk goes on. -/
theorem piecesFrom_append (p : Pattern α) (before : Option Char) (taken t : Text) :
    piecesFrom p taken.length before (taken ++ t) = piecesFrom p 0 (lastOf before taken) t := by
  induction taken generalizing before with
  | nil => rfl
  | cons c taken ih => exact ih (some c)

/-- A hit or none: what the walk does at a position. -/
theorem hit_or_miss (p : Pattern α) (before : Option Char) (t : Text) :
    (∃ taken a, p before t = some (taken + 1, a))
      ∨ ∀ taken a, p before t ≠ some (taken + 1, a) := by
  by_cases h : ∃ taken a, p before t = some (taken + 1, a)
  · exact .inl h
  · refine .inr fun taken a hp => h ⟨taken, a, hp⟩

/-- The first piece is a hit where the pattern matches. -/
theorem exists_of_piecesFrom_eq_hit {p : Pattern α} {before : Option Char} {t : Text} {a : α}
    {qs : List (Piece α)} (h : piecesFrom p 0 before t = .hit a :: qs) :
    ∃ c later taken, t = c :: later ∧ p before (c :: later) = some (taken + 1, a)
      ∧ qs = piecesFrom p taken (some c) later := by
  cases t with
  | nil => cases h
  | cons c t =>
    rcases hit_or_miss p before (c :: t) with ⟨taken, b, hp⟩ | hmiss
    · rw [piecesFrom_hit hp] at h
      obtain ⟨hb, rfl⟩ := List.cons.inj h
      obtain rfl := Piece.hit.inj hb
      exact ⟨c, t, taken, rfl, hp, rfl⟩
    · rw [piecesFrom_miss hmiss] at h
      cases h

/-- It is a character where the pattern does not match. -/
theorem exists_of_piecesFrom_eq_char {p : Pattern α} {before : Option Char} {t : Text} {c : Char}
    {qs : List (Piece α)} (h : piecesFrom p 0 before t = .char c :: qs) :
    ∃ later, t = c :: later ∧ (∀ taken a, p before (c :: later) ≠ some (taken + 1, a))
      ∧ qs = piecesFrom p 0 (some c) later := by
  cases t with
  | nil => cases h
  | cons d t =>
    rcases hit_or_miss p before (d :: t) with ⟨taken, b, hp⟩ | hmiss
    · rw [piecesFrom_hit hp] at h
      cases h
    · rw [piecesFrom_miss hmiss] at h
      obtain ⟨hd, rfl⟩ := List.cons.inj h
      obtain rfl := Piece.char.inj hd
      exact ⟨t, rfl, hmiss, rfl⟩

/-- Every piece begins at a position of the text where the walk is inside no
hit. -/
theorem exists_of_piecesFrom_eq_append {p : Pattern α} {skip : Nat} {before : Option Char}
    {t : Text} {ps qs : List (Piece α)} (hne : qs ≠ [])
    (h : piecesFrom p skip before t = ps ++ qs) :
    ∃ pre suf, t = pre ++ suf ∧ qs = piecesFrom p 0 (lastOf before pre) suf := by
  induction t generalizing skip before ps with
  | nil =>
    have hnil : piecesFrom p skip before [] = [] := by cases skip <;> rfl
    rw [hnil] at h
    exact absurd (List.append_eq_nil_iff.1 h.symm).2 hne
  | cons c t ih =>
    have later : ∀ {skip} {ps : List (Piece α)}, piecesFrom p skip (some c) t = ps ++ qs →
        ∃ pre suf, c :: t = pre ++ suf ∧ qs = piecesFrom p 0 (lastOf before pre) suf := by
      intro skip ps h
      obtain ⟨pre, suf, ht, hqs⟩ := ih h
      exact ⟨c :: pre, suf, by rw [ht, List.cons_append], hqs⟩
    cases skip with
    | succ skip => exact later h
    | zero =>
      cases ps with
      | nil => exact ⟨[], c :: t, rfl, h.symm⟩
      | cons piece ps =>
        rcases hit_or_miss p before (c :: t) with ⟨taken, a, hp⟩ | hmiss
        · rw [piecesFrom_hit hp] at h
          exact later (List.cons.inj h).2
        · rw [piecesFrom_miss hmiss] at h
          exact later (List.cons.inj h).2

/-- The hits in the text that remains after its first `skip` characters. -/
def hitsFrom (p : Pattern α) (skip : Nat) (before : Option Char) (t : Text) : List α :=
  (piecesFrom p skip before t).filterMap fun
    | .char _ => none
    | .hit a => some a

theorem hitsFrom_skip (p : Pattern α) (skip : Nat) (before : Option Char) (c : Char) (t : Text) :
    hitsFrom p (skip + 1) before (c :: t) = hitsFrom p skip (some c) t := by
  unfold hitsFrom
  rw [piecesFrom]

theorem hitsFrom_hit {p : Pattern α} {before : Option Char} {c : Char} {t : Text} {taken : Nat}
    {a : α} (h : p before (c :: t) = some (taken + 1, a)) :
    hitsFrom p 0 before (c :: t) = a :: hitsFrom p taken (some c) t := by
  unfold hitsFrom
  rw [piecesFrom_hit h]
  rfl

theorem hitsFrom_miss {p : Pattern α} {before : Option Char} {c : Char} {t : Text}
    (h : ∀ taken a, p before (c :: t) ≠ some (taken + 1, a)) :
    hitsFrom p 0 before (c :: t) = hitsFrom p 0 (some c) t := by
  unfold hitsFrom
  rw [piecesFrom_miss h]
  rfl

/-- Every hit is a match at some position of the text. -/
theorem exists_of_mem_hitsFrom {p : Pattern α} {skip : Nat} {before : Option Char} {t : Text}
    {a : α} (h : a ∈ hitsFrom p skip before t) :
    ∃ pre suf taken, t = pre ++ suf ∧ p (lastOf before pre) suf = some (taken + 1, a) := by
  induction t generalizing skip before with
  | nil => cases skip <;> simp [hitsFrom, piecesFrom] at h
  | cons c t ih =>
    have later : ∀ {skip}, a ∈ hitsFrom p skip (some c) t →
        ∃ pre suf taken, c :: t = pre ++ suf ∧ p (lastOf before pre) suf = some (taken + 1, a) := by
      intro skip h
      obtain ⟨pre, suf, taken, ht, hp⟩ := ih h
      exact ⟨c :: pre, suf, taken, by rw [ht, List.cons_append], hp⟩
    cases skip with
    | succ skip =>
      rw [hitsFrom_skip] at h
      exact later h
    | zero =>
      rcases hit_or_miss p before (c :: t) with ⟨taken, b, hp⟩ | hmiss
      · rw [hitsFrom_hit hp] at h
        rcases List.mem_cons.1 h with rfl | h
        · exact ⟨[], c :: t, taken, rfl, hp⟩
        · exact later h
      · rw [hitsFrom_miss hmiss] at h
        exact later h

theorem exists_of_mem_hits {p : Pattern α} {t : Text} {a : α} (h : a ∈ hits p t) :
    ∃ pre suf taken, t = pre ++ suf ∧ p (lastOf none pre) suf = some (taken + 1, a) :=
  exists_of_mem_hitsFrom h

/-- A pattern that matches nowhere has no hits. -/
theorem hits_eq_nil {p : Pattern α} {t : Text}
    (h : ∀ before suf, suf <:+ t → p before suf = none) : hits p t = [] := by
  refine List.eq_nil_iff_forall_not_mem.2 fun a ha => ?_
  obtain ⟨pre, suf, taken, ht, hp⟩ := exists_of_mem_hits ha
  rw [h _ suf ⟨pre, ht.symm⟩] at hp
  simp at hp

/-- A hit that begins before `suf`, in the part `pre` of the text, and takes
a character of `suf` as well. -/
def Covered (p : Pattern α) (before : Option Char) (pre suf : Text) (b : α) : Prop :=
  ∃ outer inner taken, pre = outer ++ inner ∧ inner ≠ [] ∧ inner.length ≤ taken
    ∧ p (lastOf before outer) (inner ++ suf) = some (taken + 1, b)

theorem Covered.cons {p : Pattern α} {before : Option Char} {c : Char} {pre suf : Text} {b : α}
    (h : Covered p (some c) pre suf b) : Covered p before (c :: pre) suf b := by
  obtain ⟨outer, inner, taken, hpre, hne, hlen, hp⟩ := h
  exact ⟨c :: outer, inner, taken, by rw [hpre, List.cons_append], hne, hlen, hp⟩

/-- A match is a hit, unless the walk is inside a hit at its position. -/
theorem mem_hitsFrom_or_covered {p : Pattern α} (skip : Nat) {before : Option Char}
    {pre suf : Text} {taken : Nat} {a : α} (hne : suf ≠ [])
    (h : p (lastOf before pre) suf = some (taken + 1, a)) :
    pre.length < skip ∨ a ∈ hitsFrom p skip before (pre ++ suf)
      ∨ ∃ b ∈ hitsFrom p skip before (pre ++ suf), Covered p before pre suf b := by
  -- Along `pre` the walk is inside a hit (`skip`), at a hit, or at a miss.
  induction pre generalizing skip before with
  | nil =>
    cases skip with
    | succ skip => exact .inl (by simp)
    | zero =>
      obtain ⟨c, t, rfl⟩ := List.exists_cons_of_ne_nil hne
      have hp : p before (c :: t) = some (taken + 1, a) := h
      rw [List.nil_append, hitsFrom_hit hp]
      exact .inr (.inl (List.mem_cons_self ..))
  | cons c pre ih =>
    rw [List.cons_append]
    cases skip with
    | succ skip =>
      rw [hitsFrom_skip]
      rcases ih skip h with hlt | hmem | ⟨b, hb, hcov⟩
      · exact .inl (by simpa using hlt)
      · exact .inr (.inl hmem)
      · exact .inr (.inr ⟨b, hb, hcov.cons⟩)
    | zero =>
      rcases hit_or_miss p before (c :: (pre ++ suf)) with ⟨n, b, hp⟩ | hmiss
      · rw [hitsFrom_hit hp]
        rcases ih n h with hlt | hmem | ⟨b', hb, hcov⟩
        · refine .inr (.inr ⟨b, List.mem_cons_self .., [], c :: pre, n, rfl, by simp, ?_, hp⟩)
          rw [List.length_cons]
          omega
        · exact .inr (.inl (List.mem_cons_of_mem _ hmem))
        · exact .inr (.inr ⟨b', List.mem_cons_of_mem _ hb, hcov.cons⟩)
      · rw [hitsFrom_miss hmiss]
        rcases ih 0 h with hlt | hmem | ⟨b, hb, hcov⟩
        · omega
        · exact .inr (.inl hmem)
        · exact .inr (.inr ⟨b, hb, hcov.cons⟩)

theorem mem_hits_or_covered {p : Pattern α} {pre suf : Text} {taken : Nat} {a : α} (hne : suf ≠ [])
    (h : p (lastOf none pre) suf = some (taken + 1, a)) :
    a ∈ hits p (pre ++ suf) ∨ ∃ b ∈ hits p (pre ++ suf), Covered p none pre suf b := by
  rcases mem_hitsFrom_or_covered 0 hne h with hlt | hmem | hcov
  · omega
  · exact .inl hmem
  · exact .inr hcov

/-- Patterns that take the same characters hit at the same places. -/
theorem hits_map {p : Pattern α} {q : Pattern β} (f : α → β)
    (h : ∀ before t, q before t = (p before t).map fun (n, a) => (n, f a)) (t : Text) :
    hits q t = (hits p t).map f := by
  have hfrom : ∀ (t : Text) (skip : Nat) (before : Option Char),
      hitsFrom q skip before t = (hitsFrom p skip before t).map f := by
    intro t
    induction t with
    | nil =>
      intro skip before
      cases skip <;> simp [hitsFrom, piecesFrom]
    | cons c t ih =>
      intro skip before
      cases skip with
      | succ skip => rw [hitsFrom_skip, hitsFrom_skip, ih]
      | zero =>
        rcases hit_or_miss p before (c :: t) with ⟨taken, a, hp⟩ | hmiss
        · have hq : q before (c :: t) = some (taken + 1, f a) := by rw [h, hp]; rfl
          rw [hitsFrom_hit hp, hitsFrom_hit hq, ih, List.map_cons]
        · have hq : ∀ taken b, q before (c :: t) ≠ some (taken + 1, b) := by
            intro taken b hq
            rw [h] at hq
            obtain ⟨⟨n, a⟩, hp, hna⟩ := Option.map_eq_some_iff.1 hq
            obtain ⟨rfl, -⟩ := Prod.mk.inj hna
            exact hmiss taken a hp
          rw [hitsFrom_miss hmiss, hitsFrom_miss hq, ih]
  exact hfrom t 0 none

end InlineSearch.Text
