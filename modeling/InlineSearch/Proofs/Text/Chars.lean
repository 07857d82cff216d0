/-
InlineSearch.Proofs.Text.Chars — which characters a text is left with.

Trimming and substituting bring in no characters but those of what is put
in (`mem_trim`, `mem_substitute`, `mem_replaceAll`), and they take out a
character for good that is replaced wherever it stands
(`not_mem_substitute`, `not_mem_replaceAll`). Where nothing matches, nothing
changes (`substitute_eq_self`, `substitute_of_hits_eq_nil`).
-/
import InlineSearch.Proofs.Text.Cut
import InlineSearch.Proofs.Text.Hits
import InlineSearch.Text.Blank

namespace InlineSearch.Text

/-! ## Trimming -/

theorem mem_trimStart {t : Text} {c : Char} (h : c ∈ trimStart t) : c ∈ t :=
  (List.dropWhile_suffix _).subset h

theorem mem_trimEnd {t : Text} {c : Char} (h : c ∈ trimEnd t) : c ∈ t := by
  have hrev : c ∈ t.reverse.dropWhile isBlank := List.mem_reverse.1 h
  exact List.mem_reverse.1 ((List.dropWhile_suffix _).subset hrev)

theorem mem_trim {t : Text} {c : Char} (h : c ∈ trim t) : c ∈ t := mem_trimStart (mem_trimEnd h)

/-! ## Substituting -/

section

variable {α : Type} {p : Pattern α} {f : α → Text}

/-- What the pieces of a text become. -/
def substituteFrom (p : Pattern α) (f : α → Text) (skip : Nat) (before : Option Char) (t : Text) :
    Text :=
  (piecesFrom p skip before t).flatMap fun
    | .char c => [c]
    | .hit a => f a

theorem substituteFrom_skip (skip : Nat) (before : Option Char) (c : Char) (t : Text) :
    substituteFrom p f (skip + 1) before (c :: t) = substituteFrom p f skip (some c) t := by
  unfold substituteFrom
  rw [piecesFrom]

theorem substituteFrom_hit {before : Option Char} {c : Char} {t : Text} {taken : Nat} {a : α}
    (h : p before (c :: t) = some (taken + 1, a)) :
    substituteFrom p f 0 before (c :: t) = f a ++ substituteFrom p f taken (some c) t := by
  unfold substituteFrom
  rw [piecesFrom_hit h]
  rfl

theorem substituteFrom_miss {before : Option Char} {c : Char} {t : Text}
    (h : ∀ taken a, p before (c :: t) ≠ some (taken + 1, a)) :
    substituteFrom p f 0 before (c :: t) = c :: substituteFrom p f 0 (some c) t := by
  unfold substituteFrom
  rw [piecesFrom_miss h]
  rfl

/-- A character of the result stood in the text or was put in for a hit. -/
theorem mem_substitute {t : Text} {c : Char} (h : c ∈ substitute p f t) :
    c ∈ t ∨ ∃ a ∈ hits p t, c ∈ f a := by
  have hfrom : ∀ (t : Text) (skip : Nat) (before : Option Char),
      c ∈ substituteFrom p f skip before t →
        c ∈ t ∨ ∃ a ∈ hitsFrom p skip before t, c ∈ f a := by
    intro t
    induction t with
    | nil =>
      intro skip before h
      cases skip <;> simp [substituteFrom, piecesFrom] at h
    | cons d t ih =>
      intro skip before h
      cases skip with
      | succ skip =>
        rw [substituteFrom_skip] at h
        rw [hitsFrom_skip]
        exact (ih skip _ h).imp_left (List.mem_cons_of_mem _)
      | zero =>
        rcases hit_or_miss p before (d :: t) with ⟨taken, a, hp⟩ | hmiss
        · rw [substituteFrom_hit hp] at h
          rw [hitsFrom_hit hp]
          rcases List.mem_append.1 h with h | h
          · exact .inr ⟨a, List.mem_cons_self .., h⟩
          · rcases ih taken _ h with h | ⟨b, hb, h⟩
            · exact .inl (List.mem_cons_of_mem _ h)
            · exact .inr ⟨b, List.mem_cons_of_mem _ hb, h⟩
        · rw [substituteFrom_miss hmiss] at h
          rw [hitsFrom_miss hmiss]
          rcases List.mem_cons.1 h with rfl | h
          · exact .inl (List.mem_cons_self ..)
          · exact (ih 0 _ h).imp_left (List.mem_cons_of_mem _)
  exact hfrom t 0 none h

/-- What is put in for a hit stands in the result. -/
theorem infix_substitute {t : Text} {a : α} (h : a ∈ hits p t) (f : α → Text) :
    f a <:+: substitute p f t := by
  obtain ⟨piece, hpiece, ha⟩ := List.mem_filterMap.1 h
  cases piece with
  | char c => cases ha
  | hit b =>
    obtain rfl := Option.some.inj ha
    exact List.infix_of_mem_flatten (List.mem_map.2 ⟨.hit b, hpiece, rfl⟩)

/-- Without hits nothing is replaced. -/
theorem substitute_of_hits_eq_nil {t : Text} (h : hits p t = []) : substitute p f t = t := by
  have hfrom : ∀ (t : Text) (before : Option Char), hitsFrom p 0 before t = [] →
      substituteFrom p f 0 before t = t := by
    intro t
    induction t with
    | nil => exact fun _ _ => rfl
    | cons c t ih =>
      intro before h
      rcases hit_or_miss p before (c :: t) with ⟨taken, a, hp⟩ | hmiss
      · rw [hitsFrom_hit hp] at h
        simp at h
      · rw [hitsFrom_miss hmiss] at h
        rw [substituteFrom_miss hmiss, ih _ h]
  exact hfrom t none h

/-- A pattern that matches nowhere leaves the text as it is. -/
theorem substitute_eq_self {t : Text} (h : ∀ before suf, suf <:+ t → p before suf = none) :
    substitute p f t = t := substitute_of_hits_eq_nil (hits_eq_nil h)

theorem mem_remove {t : Text} {c : Char} (h : c ∈ remove p t) : c ∈ t := by
  rcases mem_substitute h with h | ⟨a, -, h⟩
  · exact h
  · simp at h

/-- Every hit takes a character out. -/
theorem length_remove (p : Pattern α) (t : Text) :
    (remove p t).length + (hits p t).length ≤ t.length := by
  have hfrom : ∀ (t : Text) (skip : Nat) (before : Option Char),
      (substituteFrom p (fun _ => []) skip before t).length + (hitsFrom p skip before t).length
        ≤ t.length := by
    intro t
    induction t with
    | nil =>
      intro skip before
      cases skip <;> exact Nat.le_refl 0
    | cons c t ih =>
      intro skip before
      rw [List.length_cons]
      cases skip with
      | succ skip =>
        rw [substituteFrom_skip, hitsFrom_skip]
        exact Nat.le_succ_of_le (ih skip _)
      | zero =>
        rcases hit_or_miss p before (c :: t) with ⟨taken, a, hp⟩ | hmiss
        · rw [substituteFrom_hit hp, hitsFrom_hit hp, List.nil_append, List.length_cons]
          exact Nat.succ_le_succ (ih taken _)
        · rw [substituteFrom_miss hmiss, hitsFrom_miss hmiss, List.length_cons, Nat.add_right_comm]
          exact Nat.succ_le_succ (ih 0 _)
  exact hfrom t 0 none

/-- A character at which the pattern always matches is gone. -/
theorem not_mem_substitute {c : Char}
    (hhit : ∀ before t, ∃ taken a, p before (c :: t) = some (taken + 1, a))
    (hf : ∀ a, c ∉ f a) (t : Text) : c ∉ substitute p f t := by
  have hfrom : ∀ (t : Text) (skip : Nat) (before : Option Char),
      c ∉ substituteFrom p f skip before t := by
    intro t
    induction t with
    | nil =>
      intro skip before
      cases skip <;> simp [substituteFrom, piecesFrom]
    | cons d t ih =>
      intro skip before
      cases skip with
      | succ skip =>
        rw [substituteFrom_skip]
        exact ih skip (some d)
      | zero =>
        rcases hit_or_miss p before (d :: t) with ⟨taken, a, hp⟩ | hmiss
        · rw [substituteFrom_hit hp, List.mem_append]
          rintro (h | h)
          · exact hf a h
          · exact ih _ _ h
        · rw [substituteFrom_miss hmiss, List.mem_cons]
          rintro (rfl | h)
          · obtain ⟨taken, a, hp⟩ := hhit before t
            exact hmiss taken a hp
          · exact ih _ _ h
  exact hfrom t 0 none

end

/-! ## Replacing -/

theorem mem_replaceAll {old new t : Text} {c : Char} (h : c ∈ replaceAll old new t) :
    c ∈ t ∨ c ∈ new := by
  have hfrom : ∀ (t : Text) (skip : Nat), c ∈ replaceFrom old new skip t → c ∈ t ∨ c ∈ new := by
    intro t
    induction t with
    | nil => simp [replaceFrom]
    | cons d t ih =>
      intro skip h
      cases skip with
      | succ skip => exact (ih skip h).imp_left (List.mem_cons_of_mem _)
      | zero =>
        rw [replaceFrom] at h
        split at h
        · rcases List.mem_append.1 h with h | h
          · exact .inr h
          · exact (ih _ h).imp_left (List.mem_cons_of_mem _)
        · rcases List.mem_cons.1 h with rfl | h
          · exact .inl (List.mem_cons_self ..)
          · exact (ih 0 h).imp_left (List.mem_cons_of_mem _)
  exact hfrom t 0 h

/-- A character that is replaced is gone. -/
theorem not_mem_replaceAll {new : Text} {c : Char} (hnew : c ∉ new) (t : Text) :
    c ∉ replaceAll [c] new t := by
  unfold replaceAll
  induction t with
  | nil => simp [replaceFrom]
  | cons d t ih =>
    rw [replaceFrom]
    split
    · rw [List.mem_append]
      rintro (h | h)
      · exact hnew h
      · exact ih h
    · next hne =>
      rw [List.mem_cons]
      rintro (rfl | h)
      · simp at hne
      · exact ih h

/-! ## Cutting -/

/-- A cut at a character finds its first occurrence. -/
theorem cut_singleton {a : Text} {c : Char} (h : c ∉ a) (b : Text) :
    cut [c] (a ++ c :: b) = some (a, b) :=
  cut_of_not_mem h b

end InlineSearch.Text
