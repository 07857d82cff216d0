/-
InlineSearch.Proofs.Text.Origin — where a marked word of a substituted text
comes from.

A marked word is a mark with characters of a class behind it, such as the
name of a URL parameter. Taking out or replacing parts of a text may put its
remains together to a new word. It cannot if each hit ends words (`EndsWords`):
neither what is put in nor what follows the hit goes on with the class. Then
only the mark may be new.

* `origin_of_infix` — a marked word of the result stood in the text where
  nothing hit, or its mark was put in and the rest of it stood behind the hit.
* `replaceAll_singleton` — replacing a character is a substitution, so the
  same holds of it.
-/
import InlineSearch.Proofs.Text.Chars
import Mathlib.Data.List.Infix

namespace InlineSearch.Text

/-- A word of two texts begins in the first one, or stands in the second. -/
theorem cons_infix_append {mark : Char} {word a b : Text} (h : mark :: word <:+: a ++ b) :
    (∃ u v, a = u ++ mark :: v ∧ word <+: v ++ b) ∨ mark :: word <:+: b := by
  induction a with
  | nil => exact .inr h
  | cons c a ih =>
    rw [List.cons_append] at h
    rcases List.infix_cons_iff.1 h with hstart | hlater
    · obtain ⟨rfl, hword⟩ := List.cons_prefix_cons.1 hstart
      exact .inl ⟨[], a, rfl, hword⟩
    · rcases ih hlater with ⟨u, v, rfl, hword⟩ | hb
      · exact .inl ⟨c :: u, v, rfl, hword⟩
      · exact .inr hb

variable {α : Type} {p : Pattern α} {f : α → Text} {q : Char → Bool}

/-- The walk over a text goes on behind the characters of a hit. -/
theorem substituteFrom_drop (skip : Nat) (before : Option Char) (t : Text) :
    substituteFrom p f skip before t
      = substituteFrom p f 0 (lastOf before (t.take skip)) (t.drop skip) := by
  induction t generalizing skip before with
  | nil => cases skip <;> rfl
  | cons c t ih =>
    cases skip with
    | zero => rfl
    | succ skip => rw [substituteFrom_skip, ih, List.take_succ_cons, List.drop_succ_cons, lastOf]

/-- Where nothing matches in a first part, that part stays. -/
theorem substituteFrom_append_of_miss (a t : Text) (before : Option Char)
    (h : ∀ pre suf, a = pre ++ suf → suf ≠ [] →
      ∀ taken found, p (lastOf before pre) (suf ++ t) ≠ some (taken + 1, found)) :
    substituteFrom p f 0 before (a ++ t) = a ++ substituteFrom p f 0 (lastOf before a) t := by
  induction a generalizing before with
  | nil => rfl
  | cons c a ih =>
    have hlater := ih (some c) fun pre suf ha hne =>
      h (c :: pre) suf (by rw [ha, List.cons_append]) hne
    have hmiss : ∀ taken found, p before (c :: (a ++ t)) ≠ some (taken + 1, found) :=
      h [] (c :: a) rfl (by simp)
    rw [List.cons_append, substituteFrom_miss hmiss, hlater]
    rfl

/-- A character that no hit takes stays, and cuts the walk in two. -/
theorem exists_substituteFrom_append_cons {c : Char}
    (htake : ∀ before t taken found, p before t = some (taken, found) → c ∉ t.take taken)
    (a t : Text) (before : Option Char) :
    ∃ a', substituteFrom p f 0 before (a ++ c :: t) = a' ++ c :: substituteFrom p f 0 (some c) t
      ∧ ∀ d ∈ a', d ∈ a ∨ ∃ found, d ∈ f found := by
  induction hn : a.length using Nat.strongRecOn generalizing a before with
  | _ n ih =>
  rcases hit_or_miss p before (a ++ c :: t) with ⟨taken, found, hp⟩ | hmiss
  · have hfree := htake _ _ _ _ hp
    cases a with
    | nil => simp at hfree
    | cons d a =>
      have hshort : taken ≤ a.length := by
        by_contra hlong
        refine hfree (List.mem_take_iff_getElem.2 ⟨(d :: a).length, ?_, by simp⟩)
        simp only [List.length_append, List.length_cons]
        omega
      have hlen : (a.drop taken).length < n := by
        rw [List.length_drop, ← hn, List.length_cons]
        omega
      obtain ⟨a', hlater, hmem⟩ := ih _ hlen (a.drop taken)
        (lastOf (some d) ((a ++ c :: t).take taken)) rfl
      refine ⟨f found ++ a', ?_, fun e he => ?_⟩
      · rw [List.cons_append] at hp ⊢
        rw [substituteFrom_hit hp, substituteFrom_drop,
          List.drop_append_of_le_length hshort, hlater, List.append_assoc]
      · rcases List.mem_append.1 he with he | he
        · exact .inr ⟨found, he⟩
        · exact (hmem e he).imp_left fun h => List.mem_cons_of_mem _ (List.mem_of_mem_drop h)
  · cases a with
    | nil => exact ⟨[], substituteFrom_miss hmiss, by simp⟩
    | cons d a =>
      have hlen : a.length < n := by rw [← hn, List.length_cons]; omega
      obtain ⟨a', hlater, hmem⟩ := ih _ hlen a (some d) rfl
      rw [List.cons_append] at hmiss
      refine ⟨d :: a', ?_, fun e he => ?_⟩
      · rw [List.cons_append, substituteFrom_miss hmiss, hlater, List.cons_append]
      · rcases List.mem_cons.1 he with rfl | he
        · exact .inl (List.mem_cons_self ..)
        · exact (hmem e he).imp_left (List.mem_cons_of_mem _)

/-! ## Words behind hits -/

/-- No hit lets a word go on: the first character that is put in for it, or that
follows it if nothing is, does not belong to the class. -/
def EndsWords (p : Pattern α) (f : α → Text) (q : Char → Bool) : Prop :=
  ∀ before t taken a, p before t = some (taken + 1, a) →
    (f a ++ t.drop (taken + 1)).head?.any q = false

section

variable (hends : EndsWords p f q)
include hends

/-- No word begins the result where none begins the text, or where the text
begins with a hit. -/
theorem head?_substituteFrom_any {t : Text} {before : Option Char}
    (h : t.head?.any q = false ∨ ∃ taken a, p before t = some (taken + 1, a)) :
    (substituteFrom p f 0 before t).head?.any q = false := by
  -- Hits for which nothing is put in may follow one another.
  induction hn : t.length using Nat.strongRecOn generalizing t before with
  | _ n ih =>
  cases t with
  | nil => rfl
  | cons c t =>
    rcases hit_or_miss p before (c :: t) with ⟨taken, a, hp⟩ | hmiss
    · have hbehind := hends before _ taken a hp
      rw [substituteFrom_hit hp, substituteFrom_drop]
      cases hput : f a with
      | cons d put => rwa [hput] at hbehind
      | nil =>
        rw [hput, List.nil_append, List.drop_succ_cons] at hbehind
        have hshort : (t.drop taken).length < n := by
          rw [List.length_drop, ← hn, List.length_cons]
          omega
        exact ih _ hshort (.inl hbehind) rfl
    · rw [substituteFrom_miss hmiss]
      rcases h with h | ⟨taken, a, hp⟩
      · exact h
      · exact absurd hp (hmiss taken a)

/-- What a word of the class begins the result with begins the text. -/
theorem prefix_of_prefix_substituteFrom {word : Text} (hword : word.all q = true) {t : Text}
    {before : Option Char} (h : word <+: substituteFrom p f 0 before t) : word <+: t := by
  induction word generalizing t before with
  | nil => exact List.nil_prefix
  | cons w word ih =>
    rw [List.all_cons, Bool.and_eq_true] at hword
    cases t with
    | nil => exact h
    | cons c t =>
      rcases hit_or_miss p before (c :: t) with ⟨taken, a, hp⟩ | hmiss
      · -- A hit would end the word at its first character.
        have hhead := head?_substituteFrom_any hends (.inr ⟨taken, a, hp⟩)
        obtain ⟨rest, hrest⟩ := h
        rw [← hrest, List.cons_append, List.head?_cons, Option.any_some, hword.1] at hhead
        cases hhead
      · rw [substituteFrom_miss hmiss] at h
        obtain ⟨rfl, hlater⟩ := List.cons_prefix_cons.1 h
        exact List.cons_prefix_cons.2 ⟨rfl, ih hword.2 hlater⟩

end

/-- Where a marked word of a result comes from, in a text behind `before`. -/
inductive Origin (p : Pattern α) (f : α → Text) (mark : Char) (word : Text)
    (before : Option Char) (t : Text) : Prop
  /-- It stood in the text, where the pattern did not hit. -/
  | kept (pre suf : Text) (parts : t = pre ++ suf) (stands : mark :: word <+: suf)
      (miss : ∀ taken a, p (lastOf before pre) suf ≠ some (taken + 1, a))
  /-- Its mark was put in for a hit. -/
  | put (pre suf : Text) {u v : Text} {taken : Nat} {a : α} (parts : t = pre ++ suf)
      (hit : p (lastOf before pre) suf = some (taken + 1, a)) (mark_in : f a = u ++ mark :: v)
      (goes_on : word <+: v ++ suf.drop (taken + 1))

theorem Origin.behind {mark : Char} {word t : Text} {before : Option Char} (a : Text)
    (h : Origin p f mark word (lastOf before a) t) : Origin p f mark word before (a ++ t) := by
  cases h with
  | kept pre suf parts stands miss =>
    refine .kept (a ++ pre) suf (by rw [parts, List.append_assoc]) stands ?_
    rwa [lastOf_append]
  | put pre suf parts hit mark_in goes_on =>
    refine .put (a ++ pre) suf (by rw [parts, List.append_assoc]) ?_ mark_in goes_on
    rwa [lastOf_append]

/-- **Where a marked word of a result comes from**, if hits end words. -/
theorem origin_of_infix (hends : EndsWords p f q) {mark : Char} {word : Text}
    (hword : word.all q = true) {t : Text} {before : Option Char}
    (h : mark :: word <:+: substituteFrom p f 0 before t) : Origin p f mark word before t := by
  induction hn : t.length using Nat.strongRecOn generalizing t before with
  | _ n ih =>
  cases t with
  | nil => exact absurd (List.infix_nil.1 h) (by simp)
  | cons c t =>
    rcases hit_or_miss p before (c :: t) with ⟨taken, a, hp⟩ | hmiss
    · rw [substituteFrom_hit hp, substituteFrom_drop] at h
      rcases cons_infix_append h with ⟨u, v, hput, hlater⟩ | hlater
      · refine .put [] (c :: t) rfl hp hput ?_
        rw [List.drop_succ_cons]
        -- The word may end in what was put in, or go on behind the hit.
        obtain ⟨rest, hrest⟩ := hlater
        rcases List.append_eq_append_iff.1 hrest with ⟨x, rfl, -⟩ | ⟨x, rfl, hx⟩
        · exact ⟨x ++ t.drop taken, by rw [List.append_assoc]⟩
        · rw [List.all_append, Bool.and_eq_true] at hword
          exact (List.prefix_append_right_inj v).2
            (prefix_of_prefix_substituteFrom hends hword.2 ⟨rest, hx.symm⟩)
      · have hshort : (t.drop taken).length < n := by
          rw [List.length_drop, ← hn, List.length_cons]
          omega
        have hbehind : Origin p f mark word before (c :: t.take taken ++ t.drop taken) :=
          (ih _ hshort hlater rfl).behind (c :: t.take taken)
        rwa [List.cons_append, List.take_append_drop] at hbehind
    · rw [substituteFrom_miss hmiss] at h
      rcases List.infix_cons_iff.1 h with hstart | hlater
      · obtain ⟨rfl, hrest⟩ := List.cons_prefix_cons.1 hstart
        exact .kept [] _ rfl (List.cons_prefix_cons.2
          ⟨rfl, prefix_of_prefix_substituteFrom hends hword hrest⟩) hmiss
      · have hshort : t.length < n := by
          rw [← hn, List.length_cons]
          omega
        exact (ih _ hshort hlater rfl).behind [c]

/-! ## Replacing a character -/

/-- A single character. -/
def single (c : Char) : Pattern Unit := fun _ t =>
  if t.head? = some c then some (1, ()) else none

theorem single_eq_some_iff {c : Char} {before : Option Char} {t : Text} {n : Nat} {u : Unit} :
    single c before t = some (n, u) ↔ n = 1 ∧ t.head? = some c := by
  unfold single
  split
  · next h => simp [h, eq_comm]
  · next h => simp [h]

/-- A character is replaced wherever it stands. -/
theorem replaceAll_singleton (c : Char) (new t : Text) :
    replaceAll [c] new t = substitute (single c) (fun _ => new) t := by
  have hfrom : ∀ (t : Text) (before : Option Char),
      replaceFrom [c] new 0 t = substituteFrom (single c) (fun _ => new) 0 before t := by
    intro t
    induction t with
    | nil => exact fun _ => rfl
    | cons d t ih =>
      intro before
      rw [replaceFrom]
      by_cases hd : d = c
      · have hp : single c before (d :: t) = some (0 + 1, ()) :=
          single_eq_some_iff.2 ⟨rfl, by rw [hd]; rfl⟩
        rw [substituteFrom_hit hp, if_pos (by simp [hd])]
        exact congrArg (new ++ ·) (ih (some d))
      · have hmiss : ∀ taken a, single c before (d :: t) ≠ some (taken + 1, a) := fun taken a hp =>
          hd (Option.some.inj (single_eq_some_iff.1 hp).2)
        rw [substituteFrom_miss hmiss, if_neg (by simp [Ne.symm hd]), ih (some d)]
  exact hfrom t none

theorem replaceAll_eq_self {c : Char} {t : Text} (h : c ∉ t) (new : Text) :
    replaceAll [c] new t = t := by
  rw [replaceAll_singleton]
  refine substitute_eq_self fun before suf hsuf => if_neg fun hhead => h ?_
  exact hsuf.subset (List.mem_of_head? hhead)

end InlineSearch.Text
