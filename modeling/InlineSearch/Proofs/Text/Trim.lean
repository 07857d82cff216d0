/-
InlineSearch.Proofs.Text.Trim — what a run of a class of characters takes,
and what trimming leaves.

What is known of a character class at the code points of the blanks
(`blankCodes`) is known of all blanks (`isBlank_eq_false_of`).
-/
import InlineSearch.Text.Blank
import Mathlib.Data.List.TakeWhile

namespace InlineSearch.Text

/-! ## Blanks -/

/-- The code points of the blank characters. -/
def blankCodes : List Nat := [
  0x09, 0x0A, 0x0B, 0x0C, 0x0D, 0x20, 0x85, 0xA0, 0x1680, 0x2000, 0x2001, 0x2002, 0x2003, 0x2004,
  0x2005, 0x2006, 0x2007, 0x2008, 0x2009, 0x200A, 0x2028, 0x2029, 0x202F, 0x205F, 0x3000]

theorem mem_blankCodes {c : Char} (h : isBlank c = true) : c.toNat ∈ blankCodes := by
  simp only [isBlank, Bool.or_eq_true, Bool.and_eq_true, decide_eq_true_eq, beq_iff_eq] at h
  simp only [blankCodes, List.mem_cons, List.not_mem_nil, or_false]
  omega

/-- A class that holds no blank code point holds no blank. -/
theorem isBlank_eq_false_of {p : Char → Bool}
    (hcodes : ∀ n ∈ blankCodes, p (Char.ofNat n) = false) {c : Char} (h : p c = true) :
    isBlank c = false := by
  rw [Bool.eq_false_iff]
  intro hblank
  have hc := hcodes c.toNat (mem_blankCodes hblank)
  rw [Char.ofNat_toNat, h] at hc
  simp at hc

/-! ## Runs -/

/-- A run ends before a text that does not go on with it. -/
theorem takeWhile_append_of_head {p : Char → Bool} {b : Text} (hb : b.head?.any p = false)
    (a : Text) : (a ++ b).takeWhile p = a.takeWhile p := by
  induction a with
  | nil =>
    cases b with
    | nil => rfl
    | cons c b =>
      have hc : p c = false := by simpa using hb
      simp [hc]
  | cons c a ih => rw [List.cons_append, List.takeWhile_cons, List.takeWhile_cons, ih]

theorem dropWhile_append_of_head {p : Char → Bool} {b : Text} (hb : b.head?.any p = false)
    (a : Text) : (a ++ b).dropWhile p = a.dropWhile p ++ b := by
  induction a with
  | nil =>
    cases b with
    | nil => rfl
    | cons c b =>
      have hc : p c = false := by simpa using hb
      simp [hc]
  | cons c a ih =>
    rw [List.cons_append, List.dropWhile_cons, List.dropWhile_cons, ih]
    split
    · rfl
    · rfl

theorem takeWhile_append_stop {p : Char → Bool} {a b : Text} (ha : a.all p = true)
    (hb : b.head?.any p = false) : (a ++ b).takeWhile p = a := by
  rw [takeWhile_append_of_head hb, List.takeWhile_eq_self_iff]
  exact List.all_eq_true.1 ha

theorem dropWhile_append_stop {p : Char → Bool} {a b : Text} (ha : a.all p = true)
    (hb : b.head?.any p = false) : (a ++ b).dropWhile p = b := by
  rw [dropWhile_append_of_head hb, List.dropWhile_eq_nil_iff.2 (List.all_eq_true.1 ha),
    List.nil_append]

/-- What follows a run does not go on with it. -/
theorem head?_dropWhile_any (p : Char → Bool) (t : Text) :
    (t.dropWhile p).head?.any p = false := by
  have h := List.head?_dropWhile_not p t
  cases hhead : (t.dropWhile p).head? with
  | none => rfl
  | some c => simpa [hhead] using h

/-! ## Trimming -/

/-- Nothing is dropped behind a last character that stays. -/
theorem dropEndWhile_eq_self {p : Char → Bool} {t : Text} (h : t.getLast?.any p = false) :
    dropEndWhile p t = t := by
  unfold dropEndWhile
  rw [← List.nil_append t.reverse, dropWhile_append_stop rfl (by rwa [List.head?_reverse]),
    List.reverse_reverse]

/-- A text without blanks at its ends is left as it is. -/
theorem trim_eq_self {t : Text} (hhead : t.head?.any isBlank = false)
    (hlast : t.getLast?.any isBlank = false) : trim t = t := by
  have hstart : trimStart t = t := dropWhile_append_stop (a := []) rfl hhead
  rw [trim, hstart]
  exact dropEndWhile_eq_self hlast

/-- Trimming the end of a text stops at its last part, unless that is
blank. -/
theorem trimEnd_append {b : Text} (a : Text) (h : isBlankText b = false) :
    trimEnd (a ++ b) = a ++ trimEnd b := by
  have hne : (b.reverse.dropWhile isBlank).isEmpty = false := by
    rw [List.isEmpty_eq_false_iff]
    intro hnil
    rw [List.dropWhile_eq_nil_iff] at hnil
    have hall : isBlankText b = true :=
      List.all_eq_true.2 fun c hc => hnil c (List.mem_reverse.2 hc)
    rw [hall] at h
    simp at h
  unfold trimEnd dropEndWhile
  rw [List.reverse_append, List.dropWhile_append, hne]
  simp

/-- Blanks at the end are trimmed. -/
theorem trimEnd_append_blank (a : Text) {b : Text} (h : isBlankText b = true) :
    trimEnd (a ++ b) = trimEnd a := by
  unfold trimEnd dropEndWhile
  rw [List.reverse_append, List.dropWhile_append_of_pos fun c hc =>
    List.all_eq_true.1 h c (List.mem_reverse.1 hc)]

theorem trimEnd_of_blank {t : Text} (h : isBlankText t = true) : trimEnd t = [] :=
  trimEnd_append_blank [] h

theorem isBlankText_of_trimEnd {t : Text} (h : trimEnd t = []) : isBlankText t = true := by
  cases hblank : isBlankText t with
  | true => rfl
  | false =>
    unfold trimEnd dropEndWhile at h
    rw [List.reverse_eq_nil_iff, List.dropWhile_eq_nil_iff] at h
    rw [← hblank]
    exact List.all_eq_true.2 fun c hc => h c (List.mem_reverse.2 hc)

/-- What is trimmed from the end of a text are blanks. -/
theorem exists_blank_end (t : Text) : ∃ b, isBlankText b = true ∧ t = trimEnd t ++ b := by
  refine ⟨(t.reverse.takeWhile isBlank).reverse, ?_, ?_⟩
  · unfold isBlankText
    rw [List.all_reverse]
    exact List.all_takeWhile
  · unfold trimEnd dropEndWhile
    rw [← List.reverse_append, List.takeWhile_append_dropWhile, List.reverse_reverse]

/-- A text that is not blank is trimmed down to its last character that is not
blank. -/
theorem exists_last {t : Text} (h : isBlankText t = false) : ∃ a c b, isBlank c = false
    ∧ isBlankText b = true ∧ trimEnd t = a ++ [c] ∧ t = a ++ c :: b := by
  obtain ⟨b, hb, ht⟩ := exists_blank_end t
  have hlast : (trimEnd t).getLast?.any isBlank = false := by
    unfold trimEnd dropEndWhile
    rw [List.getLast?_reverse]
    exact head?_dropWhile_any isBlank t.reverse
  rcases List.eq_nil_or_concat (trimEnd t) with hnil | ⟨a, c, hconcat⟩
  · rw [isBlankText_of_trimEnd hnil] at h
    simp at h
  · rw [List.concat_eq_append] at hconcat
    refine ⟨a, c, b, by simpa [hconcat] using hlast, hb, hconcat, ?_⟩
    rw [hconcat, List.append_assoc] at ht
    exact ht

/-- A text trimmed at its end first is trimmed to the same. -/
theorem trim_trimEnd (t : Text) : trim (trimEnd t) = trim t := by
  cases hblank : isBlankText t with
  | true =>
    have hstart : trimStart t = [] := List.dropWhile_eq_nil_iff.2 (List.all_eq_true.1 hblank)
    rw [trimEnd_of_blank hblank, trim, trim, hstart]
    rfl
  | false =>
    obtain ⟨a, c, b, hc, hb, htrim, ht⟩ := exists_last hblank
    have hstop : ∀ x : Text, trimStart (a ++ c :: x) = trimStart a ++ c :: x := fun x =>
      dropWhile_append_of_head (by simpa using hc) a
    have hsplit : trimStart a ++ c :: b = trimStart a ++ [c] ++ b := by simp
    rw [htrim, ht, trim, trim, hstop, hstop, hsplit, trimEnd_append_blank _ hb]

/-- A trimmed text ends with no blank. -/
theorem getLast?_trimEnd_any (t : Text) : (trimEnd t).getLast?.any isBlank = false := by
  rw [trimEnd, dropEndWhile, List.getLast?_reverse]
  exact head?_dropWhile_any isBlank t.reverse

theorem getLast?_trim_any (t : Text) : (trim t).getLast?.any isBlank = false :=
  getLast?_trimEnd_any (trimStart t)

/-- Nor does it begin with one. -/
theorem head?_trim_any (t : Text) : (trim t).head?.any isBlank = false := by
  obtain ⟨b, -, hstart⟩ := exists_blank_end (trimStart t)
  have hhead : (trimStart t).head?.any isBlank = false := head?_dropWhile_any isBlank t
  cases htrim : trim t with
  | nil => rfl
  | cons c u =>
    rw [trim] at htrim
    rwa [hstart, htrim, List.cons_append, List.head?_cons] at hhead

theorem isInfix_trim (t : Text) : trim t <:+: t := by
  have hend : ∀ u : Text, trimEnd u <+: u := fun u => by
    obtain ⟨b, -, hu⟩ := exists_blank_end u
    exact ⟨b, hu.symm⟩
  exact (hend _).isInfix.trans (List.dropWhile_suffix _).isInfix

/-- Dropping blanks drops no other character. -/
theorem count_dropWhile {p : Char → Bool} {c : Char} (hc : p c = false) (t : Text) :
    (t.dropWhile p).count c = t.count c := by
  induction t with
  | nil => rfl
  | cons d t ih =>
    rw [List.dropWhile_cons]
    split
    · next hd =>
      have hne : d ≠ c := by
        intro heq
        rw [heq, hc] at hd
        simp at hd
      rw [ih, List.count_cons_of_ne hne]
    · rfl

/-- Trimming keeps every character that is not blank. -/
theorem count_trim {c : Char} (hc : isBlank c = false) (t : Text) :
    (trim t).count c = t.count c := by
  unfold trim trimEnd dropEndWhile trimStart
  rw [List.count_reverse, count_dropWhile hc, List.count_reverse, count_dropWhile hc]

end InlineSearch.Text
