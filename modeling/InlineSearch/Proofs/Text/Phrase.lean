/-
InlineSearch.Proofs.Text.Phrase — words of letters and digits.

A phrase is made of words of letters and digits with spaces between them
(`Phrase`). The grammars of directives and queries give no meaning to any
of its characters: it holds none of their signs (`Phrase.not_mem`), and
trimming leaves it as it is (`Phrase.trim`).
-/
import InlineSearch.Proofs.Text.Lines
import InlineSearch.Proofs.Text.Trim
import InlineSearch.Text.Word
import Mathlib.Data.List.Basic

namespace InlineSearch.Text

/-! ## Letters and digits -/

/-- Whether a character is a letter or belongs to one of the number
categories. -/
def isAlphanumeric (c : Char) : Bool := isAlphabetic c || isNumeral c

theorem isBlank_of_alphanumeric {c : Char} (h : isAlphanumeric c = true) : isBlank c = false :=
  isBlank_eq_false_of (by decide +kernel) h

theorem ne_of_alphanumeric {c d : Char} (hc : isAlphanumeric c = true)
    (hd : isAlphanumeric d = false) : c ≠ d := by
  rintro rfl
  rw [hc] at hd
  simp at hd

/-- The signs that the grammars of directives and queries give a meaning to,
and the end of a line, are neither letters nor digits. -/
theorem sign_not_alphanumeric {c : Char} (hc : c ∈ ("!\"'()+-/:<]^~\n" : Text)) :
    isAlphanumeric c = false := by
  have hsigns : ("!\"'()+-/:<]^~\n" : Text).all (!isAlphanumeric ·) = true := by decide +kernel
  simpa using List.all_eq_true.1 hsigns c hc

/-- A word of letters and digits. -/
def Alphanumeric (t : Text) : Prop := t ≠ [] ∧ ∀ c ∈ t, isAlphanumeric c = true

instance : DecidablePred Alphanumeric := fun t =>
  decidable_of_iff (t ≠ [] ∧ t.all isAlphanumeric = true) (by rw [List.all_eq_true, Alphanumeric])

/-- A word of letters and digits is made of characters that are not blank. -/
theorem Alphanumeric.all_not_blank {t : Text} (h : Alphanumeric t) : t.all (!isBlank ·) = true :=
  List.all_eq_true.2 fun c hc => by rw [isBlank_of_alphanumeric (h.2 c hc)]; rfl

/-! ## Phrases -/

/-- Letters, digits and spaces, without a space at either end. -/
structure Phrase (t : Text) : Prop where
  chars : ∀ c ∈ t, c = ' ' ∨ isAlphanumeric c = true
  head : t.head?.any isAlphanumeric = true
  last : t.getLast?.any isAlphanumeric = true

theorem Alphanumeric.phrase {t : Text} (h : Alphanumeric t) : Phrase t where
  chars c hc := .inr (h.2 c hc)
  head := by
    rw [List.head?_eq_some_head h.1]
    exact h.2 _ (List.head_mem h.1)
  last := by
    rw [List.getLast?_eq_some_getLast h.1]
    exact h.2 _ (List.getLast_mem h.1)

/-- Words of letters and digits with single spaces between them. -/
theorem phrase_unwords {words : List Text} (hne : words ≠ [])
    (h : ∀ word ∈ words, Alphanumeric word) : Phrase (unwords words) := by
  unfold unwords
  induction words with
  | nil => exact absurd rfl hne
  | cons word rest ih =>
    have hword := (h word (List.mem_cons_self ..)).phrase
    cases rest with
    | nil =>
      rw [join_singleton]
      exact hword
    | cons next rest =>
      have hlater := ih (by simp) fun v hv => h v (List.mem_cons_of_mem _ hv)
      rw [join_cons_cons]
      constructor
      · intro c hc
        rcases List.mem_append.1 hc with hc | hc
        · exact hword.chars c hc
        · rcases List.mem_append.1 hc with hc | hc
          · exact .inl (List.mem_singleton.1 hc)
          · exact hlater.chars c hc
      · have hhead := hword.head
        cases word with
        | nil => simp at hhead
        | cons c word => exact hhead
      · have hlast := hlater.last
        cases hjoin : join " ".toList (next :: rest) with
        | nil =>
          rw [hjoin] at hlast
          simp at hlast
        | cons c t =>
          rw [hjoin] at hlast
          rwa [List.getLast?_append_of_ne_nil _ (by simp),
            List.getLast?_append_of_ne_nil _ (by simp)]

namespace Phrase

variable {t : Text} (h : Phrase t)
include h

theorem ne_nil : t ≠ [] := by
  rintro rfl
  exact absurd h.head (by simp)

/-- No sign of a grammar stands in a phrase. -/
theorem not_mem {c : Char} (hc : c ≠ ' ') (hsign : isAlphanumeric c = false) : c ∉ t := by
  intro hmem
  rcases h.chars c hmem with heq | halpha
  · exact hc heq
  · rw [hsign] at halpha
    simp at halpha

/-- A phrase neither begins nor ends with a character that is no letter or
digit. -/
theorem head_any {p : Char → Bool} (hp : ∀ c, isAlphanumeric c = true → p c = false) :
    t.head?.any p = false := by
  obtain ⟨c, hc, halpha⟩ := (Option.any_eq_true ..).1 h.head
  rw [hc]
  exact hp c halpha

theorem last_any {p : Char → Bool} (hp : ∀ c, isAlphanumeric c = true → p c = false) :
    t.getLast?.any p = false := by
  obtain ⟨c, hc, halpha⟩ := (Option.any_eq_true ..).1 h.last
  rw [hc]
  exact hp c halpha

theorem last_ne {c : Char} (hc : isAlphanumeric c = false) :
    t.getLast? ≠ some c := by
  intro hlast
  have halpha := h.last
  rw [hlast, Option.any_some, hc] at halpha
  simp at halpha

theorem trim : trim t = t :=
  trim_eq_self (h.head_any fun _ => isBlank_of_alphanumeric)
    (h.last_any fun _ => isBlank_of_alphanumeric)

theorem not_blank : isBlankText t = false := by
  obtain ⟨c, hc, halpha⟩ := (Option.any_eq_true ..).1 h.head
  exact List.all_eq_false.2
    ⟨c, List.mem_of_head? hc, by rw [isBlank_of_alphanumeric halpha]; simp⟩

end Phrase

end InlineSearch.Text
