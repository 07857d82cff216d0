/-
InlineSearch.Proofs.Reference.Digits — the digits of a generated marker.

`fourDigits` writes a number with zeros in front. The digits read back as
that number (`toWord?_fourDigits`), there are four of them at least, and
exactly four below ten thousand.
-/
import InlineSearch.Reference.Marker

namespace InlineSearch

/-- ASCII digits are decimal digits. -/
theorem Text.isDecimal_of_isDigit {c : Char} (h : c.isDigit = true) :
    Text.isDecimal c = true := by
  have hascii : c.toNat < 0x80 := by
    simp only [Char.isDigit, Bool.and_eq_true, decide_eq_true_eq] at h
    have : c.val.toNat ≤ 57 := h.2
    exact Nat.lt_of_le_of_lt this (by decide)
  simp only [Text.isDecimal, Text.hasProperty, if_pos hascii, h]

namespace Reference

theorem fourDigits_eq (n : Nat) :
    fourDigits n = List.replicate (4 - (Text.ofNat n).length) '0' ++ Text.ofNat n := rfl

theorem isDigit_of_mem_fourDigits {n : Nat} {c : Char} (h : c ∈ fourDigits n) :
    c.isDigit = true := by
  rw [fourDigits_eq] at h
  rcases List.mem_append.1 h with h | h
  · rw [List.eq_of_mem_replicate h]
    rfl
  · exact Nat.isDigit_of_mem_toDigits (by decide) (by decide) h

theorem fourDigits_ne_nil (n : Nat) : fourDigits n ≠ [] := by
  rw [fourDigits_eq]
  exact List.append_ne_nil_of_right_ne_nil _ Nat.toDigits_ne_nil

theorem length_fourDigits {n : Nat} (h : n < 10000) : (fourDigits n).length = 4 := by
  have hlen : (Text.ofNat n).length ≤ 4 := (Nat.length_toDigits_le_iff (by decide) (by decide)).2 h
  rw [fourDigits, List.length_leftpad]
  exact Nat.max_eq_left hlen

/-- Zeros in front do not count. -/
theorem toNat?_fourDigits (n : Nat) : Text.toNat? (fourDigits n) = some n := by
  have hne : (fourDigits n).isEmpty = false := List.isEmpty_eq_false_iff.2 (fourDigits_ne_nil n)
  have hall : (fourDigits n).all Char.isDigit = true :=
    List.all_eq_true.2 fun c hc => isDigit_of_mem_fourDigits hc
  have hvalue : (fourDigits n).foldl (fun n c => n * 10 + (c.toNat - '0'.toNat)) 0 = n := by
    calc (fourDigits n).foldl (fun n c => n * 10 + (c.toNat - '0'.toNat)) 0
        = Nat.ofDigitChars 10 (fourDigits n) 0 := by
          simp only [Nat.ofDigitChars_eq_foldl, Nat.mul_comm]
      _ = Nat.ofDigitChars 10 (Text.ofNat n) 0 := by
          rw [fourDigits_eq, Nat.ofDigitChars_append, Nat.ofDigitChars_replicate_zero, Nat.mul_zero]
      _ = n := Nat.ofDigitChars_ten_toDigits
  unfold Text.toNat?
  rw [hne, hall, hvalue]
  rfl

theorem toWord?_fourDigits {n : Nat} (h : n ≤ Text.maxWord) :
    Text.toWord? (fourDigits n) = some n := by
  simp [Text.toWord?, toNat?_fourDigits, h]

end Reference

end InlineSearch
