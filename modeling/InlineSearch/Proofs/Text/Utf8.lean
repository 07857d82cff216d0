/-
InlineSearch.Proofs.Text.Utf8 — the bytes of a text are read as that text.

A character is written in one to four bytes. The first byte says how many
follow and narrows the range of the second one (`decodeLead_two` to
`decodeLead_four`): that excludes what has a shorter form, what is no character
and what lies beyond the last one. None of this concerns the bytes of a
character, so reading them gives it back (`decodeAfter_utf8EncodeChar`), and
whole texts follow character by character (`decodeUtf8_encodeUtf8`).
-/
import InlineSearch.Text.Utf8

namespace InlineSearch.Text

/-! ## Bytes -/

theorem toNat_ofNat {n : Nat} (h : n < 256) : (UInt8.ofNat n).toNat = n :=
  UInt8.toNat_ofNat_of_lt' h

section

variable {n : Nat}

theorem decodeLead_one (h : n < 0x80) : decodeLead (UInt8.ofNat n) = ([Char.ofNat n], none) := by
  unfold decodeLead
  rw [toNat_ofNat (by omega), if_pos h]

theorem decodeLead_two (hlow : 0xC2 ≤ n) (hhigh : n ≤ 0xDF) :
    decodeLead (UInt8.ofNat n) = ([], some ⟨1, 0x80, 0xBF, n % 0x20⟩) := by
  unfold decodeLead
  rw [toNat_ofNat (by omega)]
  simp [show ¬ n < 0x80 by omega, hlow, hhigh]

theorem decodeLead_three (hlow : 0xE0 ≤ n) (hhigh : n ≤ 0xEF) :
    decodeLead (UInt8.ofNat n) = ([], some ⟨2, if n = 0xE0 then 0xA0 else 0x80,
      if n = 0xED then 0x9F else 0xBF, n % 0x10⟩) := by
  unfold decodeLead
  rw [toNat_ofNat (by omega)]
  simp [show ¬ n < 0x80 by omega, show ¬ n ≤ 0xDF by omega, hlow, hhigh]

theorem decodeLead_four (hlow : 0xF0 ≤ n) (hhigh : n ≤ 0xF4) :
    decodeLead (UInt8.ofNat n) = ([], some ⟨3, if n = 0xF0 then 0x90 else 0x80,
      if n = 0xF4 then 0x8F else 0xBF, n % 0x08⟩) := by
  unfold decodeLead
  rw [toNat_ofNat (by omega)]
  simp [show ¬ n < 0x80 by omega, show ¬ n ≤ 0xDF by omega, show ¬ n ≤ 0xEF by omega, hlow, hhigh]

/-! ## Reading on -/

variable {low high bits : Nat}

theorem decodeAfter_last (hbyte : n < 256) (hlow : low ≤ n) (hhigh : n ≤ high) (bs : List UInt8) :
    decodeAfter (some ⟨1, low, high, bits⟩) (UInt8.ofNat n :: bs)
      = Char.ofNat (bits * 0x40 + n % 0x40) :: decodeAfter none bs := by
  rw [decodeAfter, toNat_ofNat hbyte]
  simp [hlow, hhigh]

theorem decodeAfter_next {missing : Nat} (hbyte : n < 256) (hlow : low ≤ n) (hhigh : n ≤ high)
    (bs : List UInt8) :
    decodeAfter (some ⟨missing + 2, low, high, bits⟩) (UInt8.ofNat n :: bs)
      = decodeAfter (some ⟨missing + 1, 0x80, 0xBF, bits * 0x40 + n % 0x40⟩) bs := by
  rw [decodeAfter, toNat_ofNat hbyte]
  simp [hlow, hhigh]

end

/-! ## Characters and texts -/

/-- The bytes of a character are read as that character. -/
theorem decodeAfter_utf8EncodeChar (c : Char) (bs : List UInt8) :
    decodeAfter none (String.utf8EncodeChar c ++ bs) = c :: decodeAfter none bs := by
  have hvalid : c.toNat < 0xD800 ∨ 0xDFFF < c.toNat ∧ c.toNat < 0x110000 := c.valid
  have hchar : ∀ {n}, n = c.toNat → Char.ofNat n = c := by
    rintro n rfl
    exact Char.ofNat_toNat c
  have hcode : c.val.toNat = c.toNat := rfl
  unfold String.utf8EncodeChar
  dsimp only
  rw [hcode]
  generalize c.toNat = v at hvalid hchar
  split
  · next hone =>
    rw [List.cons_append, decodeAfter, decodeLead_one (by omega), hchar rfl]
    rfl
  · split
    · next hone htwo =>
      rw [List.cons_append, decodeAfter, decodeLead_two (by omega) (by omega)]
      dsimp only
      rw [List.nil_append, List.cons_append, decodeAfter_last (by omega) (by omega) (by omega),
        hchar (by omega), List.nil_append]
    · split
      · next hone htwo hthree =>
        rw [List.cons_append, decodeAfter, decodeLead_three (by omega) (by omega)]
        dsimp only
        rw [List.nil_append, List.cons_append, decodeAfter_next (by omega) (by split <;> omega)
          (by split <;> omega), List.cons_append, decodeAfter_last (by omega) (by omega) (by omega),
          hchar (by omega), List.nil_append]
      · next hone htwo hthree =>
        rw [List.cons_append, decodeAfter, decodeLead_four (by omega) (by omega)]
        dsimp only
        rw [List.nil_append, List.cons_append, decodeAfter_next (by omega) (by split <;> omega)
          (by split <;> omega), List.cons_append, decodeAfter_next (by omega) (by omega) (by omega),
          List.cons_append, decodeAfter_last (by omega) (by omega) (by omega), hchar (by omega),
          List.nil_append]

/-- The bytes of a text are read as that text. -/
theorem decodeUtf8_encodeUtf8 (t : Text) : decodeUtf8 (encodeUtf8 t) = t := by
  unfold decodeUtf8 encodeUtf8
  induction t with
  | nil => rfl
  | cons c t ih => rw [List.flatMap_cons, decodeAfter_utf8EncodeChar, ih]

end InlineSearch.Text
