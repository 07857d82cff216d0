/-
InlineSearch.Proofs.Text.Percent — percent encoding is safe and loses nothing.

An encoded text is made of characters that mean nothing in a URL and of
escapes (`Escaped`), whatever the text was (`escaped_percentEncode`). Decoding
gives the text back (`percentDecode_percentEncode`): the bytes of each
character are read back from its escapes, and the text from its bytes.
-/
import InlineSearch.Proofs.Text.Utf8
import InlineSearch.Text.Percent

namespace InlineSearch.Text

/-! ## Digits -/

/-- The capital hexadecimal digits. -/
def hexDigits : Text := "0123456789ABCDEF"

theorem hexDigit_mem {n : Nat} (h : n < 16) : hexDigit n ∈ hexDigits := by
  have hall : ∀ n < 16, hexDigit n ∈ hexDigits := by decide
  exact hall n h

theorem hexValue?_hexDigit {n : Nat} (h : n < 16) : hexValue? (hexDigit n) = some n := by
  have hall : ∀ n < 16, hexValue? (hexDigit n) = some n := by decide
  exact hall n h

/-! ## Encoding -/

/-- A text of ASCII letters, ASCII digits, `-`, `.`, `_`, `~` and escaped
bytes. -/
inductive Escaped : Text → Prop
  | nil : Escaped []
  | kept {c : Char} {t : Text} (unreserved : isUnreserved c = true) (later : Escaped t) :
    Escaped (c :: t)
  | byte {a b : Char} {t : Text} (first : a ∈ hexDigits) (second : b ∈ hexDigits)
    (later : Escaped t) : Escaped ('%' :: a :: b :: t)

theorem Escaped.append {a b : Text} (ha : Escaped a) (hb : Escaped b) : Escaped (a ++ b) := by
  induction ha with
  | nil => exact hb
  | kept unreserved _ ih => exact .kept unreserved ih
  | byte first second _ ih => exact .byte first second ih

theorem escaped_flatMap {α : Type} {f : α → Text} {l : List α} (h : ∀ a ∈ l, Escaped (f a)) :
    Escaped (l.flatMap f) := by
  induction l with
  | nil => exact .nil
  | cons a l ih =>
    rw [List.flatMap_cons]
    exact (h a (List.mem_cons_self ..)).append (ih fun b hb => h b (List.mem_cons_of_mem _ hb))

theorem escaped_escapeByte (b : UInt8) : Escaped (escapeByte b) := by
  have hlt : b.toNat < 256 := b.toNat_lt
  exact .byte (hexDigit_mem (by omega)) (hexDigit_mem (by omega)) .nil

theorem escaped_percentEncode (t : Text) : Escaped (percentEncode t) := by
  refine escaped_flatMap fun c _ => ?_
  unfold percentEncodeChar
  split
  · next h => exact .kept h .nil
  · exact escaped_flatMap fun b _ => escaped_escapeByte b

/-- No character that means something in a URL stands in an escaped text. -/
theorem Escaped.not_mem {t : Text} {c : Char} (h : Escaped t) (hc : isUnreserved c = false)
    (hpercent : c ≠ '%') : c ∉ t := by
  have hdigits : hexDigits.all isUnreserved = true := by decide
  have hdigit := List.all_eq_true.1 hdigits
  have hne : ∀ {d : Char}, isUnreserved d = true → c ≠ d := by
    rintro d hd rfl
    rw [hc] at hd
    cases hd
  induction h with
  | nil => exact List.not_mem_nil
  | kept unreserved _ ih =>
    rw [List.mem_cons, not_or]
    exact ⟨hne unreserved, ih⟩
  | byte first second _ ih =>
    simp only [List.mem_cons, not_or]
    exact ⟨hpercent, hne (hdigit _ first), hne (hdigit _ second), ih⟩

/-! ## Decoding -/

theorem percentDecodeBytes_escapeByte (b : UInt8) (t : Text) :
    percentDecodeBytes (escapeByte b ++ t) = b :: percentDecodeBytes t := by
  have hlt : b.toNat < 256 := b.toNat_lt
  have hbyte : hexByte? (hexDigit (b.toNat / 16)) (hexDigit (b.toNat % 16)) = some b := by
    have hvalue : 16 * (b.toNat / 16) + b.toNat % 16 = b.toNat := Nat.div_add_mod ..
    simp only [hexByte?, hexValue?_hexDigit (show b.toNat / 16 < 16 by omega),
      hexValue?_hexDigit (show b.toNat % 16 < 16 by omega), hvalue, Option.bind_eq_bind,
      Option.bind_some, Option.pure_def, UInt8.ofNat_toNat]
  rw [escapeByte, List.cons_append, List.cons_append, List.cons_append, List.nil_append,
    percentDecodeBytes, hbyte]

theorem percentDecodeBytes_escapes (bs : List UInt8) (t : Text) :
    percentDecodeBytes (bs.flatMap escapeByte ++ t) = bs ++ percentDecodeBytes t := by
  induction bs with
  | nil => rfl
  | cons b bs ih =>
    rw [List.flatMap_cons, List.append_assoc, percentDecodeBytes_escapeByte, ih, List.cons_append]

theorem percentDecodeBytes_percentEncodeChar (c : Char) (t : Text) :
    percentDecodeBytes (percentEncodeChar c ++ t)
      = String.utf8EncodeChar c ++ percentDecodeBytes t := by
  unfold percentEncodeChar
  split
  · next h =>
    have hpercent : c ≠ '%' := by
      rintro rfl
      exact absurd h (by decide)
    rw [List.singleton_append, percentDecodeBytes]
    exact fun a b u heq => absurd heq hpercent
  · exact percentDecodeBytes_escapes _ t

/-- What was encoded is decoded. -/
theorem percentDecode_percentEncode (t : Text) : percentDecode (percentEncode t) = t := by
  have hbytes : percentDecodeBytes (percentEncode t) = encodeUtf8 t := by
    unfold percentEncode encodeUtf8
    induction t with
    | nil => rfl
    | cons c t ih =>
      rw [List.flatMap_cons, percentDecodeBytes_percentEncodeChar, ih, List.flatMap_cons]
  rw [percentDecode, hbytes, decodeUtf8_encodeUtf8]

end InlineSearch.Text
