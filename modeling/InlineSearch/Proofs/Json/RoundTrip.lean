/-
InlineSearch.Proofs.Json.RoundTrip — documents are read as they were written.

`parse?_print` is the main statement: a document without numbers, whose strings
are texts, is read back from what is written for it, whatever characters the
texts have.

A reader takes what was written for a value and leaves what stands behind it
(`Reads`), if no blank stands there: blanks between tokens are skipped, and the
printer writes none. Strings come first, character by character (`strUnits_printChar`), then
arrays and objects as items with commas between them (`items_join`), and
documents by induction on their structure (`reads_value`). The levels of nesting
that the parser allows are as many as the text has characters, which is more
than enough.
-/
import InlineSearch.Json.Parser
import InlineSearch.Json.Printer
import InlineSearch.Proofs.Text.Lines
import Mathlib.Data.List.Forall2
import Mathlib.Data.Option.Basic

namespace InlineSearch.Json

/-! ## Readers -/

/-- A text that does not begin with a blank. -/
def Tight (t : Text) : Prop := t.head?.any isSpace = false

/-- A reader takes a text from the front of any other and answers with `a`. -/
def Reads {α : Type} (r : Reader α) (written : Text) (a : α) : Prop :=
  ∀ rest, Tight rest → r (written ++ rest) = some (a, rest)

theorem bind_eq {α β : Type} {r : Reader α} {t rest : Text} {a : α} (h : r t = some (a, rest))
    (next : α → Reader β) : (r >>= next) t = next a rest := by
  show (r t).bind _ = _
  rw [h]
  rfl

theorem map_eq {α β : Type} {r : Reader α} {t rest : Text} {a : α} (h : r t = some (a, rest))
    (f : α → β) : (f <$> r) t = some (f a, rest) := by
  show (r t).bind _ = _
  rw [h]
  rfl

theorem seqRight_eq {α β : Type} {r : Reader α} {t rest : Text} {a : α} (h : r t = some (a, rest))
    (next : Reader β) : (r *> next) t = next rest := by
  show (r t).bind _ = _
  rw [h]
  rfl

theorem expect_append (p rest : Text) : Reader.expect p (p ++ rest) = some ((), rest) := by
  unfold Reader.expect
  rw [Text.dropPrefix?_eq_some_iff.2 rfl]
  rfl

theorem accept_append (p rest : Text) : Reader.accept p (p ++ rest) = some (true, rest) := by
  unfold Reader.accept
  rw [Text.dropPrefix?_eq_some_iff.2 rfl]

theorem accept_other {c d : Char} (h : c ≠ d) (t : Text) :
    Reader.accept [c] (d :: t) = some (false, d :: t) := by
  simp [Reader.accept, Text.dropPrefix?, h]

theorem skipSpaces_tight {t : Text} (h : Tight t) : skipSpaces t = some ((), t) := by
  have hrun : Reader.run isSpace t = some ([], t) := by
    cases t with
    | nil => rfl
    | cons c t =>
      have hc : isSpace c = false := h
      simp [Reader.run, hc]
  exact map_eq hrun fun _ => ()

theorem token_append (p : Text) {rest : Text} (h : Tight rest) :
    token p (p ++ rest) = some ((), rest) :=
  (bind_eq (expect_append p rest) _).trans (skipSpaces_tight h)

/-! ## Strings -/

/-- What a control character is written as, less the sign of its escape. -/
theorem code?_of_control : ∀ n < 0x20,
    (Nat.toDigits 16 n).leftpad 4 '0' = ['0', '0', Nat.digitChar (n / 16), Nat.digitChar (n % 16)]
      ∧ code? '0' '0' (Nat.digitChar (n / 16)) (Nat.digitChar (n % 16)) = some n := by
  decide

/-- A unit that stands for a character: the character, or its number if it is a
control character. -/
def Stands (c : Char) (u : StrUnit) : Prop := u = .char c ∨ u = .code c.toNat ∧ c.toNat < 0x20

/-- A character is read as it was written. -/
theorem strUnits_printChar (c : Char) : ∃ u, Stands c u ∧ ∀ rest,
    strUnits (printChar c ++ rest)
      = (strUnits rest).map fun (units, rest) => (u :: units, rest) := by
  have hletter : ∀ letter, letter ≠ 'u' → escaped? letter = some c → ∀ rest,
      strUnits ('\x5c' :: letter :: rest)
        = (strUnits rest).map fun (units, rest) => (.char c :: units, rest) := by
    intro letter hu hescaped rest
    rw [strUnits]
    · rw [hescaped]
      cases strUnits rest <;> rfl
    · simp [hu]
  unfold printChar
  split
  · exact ⟨.char _, .inl rfl, hletter '\x22' (by decide) rfl⟩
  · exact ⟨.char _, .inl rfl, hletter '\x5c' (by decide) rfl⟩
  · exact ⟨.char _, .inl rfl, hletter 'b' (by decide) rfl⟩
  · exact ⟨.char _, .inl rfl, hletter 'f' (by decide) rfl⟩
  · exact ⟨.char _, .inl rfl, hletter 'n' (by decide) rfl⟩
  · exact ⟨.char _, .inl rfl, hletter 'r' (by decide) rfl⟩
  · exact ⟨.char _, .inl rfl, hletter 't' (by decide) rfl⟩
  · next hquote hslash _ _ _ _ _ =>
    split
    · next hcontrol =>
      obtain ⟨hdigits, hcode⟩ := code?_of_control c.toNat hcontrol
      refine ⟨.code c.toNat, .inr ⟨rfl, hcontrol⟩, fun rest => ?_⟩
      rw [hdigits]
      show strUnits ('\x5c' :: 'u' :: '0' :: '0' :: _ :: _ :: rest) = _
      rw [strUnits, hcode]
      cases strUnits rest <;> rfl
    · next hvisible =>
      refine ⟨.char c, .inl rfl, fun rest => ?_⟩
      show strUnits (c :: rest) = _
      have hge : (guard (0x20 ≤ c.toNat) : Option Unit) = some () :=
        if_pos (Nat.le_of_not_lt hvisible)
      rw [strUnits, hge]
      · cases strUnits rest <;> rfl
      · exact hquote
      · intro a b d e t hslash'
        exact absurd hslash' hslash
      · intro letter t hslash'
        exact absurd hslash' hslash

theorem textOfUnits_cons {c : Char} {u : StrUnit} (h : Stands c u) (units : List StrUnit) :
    textOfUnits (u :: units) = (textOfUnits units).map (c :: ·) := by
  rcases h with rfl | ⟨rfl, hcontrol⟩
  · rw [textOfUnits]
  · have hsingle : isLead c.toNat = false ∧ isTrail c.toNat = false := by
      simp only [isLead, isTrail, Bool.and_eq_false_iff, decide_eq_false_iff_not]
      omega
    have hback : Char.ofNat c.toNat = c := Char.ofNat_toNat c
    cases units with
    | nil => simp [textOfUnits, hsingle, hback]
    | cons v units => cases v <;> simp [textOfUnits, hsingle, hback]

/-- A text is read from the string that was written for it. -/
theorem string_printText (t rest : Text) : string (printText t ++ rest) = some (some t, rest) := by
  have hunits : ∃ units, strUnits (t.flatMap printChar ++ '\x22' :: rest) = some (units, rest)
      ∧ textOfUnits units = some t := by
    induction t with
    | nil => exact ⟨[], by simp [strUnits], by rw [textOfUnits]⟩
    | cons c t ih =>
      obtain ⟨units, hread, htext⟩ := ih
      obtain ⟨u, hu, hchar⟩ := strUnits_printChar c
      refine ⟨u :: units, ?_, ?_⟩
      · rw [List.flatMap_cons, List.append_assoc, hchar, hread]
        rfl
      · rw [textOfUnits_cons hu, htext]
        rfl
  obtain ⟨units, hread, htext⟩ := hunits
  have hwritten : printText t ++ rest = "\x22" ++ (t.flatMap printChar ++ '\x22' :: rest) := by
    simp [printText]
  rw [hwritten, string, bind_eq (expect_append _ _)]
  show (strUnits _).bind _ = _
  rw [hread, ← htext]
  rfl

/-! ## Arrays and objects -/

section

variable {α : Type} {item : Reader α}

/-- What is written for an item begins with neither a blank nor the sign that
closes the items. -/
def Begins (closing : Char) (written : Text) : Prop :=
  ∃ c t, written = c :: t ∧ isSpace c = false ∧ c ≠ closing

theorem Begins.tight {closing : Char} {written : Text} (h : Begins closing written)
    (rest : Text) : Tight (written ++ rest) := by
  obtain ⟨c, t, rfl, hc, -⟩ := h
  exact hc

theorem begins_join {closing : Char} {t : Text} (h : Begins closing t) (written : List Text) :
    Begins closing (Text.join "," (t :: written)) := by
  obtain ⟨c, u, rfl, hc, hne⟩ := h
  cases written with
  | nil => exact ⟨c, u, Text.join_singleton .., hc, hne⟩
  | cons v written => exact ⟨c, _, Text.join_cons_cons .., hc, hne⟩

/-- There is a comma between any two items. -/
theorem length_le_join (written : List Text) :
    written.length ≤ (Text.join "," written).length + 1 := by
  induction written with
  | nil => exact Nat.zero_le _
  | cons t written ih =>
    cases written with
    | nil => exact Nat.le_add_left ..
    | cons u written =>
      have hcomma : ("," : Text).length = 1 := rfl
      rw [Text.join_cons_cons, List.length_append, List.length_append, hcomma, List.length_cons]
      omega

theorem length_le_of_mem_join {t : Text} {written : List Text} (h : t ∈ written) :
    t.length ≤ (Text.join "," written).length := by
  induction written with
  | nil => simp at h
  | cons u written ih =>
    cases written with
    | nil =>
      exact Nat.le_of_eq (by rw [Text.join_singleton, List.mem_singleton.1 h])
    | cons v written =>
      rw [Text.join_cons_cons, List.length_append, List.length_append]
      rcases List.mem_cons.1 h with rfl | h
      · omega
      · have := ih h
        omega

/-- Items are read with the commas between them. -/
theorem items_join {closing : Char} (hcomma : closing ≠ ',') (hclosing : isSpace closing = false)
    {written : List Text} {as : List α}
    (h : List.Forall₂ (fun t a => Reads item t a ∧ Begins closing t) written as)
    (hne : written ≠ []) {count : Nat} (hcount : written.length ≤ count) (rest : Text) :
    items item [closing] count (Text.join "," written ++ closing :: rest) = some (as, rest) := by
  induction h generalizing count with
  | nil => exact absurd rfl hne
  | @cons t a written as hfirst hlater ih =>
    cases count with
    | zero => exact absurd hcount (Nat.not_succ_le_zero _)
    | succ count =>
      have hcount : written.length ≤ count := Nat.le_of_succ_le_succ hcount
      rw [items]
      cases hlater with
      | nil =>
        have hitem := hfirst.1 (closing :: rest) hclosing
        have hclose : Reader.accept [closing] (closing :: rest) = some (true, rest) :=
          accept_append [closing] rest
        rw [Text.join_singleton, bind_eq hitem, bind_eq hclose]
        rfl
      | @cons u b more bs hsecond hmore =>
        have hjoin : Text.join "," (t :: u :: more) ++ closing :: rest
            = t ++ ("," ++ (Text.join "," (u :: more) ++ closing :: rest)) := by
          rw [Text.join_cons_cons]
          simp only [List.append_assoc]
        have htight := (begins_join hsecond.2 more).tight (closing :: rest)
        have hmore : Reader.accept [closing]
              ("," ++ (Text.join "," (u :: more) ++ closing :: rest))
            = some (false, "," ++ (Text.join "," (u :: more) ++ closing :: rest)) :=
          accept_other hcomma _
        rw [hjoin, bind_eq (hfirst.1 _ (by rfl)), bind_eq hmore]
        show (token "," >>= fun _ => _) _ = _
        rw [bind_eq (token_append "," htight), bind_eq (ih (by simp) hcount)]
        rfl

/-- Items are read between the signs that enclose them. -/
theorem enclosed_join {opening closing : Char} (hcomma : closing ≠ ',')
    (hclosing : isSpace closing = false) {written : List Text} {as : List α}
    (h : List.Forall₂ (fun t a => Reads item t a ∧ Begins closing t) written as) (rest : Text) :
    enclosed [opening] [closing] item (opening :: (Text.join "," written ++ closing :: rest))
      = some (as, rest) := by
  cases h with
  | nil =>
    have hopen : token [opening] (opening :: closing :: rest) = some ((), closing :: rest) :=
      token_append [opening] hclosing
    have hclose : Reader.accept [closing] (closing :: rest) = some (true, rest) :=
      accept_append [closing] rest
    show enclosed [opening] [closing] item (opening :: closing :: rest) = _
    rw [enclosed, bind_eq hopen, bind_eq hclose]
    rfl
  | @cons t a written as hfirst hlater =>
    have htight := (begins_join hfirst.2 written).tight (closing :: rest)
    have hopen : token [opening] (opening :: (Text.join "," (t :: written) ++ closing :: rest))
        = some ((), Text.join "," (t :: written) ++ closing :: rest) :=
      token_append [opening] htight
    have hmore : Reader.accept [closing] (Text.join "," (t :: written) ++ closing :: rest)
        = some (false, Text.join "," (t :: written) ++ closing :: rest) := by
      obtain ⟨c, u, hbegins, -, hne⟩ := begins_join hfirst.2 written
      rw [hbegins]
      exact accept_other (Ne.symm hne) _
    have hcount : (t :: written).length
        ≤ (Text.join "," (t :: written) ++ closing :: rest).length + 1 := by
      have := length_le_join (t :: written)
      rw [List.length_append]
      omega
    rw [enclosed, bind_eq hopen, bind_eq hmore]
    exact items_join hcomma hclosing (.cons hfirst hlater) (by simp) hcount rest

/-- A member is read with its name. -/
theorem member_reads {value : Reader Json} {t : Text} {v : Json} (h : Reads value t v)
    {closing : Char} (hbegins : Begins closing t) (name : Text) :
    Reads (member value) (printText name ++ ":" ++ t) (some name, v) := by
  intro rest hrest
  have hwritten : printText name ++ ":" ++ t ++ rest = printText name ++ (":" ++ (t ++ rest)) := by
    simp
  rw [hwritten, member, bind_eq (string_printText ..), bind_eq (skipSpaces_tight (by rfl)),
    bind_eq (token_append ":" (hbegins.tight rest)), bind_eq (h rest hrest)]
  rfl

end

/-! ## Documents -/

mutual

/-- Whether a document has no numbers, and its strings are texts. -/
def isTextual : Json → Bool
  | null | bool _ => true
  | num _ => false
  | str s => s.isSome
  | arr items => areTextual items
  | obj members => membersAreTextual members

/-- Whether some items are such documents. -/
def areTextual : List Json → Bool
  | [] => true
  | v :: vs => isTextual v && areTextual vs

/-- Whether some members are such documents. -/
def membersAreTextual : List (Str × Json) → Bool
  | [] => true
  | (name, v) :: rest => name.isSome && isTextual v && membersAreTextual rest

end

/-- What is written for a document begins with a sign of its own. -/
theorem begins_print {v : Json} (h : isTextual v = true) {closing : Char}
    (hclosing : closing = ']' ∨ closing = '\x7d') : Begins closing (print v) := by
  have hsign : ∀ {c t}, print v = c :: t → isSpace c = false ∧ c ≠ ']' ∧ c ≠ '\x7d' →
      Begins closing (print v) := by
    rintro c t hv ⟨hc, harr, hobj⟩
    refine ⟨c, t, hv, hc, ?_⟩
    rcases hclosing with rfl | rfl
    · exact harr
    · exact hobj
  cases v with
  | null => exact hsign rfl (by decide)
  | bool b => cases b <;> exact hsign rfl (by decide)
  | num n => cases h
  | str s => exact hsign rfl (by decide)
  | arr items => exact hsign (by rw [print]; rfl) (by decide)
  | obj members => exact hsign (by rw [print]; rfl) (by decide)

/-- The value that begins with a character. -/
def valueAt (depth : Nat) : Option Char → Reader Json
  | some 'n' => Reader.expect "null" *> pure null
  | some 't' => Reader.expect "true" *> pure (bool true)
  | some 'f' => Reader.expect "false" *> pure (bool false)
  | some '\x22' => str <$> string
  | some '[' => arr <$> enclosed "[" "]" (value depth)
  | some '\x7b' => obj <$> enclosed "\x7b" "\x7d" (member (value depth))
  | _ => num <$> number

theorem value_eq {depth : Nat} {t rest : Text} {v : Json}
    (h : valueAt depth t.head? t = some (v, rest)) (hrest : Tight rest) :
    value (depth + 1) t = some (v, rest) := by
  have hpeek : Reader.peek? t = some (t.head?, t) := rfl
  have hvalue : value (depth + 1) t = (valueAt depth t.head? >>= fun v => do
      skipSpaces
      return v) t := by
    rw [value, bind_eq hpeek]
    generalize t.head? = first
    unfold valueAt
    dsimp only
    split <;> simp only [*]
  rw [hvalue, bind_eq h, bind_eq (skipSpaces_tight hrest)]
  rfl

mutual

/-- A document is read, with as many levels of nesting as it has characters. -/
theorem reads_value : (v : Json) → isTextual v = true → (depth : Nat) →
    (print v).length ≤ depth → Reads (value depth) (print v) v
  | v, h, 0, hdepth => by
    obtain ⟨c, t, hv, -⟩ := begins_print h (.inl rfl)
    rw [hv] at hdepth
    exact absurd hdepth (Nat.not_succ_le_zero _)
  | null, _, depth + 1, _ => fun rest hrest =>
    value_eq (seqRight_eq (expect_append "null" rest) (pure null)) hrest
  | bool true, _, depth + 1, _ => fun rest hrest =>
    value_eq (seqRight_eq (expect_append "true" rest) (pure (bool true))) hrest
  | bool false, _, depth + 1, _ => fun rest hrest =>
    value_eq (seqRight_eq (expect_append "false" rest) (pure (bool false))) hrest
  | num n, h, _, _ => by cases h
  | str none, h, _, _ => by cases h
  | str (some t), _, depth + 1, _ => fun rest hrest =>
    value_eq (map_eq (string_printText t rest) str) hrest
  | arr vs, h, depth + 1, hdepth => fun rest hrest => by
    have hwritten : print (arr vs) ++ rest
        = '[' :: (Text.join "," (printItems vs) ++ ']' :: rest) := by
      rw [print]
      simp
    have hitems := reads_items vs h depth fun t ht => by
      have := length_le_of_mem_join ht
      have hsigns : ("[" : Text).length = 1 ∧ ("]" : Text).length = 1 := ⟨rfl, rfl⟩
      rw [print, List.length_append, List.length_append] at hdepth
      omega
    rw [hwritten]
    exact value_eq (map_eq (enclosed_join (by decide) (by decide) hitems rest) arr) hrest
  | obj members, h, depth + 1, hdepth => fun rest hrest => by
    have hwritten : print (obj members) ++ rest
        = '\x7b' :: (Text.join "," (printMembers members) ++ '\x7d' :: rest) := by
      rw [print]
      simp
    have hitems := reads_members members h depth fun t ht => by
      have := length_le_of_mem_join ht
      have hsigns : ("\x7b" : Text).length = 1 ∧ ("\x7d" : Text).length = 1 := ⟨rfl, rfl⟩
      rw [print, List.length_append, List.length_append] at hdepth
      omega
    rw [hwritten]
    exact value_eq (map_eq (enclosed_join (by decide) (by decide) hitems rest) obj) hrest

theorem reads_items : (vs : List Json) → areTextual vs = true → (depth : Nat) →
    (∀ t ∈ printItems vs, t.length ≤ depth) →
    List.Forall₂ (fun t v => Reads (value depth) t v ∧ Begins ']' t) (printItems vs) vs
  | [], _, _, _ => .nil
  | v :: vs, h, depth, hdepth => by
    have h := Bool.and_eq_true_iff.1 h
    exact .cons ⟨reads_value v h.1 depth (hdepth _ (.head _)), begins_print h.1 (.inl rfl)⟩
      (reads_items vs h.2 depth fun t ht => hdepth t (.tail _ ht))

theorem reads_members : (members : List (Str × Json)) → membersAreTextual members = true →
    (depth : Nat) → (∀ t ∈ printMembers members, t.length ≤ depth) →
    List.Forall₂ (fun t m => Reads (member (value depth)) t m ∧ Begins '\x7d' t)
      (printMembers members) members
  | [], _, _, _ => .nil
  | (none, v) :: rest, h, _, _ => by cases h
  | (some name, v) :: rest, h, depth, hdepth => by
    obtain ⟨hv, hrest⟩ := Bool.and_eq_true_iff.1 h
    have hlength : (print v).length ≤ depth := by
      have := hdepth _ (.head _)
      simp only [List.length_append] at this
      omega
    have hbegins := begins_print hv (.inr rfl)
    exact .cons ⟨member_reads (reads_value v hv depth hlength) hbegins name,
        '\x22', _, rfl, by decide, by decide⟩
      (reads_members rest hrest depth fun t ht => hdepth t (.tail _ ht))

end

/-- **Documents without numbers are read as they were written.** -/
theorem parse?_print {v : Json} (h : isTextual v = true) : parse? (print v) = some v := by
  have hread : (skipSpaces *> Reader.repeating value) (print v) = some (v, []) := by
    obtain ⟨c, t, hv, hc, -⟩ := begins_print h (.inl rfl)
    have htight : Tight (print v) := by
      rw [hv]
      exact hc
    rw [seqRight_eq (skipSpaces_tight htight)]
    have hvalue := reads_value v h ((print v).length + 1) (Nat.le_succ _) [] rfl
    rwa [List.append_nil] at hvalue
  unfold parse? Reader.whole?
  rw [hread]

end InlineSearch.Json
