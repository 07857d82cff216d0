/-
InlineSearch.Proofs.Directive.Flag — how inline flags are written, and that
they are read back.

`Form` is a flag as an author writes it, a short group or a long flag.

* `leading?_eq_some_iff` — what the reader takes at a position is a flag that
  is written there and ends its word.
* `inText_eq_nil_iff` — a text has no flags if none is written in it at its
  start or behind a blank.
* `forms_read_back` — flags written behind a text, each behind a space, are
  read in order and removed, and the text is left as it was.
-/
import InlineSearch.Directive.Flag
import InlineSearch.Proofs.Text.Chars
import InlineSearch.Proofs.Text.Trim
import Mathlib.Data.Option.Basic

namespace InlineSearch.Directive.Flag

open Config (Key)

/-! ## Written flags -/

/-- A letter of a short group, and the option that it names. -/
structure Letter where
  char : Char
  key : Key
  names : Key.ofLetter? char = some key

/-- A flag as it is written. -/
inductive Form where
  /-- A short group: a sign, and the letters of one or more options. -/
  | short (on : Bool) (first : Letter) (later : List Letter)
  /-- A long flag: the name of an option behind `--` or `--no-`. -/
  | long (on : Bool) (key : Key) (is_flag : key ∈ Key.flags)

namespace Form

def text : Form → Text
  | short on first later =>
    (if on then "++" else "--" : String).toList ++ (first :: later).map Letter.char
  | long on key _ => (if on then "--" else "--no-" : String).toList ++ key.name

/-- What a written flag says: a short group switches one option a letter. -/
def flags : Form → List Flag
  | short on first later => (first :: later).map fun letter => (letter.key, on)
  | long on key _ => [(key, on)]

end Form

/-- What stands inside words is no blank. -/
theorem not_isBlank_of_isWord {c : Char} (h : Text.isWord c = true) : Text.isBlank c = false :=
  Text.isBlank_eq_false_of (by decide +kernel) h

/-- A word ends before a blank. -/
theorem endsWord_of_isBlank {c : Char} (h : Text.isBlank c = true) (t : Text) :
    endsWord (c :: t) = true := by
  unfold endsWord Text.isWord?
  rw [List.head?_cons, Option.any_some, Bool.not_eq_true', ← Bool.not_eq_true]
  intro hword
  rw [not_isBlank_of_isWord hword] at h
  cases h

/-- Letters stand inside words. -/
theorem isWord_of_isLetter {c : Char} (h : isLetter c = true) : Text.isWord c = true := by
  unfold isLetter Key.ofLetter? at h
  split at h <;> first | decide | cases h

theorem Letter.isLetter_char (letter : Letter) : isLetter letter.char = true := by
  rw [isLetter, letter.names]
  rfl

theorem Letter.mem_flags (letter : Letter) : letter.key ∈ Key.flags := by
  obtain ⟨c, key, h⟩ := letter
  unfold Key.ofLetter? at h
  split at h <;> cases h <;> decide

/-- Letters read one by one. -/
theorem exists_letters {t : Text} (h : t.all isLetter = true) :
    ∃ letters : List Letter, t = letters.map Letter.char := by
  induction t with
  | nil => exact ⟨[], rfl⟩
  | cons c t ih =>
    rw [List.all_cons, Bool.and_eq_true] at h
    obtain ⟨key, hkey⟩ := Option.isSome_iff_exists.1 h.1
    obtain ⟨letters, rfl⟩ := ih h.2
    exact ⟨⟨c, key, hkey⟩ :: letters, rfl⟩

theorem filterMap_letters (on : Bool) (letters : List Letter) :
    ((letters.map Letter.char).filterMap fun c => (Key.ofLetter? c).map (·, on))
      = letters.map fun letter => (letter.key, on) := by
  induction letters with
  | nil => rfl
  | cons letter letters ih =>
    rw [List.map_cons, List.filterMap_cons, letter.names, Option.map_some, ih, List.map_cons]

/-! ## The reader at a position -/

/-- Where a word ends, no letter follows. -/
theorem any_isLetter_of_endsWord {rest : Text} (h : endsWord rest = true) :
    rest.head?.any isLetter = false := by
  unfold endsWord Text.isWord? at h
  cases hhead : rest.head? with
  | none => rfl
  | some c =>
    rw [hhead, Option.any_some, Bool.not_eq_true'] at h
    rw [Option.any_some, ← Bool.not_eq_true]
    intro hletter
    rw [isWord_of_isLetter hletter] at h
    cases h

theorem ofLetters?_eq_some_iff {on : Bool} {t : Text} {n : Nat} {flags : List Flag} :
    ofLetters? on t = some (n, flags) ↔ ∃ (first : Letter) (later : List Letter) (rest : Text),
      t = (first :: later).map Letter.char ++ rest ∧ endsWord rest = true
        ∧ n = (first :: later).length
        ∧ flags = (first :: later).map fun letter => (letter.key, on) := by
  unfold ofLetters?
  dsimp only
  simp only [Option.bind_eq_bind, Option.bind_eq_some_iff, Option.guard_eq_some', Option.pure_def,
    Option.some.injEq, Prod.mk.injEq, Bool.and_eq_true, Bool.not_eq_true',
    List.isEmpty_eq_false_iff]
  constructor
  · rintro ⟨-, ⟨hne, hends⟩, rfl, rfl⟩
    obtain ⟨letters, hletters⟩ := exists_letters (List.all_takeWhile (p := isLetter) (l := t))
    cases letters with
    | nil => exact absurd hletters hne
    | cons first later =>
      refine ⟨first, later, t.dropWhile isLetter, ?_, hends, ?_, ?_⟩
      · rw [← hletters, List.takeWhile_append_dropWhile]
      · rw [hletters, List.length_map]
      · rw [hletters, filterMap_letters]
  · rintro ⟨first, later, rest, rfl, hends, rfl, rfl⟩
    have hall : ((first :: later).map Letter.char).all isLetter = true := by
      rw [List.all_map, List.all_eq_true]
      exact fun letter _ => letter.isLetter_char
    have hstop := any_isLetter_of_endsWord hends
    rw [Text.takeWhile_append_stop hall hstop, Text.dropWhile_append_stop hall hstop,
      List.length_map, filterMap_letters]
    exact ⟨(), ⟨by simp, hends⟩, rfl, rfl⟩

/-- Of two options of flags with a text, the names are not parts of one
another. -/
theorem eq_of_name_prefix {key other : Key} (hkey : key ∈ Key.flags) (hother : other ∈ Key.flags)
    {t : Text} (h : key.name <+: t) (h' : other.name <+: t) : key = other := by
  have hflags : ∀ key ∈ Key.flags, ∀ other ∈ Key.flags, key.name <+: other.name → key = other := by
    decide
  rcases List.prefix_or_prefix_of_prefix h h' with hname | hname
  · exact hflags key hkey other hother hname
  · exact (hflags other hother key hkey hname).symm

theorem ofName?_eq_some_iff {on : Bool} {t : Text} {n : Nat} {flags : List Flag} :
    ofName? on t = some (n, flags) ↔ ∃ key ∈ Key.flags, ∃ rest : Text, t = key.name ++ rest
      ∧ endsWord rest = true ∧ n = key.name.length ∧ flags = [(key, on)] := by
  have hsound : ∀ {n flags}, ofName? on t = some (n, flags) → ∃ key ∈ Key.flags, ∃ rest : Text,
      t = key.name ++ rest ∧ endsWord rest = true ∧ n = key.name.length ∧ flags = [(key, on)] := by
    intro n flags h
    obtain ⟨key, hkey, h⟩ := List.exists_of_findSome?_eq_some h
    simp only [Option.bind_eq_bind, Option.bind_eq_some_iff, Option.guard_eq_some',
      Option.pure_def, Option.some.injEq, Prod.mk.injEq] at h
    obtain ⟨rest, hrest, -, hends, rfl, rfl⟩ := h
    exact ⟨key, hkey, rest, Text.dropPrefix?_eq_some_iff.1 hrest, hends, rfl, rfl⟩
  refine ⟨hsound, ?_⟩
  rintro ⟨key, hkey, rest, ht, hends, rfl, rfl⟩
  -- Some name is found, and no other one can be.
  have hsome : (ofName? on t).isSome = true := by
    unfold ofName?
    rw [List.findSome?_isSome_iff]
    refine ⟨key, hkey, ?_⟩
    rw [Text.dropPrefix?_eq_some_iff.2 ht]
    simp [hends]
  obtain ⟨⟨n, flags⟩, hfound⟩ := Option.isSome_iff_exists.1 hsome
  obtain ⟨other, hother, rest', ht', -, rfl, rfl⟩ := hsound hfound
  obtain rfl := eq_of_name_prefix hkey hother ⟨rest, ht.symm⟩ ⟨rest', ht'.symm⟩
  exact hfound

/-- No name of an option is read as letters: it begins with none, or goes on
with a character that ends no word. -/
theorem ofLetters?_name {key : Key} (h : key ∈ Key.flags) (on : Bool) (rest : Text) :
    ofLetters? on (key.name ++ rest) = none := by
  revert h
  cases key with
  | debug | inline | prefixRandom | includeTitles | validateLinks => exact fun _ => rfl
  | report | countryCode | emptyUsesPageTitle => exact fun h => absurd h (by decide)

theorem leading?_plus (rest : Text) : leading? ('+' :: '+' :: rest)
    = (ofLetters? true rest).map fun (n, flags) => (n + 2, flags) := rfl

theorem leading?_minus (rest : Text) : leading? ('-' :: '-' :: rest)
    = (((ofLetters? false rest).or (ofName? true rest)).map fun (n, flags) => (n + 2, flags)).or do
      let name ← Text.dropPrefix? "no-" rest
      let (n, flags) ← ofName? false name
      return (n + 5, flags) := rfl

/-- **The reader takes the flags that are written at a position**, where their
word ends. -/
theorem leading?_eq_some_iff {t : Text} {n : Nat} {flags : List Flag} :
    leading? t = some (n, flags) ↔ ∃ (form : Form) (rest : Text), t = form.text ++ rest
      ∧ endsWord rest = true ∧ n = form.text.length ∧ flags = form.flags := by
  constructor
  · intro h
    unfold leading? at h
    split at h
    · next rest =>
      obtain ⟨⟨m, _⟩, hfound, heq⟩ := Option.map_eq_some_iff.1 h
      obtain ⟨rfl, rfl⟩ := Prod.mk.inj heq
      obtain ⟨first, later, rest, rfl, hends, rfl, rfl⟩ := ofLetters?_eq_some_iff.1 hfound
      exact ⟨.short true first later, rest, rfl, hends, by simp [Form.text], rfl⟩
    · next rest =>
      rcases Option.or_eq_some_iff.1 h with h | ⟨-, h⟩
      · obtain ⟨⟨m, _⟩, hfound, heq⟩ := Option.map_eq_some_iff.1 h
        obtain ⟨rfl, rfl⟩ := Prod.mk.inj heq
        rcases Option.or_eq_some_iff.1 hfound with hfound | ⟨-, hfound⟩
        · obtain ⟨first, later, rest, rfl, hends, rfl, rfl⟩ := ofLetters?_eq_some_iff.1 hfound
          exact ⟨.short false first later, rest, rfl, hends, by simp [Form.text], rfl⟩
        · obtain ⟨key, hkey, rest, rfl, hends, rfl, rfl⟩ := ofName?_eq_some_iff.1 hfound
          exact ⟨.long true key hkey, rest, rfl, hends, by simp [Form.text], rfl⟩
      · simp only [Option.bind_eq_bind, Option.bind_eq_some_iff, Option.pure_def,
          Option.some.injEq, Prod.mk.injEq] at h
        obtain ⟨name, hname, ⟨m, _⟩, hfound, rfl, rfl⟩ := h
        obtain rfl := Text.dropPrefix?_eq_some_iff.1 hname
        obtain ⟨key, hkey, rest, rfl, hends, rfl, rfl⟩ := ofName?_eq_some_iff.1 hfound
        exact ⟨.long false key hkey, rest, rfl, hends, by simp [Form.text], rfl⟩
    · cases h
  · rintro ⟨form, rest, rfl, hends, rfl, rfl⟩
    cases form with
    | short on first later =>
      have hfound : ofLetters? on ((first :: later).map Letter.char ++ rest) = some
          ((first :: later).length, (first :: later).map fun letter => (letter.key, on)) :=
        ofLetters?_eq_some_iff.2 ⟨first, later, rest, rfl, hends, rfl, rfl⟩
      cases on with
      | true =>
        change leading? ('+' :: '+' :: ((first :: later).map Letter.char ++ rest)) = _
        rw [leading?_plus, hfound]
        simp [Form.text, Form.flags]
      | false =>
        change leading? ('-' :: '-' :: ((first :: later).map Letter.char ++ rest)) = _
        rw [leading?_minus, hfound]
        simp [Form.text, Form.flags]
    | long on key hkey =>
      have hfound : ofName? on (key.name ++ rest) = some (key.name.length, [(key, on)]) :=
        ofName?_eq_some_iff.2 ⟨key, hkey, rest, rfl, hends, rfl, rfl⟩
      cases on with
      | true =>
        change leading? ('-' :: '-' :: (key.name ++ rest)) = _
        rw [leading?_minus, ofLetters?_name hkey, hfound]
        simp [Form.text, Form.flags]
      | false =>
        change leading? ('-' :: '-' :: 'n' :: 'o' :: '-' :: (key.name ++ rest)) = _
        have hletters : ofLetters? false ('n' :: 'o' :: '-' :: (key.name ++ rest)) = none := rfl
        have hname : ofName? true ('n' :: 'o' :: '-' :: (key.name ++ rest)) = none := rfl
        have hno : Text.dropPrefix? "no-" ('n' :: 'o' :: '-' :: (key.name ++ rest))
            = some (key.name ++ rest) := rfl
        rw [leading?_minus, hletters, hname, hno]
        simp [hfound, Form.text, Form.flags]

/-! ## Flags in a text -/

namespace Form

/-- A flag begins with two equal signs. -/
theorem exists_sign (form : Form) :
    ∃ sign later, form.text = sign :: sign :: later ∧ (sign = '+' ∨ sign = '-') := by
  cases form with
  | short on first later => cases on with
    | true => exact ⟨'+', _, rfl, .inl rfl⟩
    | false => exact ⟨'-', _, rfl, .inr rfl⟩
  | long on key is_flag => cases on with
    | true => exact ⟨'-', _, rfl, .inr rfl⟩
    | false => exact ⟨'-', _, rfl, .inr rfl⟩

theorem text_ne_nil (form : Form) : form.text ≠ [] := by
  obtain ⟨sign, later, htext, -⟩ := form.exists_sign
  simp [htext]

theorem flags_ne_nil (form : Form) : form.flags ≠ [] := by
  cases form <;> simp [flags]

/-- A flag switches options that flags may switch. -/
theorem mem_flags_of_mem {form : Form} {flag : Flag} (h : flag ∈ form.flags) :
    flag.1 ∈ Key.flags := by
  cases form with
  | short on first later =>
    obtain ⟨letter, -, rfl⟩ := List.mem_map.1 h
    exact letter.mem_flags
  | long on key is_flag =>
    rw [List.mem_singleton.1 h]
    exact is_flag

/-- A flag is made of signs and of characters that stand inside words. -/
theorem cases_of_mem_text {form : Form} {c : Char} (h : c ∈ form.text) :
    c = '+' ∨ c = '-' ∨ Text.isWord c = true := by
  cases form with
  | short on first later =>
    rcases List.mem_append.1 h with h | h
    · cases on <;> simp_all
    · obtain ⟨letter, -, rfl⟩ := List.mem_map.1 h
      exact .inr (.inr (isWord_of_isLetter letter.isLetter_char))
  | long on key is_flag =>
    have hnames : ∀ key ∈ Key.flags, key.name.all Text.isWord = true := by decide
    have hno : ("--no-" : Text).all (fun c => c == '-' || Text.isWord c) = true := by decide
    rcases List.mem_append.1 h with h | h
    · have hc : c ∈ ("--no-" : Text) := by cases on <;> simp_all
      have := List.all_eq_true.1 hno c hc
      simp_all
    · exact .inr (.inr (List.all_eq_true.1 (hnames key is_flag) c h))

theorem not_isBlank_of_mem_text {form : Form} {c : Char} (h : c ∈ form.text) :
    Text.isBlank c = false := by
  rcases cases_of_mem_text h with rfl | rfl | hword
  · decide
  · decide
  · exact not_isBlank_of_isWord hword

end Form

/-- What a flag takes in front of it: a blank, or nothing at the start of the
text. -/
inductive Lead : Option Char → Text → Prop
  | start : Lead none []
  | blank {before : Option Char} {c : Char} (h : Text.isBlank c = true) : Lead before [c]

/-- A flag does not begin with a blank. -/
theorem leading?_blank {c : Char} (h : Text.isBlank c = true) (t : Text) :
    leading? (c :: t) = none := by
  rw [Option.eq_none_iff_forall_ne_some]
  rintro ⟨n, flags⟩ hfound
  obtain ⟨form, rest, ht, -⟩ := leading?_eq_some_iff.1 hfound
  obtain ⟨sign, later, htext, -⟩ := form.exists_sign
  rw [htext, List.cons_append] at ht
  have hmem : sign ∈ form.text := by simp [htext]
  have hsign := Form.not_isBlank_of_mem_text hmem
  rw [← (List.cons.inj ht).1, h] at hsign
  cases hsign

/-- A position matches if a flag is written there behind what it takes in
front of it. -/
theorem pattern_eq_some_iff {before : Option Char} {t : Text} {n : Nat} {flags : List Flag} :
    pattern before t = some (n, flags) ↔ ∃ (lead : Text) (form : Form) (rest : Text),
      Lead before lead ∧ t = lead ++ (form.text ++ rest) ∧ endsWord rest = true
        ∧ n = lead.length + form.text.length ∧ flags = form.flags := by
  unfold pattern
  dsimp only
  constructor
  · intro h
    rcases Option.or_eq_some_iff.1 h with h | ⟨-, h⟩
    · split at h
      · next hstart =>
        obtain ⟨form, rest, rfl, hends, rfl, rfl⟩ := leading?_eq_some_iff.1 h
        obtain rfl := Option.isNone_iff_eq_none.1 hstart
        exact ⟨[], form, rest, .start, rfl, hends, by simp, rfl⟩
      · cases h
    · simp only [Option.bind_eq_bind, Option.bind_eq_some_iff, Option.guard_eq_some',
        Option.pure_def, Option.some.injEq, Prod.mk.injEq] at h
      obtain ⟨c, hhead, -, hblank, ⟨m, _⟩, hfound, rfl, rfl⟩ := h
      obtain ⟨t', rfl⟩ := List.head?_eq_some_iff.1 hhead
      obtain ⟨form, rest, rfl, hends, rfl, rfl⟩ := leading?_eq_some_iff.1 hfound
      exact ⟨[c], form, rest, .blank hblank, rfl, hends, Nat.add_comm .., rfl⟩
  · rintro ⟨lead, form, rest, hlead, rfl, hends, rfl, rfl⟩
    have hfound := leading?_eq_some_iff.2 ⟨form, rest, rfl, hends, rfl, rfl⟩
    cases hlead with
    | start => simp [hfound]
    | blank hblank => simp [leading?_blank hblank, hblank, hfound, Nat.add_comm]

/-- What stands around a flag in a text: it begins the text or follows a blank,
and its word ends. -/
structure Stands (pre rest : Text) : Prop where
  begins : pre.getLast?.all Text.isBlank = true
  ends : endsWord rest = true

theorem exists_of_mem_hits {t : Text} {flags : List Flag} (h : flags ∈ Text.hits pattern t) :
    ∃ (pre : Text) (form : Form) (rest : Text), t = pre ++ (form.text ++ rest) ∧ Stands pre rest
      ∧ flags = form.flags := by
  obtain ⟨pre, suf, taken, rfl, hp⟩ := Text.exists_of_mem_hits h
  obtain ⟨lead, form, rest, hlead, rfl, hends, -, rfl⟩ := pattern_eq_some_iff.1 hp
  refine ⟨pre ++ lead, form, rest, by simp, ⟨?_, hends⟩, rfl⟩
  generalize hbefore : Text.lastOf none pre = before at hlead
  cases hlead with
  | start =>
    rcases List.eq_nil_or_concat pre with rfl | ⟨init, c, rfl⟩
    · rfl
    · rw [List.concat_eq_append, Text.lastOf_append] at hbefore
      cases hbefore
  | blank hblank => simp [hblank]

/-- A flag that stands in a text matches there. -/
theorem exists_pattern {pre rest : Text} (form : Form) (h : Stands pre rest) :
    ∃ (outer lead : Text) (taken : Nat), pre = outer ++ lead
      ∧ pattern (Text.lastOf none outer) (lead ++ (form.text ++ rest))
        = some (taken + 1, form.flags) := by
  obtain ⟨sign, later, htext, -⟩ := form.exists_sign
  rcases List.eq_nil_or_concat pre with rfl | ⟨outer, c, rfl⟩
  · refine ⟨[], [], later.length + 1, rfl, pattern_eq_some_iff.2
      ⟨[], form, rest, .start, rfl, h.ends, ?_, rfl⟩⟩
    simp [htext]
  · have hblank : Text.isBlank c = true := by simpa using h.begins
    refine ⟨outer, [c], later.length + 2, by simp, pattern_eq_some_iff.2
      ⟨[c], form, rest, .blank hblank, rfl, h.ends, ?_, rfl⟩⟩
    simp only [htext, List.length_cons, List.length_nil]
    omega

/-- **A text has no flags if none stands in it.** -/
theorem inText_eq_nil_iff {t : Text} : inText t = []
    ↔ ∀ (pre : Text) (form : Form) (rest : Text), t = pre ++ (form.text ++ rest) →
      ¬ Stands pre rest := by
  constructor
  · rintro hnil pre form rest rfl hstands
    obtain ⟨outer, lead, taken, rfl, hp⟩ := exists_pattern form hstands
    have hhit : Text.hits pattern (outer ++ (lead ++ (form.text ++ rest))) ≠ [] := by
      rcases Text.mem_hits_or_covered (by simp [form.text_ne_nil]) hp with hmem | ⟨flags, hmem, -⟩
      · exact List.ne_nil_of_mem hmem
      · exact List.ne_nil_of_mem hmem
    obtain ⟨flags, hflags⟩ := List.exists_mem_of_ne_nil _ hhit
    rw [List.append_assoc, inText, List.flatten_eq_nil_iff] at hnil
    obtain ⟨_, form', _, -, -, rfl⟩ := exists_of_mem_hits hflags
    exact form'.flags_ne_nil (hnil _ hflags)
  · intro h
    rw [inText, List.flatten_eq_nil_iff]
    intro flags hflags
    obtain ⟨pre, form, rest, ht, hstands, -⟩ := exists_of_mem_hits hflags
    exact absurd hstands (h pre form rest ht)

theorem hits_eq_nil_of_inText {t : Text} (h : inText t = []) : Text.hits pattern t = [] := by
  rw [List.eq_nil_iff_forall_not_mem]
  intro flags hflags
  obtain ⟨pre, form, rest, ht, hstands, -⟩ := exists_of_mem_hits hflags
  exact inText_eq_nil_iff.1 h pre form rest ht hstands

/-- A text without flags stays as it is. -/
theorem strip_of_inText_eq_nil {t : Text} (h : inText t = []) : strip t = t :=
  Text.substitute_of_hits_eq_nil (hits_eq_nil_of_inText h)

/-! ## Flags behind a text -/

/-- Flags as they are written behind a text, each behind a space. -/
def written (forms : List Form) : Text := forms.flatMap fun form => ' ' :: form.text

theorem endsWord_written (forms : List Form) : endsWord (written forms) = true := by
  cases forms <;> rfl

theorem endsWord_of_append {m : Text} {forms : List Form}
    (h : endsWord (m ++ written forms) = true) : endsWord m = true := by
  cases m with
  | nil => rfl
  | cons c m => exact h

/-- The walk takes written flags one by one. -/
theorem piecesFrom_written (before : Option Char) (forms : List Form) :
    Text.piecesFrom pattern 0 before (written forms)
      = forms.map fun form => .hit form.flags := by
  induction forms generalizing before with
  | nil => rfl
  | cons form forms ih =>
    have hp : pattern before (' ' :: (form.text ++ written forms))
        = some (form.text.length + 1, form.flags) :=
      pattern_eq_some_iff.2 ⟨[' '], form, written forms, .blank (by decide), rfl,
        endsWord_written forms, Nat.add_comm .., rfl⟩
    change Text.piecesFrom pattern 0 before (' ' :: (form.text ++ written forms)) = _
    rw [Text.piecesFrom_hit hp, Text.piecesFrom_append, ih, List.map_cons]

/-- Flags that are written behind a text do not complete one that it ends
with: a space comes first, and no flag goes over a space. -/
theorem miss_append_written {before : Option Char} {c : Char} {t : Text}
    (h : ∀ taken flags, pattern before (c :: t) ≠ some (taken + 1, flags)) (forms : List Form) :
    ∀ taken flags, pattern before (c :: (t ++ written forms)) ≠ some (taken + 1, flags) := by
  intro taken flags hp
  obtain ⟨lead, form, rest, hlead, htext, hends, htaken, rfl⟩ := pattern_eq_some_iff.1 hp
  have hinside : ∀ m, c :: t = lead ++ (form.text ++ m) → endsWord m = true → False :=
    fun m hm hends => h taken form.flags
      (pattern_eq_some_iff.2 ⟨lead, form, m, hlead, hm, hends, htaken, rfl⟩)
  rw [← List.cons_append, ← List.append_assoc] at htext
  rcases List.append_eq_append_iff.1 htext with ⟨m, hm, hrest⟩ | ⟨m, hm, rfl⟩
  · cases m with
    | nil => exact hinside [] (by simpa using hm.symm) rfl
    | cons d m =>
      have hspace : d = ' ' := by
        cases forms with
        | nil => cases hrest
        | cons form forms => exact (List.cons.inj hrest).1.symm
      have hmem : d ∈ form.text := by
        cases hlead with
        | start =>
          rw [List.nil_append] at hm
          exact hm ▸ List.mem_append_right _ (List.mem_cons_self ..)
        | blank _ =>
          rw [List.cons_append, List.nil_append, List.cons_append] at hm
          exact (List.cons.inj hm).2 ▸ List.mem_append_right _ (List.mem_cons_self ..)
      have hblank := Form.not_isBlank_of_mem_text hmem
      rw [hspace] at hblank
      exact absurd hblank (by decide)
  · exact hinside m (by rw [hm, List.append_assoc]) (endsWord_of_append hends)

theorem piecesFrom_append_written {t : Text} (forms : List Form) (before : Option Char)
    (h : Text.hitsFrom pattern 0 before t = []) :
    Text.piecesFrom pattern 0 before (t ++ written forms)
      = t.map .char ++ forms.map fun form => .hit form.flags := by
  induction t generalizing before with
  | nil => exact piecesFrom_written before forms
  | cons c t ih =>
    rcases Text.hit_or_miss pattern before (c :: t) with ⟨taken, flags, hp⟩ | hmiss
    · rw [Text.hitsFrom_hit hp] at h
      cases h
    · rw [Text.hitsFrom_miss hmiss] at h
      rw [List.cons_append, Text.piecesFrom_miss (miss_append_written hmiss forms), ih _ h]
      rfl

/-- **Written flags are read back.** Behind a text without flags, each behind a
space, they are read in order, and the text without them is what it was. -/
theorem forms_read_back {t : Text} (h : inText t = []) (forms : List Form) :
    strip (t ++ written forms) = t
      ∧ inText (t ++ written forms) = forms.flatMap Form.flags := by
  have hpieces : Text.pieces pattern (t ++ written forms)
      = t.map .char ++ forms.map fun form => .hit form.flags :=
    piecesFrom_append_written forms none (hits_eq_nil_of_inText h)
  constructor
  · rw [strip, Text.remove, Text.substitute, hpieces]
    simp [List.flatMap_map]
  · rw [inText, Text.hits, hpieces]
    simp [List.filterMap_map, List.flatMap]

/-- A text that ends in the beginnings of flags, and a group whose letters
begin a name. -/
theorem forms_read_back_behind_dashes :
    let t : Text := "a ++ --no- --"
    let letter (c : Char) (key : Key) (h : Key.ofLetter? c = some key) : Letter := ⟨c, key, h⟩
    let forms : List Form := [
      .short false (letter 'd' .debug rfl) [letter 'i' .inline rfl, letter 'r' .prefixRandom rfl,
        letter 't' .includeTitles rfl],
      .long true .debug (by decide), .long false .inline (by decide)]
    inText t = [] ∧ written forms = (" --dirt --debug --no-inline" : Text)
      ∧ strip (t ++ written forms) = t
      ∧ inText (t ++ written forms) = [(.debug, false), (.inline, false), (.prefixRandom, false),
        (.includeTitles, false), (.debug, true), (.inline, false)] := by
  intro t letter forms
  have hnone : inText t = [] := by decide
  obtain ⟨hstrip, hflags⟩ := forms_read_back hnone forms
  exact ⟨hnone, rfl, hstrip, hflags⟩

end InlineSearch.Directive.Flag
