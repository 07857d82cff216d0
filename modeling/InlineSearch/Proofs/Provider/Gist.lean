/-
InlineSearch.Proofs.Provider.Gist — which known gists are found.

Terms that name a gist by its owner and its id are read in one of two ways: at
the address of a gist, or at the last slash behind which an id stands. The
address that comes out of it is read once more. The two readings have different
ideas of an owner. In front of the slash all but blanks pass for one
(`ownerAndId?_append`), in an address only word characters do, and these leave
out the hyphen (`ownerAt?_owner`). A name of 32 small letters and digits is an id
in its own right, and the id behind it is taken for a file (`ofTerms_of_id`).

* `known_gist_found_iff` — for which owners a gist is found without asking.
-/
import InlineSearch.Proofs.Match.Phrase
import InlineSearch.Proofs.Text.Search
import InlineSearch.Proofs.Text.Trim
import InlineSearch.Proofs.World
import InlineSearch.Provider.Gist

namespace InlineSearch.Provider.Gist

open Search (Hit Request)
open Text (isBlank isWord)

/-! ## Names -/

/-- An ASCII letter, a digit, a hyphen or a low line. -/
def isNameChar (c : Char) : Bool := c.isAlphanum || c == '-' || c == '_'

/-- The name of an owner: ASCII letters, digits and hyphens. -/
structure IsOwner (t : Text) : Prop where
  ne_nil : t ≠ []
  chars : ∀ c ∈ t, c.isAlphanum = true ∨ c = '-'

instance : DecidablePred IsOwner := fun t =>
  decidable_of_iff (t ≠ [] ∧ t.all (fun c => c.isAlphanum || c == '-') = true)
    ⟨fun ⟨hne, hchars⟩ => ⟨hne, by simpa using hchars⟩,
      fun h => ⟨h.ne_nil, by simpa using h.chars⟩⟩

/-- The id of a gist. -/
structure IsId (t : Text) : Prop where
  length : t.length = 32
  chars : ∀ c ∈ t, isIdChar c = true

instance : DecidablePred IsId := fun t =>
  decidable_of_iff (t.length = 32 ∧ t.all isIdChar = true)
    ⟨fun ⟨hlength, hchars⟩ => ⟨hlength, List.all_eq_true.1 hchars⟩,
      fun h => ⟨h.length, List.all_eq_true.2 h.chars⟩⟩

/-- The anchor of a file: ASCII letters, digits, hyphens and low lines. -/
def IsAnchor (t : Text) : Prop := ∀ c ∈ t, isNameChar c = true

instance : DecidablePred IsAnchor := fun _ => decidable_of_iff _ List.all_eq_true

theorem isBlank_of_isNameChar {c : Char} (h : isNameChar c = true) : isBlank c = false :=
  Text.isBlank_eq_false_of (by decide +kernel) h

/-- No sign of an address stands in a name. -/
theorem IsAnchor.not_mem {t : Text} (h : IsAnchor t) {c : Char} (hc : isNameChar c = false) :
    c ∉ t := by
  intro hmem
  rw [h c hmem] at hc
  cases hc

theorem IsAnchor.all_not_blank {t : Text} (h : IsAnchor t) : t.all (!isBlank ·) = true := by
  rw [List.all_eq_true]
  exact fun c hc => by rw [isBlank_of_isNameChar (h c hc)]; rfl

theorem isAlphanum_of_isIdChar {c : Char} (h : isIdChar c = true) : c.isAlphanum = true := by
  unfold isIdChar at h
  unfold Char.isAlphanum Char.isAlpha
  rcases Bool.or_eq_true_iff.1 h with h | h
  · rw [h, Bool.or_true, Bool.true_or]
  · rw [h, Bool.or_true]

theorem isNameChar_of_isAlphanum {c : Char} (h : c.isAlphanum = true) : isNameChar c = true := by
  unfold isNameChar
  rw [h]
  rfl

theorem IsOwner.isAnchor {t : Text} (h : IsOwner t) : IsAnchor t := by
  intro c hc
  rcases h.chars c hc with halpha | rfl
  · exact isNameChar_of_isAlphanum halpha
  · decide

theorem IsId.isAnchor {t : Text} (h : IsId t) : IsAnchor t := fun c hc =>
  isNameChar_of_isAlphanum (isAlphanum_of_isIdChar (h.chars c hc))

/-! ## Written forms -/

/-- The two ways to write which gist is meant. -/
inductive Writing where
  /-- The owner and the id. -/
  | names
  /-- The address of the gist. -/
  | address
deriving DecidableEq

/-- What stands in front of the owner. -/
def Writing.start : Writing → Text
  | names => []
  | address => "https://gist.github.com/"

/-- The anchor of a file behind an id. -/
def anchorText : Option Text → Text
  | none => []
  | some file => '#' :: file

/-- A gist as it is written in terms. -/
def Writing.written (writing : Writing) (owner id : Text) (file : Option Text) : Text :=
  writing.start ++ (owner ++ '/' :: (id ++ anchorText file))

/-- An anchor that is not empty. -/
def named (file : Option Text) : Option Text := file.filter (!·.isEmpty)

variable {owner id : Text} {file : Option Text}

theorem mem_id_anchorText (hid : IsId id) (hfile : ∀ name ∈ file, IsAnchor name) {c : Char}
    (hc : c ∈ id ++ anchorText file) : isNameChar c = true ∨ c = '#' := by
  rcases List.mem_append.1 hc with hc | hc
  · exact .inl (hid.isAnchor c hc)
  · cases file with
    | none => cases hc
    | some name =>
      rcases List.mem_cons.1 hc with rfl | hc
      · exact .inr rfl
      · exact .inl (hfile name rfl c hc)

theorem not_mem_id_anchorText (hid : IsId id) (hfile : ∀ name ∈ file, IsAnchor name) {c : Char}
    (hc : isNameChar c = false) (hsign : c ≠ '#') : c ∉ id ++ anchorText file := by
  intro hmem
  rcases mem_id_anchorText hid hfile hmem with h | h
  · rw [h] at hc
    cases hc
  · exact hsign h

theorem id_anchorText_ne_nil (hid : IsId id) : id ++ anchorText file ≠ [] := by
  intro h
  rw [List.append_eq_nil_iff] at h
  have hlength := hid.length
  rw [h.1] at hlength
  cases hlength

theorem anchorText_all_not_blank (hfile : ∀ name ∈ file, IsAnchor name) :
    (anchorText file).all (!isBlank ·) = true := by
  cases file with
  | none => rfl
  | some name => exact (hfile name rfl).all_not_blank

/-! ## Ids -/

/-- The anchor behind a sign is the rest of the line, unless it is empty. -/
theorem anchor?_cons {c : Char} (hc : c = '#' ∨ c = '/') {t : Text} (hline : '\n' ∉ t) :
    anchor? (c :: t) = some (named (some t)) := by
  have hsign : (c == '#' || c == '/') = true := by rcases hc with rfl | rfl <;> rfl
  have hall : t.all (· != '\n') = true := by
    rw [List.all_eq_true]
    exact fun d hd => bne_iff_ne.2 fun heq => hline (heq ▸ hd)
  rw [anchor?, hsign, hall]
  cases t <;> rfl

theorem anchor?_anchorText (hfile : ∀ name ∈ file, IsAnchor name) :
    anchor? (anchorText file) = some (named file) := by
  cases file with
  | none => rfl
  | some name => exact anchor?_cons (.inl rfl) ((hfile name rfl).not_mem (by decide))

theorem idAndAnchor?_eq_some_iff {t i : Text} {anchor : Option Text} :
    idAndAnchor? t = some (i, anchor)
      ↔ ∃ rest, t = i ++ rest ∧ IsId i ∧ anchor? rest = some anchor := by
  unfold idAndAnchor?
  rw [List.splitAt_eq]
  constructor
  · intro h
    simp only [Option.bind_eq_bind, Option.bind_eq_some_iff, Option.guard_eq_some', Option.pure_def,
      Bool.and_eq_true, beq_iff_eq, List.all_eq_true] at h
    obtain ⟨-, ⟨hlength, hchars⟩, a, hanchor, heq⟩ := h
    cases heq
    exact ⟨t.drop 32, (List.take_append_drop 32 t).symm, ⟨hlength, hchars⟩, hanchor⟩
  · rintro ⟨rest, rfl, hid, hanchor⟩
    have hall : i.all isIdChar = true := List.all_eq_true.2 hid.chars
    rw [List.take_left' hid.length, List.drop_left' hid.length]
    simp [hid.length, hall, hanchor]

theorem idAndAnchor?_id (hid : IsId id) (hfile : ∀ name ∈ file, IsAnchor name) :
    idAndAnchor? (id ++ anchorText file) = some (id, named file) :=
  idAndAnchor?_eq_some_iff.2 ⟨anchorText file, rfl, hid, anchor?_anchorText hfile⟩

/-- No id begins a text with another character near its start. -/
theorem idAndAnchor?_eq_none {t : Text} {c : Char} (hc : c ∈ t.take 32)
    (hother : isIdChar c = false) : idAndAnchor? t = none := by
  rw [Option.eq_none_iff_forall_ne_some]
  rintro ⟨i, anchor⟩ h
  obtain ⟨rest, rfl, hid, -⟩ := idAndAnchor?_eq_some_iff.1 h
  rw [List.take_left' hid.length] at hc
  rw [hid.chars c hc] at hother
  cases hother

/-- A name that is an id has the text behind its slash for an anchor. -/
theorem idAndAnchor?_of_id (howner : IsId owner) (hid : IsId id)
    (hfile : ∀ name ∈ file, IsAnchor name) :
    idAndAnchor? (owner ++ '/' :: (id ++ anchorText file))
      = some (owner, some (id ++ anchorText file)) := by
  have hline : '\n' ∉ id ++ anchorText file :=
    not_mem_id_anchorText hid hfile (by decide) (by decide)
  have hsome : named (some (id ++ anchorText file)) = some (id ++ anchorText file) := by
    rw [named, Option.filter_some, List.isEmpty_eq_false_iff.2 (id_anchorText_ne_nil hid)]
    rfl
  refine idAndAnchor?_eq_some_iff.2 ⟨'/' :: (id ++ anchorText file), rfl, howner, ?_⟩
  rw [anchor?_cons (.inr rfl) hline, hsome]

/-- The name of an owner is the only id that there can be in front of a slash. -/
theorem idAndAnchor?_owner (howner : IsOwner owner) (hno : ¬ IsId owner) (t : Text) :
    idAndAnchor? (owner ++ '/' :: t) = none := by
  rw [Option.eq_none_iff_forall_ne_some]
  rintro ⟨i, anchor⟩ h
  obtain ⟨rest, hsplit, hid, hanchor⟩ := idAndAnchor?_eq_some_iff.1 h
  rcases List.append_eq_append_iff.1 hsplit with ⟨more, rfl, hmore⟩ | ⟨more, rfl, hmore⟩
  · -- The id reaches to the slash, or over it.
    cases more with
    | nil => exact hno (by rwa [List.append_nil] at hid)
    | cons c more =>
      obtain ⟨rfl, -⟩ := List.cons_eq_cons.1 hmore
      exact absurd (hid.chars '/' (by simp)) (by decide)
  · -- The owner goes on behind the id, with a character that no anchor starts with.
    cases more with
    | nil => exact hno (by rwa [List.append_nil])
    | cons c more =>
      have hname := howner.isAnchor c (by simp)
      have hsign : (c == '#' || c == '/') = false := by
        rw [Bool.or_eq_false_iff, beq_eq_false_iff_ne, beq_eq_false_iff_ne]
        constructor <;> rintro rfl <;> cases hname
      rw [hmore, List.cons_append, anchor?, hsign] at hanchor
      cases hanchor

/-! ## Reading addresses -/

/-- The owner in an address, and what follows the slash behind it. -/
def ownerAt? (t : Text) : Option (Text × Text) := do
  let rest ← Text.dropPrefix? site t
  let owner := rest.takeWhile isWord
  guard (!owner.isEmpty)
  return (owner, ← Text.dropPrefix? "/" (rest.drop owner.length))

/-- The id of any length in an address, and the anchor behind it. -/
def shownId? (t : Text) : Option (Text × Option Text) := do
  let id := t.takeWhile isIdChar
  guard (!id.isEmpty)
  return (id, ← anchor? (t.drop id.length))

theorem urlAt?_eq (t : Text) : urlAt? t = (ownerAt? t).bind fun (owner, rest) =>
    (idAndAnchor? rest).map fun (id, file) => (site ++ owner ++ "/" ++ id, file) := by
  unfold urlAt? ownerAt?
  simp only [Option.bind_eq_bind, Option.pure_def, Option.bind_assoc, Option.bind_some,
    Option.map_eq_bind, Function.comp_def]

theorem Address.ofUrl?_eq (t : Text) : Address.ofUrl? t = (ownerAt? t).bind fun (owner, rest) =>
    (shownId? rest).map fun (id, file) => ⟨owner, id, file⟩ := by
  unfold Address.ofUrl? ownerAt? shownId?
  simp only [Option.bind_eq_bind, Option.pure_def, Option.bind_assoc, Option.bind_some,
    Option.map_eq_bind, Function.comp_def]

theorem ownerAt?_eq_none {t : Text} (h : ¬ site <+: t) : ownerAt? t = none := by
  unfold ownerAt?
  rw [Text.dropPrefix?_eq_none_iff.2 h]
  rfl

/-- The owner ends at the first character that is no word character, and a slash
has to stand there. -/
theorem ownerAt?_site {a t : Text} {c : Char} (ha : a.all isWord = true) (hc : isWord c = false) :
    ownerAt? (site ++ (a ++ c :: t)) = if c = '/' ∧ a ≠ [] then some (a, t) else none := by
  have hsite : Text.dropPrefix? site (site ++ (a ++ c :: t)) = some (a ++ c :: t) :=
    Text.dropPrefix?_eq_some_iff.2 rfl
  have howner : (a ++ c :: t).takeWhile isWord = a :=
    Text.takeWhile_append_stop ha (by simpa using hc)
  unfold ownerAt?
  rw [hsite]
  dsimp only [Option.bind_eq_bind, Option.bind_some]
  rw [howner, List.drop_left]
  by_cases hslash : c = '/'
  · cases a <;> simp [Text.dropPrefix?, hslash]
  · cases a <;> simp [Text.dropPrefix?, hslash, Ne.symm hslash]

/-! ## The owners of addresses -/

/-- An owner without a hyphen is read in front of the slash, and one with a
hyphen is not read at all. -/
theorem ownerAt?_owner (howner : IsOwner owner) (t : Text) :
    ownerAt? (site ++ (owner ++ '/' :: t)) = if '-' ∈ owner then none else some (owner, t) := by
  have hword : ∀ c ∈ owner, c ≠ '-' → isWord c = true := fun c hc hne =>
    Match.isWord_of_isAlphanum ((howner.chars c hc).resolve_right hne)
  by_cases hyphen : '-' ∈ owner
  · rw [if_pos hyphen]
    obtain ⟨a, b, rfl, ha⟩ := List.eq_append_cons_of_mem hyphen
    have hall : a.all isWord = true := by
      rw [List.all_eq_true]
      exact fun c hc => hword c (List.mem_append_left _ hc) fun heq => ha (heq ▸ hc)
    rw [List.append_assoc, List.cons_append, ownerAt?_site hall (by decide), if_neg]
    exact fun h => absurd h.1 (by decide)
  · have hall : owner.all isWord = true := by
      rw [List.all_eq_true]
      exact fun c hc => hword c hc fun heq => hyphen (heq ▸ hc)
    rw [ownerAt?_site hall (by decide), if_pos ⟨rfl, howner.ne_nil⟩, if_neg hyphen]

/-- The id in the address of a gist is read to its end. -/
theorem shownId?_id (hid : IsId id) (hfile : ∀ name ∈ file, IsAnchor name) :
    shownId? (id ++ anchorText file) = some (id, named file) := by
  have hhead : (anchorText file).head?.any isIdChar = false := by cases file <;> rfl
  have hne : id.isEmpty = false := by
    rw [List.isEmpty_eq_false_iff]
    rintro rfl
    cases hid.length
  have htake : (id ++ anchorText file).takeWhile isIdChar = id :=
    Text.takeWhile_append_stop (List.all_eq_true.2 hid.chars) hhead
  unfold shownId?
  dsimp only
  rw [htake, List.drop_left, anchor?_anchorText hfile, hne]
  rfl

/-! ## The last slash -/

section

variable {α : Type} {p : Char → Bool} {f : Text → Option α}

theorem splitLastWithin?_eq_none {t : Text} (hmiss : ∀ suf, suf <:+ t → f suf = none) :
    splitLastWithin? p f t = none := by
  induction t with
  | nil => rw [splitLastWithin?, hmiss [] (List.suffix_refl _)]; rfl
  | cons c t ih =>
    have hlater := ih fun suf hsuf => hmiss suf (hsuf.trans (List.suffix_cons c t))
    rw [splitLastWithin?, hlater, ite_self, hmiss (c :: t) (List.suffix_refl _)]
    rfl

/-- The last success counts, whatever begins in front of it. -/
theorem splitLastWithin?_append {a b : Text} {c : Char} {x : α} (ha : a.all p = true)
    (h : f (c :: b) = some x) (hmiss : ∀ suf, suf <:+ b → f suf = none) :
    splitLastWithin? p f (a ++ c :: b) = some (a, x) := by
  induction a with
  | nil => rw [List.nil_append, splitLastWithin?, splitLastWithin?_eq_none hmiss, ite_self, h]; rfl
  | cons d a ih =>
    rw [List.all_cons, Bool.and_eq_true] at ha
    rw [List.cons_append, splitLastWithin?, if_pos ha.1, ih ha.2]

end

/-- What stands in front of the last slash is the owner, whatever it is made of. -/
theorem ownerAndId?_append (hid : IsId id) (hfile : ∀ name ∈ file, IsAnchor name) {front : Text}
    (hne : front ≠ []) (hfront : front.all (!isBlank ·) = true) :
    ownerAndId? (front ++ '/' :: (id ++ anchorText file))
      = some (site ++ front ++ "/" ++ id, named file) := by
  have hslash : '/' ∉ id ++ anchorText file :=
    not_mem_id_anchorText hid hfile (by decide) (by decide)
  have hsplit : splitLastWithin? (!isBlank ·) (fun t => (Text.dropPrefix? "/" t).bind idAndAnchor?)
      (front ++ '/' :: (id ++ anchorText file)) = some (front, id, named file) := by
    refine splitLastWithin?_append hfront (idAndAnchor?_id hid hfile) fun suf hsuf => ?_
    have hno : ¬ "/" <+: suf := fun h =>
      hslash (hsuf.subset (h.subset (List.mem_singleton_self '/')))
    rw [Text.dropPrefix?_eq_none_iff.2 hno]
    rfl
  unfold ownerAndId?
  dsimp only
  rw [hsplit]
  cases front with
  | nil => exact absurd rfl hne
  | cons c front => rfl

/-! ## Addresses in terms -/

/-- A text without a colon holds no address. -/
theorem urlAt?_eq_none_of_colon {t : Text} (h : ':' ∉ t) : urlAt? t = none := by
  have hsite : ¬ site <+: t := fun hpre => h (hpre.subset (by decide))
  rw [urlAt?_eq, ownerAt?_eq_none hsite]
  rfl

section

variable (howner : IsOwner owner) (hid : IsId id) (hfile : ∀ name ∈ file, IsAnchor name)
include howner hid hfile

theorem colon_not_mem : ':' ∉ owner ++ '/' :: (id ++ anchorText file) := by
  rw [List.mem_append, List.mem_cons]
  rintro (h | h | h)
  · exact howner.isAnchor.not_mem (by decide) h
  · cases h
  · exact not_mem_id_anchorText hid hfile (by decide) (by decide) h

theorem findSuffix?_urlAt?_names :
    Text.findSuffix? urlAt? (owner ++ '/' :: (id ++ anchorText file)) = none :=
  Text.findSuffix?_eq_none fun _ hsuf =>
    urlAt?_eq_none_of_colon fun h => colon_not_mem howner hid hfile (hsuf.subset h)

/-- The address of a gist is found where its owner is read, and nowhere else. -/
theorem findSuffix?_urlAt?_address :
    Text.findSuffix? urlAt? (site ++ (owner ++ '/' :: (id ++ anchorText file)))
      = if '-' ∈ owner then none else some (site ++ owner ++ "/" ++ id, named file) := by
  have hwhole : urlAt? (site ++ (owner ++ '/' :: (id ++ anchorText file)))
      = if '-' ∈ owner then none else some (site ++ owner ++ "/" ++ id, named file) := by
    rw [urlAt?_eq, ownerAt?_owner howner]
    split
    · rfl
    · rw [Option.bind_some]
      dsimp only
      rw [idAndAnchor?_id hid hfile]
      rfl
  by_cases hyphen : '-' ∈ owner
  · rw [if_pos hyphen] at hwhole ⊢
    refine Text.findSuffix?_eq_none fun suf hsuf => ?_
    rcases Match.suffix_append_cases hsuf with hsuf | ⟨front, hsome, hfront, rfl⟩
    · exact urlAt?_eq_none_of_colon fun h => colon_not_mem howner hid hfile (hsuf.subset h)
    · -- Behind its first character no other site begins in a site.
      have hpasses : Text.Passes site site.tail := by decide
      rcases List.suffix_cons_iff.1 hfront with rfl | hfront
      · exact hwhole
      · rw [urlAt?_eq, ownerAt?_eq_none (hpasses.not_prefix hfront hsome _)]
        rfl
  · rw [if_neg hyphen] at hwhole ⊢
    exact Text.findSuffix?_append (a := []) (fun suf hsuf hsome =>
      absurd (List.suffix_nil.1 hsuf) hsome) hwhole

/-! ## Reading terms -/

theorem written_all_not_blank (writing : Writing) :
    (writing.written owner id file).all (!isBlank ·) = true := by
  have hstart : writing.start.all (!isBlank ·) = true := by cases writing <;> decide
  have hslash : (!isBlank '/') = true := by decide
  unfold Writing.written
  rw [List.all_append, List.all_append, List.all_cons, List.all_append, hstart, hslash,
    howner.isAnchor.all_not_blank, hid.isAnchor.all_not_blank, anchorText_all_not_blank hfile]
  rfl

theorem trim_written (writing : Writing) :
    Text.trim (writing.written owner id file) = writing.written owner id file := by
  have hblank : ∀ c ∈ writing.written owner id file, isBlank c = false := fun c hc =>
    Bool.not_eq_true' _ ▸ List.all_eq_true.1 (written_all_not_blank howner hid hfile writing) c hc
  refine Text.trim_eq_self ?_ ?_
  · rw [Option.any_eq_false]
    exact fun c hc => hblank c (List.mem_of_mem_head? hc)
  · rw [Option.any_eq_false]
    exact fun c hc => hblank c (List.mem_of_mem_getLast? hc)

/-- The name of an owner that is an id itself is taken for one. -/
theorem ofTerms_of_id (h : IsId owner) :
    ofTerms (Writing.names.written owner id file) = ofId owner (some (id ++ anchorText file)) := by
  unfold ofTerms
  rw [trim_written howner hid hfile]
  dsimp only [Writing.written, Writing.start, List.nil_append]
  rw [idAndAnchor?_of_id h hid hfile]

theorem ofTerms_names (h : ¬ IsId owner) :
    ofTerms (Writing.names.written owner id file)
      = ofUrl (site ++ owner ++ "/" ++ id) (named file) := by
  unfold ofTerms
  rw [trim_written howner hid hfile]
  dsimp only [Writing.written, Writing.start, List.nil_append]
  rw [idAndAnchor?_owner howner h]
  dsimp only
  rw [findSuffix?_urlAt?_names howner hid hfile,
    ownerAndId?_append hid hfile howner.ne_nil howner.isAnchor.all_not_blank]
  rfl

/-- The owner of an address that is not found becomes an address itself. -/
theorem ofTerms_address :
    ofTerms (Writing.address.written owner id file)
      = ofUrl (site ++ (if '-' ∈ owner then site ++ owner else owner) ++ "/" ++ id)
        (named file) := by
  have hid? : idAndAnchor? (site ++ (owner ++ '/' :: (id ++ anchorText file))) = none := by
    refine idAndAnchor?_eq_none (c := ':') ?_ (by decide)
    rw [List.take_append]
    exact List.mem_append_left _ (by decide)
  have hurl? := findSuffix?_urlAt?_address howner hid hfile
  unfold ofTerms
  rw [trim_written howner hid hfile]
  dsimp only [Writing.written]
  rw [show Writing.address.start = site from rfl, hid?, hurl?]
  by_cases hyphen : '-' ∈ owner
  · have hsite : site.all (!isBlank ·) = true := by decide
    have hblank : (site ++ owner).all (!isBlank ·) = true := by
      rw [List.all_append, hsite, howner.isAnchor.all_not_blank]
      rfl
    rw [if_pos hyphen, if_pos hyphen, Option.none_or, ← List.append_assoc,
      ownerAndId?_append hid hfile (List.append_ne_nil_of_right_ne_nil _ howner.ne_nil) hblank]
  · rw [if_neg hyphen, if_neg hyphen]
    rfl

end

/-! ## Reading what was found -/

theorem withAnchor_append (file : Option Text) (url : Text) :
    withAnchor file url = url ++ anchorText file := by
  cases file with
  | none => exact (List.append_nil url).symm
  | some name => exact List.append_assoc url "#" name

theorem withAnchor_eq (front : Text) : withAnchor file (site ++ front ++ "/" ++ id)
    = site ++ (front ++ '/' :: (id ++ anchorText file)) := by
  rw [withAnchor_append, List.append_assoc, List.append_assoc, List.append_assoc]
  rfl

theorem Address.ofUrl?_owner (howner : IsOwner owner) (hid : IsId id)
    (hfile : ∀ name ∈ file, IsAnchor name) :
    Address.ofUrl? (site ++ (owner ++ '/' :: (id ++ anchorText (named file))))
      = if '-' ∈ owner then none else some ⟨owner, id, named file⟩ := by
  have hnamed : ∀ name ∈ named file, IsAnchor name := fun name h =>
    hfile name (Option.mem_filter_iff.1 h).1
  have htwice : named (named file) = named file := by
    unfold named
    rw [Option.filter_filter]
    simp only [Bool.and_self]
  rw [Address.ofUrl?_eq, ownerAt?_owner howner]
  split
  · rfl
  · rw [Option.bind_some]
    dsimp only
    rw [shownId?_id hid hnamed, htwice]
    rfl

/-- An address in place of an owner is no owner. -/
theorem Address.ofUrl?_site (t : Text) : Address.ofUrl? (site ++ (site ++ t)) = none := by
  have hsite : site ++ t = "https" ++ ':' :: ("//gist.github.com/" ++ t) := rfl
  rw [Address.ofUrl?_eq, hsite, ownerAt?_site (by decide) (by decide)]
  rfl

/-! ## Searches -/

/-- The script that shows a gist, or a file of it. -/
def scriptText (owner id : Text) (file : Option Text) : Text :=
  "<script src=\x22https://gist.github.com/" ++ owner ++ "/" ++ id ++ ".js"
    ++ (match file with
      | some anchor => "?file=" ++ fileName anchor
      | none => [])
    ++ "\x22></script>"

/-- The hit for a gist, as a script or as a link. -/
def answer (embed : Bool) (owner id : Text) (file : Option Text) : Hit :=
  if embed then .markup "embed" (scriptText owner id (named file))
  else .untitled
    ("https://gist.github.com/" ++ owner ++ "/" ++ id ++ anchorText (named file))

theorem script_eq (owner id : Text) (file : Option Text) :
    Address.script ⟨owner, id, file⟩ = scriptText owner id file := by
  have hstart : ("<script src=\x22" : Text) ++ site
      = "<script src=\x22https://gist.github.com/" := by decide
  unfold Address.script scriptText
  cases file <;> rw [hstart]

/-- The address of a gist leads to it, unless its owner has a hyphen. -/
theorem hit?_owner (howner : IsOwner owner) (hid : IsId id) (hfile : ∀ name ∈ file, IsAnchor name)
    (embed : Bool) : hit? embed (withAnchor (named file) (site ++ owner ++ "/" ++ id))
      = if '-' ∈ owner then none else some (answer embed owner id file) := by
  have hlink : withAnchor (named file) (site ++ owner ++ "/" ++ id)
      = site ++ owner ++ "/" ++ id ++ anchorText (named file) := withAnchor_append _ _
  unfold hit?
  rw [withAnchor_eq, Address.ofUrl?_owner howner hid hfile, ← withAnchor_eq, hlink]
  by_cases hyphen : '-' ∈ owner
  · rw [if_pos hyphen, if_pos hyphen]
    rfl
  · rw [if_neg hyphen, if_neg hyphen, Option.map_some, script_eq]
    rfl

theorem hit?_site (embed : Bool) (front : Text) :
    hit? embed (withAnchor file (site ++ (site ++ front) ++ "/" ++ id)) = none := by
  unfold hit?
  rw [withAnchor_eq, List.append_assoc, Address.ofUrl?_site]
  rfl

section

variable {request : Request} {embed : Bool}

/-- A known address is answered without a request. -/
theorem provider_of_url (hkind : request.kind = .gist embed) {url : Text} {file : Option Text}
    (hterms : ofTerms request.terms = ofUrl url file) (w : World) :
    (provider request).run w = (.ok (hit? embed (withAnchor file url)), w) := by
  unfold provider
  rw [hkind]
  dsimp only
  rw [hterms]
  rfl

/-- The owner of an id is asked for. -/
theorem provider_of_id (hkind : request.kind = .gist embed) {id : Text} {file : Option Text}
    (hterms : ofTerms request.terms = ofId id file) (w : World) :
    ((provider request).run w).2.requests = ⟨.get, site ++ id, false⟩ :: w.requests := by
  have hrun : (provider request).run w
      = ((liftM (do return (← World.redirect (site ++ id)).map (withAnchor file) : Lookup _)
          : SearchStep _) >>= fun found => pure (found.bind (hit? embed))).run.run w := by
    unfold provider
    rw [hkind]
    dsimp only
    rw [hterms]
    rfl
  rw [hrun, World.bind_pure_snd, World.liftM_eq, World.bind_pure_snd, World.requests_redirect]

/-- Where the name of an owner is no id, a search makes no request, and finds the
gist unless the name has a hyphen. -/
theorem run_provider_written (howner : IsOwner owner) (hid : IsId id)
    (hfile : ∀ name ∈ file, IsAnchor name) {writing : Writing} (h : writing = .names → ¬ IsId owner)
    (hkind : request.kind = .gist embed) (hterms : request.terms = writing.written owner id file)
    (w : World) : (provider request).run w
      = (.ok (if '-' ∈ owner then none else some (answer embed owner id file)), w) := by
  have hfound := hit?_owner howner hid hfile embed
  cases writing with
  | names =>
    have hurl := ofTerms_names howner hid hfile (h rfl)
    rw [← hterms] at hurl
    rw [provider_of_url hkind hurl, hfound]
  | address =>
    have hurl := ofTerms_address howner hid hfile
    rw [← hterms] at hurl
    rw [provider_of_url hkind hurl]
    by_cases hyphen : '-' ∈ owner
    · rw [if_pos hyphen, if_pos hyphen, hit?_site]
    · rw [if_neg hyphen, hfound]

/-- **The known gists that are found.** A search for a gist by its owner and its id
finds it without a request exactly when the name of the owner has no hyphen and,
in terms that are not an address, is not an id itself. With a hyphen, the search
finds nothing; with an id for a name, it asks for the gist that has the name for
an id. -/
theorem known_gist_found_iff (howner : IsOwner owner) (hid : IsId id)
    (hfile : ∀ name ∈ file, IsAnchor name) {writing : Writing} (hkind : request.kind = .gist embed)
    (hterms : request.terms = writing.written owner id file) (w : World) :
    ((provider request).run w = (.ok (some (answer embed owner id file)), w)
        ↔ '-' ∉ owner ∧ (writing = .names → ¬ IsId owner))
      ∧ ('-' ∈ owner → (provider request).run w = (.ok none, w))
      ∧ (writing = .names → IsId owner →
        ((provider request).run w).2.requests = ⟨.get, site ++ owner, false⟩ :: w.requests) := by
  have hyphenated : '-' ∈ owner → ¬ IsId owner := fun hyphen h =>
    absurd (h.chars '-' hyphen) (by decide)
  have hnone : '-' ∈ owner → (provider request).run w = (.ok none, w) := by
    intro hyphen
    rw [run_provider_written howner hid hfile (fun _ => hyphenated hyphen) hkind hterms,
      if_pos hyphen]
  have hasked : writing = .names → IsId owner →
      ((provider request).run w).2.requests = ⟨.get, site ++ owner, false⟩ :: w.requests := by
    rintro rfl h
    have htaken := ofTerms_of_id howner hid hfile h
    rw [← hterms] at htaken
    exact provider_of_id hkind htaken w
  refine ⟨⟨fun hfound => ⟨fun hyphen => ?_, fun hnames h => ?_⟩, fun ⟨hyphen, h⟩ => ?_⟩,
    hnone, hasked⟩
  · rw [hnone hyphen] at hfound
    cases hfound
  · -- A request is made, so the world does not stay as it is.
    have hrequests := hasked hnames h
    rw [hfound] at hrequests
    exact List.ne_cons_self hrequests
  · rw [run_provider_written howner hid hfile h hkind hterms, if_neg hyphen]

end

/-- A search for a gist. -/
def gistSearch (embed : Bool) (terms : Text) : Request where
  trigger := "gist"
  kind := .gist embed
  terms := terms
  linkText := []
  config := {}

/-- The script for a file of a gist, from its address. -/
theorem known_gist_found_at_file :
    IsOwner "octocat" ∧ IsId "0123456789abcdef0123456789abcdef" ∧ IsAnchor "file-hello-rs"
    ∧ ¬ IsId "octocat"
    ∧ (provider (gistSearch true ("https://gist.github.com/octocat/0123456789abcdef0123456789abcdef"
          ++ "#file-hello-rs"))).run {}
      = (.ok (some (.markup "embed"
          ("<script src=\x22https://gist.github.com/octocat/0123456789abcdef0123456789abcdef.js"
            ++ "?file=hello.rs\x22></script>"))), {}) := by
  have howner : IsOwner "octocat" := by decide
  have hid : IsId "0123456789abcdef0123456789abcdef" := by decide
  have hanchor : IsAnchor "file-hello-rs" := by decide
  have hno : ¬ IsId "octocat" := by decide
  have hfile : ∀ name ∈ some ("file-hello-rs" : Text), IsAnchor name := by
    rintro name ⟨⟩
    exact hanchor
  have hterms : ("https://gist.github.com/octocat/0123456789abcdef0123456789abcdef"
      ++ "#file-hello-rs" : Text) = Writing.address.written "octocat"
        "0123456789abcdef0123456789abcdef" (some "file-hello-rs") := by
    decide +kernel
  have hanswer : answer true "octocat" "0123456789abcdef0123456789abcdef" (some "file-hello-rs")
      = .markup "embed"
        ("<script src=\x22https://gist.github.com/octocat/0123456789abcdef0123456789abcdef.js"
          ++ "?file=hello.rs\x22></script>") := by
    decide +kernel
  rw [← hanswer]
  exact ⟨howner, hid, hanchor, hno,
    (known_gist_found_iff howner hid hfile rfl hterms {}).1.2 ⟨by decide, fun _ => hno⟩⟩

/-- A user with a hyphen in the name has gists, and none is found. -/
theorem gist_lost_at_hyphen :
    IsOwner "rust-lang" ∧ IsId "0123456789abcdef0123456789abcdef"
    ∧ (provider (gistSearch false "rust-lang/0123456789abcdef0123456789abcdef")).run {}
      = (.ok none, {}) := by
  refine ⟨by decide, by decide, ?_⟩
  have hurl : ofTerms "rust-lang/0123456789abcdef0123456789abcdef"
      = ofUrl "https://gist.github.com/rust-lang/0123456789abcdef0123456789abcdef" none := by
    decide +kernel
  rw [provider_of_url rfl hurl]
  have hno : hit? false (withAnchor none
      "https://gist.github.com/rust-lang/0123456789abcdef0123456789abcdef") = none := by
    decide +kernel
  rw [hno]

end InlineSearch.Provider.Gist
