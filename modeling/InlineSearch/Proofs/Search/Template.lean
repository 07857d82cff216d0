/-
InlineSearch.Proofs.Search.Template — how a template with numbered places is
filled.

A place is `$term`, a number, and at most a letter that asks for a transform.
The places of a template are found by walking over it; `Filled` says without a
walk what they are filled with. The word for a number is given by `slot`: the
places before the last one have a word each, and the last one has the rest.

* `template_filled` — what is put into a template, and that nothing is lost:
  an inserted piece is safe in a URL, it is decoded to the words it was made
  of, and the pieces together have all words of the terms in their order.
-/
import InlineSearch.Proofs.Search.Expansion
import InlineSearch.Proofs.Text.Percent
import InlineSearch.Proofs.Text.Words

namespace InlineSearch.Search

/-! ## Numbered places -/

/-- The letter that asks for a transform. -/
def Transform.letter : Transform → Text
  | keep => []
  | lowercase => ['d']
  | slug => ['s']

/-- A numbered place as it is written. -/
def Place.written (p : Place) : Text := "$term" ++ (p.digits ++ p.transform.letter)

/-- A numbered place begins at the start of a text. -/
def PlaceAt (t : Text) : Prop := ∃ d rest, Text.isDecimal d = true ∧ t = "$term" ++ d :: rest

/-- What follows a place does not go on with it. -/
def Place.EndsBefore (p : Place) (rest : Text) : Prop :=
  p.transform = .keep → rest.head?.any (fun c => Text.isDecimal c || c == 'd' || c == 's') = false

theorem numberedTransform_eq (t : Text) : ∃ rest, t = (numberedTransform t).2.letter ++ rest
    ∧ (numberedTransform t).1 = (numberedTransform t).2.letter.length
    ∧ ((numberedTransform t).2 = .keep → t.head?.any (fun c => c == 'd' || c == 's') = false) := by
  cases t with
  | nil => exact ⟨[], rfl, rfl, fun _ => rfl⟩
  | cons c t =>
    unfold numberedTransform
    rw [List.head?_cons]
    split
    · next heq =>
      obtain rfl := Option.some.inj heq
      exact ⟨t, rfl, rfl, fun hkeep => nomatch hkeep⟩
    · next heq =>
      obtain rfl := Option.some.inj heq
      exact ⟨t, rfl, rfl, fun hkeep => nomatch hkeep⟩
    · next hd hs =>
      refine ⟨c :: t, rfl, rfl, fun _ => ?_⟩
      have hcd : c ≠ 'd' := fun heq => hd (congrArg some heq)
      have hcs : c ≠ 's' := fun heq => hs (congrArg some heq)
      simp [hcd, hcs]

theorem numberedPlace_behind (before : Option Char) (t : Text) :
    numberedPlace before ("$term" ++ t) =
      if (t.takeWhile Text.isDecimal).isEmpty then none
      else
        let letters := numberedTransform (t.dropWhile Text.isDecimal)
        some (5 + (t.takeWhile Text.isDecimal).length + letters.1,
          ⟨t.takeWhile Text.isDecimal, letters.2⟩) := by
  have hdrop : Text.dropPrefix? "$term" ("$term" ++ t) = some t :=
    Text.dropPrefix?_eq_some_iff.2 rfl
  have hsplit : t.takeWhile Text.isDecimal ++ t.dropWhile Text.isDecimal = t :=
    List.takeWhile_append_dropWhile
  have hrest : t.drop (t.takeWhile Text.isDecimal).length = t.dropWhile Text.isDecimal :=
    (congrArg _ hsplit.symm).trans List.drop_left
  unfold numberedPlace
  rw [hdrop, Option.bind_eq_bind, Option.bind_some]
  dsimp only
  rw [hrest]
  cases (t.takeWhile Text.isDecimal).isEmpty <;> rfl

/-- A place is found where one is written, with all digits and the letter. -/
theorem exists_of_numberedPlace {before : Option Char} {t : Text} {n : Nat} {p : Place}
    (h : numberedPlace before t = some (n, p)) :
    ∃ rest, t = p.written ++ rest ∧ n = p.written.length ∧ p.EndsBefore rest := by
  obtain ⟨later, hdrop, -⟩ := Option.bind_eq_some_iff.1 h
  obtain rfl := Text.dropPrefix?_eq_some_iff.1 hdrop
  rw [numberedPlace_behind] at h
  split at h
  · cases h
  · obtain ⟨rfl, rfl⟩ := Prod.mk.inj (Option.some.inj h)
    obtain ⟨rest, hrest, hcount, hkeep⟩ := numberedTransform_eq (later.dropWhile Text.isDecimal)
    refine ⟨rest, ?_, ?_, fun hletter => ?_⟩
    · unfold Place.written
      rw [List.append_assoc, List.append_assoc, ← hrest, List.takeWhile_append_dropWhile]
    · unfold Place.written
      rw [List.length_append, List.length_append, ← hcount, Nat.add_assoc]
      rfl
    · dsimp only at hletter
      rw [hletter] at hrest
      have hdecimal := Text.head?_dropWhile_any Text.isDecimal later
      have hletters := hkeep hletter
      rw [hrest] at hdecimal hletters
      cases rest with
      | nil => rfl
      | cons c rest =>
        have hc : Text.isDecimal c = false := hdecimal
        have hds : (c == 'd' || c == 's') = false := hletters
        simp only [List.head?_cons, Option.any_some, hc, Bool.false_or, hds]

theorem isSome_numberedPlace_iff {before : Option Char} {t : Text} :
    (∃ n p, numberedPlace before t = some (n + 1, p)) ↔ PlaceAt t := by
  constructor
  · rintro ⟨n, p, h⟩
    obtain ⟨later, hdrop, -⟩ := Option.bind_eq_some_iff.1 h
    obtain rfl := Text.dropPrefix?_eq_some_iff.1 hdrop
    rw [numberedPlace_behind] at h
    split at h
    · cases h
    · next hne =>
      obtain ⟨d, digits, hdigits⟩ := List.exists_cons_of_ne_nil (mt List.isEmpty_iff.2 hne)
      cases later with
      | nil => cases hdigits
      | cons c later =>
        rw [List.takeWhile_cons] at hdigits
        split at hdigits
        · next hc => exact ⟨c, later, hc, rfl⟩
        · cases hdigits
  · rintro ⟨d, rest, hd, rfl⟩
    rw [numberedPlace_behind, List.takeWhile_cons_of_pos hd]
    exact ⟨_, _, congrArg some (Prod.ext (Nat.add_right_comm ..) rfl)⟩

/-! ## Words for the places -/

/-- The numbers of the places of a template that can be read. -/
def placeNumbers (template : Text) : List Nat :=
  (Text.hits numberedPlace template).filterMap fun p => Text.toWord? p.digits

/-- The largest number of a place of a template. -/
def highestNumber (template : Text) : Nat := (placeNumbers template).foldl max 0

/-- What is put into a template for a number: the places before the highest one
have a word of the terms each, and the highest one has all words that remain. -/
def slot (terms : Text) (highest k : Nat) : Text :=
  if k = 0 ∨ highest < k then []
  else if k < highest then ((Text.words terms)[k - 1]?).getD []
  else Text.unwords ((Text.words terms).drop (k - 1))

theorem getElem?_fillPlaces_of_lt (terms : Text) {highest i : Nat} (h : i + 1 < highest) :
    (fillPlaces terms highest)[i]? = (Text.words terms)[i]? := by
  obtain ⟨count, rfl⟩ : ∃ count, highest = count + 1 := ⟨highest - 1, by omega⟩
  unfold fillPlaces
  dsimp only
  split
  · rfl
  · next hmore =>
    have hlength : ((Text.words terms).take count).length = count :=
      List.length_take_of_le (by omega)
    rw [List.getElem?_append_left (by omega), List.getElem?_take_of_lt (by omega)]

theorem getElem?_fillPlaces_last (terms : Text) (count : Nat) :
    ((fillPlaces terms (count + 1))[count]?).getD []
      = Text.unwords ((Text.words terms).drop count) := by
  unfold fillPlaces
  dsimp only
  split
  · next hfew =>
    -- At most one word remains, which is joined with nothing.
    cases hdrop : (Text.words terms).drop count with
    | nil => rw [List.getElem?_eq_none (List.drop_eq_nil_iff.1 hdrop)]; rfl
    | cons word later =>
      have hlength := congrArg List.length hdrop
      rw [List.length_drop, List.length_cons] at hlength
      obtain rfl : later = [] := List.eq_nil_of_length_eq_zero (by omega)
      have hword : (Text.words terms)[count]? = some word := by
        rw [← List.head?_drop, hdrop, List.head?_cons]
      rw [hword, Option.getD_some, Text.unwords, Text.join_singleton]
  · next hmore =>
    have hlength : ((Text.words terms).take count).length = count :=
      List.length_take_of_le (by omega)
    rw [List.getElem?_append_right (by omega), hlength, Nat.sub_self, List.getElem?_cons_zero,
      Option.getD_some]

theorem length_fillPlaces_le (terms : Text) (highest : Nat) :
    (fillPlaces terms highest).length ≤ highest := by
  cases highest with
  | zero => exact Nat.le_refl 0
  | succ count =>
    unfold fillPlaces
    dsimp only
    split
    · assumption
    · rw [List.length_append, List.length_singleton]
      have := List.length_take_le count (Text.words terms)
      omega

/-- The word for a place depends on its number alone; a number that cannot be
read counts as one. -/
theorem wordFor_fillPlaces (terms : Text) (highest : Nat) (p : Place) :
    wordFor (fillPlaces terms highest) p
      = slot terms highest ((Text.toWord? p.digits).getD 1) := by
  unfold wordFor slot
  generalize (Text.toWord? p.digits).getD 1 = k
  cases k with
  | zero => rfl
  | succ i =>
    simp only [Nat.add_one_ne_zero, false_or, Nat.add_sub_cancel]
    split
    · next hlarge =>
      have hlength := length_fillPlaces_le terms highest
      rw [List.getElem?_eq_none (by omega)]
      rfl
    · next hsmall =>
      split
      · next hlt => rw [getElem?_fillPlaces_of_lt terms hlt]
      · next hlast =>
        obtain rfl : highest = i + 1 := by omega
        exact getElem?_fillPlaces_last terms i

/-- The words for the numbers from one to the highest are the words of the
terms. -/
theorem words_slots (terms : Text) (count : Nat) :
    ((List.range' 1 (count + 1)).flatMap fun k => Text.words (slot terms (count + 1) k))
      = Text.words terms := by
  have hfirst : ∀ n ≤ count, ((List.range' 1 n).flatMap fun k =>
      Text.words (slot terms (count + 1) k)) = (Text.words terms).take n := by
    intro n hn
    induction n with
    | zero => rfl
    | succ n ih =>
      have hslot : slot terms (count + 1) (1 + n) = ((Text.words terms)[n]?).getD [] := by
        unfold slot
        rw [if_neg (by omega), if_pos (by omega), Nat.add_sub_cancel_left]
      have hwords : Text.words (((Text.words terms)[n]?).getD [])
          = ((Text.words terms)[n]?).toList := by
        cases hword : (Text.words terms)[n]? with
        | none => rfl
        | some word =>
          exact Text.words_of_unbroken (Text.unbroken_of_mem_words (List.mem_of_getElem? hword))
      rw [List.range'_1_concat, List.flatMap_append, ih (by omega), List.flatMap_singleton, hslot,
        hwords, List.take_add_one]
  have hlast : slot terms (count + 1) (1 + count)
      = Text.unwords ((Text.words terms).drop count) := by
    unfold slot
    rw [if_neg (by omega), if_neg (by omega), Nat.add_sub_cancel_left]
  rw [List.range'_1_concat, List.flatMap_append, hfirst count (Nat.le_refl _),
    List.flatMap_singleton, hlast, Text.words_unwords fun word hword =>
      Text.unbroken_of_mem_words (List.mem_of_mem_drop hword), List.take_append_drop]

/-! ## Filling -/

/-- A template with its numbered places filled: each place has become what
encodes the word for its number, and every other character is as it was. -/
inductive Filled (word : Nat → Text) : Text → Text → Prop
  | nil : Filled word [] []
  | place {p : Place} {k : Nat} {rest url : Text} (number : Text.toWord? p.digits = some k)
    (ends : p.EndsBefore rest) (later : Filled word rest url) :
    Filled word (p.written ++ rest) (p.transform.encode (word k) ++ url)
  | char {c : Char} {rest url : Text} (other : ¬ PlaceAt (c :: rest))
    (later : Filled word rest url) : Filled word (c :: rest) (c :: url)

theorem fillTemplate_numbered {template : Text} (h : placeNumbers template ≠ []) (terms : Text) :
    fillTemplate template terms = Text.substitute numberedPlace (fun p => p.transform.encode
      (slot terms (highestNumber template) ((Text.toWord? p.digits).getD 1))) template := by
  have hsome : (placeNumbers template).isEmpty = false := List.isEmpty_eq_false_iff.2 h
  simp only [← wordFor_fillPlaces]
  exact if_neg (by rw [← placeNumbers, hsome]; simp)

theorem fillTemplate_whole {template : Text} (h : placeNumbers template = []) (terms : Text) :
    fillTemplate template terms
      = Text.substitute wholePlace (fun p => p.transform.encode terms) template :=
  if_pos (List.isEmpty_iff.2 h)

/-- Substituting fills a template, if all numbers can be read. -/
theorem filled_substituteFrom (word : Nat → Text) :
    ∀ (t : Text) (before : Option Char),
      (∀ p ∈ Text.hitsFrom numberedPlace 0 before t, (Text.toWord? p.digits).isSome = true) →
      Filled word t (Text.substituteFrom numberedPlace
        (fun p => p.transform.encode (word ((Text.toWord? p.digits).getD 1))) 0 before t)
  | [], _, _ => .nil
  | c :: t, before, hread => by
    rcases Text.hit_or_miss numberedPlace before (c :: t) with ⟨taken, p, hp⟩ | hmiss
    · obtain ⟨rest, ht, hlength, hends⟩ := exists_of_numberedPlace hp
      -- The walk goes on behind the characters that the place takes.
      obtain ⟨later, hwritten⟩ : ∃ later, p.written = '$' :: later := ⟨_, rfl⟩
      have hcons := ht
      rw [hwritten, List.cons_append, List.cons.injEq] at hcons
      obtain ⟨rfl, hlater⟩ := hcons
      rw [hwritten, List.length_cons, Nat.add_right_cancel_iff] at hlength
      have hskip := Text.piecesFrom_append numberedPlace (some '$') later rest
      rw [Text.hitsFrom_hit hp, List.forall_mem_cons, hlater, hlength] at hread
      rw [Text.substituteFrom_hit hp, ht, hlater, hlength]
      unfold Text.hitsFrom at hread
      unfold Text.substituteFrom
      rw [hskip] at hread ⊢
      obtain ⟨k, hk⟩ := Option.isSome_iff_exists.1 hread.1
      rw [hk, Option.getD_some]
      exact .place hk hends (filled_substituteFrom word rest _ hread.2)
    · have hother : ¬ PlaceAt (c :: t) := fun hplace => by
        obtain ⟨n, p, hp⟩ := isSome_numberedPlace_iff.2 hplace
        exact hmiss n p hp
      rw [Text.hitsFrom_miss hmiss] at hread
      rw [Text.substituteFrom_miss hmiss]
      exact .char hother (filled_substituteFrom word t _ hread)
termination_by t => t.length
decreasing_by
  · have := congrArg List.length ht
    rw [List.length_append, List.length_cons, hwritten, List.length_cons] at this
    simp only [List.length_cons]
    omega
  · simp

/-! ## Expansion -/

/-- The pieces for the numbers from one to the highest where no letter asks for
a transform. -/
def plainPieces (terms : Text) (highest : Nat) : List Text :=
  (List.range' 1 highest).map fun k => Transform.keep.encode (slot terms highest k)

/-- A place for a number without a letter stands in a template. -/
def OccursPlain (template : Text) (k : Nat) : Prop :=
  ∃ p ∈ Text.hits numberedPlace template, Text.toWord? p.digits = some k ∧ p.transform = .keep

/-- **Filling a template loses nothing and lets nothing out.** A template whose
numbers can be read, one of them not zero, is filled with the terms, and
nothing else in it changes. What is put in is safe in a URL whatever the terms
are, and without a transform it is decoded to the words that belong to the
number. If every number up to the highest has a place without a transform, all
words of the terms can be read from the URL in their order. -/
theorem template_filled {value : Text} (hurl : isUrlTemplate (plainValue value) = true)
    (hread : ∀ p ∈ Text.hits numberedPlace (plainValue value),
      (Text.toWord? p.digits).isSome = true)
    (hhighest : 1 ≤ highestNumber (plainValue value)) (terms : Text) :
    let highest := highestNumber (plainValue value)
    ∃ url, expandShortcut value terms = (urlTrigger, url)
      ∧ Filled (slot terms highest) (plainValue value) url
      ∧ (∀ (transform : Transform) (k : Nat),
        Text.Escaped (transform.encode (slot terms highest k)))
      ∧ (∀ k, Text.percentDecode (Transform.keep.encode (slot terms highest k))
        = slot terms highest k)
      ∧ ((∀ k, 1 ≤ k → k ≤ highest → OccursPlain (plainValue value) k) →
        ∀ piece ∈ plainPieces terms highest, piece <:+: url)
      ∧ ((plainPieces terms highest).flatMap fun piece => Text.words (Text.percentDecode piece))
        = Text.words terms := by
  have hnumbers : placeNumbers (plainValue value) ≠ [] := by
    intro hnil
    rw [highestNumber, hnil] at hhighest
    exact absurd hhighest (by decide)
  have hdecode : ∀ t, Text.percentDecode (Transform.keep.encode t) = t :=
    Text.percentDecode_percentEncode
  refine ⟨fillTemplate (plainValue value) terms, expandShortcut_template hurl terms, ?_,
    fun transform k => Text.escaped_percentEncode _, fun k => hdecode _, fun hoccurs => ?_, ?_⟩
  · rw [fillTemplate_numbered hnumbers]
    exact filled_substituteFrom _ _ none hread
  · intro piece hpiece
    obtain ⟨k, hk, rfl⟩ := List.mem_map.1 hpiece
    obtain ⟨hone, hle⟩ := List.mem_range'_1.1 hk
    obtain ⟨p, hp, hnumber, hkeep⟩ := hoccurs k hone (by omega)
    have hinfix := Text.infix_substitute hp fun p => p.transform.encode (slot terms
      (highestNumber (plainValue value)) ((Text.toWord? p.digits).getD 1))
    rw [hnumber, hkeep, Option.getD_some, ← fillTemplate_numbered hnumbers] at hinfix
    exact hinfix
  · obtain ⟨count, hcount⟩ : ∃ count, highestNumber (plainValue value) = count + 1 :=
      ⟨highestNumber (plainValue value) - 1, by omega⟩
    unfold plainPieces
    rw [List.flatMap_map]
    simp only [hdecode]
    rw [hcount, words_slots]

/-- A value of a trigger: a template with three places and a flag. -/
def threePlaces : Text := "https://example.org/$term1d/$term2?q=$term1 ++t"

/-- The first word, in small letters and as it is, and all others in between. -/
theorem template_filled_three_places :
    expandShortcut threePlaces "Rust  Ownership & More"
      = (urlTrigger, ("https://example.org/rust/Ownership%20%26%20More?q=Rust" : Text))
    ∧ Filled (slot "Rust  Ownership & More" 2) "https://example.org/$term1d/$term2?q=$term1"
      "https://example.org/rust/Ownership%20%26%20More?q=Rust"
    ∧ ∀ piece ∈ plainPieces "Rust  Ownership & More" 2,
      piece <:+: ("https://example.org/rust/Ownership%20%26%20More?q=Rust" : Text) := by
  have hplain : plainValue threePlaces = "https://example.org/$term1d/$term2?q=$term1" := by
    decide +kernel
  have hhits : Text.hits numberedPlace "https://example.org/$term1d/$term2?q=$term1"
      = [⟨['1'], .lowercase⟩, ⟨['2'], .keep⟩, ⟨['1'], .keep⟩] := by decide +kernel
  have hhighest : highestNumber "https://example.org/$term1d/$term2?q=$term1" = 2 := by
    unfold highestNumber placeNumbers
    rw [hhits]
    rfl
  have hexpand : expandShortcut threePlaces "Rust  Ownership & More"
      = (urlTrigger, ("https://example.org/rust/Ownership%20%26%20More?q=Rust" : Text)) := by
    decide +kernel
  have htemplate : isUrlTemplate (plainValue threePlaces) = true := by
    rw [hplain]
    decide
  obtain ⟨url, hurl, hfilled, -, -, hpieces, -⟩ := template_filled htemplate
    (by rw [hplain, hhits]; decide) (by rw [hplain, hhighest]; decide) "Rust  Ownership & More"
  rw [hexpand] at hurl
  obtain rfl := (Prod.mk.inj hurl).2
  rw [hplain, hhighest] at hfilled hpieces
  refine ⟨hexpand, hfilled, hpieces fun k hone htwo => ?_⟩
  unfold OccursPlain
  rw [hhits]
  rcases (show k = 1 ∨ k = 2 by omega) with rfl | rfl
  · exact ⟨⟨['1'], .keep⟩, by simp, by decide, rfl⟩
  · exact ⟨⟨['2'], .keep⟩, by simp, by decide, rfl⟩

end InlineSearch.Search
