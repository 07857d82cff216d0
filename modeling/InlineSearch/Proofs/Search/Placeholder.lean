/-
InlineSearch.Proofs.Search.Placeholder — values without a place for the terms,
and places that are left in a filled template.

A value that begins like a URL is a template whatever else it holds. Without a
place in it the terms go nowhere (`site_search_iff`).

Of the two kinds of places a template is filled at one only, numbered places if
there is one whose number can be read, and these are known in small letters
only. What is put in holds no dollar sign, so a place that is left in the URL
begins with a dollar sign of the template that belongs to no filled place. The
rest of it may be put together from what stays and what is put in (`canBegin`);
`token_survives_iff` says that this is decided by the template.

* `site_search_iff` — which values without a place become a search on a site.
* `token_survives_iff` — which templates leave no place, whatever the terms are.
-/
import InlineSearch.Proofs.Search.Template

namespace InlineSearch.Search

open Text (OccursFolded Piece foldChar)

/-- A place for terms stands in a text, in any case. -/
def HoldsToken (t : Text) : Prop := OccursFolded "$term" t

instance (t : Text) : Decidable (HoldsToken t) := inferInstanceAs (Decidable (OccursFolded _ _))

/-! ## Values without a place -/

/-- Without a place a template is filled with nothing. -/
theorem fillTemplate_of_not_holdsToken {template : Text} (h : ¬ HoldsToken template)
    (terms : Text) : fillTemplate template terms = template := by
  have hnone : ∀ suf, suf <:+ template → Text.dropFolded? "$term" suf = none := by
    intro suf hsuf
    rw [← Option.isNone_iff_eq_none, ← Option.isSome_eq_false_iff, Bool.eq_false_iff]
    exact fun hsome => h (Text.occursFolded_iff.2 ⟨suf, hsuf, hsome⟩)
  have hnumbers : placeNumbers template = [] := by
    unfold placeNumbers
    rw [Text.hits_eq_nil fun before suf hsuf => numberedPlace_eq_none (hnone suf hsuf)]
    rfl
  rw [fillTemplate_whole hnumbers]
  exact Text.substitute_eq_self fun before suf hsuf => wholePlace_eq_none (hnone suf hsuf)

/-- **Values without a place for the terms.** Such a value becomes a web search
for the terms on that site exactly if it does not begin like a URL. Otherwise
it becomes a link to itself, whatever the terms are. -/
theorem site_search_iff {value : Text} (h : ¬ HoldsToken (plainValue value)) (terms : Text) :
    (expandShortcut value terms = (webTrigger, siteTerms (plainValue value) terms)
      ↔ isUrlTemplate (plainValue value) = false)
    ∧ (isUrlTemplate (plainValue value) = true →
      expandShortcut value terms = (urlTrigger, plainValue value)) := by
  have htemplate : isUrlTemplate (plainValue value) = true →
      expandShortcut value terms = (urlTrigger, plainValue value) := fun hurl => by
    rw [expandShortcut_template hurl, fillTemplate_of_not_holdsToken h]
  refine ⟨⟨fun hsite => ?_, fun hsite => expandShortcut_site hsite terms⟩, htemplate⟩
  rw [Bool.eq_false_iff]
  intro hurl
  rw [htemplate hurl] at hsite
  exact absurd (Prod.mk.inj hsite).1 (by decide)

/-- The name of a site without a place, in which the flag is no part of it. -/
theorem site_search_of_plain_site : ¬ HoldsToken (plainValue "example.org ++t")
    ∧ expandShortcut "example.org ++t" "rust" = (webTrigger, ("site:example.org rust" : Text)) := by
  have hplain : plainValue "example.org ++t" = "example.org" := by decide +kernel
  have hnone : ¬ HoldsToken (plainValue "example.org ++t") := by
    rw [hplain]
    decide
  refine ⟨hnone, ?_⟩
  have hsite := (site_search_iff hnone "rust").1.2 (by rw [hplain]; decide)
  rw [hsite, hplain]
  decide

/-- The terms are lost where the name of a site begins like a URL: the value
becomes a link to itself. -/
theorem terms_lost_at_site : ¬ HoldsToken (plainValue "httpbin.org")
    ∧ Text.isBlankText "rust" = false
    ∧ expandShortcut "httpbin.org" "rust" = (urlTrigger, ("httpbin.org" : Text))
    ∧ expandShortcut "httpbin.org" "rust"
      ≠ (webTrigger, siteTerms (plainValue "httpbin.org") "rust") := by
  have hplain : plainValue "httpbin.org" = "httpbin.org" := by decide +kernel
  have hexpand : expandShortcut "httpbin.org" "rust" = (urlTrigger, ("httpbin.org" : Text)) := by
    decide +kernel
  refine ⟨by rw [hplain]; decide, rfl, hexpand, ?_⟩
  rw [hexpand]
  exact fun heq => absurd (Prod.mk.inj heq).1 (by decide)

/-! ## The places that are filled -/

/-- The places at which a template is filled. -/
def placePattern (template : Text) : Text.Pattern Place :=
  if placeNumbers template = [] then wholePlace else numberedPlace

/-- The number that the digits of a place stand for. -/
def Place.number (p : Place) : Nat := (Text.toWord? p.digits).getD 1

/-- What is put into a template for a place, before it is encoded. -/
def insertedAt (template terms : Text) (p : Place) : Text :=
  if placeNumbers template = [] then terms
  else slot terms (highestNumber template) p.number

/-- Whether terms can bring anything to a place. -/
def takesWords (template : Text) (p : Place) : Bool :=
  placeNumbers template = [] || (1 ≤ p.number && p.number ≤ highestNumber template)

theorem fillTemplate_eq (template terms : Text) : fillTemplate template terms
    = Text.substitute (placePattern template)
      (fun p => p.transform.encode (insertedAt template terms p)) template := by
  unfold placePattern insertedAt
  by_cases h : placeNumbers template = []
  · simp only [h, if_true]
    exact fillTemplate_whole h terms
  · simp only [h, if_false]
    exact fillTemplate_numbered h terms

theorem insertedAt_eq_nil {template : Text} {p : Place} (h : takesWords template p = false)
    (terms : Text) : insertedAt template terms p = [] := by
  simp only [takesWords, Bool.or_eq_false_iff, decide_eq_false_iff_not, Bool.and_eq_false_iff] at h
  unfold insertedAt slot
  rw [if_neg h.1, if_pos (by omega)]

/-- There are terms that bring a word to all places that take any. -/
theorem exists_insertedAt_eq (template : Text) {word : Text} (h : Text.Unbroken word) :
    ∃ terms, ∀ p, takesWords template p = true → insertedAt template terms p = word := by
  unfold insertedAt takesWords
  by_cases hnil : placeNumbers template = []
  · exact ⟨word, fun p _ => if_pos hnil⟩
  · let count := highestNumber template
    have hwords : Text.words (Text.unwords (List.replicate count word))
        = List.replicate count word :=
      Text.words_unwords fun v hv => List.eq_of_mem_replicate hv ▸ h
    refine ⟨Text.unwords (List.replicate count word), fun p hp => ?_⟩
    simp only [hnil, decide_false, Bool.false_or, Bool.and_eq_true, decide_eq_true_eq] at hp
    obtain ⟨hone, hle⟩ := hp
    rw [if_neg hnil]
    unfold slot
    rw [if_neg (by omega), hwords]
    split
    · next hlt => rw [List.getElem?_replicate_of_lt (by omega), Option.getD_some]
    · next hlast =>
      have hrest : count - (p.number - 1) = 1 := by omega
      rw [List.drop_replicate, hrest, List.replicate_one, Text.unwords, Text.join_singleton]

/-! ## Places that are left -/

/-- Whether pieces of a template can begin with a folded text: a place that
takes words may be filled with anything, and any other place stays empty. -/
def canBegin (takes : Place → Bool) : Text → List (Piece Place) → Bool
  | [], _ => true
  | _ :: _, [] => false
  | d :: part, .char c :: ps => foldChar c == d && canBegin takes part ps
  | d :: part, .hit p :: ps => takes p || canBegin takes (d :: part) ps

/-- Whether a dollar sign that stays among pieces of a template can begin a
place for terms. -/
def canHoldToken (takes : Place → Bool) : List (Piece Place) → Bool
  | [] => false
  | .char c :: ps => (c == '$' && canBegin takes "term" ps) || canHoldToken takes ps
  | .hit _ :: ps => canHoldToken takes ps

/-- Whether some terms leave a place for terms in a filled template. -/
def leavesToken (template : Text) : Bool :=
  canHoldToken (takesWords template) (Text.pieces (placePattern template) template)

/-- What a piece becomes, folded. -/
def foldedPiece (fill : Place → Text) : Piece Place → Text
  | .char c => [foldChar c]
  | .hit p => (fill p).map foldChar

theorem map_substitute (p : Text.Pattern Place) (fill : Place → Text) (t : Text) :
    (Text.substitute p fill t).map foldChar = (Text.pieces p t).flatMap (foldedPiece fill) := by
  unfold Text.substitute
  rw [List.map_flatMap]
  congr 1
  funext piece
  cases piece <;> rfl

section

variable {takes : Place → Bool} {fill : Place → Text}

theorem canBegin_of_prefix (hempty : ∀ p, takes p = false → fill p = []) {part : Text}
    {ps : List (Piece Place)} (h : part <+: ps.flatMap (foldedPiece fill)) :
    canBegin takes part ps = true := by
  induction ps generalizing part with
  | nil =>
    obtain rfl := List.prefix_nil.1 h
    rfl
  | cons piece ps ih =>
    cases part with
    | nil => rfl
    | cons d part =>
      rw [List.flatMap_cons] at h
      cases piece with
      | char c =>
        obtain ⟨heq, hlater⟩ := List.cons_prefix_cons.1 h
        rw [canBegin, ih hlater, heq, beq_self_eq_true, Bool.and_self]
      | hit p =>
        rw [canBegin]
        cases htakes : takes p with
        | true => rfl
        | false =>
          have hnil : foldedPiece fill (.hit p) = [] := by
            rw [foldedPiece, hempty p htakes, List.map_nil]
          rw [hnil, List.nil_append] at h
          exact ih h

/-- A place that is left begins at a dollar sign of the template. -/
theorem canHoldToken_of_infix (hempty : ∀ p, takes p = false → fill p = [])
    (hdollar : ∀ p, '$' ∉ fill p) {ps : List (Piece Place)}
    (h : '$' :: "term".toList <:+: ps.flatMap (foldedPiece fill)) :
    canHoldToken takes ps = true := by
  induction ps with
  | nil => cases List.eq_nil_of_infix_nil h
  | cons piece ps ih =>
    rw [List.flatMap_cons] at h
    cases piece with
    | char c =>
      rw [canHoldToken, Bool.or_eq_true, Bool.and_eq_true, beq_iff_eq]
      rcases List.infix_cons_iff.1 h with hstart | hlater
      · obtain ⟨heq, hterm⟩ := List.cons_prefix_cons.1 hstart
        exact .inl ⟨Text.eq_of_foldChar_eq heq.symm (by decide), canBegin_of_prefix hempty hterm⟩
      · exact .inr (ih hlater)
    | hit p =>
      have hnot : '$' ∉ foldedPiece fill (.hit p) := fun hmem => by
        obtain ⟨c, hc, hfold⟩ := List.mem_map.1 hmem
        exact hdollar p (Text.eq_of_foldChar_eq hfold (by decide) ▸ hc)
      rw [Text.infix_append_of_not_mem hnot] at h
      exact ih h

end

/-- Any rest of the sign of a place can be put in for itself. -/
theorem encode_of_suffix {part : Text} (h : part <:+ "term".toList) (transform : Transform) :
    transform.encode part = part ∧ part.map foldChar = part
      ∧ ∀ c ∈ part, Text.isBlank c = false := by
  have hall : ∀ part ∈ "term".toList.tails, ∀ transform ∈ [Transform.keep, .lowercase, .slug],
      transform.encode part = part ∧ part.map foldChar = part
        ∧ part.all (!Text.isBlank ·) = true := by decide +kernel
  obtain ⟨hencode, hfold, hblank⟩ :=
    hall part ((List.mem_tails _ _).2 h) transform (by cases transform <;> simp)
  exact ⟨hencode, hfold, by simpa using hblank⟩

theorem exists_of_canBegin {takes : Place → Bool} {part : Text} {ps : List (Piece Place)}
    (h : canBegin takes part ps = true) (hpart : part <:+ "term".toList) :
    ∃ word, word ≠ [] ∧ word <:+ "term".toList ∧ ∀ fill : Place → Text,
      (∀ p, takes p = true → fill p = word) → (∀ p, takes p = false → fill p = []) →
      part <+: ps.flatMap (foldedPiece fill) := by
  induction ps generalizing part with
  | nil =>
    cases part with
    | nil => exact ⟨"m".toList, by decide, by decide, fun _ _ _ => List.nil_prefix⟩
    | cons d part => cases h
  | cons piece ps ih =>
    cases part with
    | nil => exact ⟨"m".toList, by decide, by decide, fun _ _ _ => List.nil_prefix⟩
    | cons d part =>
      simp only [List.flatMap_cons]
      cases piece with
      | char c =>
        rw [canBegin, Bool.and_eq_true, beq_iff_eq] at h
        obtain ⟨rfl, hlater⟩ := h
        obtain ⟨word, hne, hword, hfill⟩ := ih hlater ((List.suffix_cons _ part).trans hpart)
        exact ⟨word, hne, hword, fun fill hfull hempty =>
          List.cons_prefix_cons.2 ⟨rfl, hfill fill hfull hempty⟩⟩
      | hit p =>
        rw [canBegin] at h
        cases htakes : takes p with
        | true =>
          -- The place is filled with all that is still to come.
          refine ⟨d :: part, List.cons_ne_nil d part, hpart, fun fill hfull _ => ?_⟩
          rw [foldedPiece, hfull p htakes, (encode_of_suffix hpart .keep).2.1]
          exact List.prefix_append ..
        | false =>
          rw [htakes, Bool.false_or] at h
          obtain ⟨word, hne, hword, hfill⟩ := ih h hpart
          refine ⟨word, hne, hword, fun fill hfull hempty => ?_⟩
          rw [foldedPiece, hempty p htakes, List.map_nil, List.nil_append]
          exact hfill fill hfull hempty

theorem exists_of_canHoldToken {takes : Place → Bool} {ps : List (Piece Place)}
    (h : canHoldToken takes ps = true) :
    ∃ word, word ≠ [] ∧ word <:+ "term".toList ∧ ∀ fill : Place → Text,
      (∀ p, takes p = true → fill p = word) → (∀ p, takes p = false → fill p = []) →
      '$' :: "term".toList <:+: ps.flatMap (foldedPiece fill) := by
  induction ps with
  | nil => cases h
  | cons piece ps ih =>
    simp only [List.flatMap_cons]
    cases piece with
    | char c =>
      rw [canHoldToken, Bool.or_eq_true, Bool.and_eq_true, beq_iff_eq] at h
      rcases h with ⟨rfl, hbegin⟩ | hlater
      · obtain ⟨word, hne, hword, hfill⟩ := exists_of_canBegin hbegin (List.suffix_refl _)
        exact ⟨word, hne, hword, fun fill hfull hempty =>
          (List.cons_prefix_cons.2 ⟨rfl, hfill fill hfull hempty⟩).isInfix⟩
      · obtain ⟨word, hne, hword, hfill⟩ := ih hlater
        exact ⟨word, hne, hword, fun fill hfull hempty =>
          List.infix_cons (hfill fill hfull hempty)⟩
    | hit p =>
      obtain ⟨word, hne, hword, hfill⟩ := ih h
      exact ⟨word, hne, hword, fun fill hfull hempty =>
        (hfill fill hfull hempty).trans (List.suffix_append ..).isInfix⟩

/-- **Places that are left.** No terms leave a place for terms, in any case, in
the URL that a template is filled to, exactly if none can be put together from
what is left of the template and what is put in: a dollar sign that belongs to
no filled place, and behind it the letters of the sign, where a place that
takes words may stand for any of them. -/
theorem token_survives_iff {value : Text} (hurl : isUrlTemplate (plainValue value) = true) :
    (∀ terms, ¬ HoldsToken (expandShortcut value terms).2)
      ↔ leavesToken (plainValue value) = false := by
  simp only [expandShortcut_template hurl, HoldsToken, OccursFolded, fillTemplate_eq,
    map_substitute]
  generalize plainValue value = template
  have hnil : ∀ transform : Transform, transform.encode [] = [] := fun transform =>
    (encode_of_suffix (List.nil_suffix) transform).1
  rw [← Bool.not_eq_true, ← not_exists, not_iff_not]
  constructor
  · rintro ⟨terms, hinfix⟩
    refine canHoldToken_of_infix (fun p hp => ?_) (fun p => ?_) hinfix
    · rw [insertedAt_eq_nil hp, hnil]
    · exact (Text.escaped_percentEncode _).not_mem (by decide) (by decide)
  · intro hleaves
    obtain ⟨word, hne, hword, hfill⟩ := exists_of_canHoldToken hleaves
    obtain ⟨terms, hterms⟩ := exists_insertedAt_eq template
      ⟨hne, (encode_of_suffix hword .keep).2.2⟩
    refine ⟨terms, hfill _ (fun p hp => ?_) fun p hp => ?_⟩
    · rw [hterms p hp, (encode_of_suffix hword p.transform).1]
    · rw [insertedAt_eq_nil hp, hnil]

example : leavesToken "https://example.org/$te$term1" = true := by decide +kernel

/-- Places for the whole terms in any case, and terms that look like places. -/
theorem token_survives_iff_whole_terms :
    isUrlTemplate (plainValue "https://example.org/$Terms?q=$TERM") = true
    ∧ ¬ HoldsToken (expandShortcut "https://example.org/$Terms?q=$TERM" "$term1 $TERM").2 := by
  have hplain : plainValue "https://example.org/$Terms?q=$TERM"
      = "https://example.org/$Terms?q=$TERM" := by decide +kernel
  have hurl : isUrlTemplate (plainValue "https://example.org/$Terms?q=$TERM") = true := by
    rw [hplain]
    decide
  have hleaves : leavesToken (plainValue "https://example.org/$Terms?q=$TERM") = false := by
    rw [hplain]
    decide +kernel
  exact ⟨hurl, (token_survives_iff hurl).2 hleaves "$term1 $TERM"⟩

/-- A numbered place in capitals is left beside one in small letters. -/
theorem token_left_in_capitals :
    isUrlTemplate (plainValue "https://example.org/$term1/$TERM1") = true
    ∧ expandShortcut "https://example.org/$term1/$TERM1" "rust"
      = (urlTrigger, ("https://example.org/rust/$TERM1" : Text))
    ∧ HoldsToken (expandShortcut "https://example.org/$term1/$TERM1" "rust").2 := by
  have hexpand : expandShortcut "https://example.org/$term1/$TERM1" "rust"
      = (urlTrigger, ("https://example.org/rust/$TERM1" : Text)) := by decide +kernel
  refine ⟨by decide +kernel, hexpand, ?_⟩
  rw [hexpand]
  decide

end InlineSearch.Search
