/-
InlineSearch.Proofs.Directive.Flag.Seam — what is left when flags are removed.

Where a flag is removed, what is kept before it and behind it comes together:
a seam. Nothing that is kept is a flag, but the two sides of a seam may make
one.

* `exists_seam` — every flag in what is left runs over a seam.
* `head?_of_joined` — it does so only where a sign follows the removed flag.
* `strip_complete_iff` — where removing flags leaves none.
-/
import InlineSearch.Proofs.Directive.Flag

namespace InlineSearch.Directive.Flag

/-! ## Seams -/

/-- What is kept of pieces. -/
def kept (ps : List (Text.Piece (List Flag))) : Text :=
  ps.flatMap fun
    | .char c => [c]
    | .hit _ => []

theorem strip_eq_kept (t : Text) : strip t = kept (Text.pieces pattern t) := by
  unfold strip Text.remove Text.substitute kept
  congr
  funext piece
  cases piece <;> rfl

theorem kept_char (c : Char) (ps : List (Text.Piece (List Flag))) :
    kept (.char c :: ps) = c :: kept ps := rfl

theorem kept_hit (flags : List Flag) (ps : List (Text.Piece (List Flag))) :
    kept (.hit flags :: ps) = kept ps := rfl

theorem kept_append (ps qs : List (Text.Piece (List Flag))) :
    kept (ps ++ qs) = kept ps ++ kept qs := List.flatMap_append

theorem kept_map_char (t : Text) : kept (t.map .char) = t := by
  induction t with
  | nil => rfl
  | cons c t ih => rw [List.map_cons, kept_char, ih]

/-- What is kept is cut at a character where the pieces are. -/
theorem exists_of_kept_eq {ps : List (Text.Piece (List Flag))} {a b : Text} {c : Char}
    (h : kept ps = a ++ c :: b) :
    ∃ qs rs, ps = qs ++ .char c :: rs ∧ kept qs = a ∧ kept rs = b := by
  induction ps generalizing a with
  | nil => simp [kept] at h
  | cons piece ps ih =>
    cases piece with
    | hit flags =>
      obtain ⟨qs, rs, rfl, rfl, rfl⟩ := ih h
      exact ⟨.hit flags :: qs, rs, rfl, rfl, rfl⟩
    | char d =>
      rw [kept_char] at h
      cases a with
      | nil =>
        obtain ⟨rfl, rfl⟩ := List.cons.inj h
        exact ⟨[], ps, rfl, rfl, rfl⟩
      | cons e a =>
        obtain ⟨rfl, hkept⟩ := List.cons.inj h
        obtain ⟨qs, rs, rfl, rfl, rfl⟩ := ih hkept
        exact ⟨.char d :: qs, rs, rfl, rfl, rfl⟩

/-- A place where a flag is removed: what is kept before it, and behind it. -/
inductive Seam (t : Text) : Text → Text → Prop
  | mk {ps qs : List (Text.Piece (List Flag))} {flags : List Flag}
      (pieces : Text.pieces pattern t = ps ++ .hit flags :: qs) : Seam t (kept ps) (kept qs)

/-- A flag that the two sides of a seam make: it begins before the seam or at
it, and ends behind it. -/
inductive Joined (form : Form) : Text → Text → Prop
  | mk {pre a b rest : Text} (text : form.text = a ++ b) (behind : b ≠ [])
      (stands : Stands pre rest) : Joined form (pre ++ a) (b ++ rest)

/-- What is kept at a seam is all that is left. -/
theorem Seam.append_eq {t before after : Text} (h : Seam t before after) :
    before ++ after = strip t := by
  obtain ⟨hpieces⟩ := h
  rw [strip_eq_kept, hpieces, kept_append, kept_hit]

/-! ## Words at a seam -/

/-- Behind a flag the walk goes on where its word ends. -/
theorem exists_of_hit {before : Option Char} {t : Text} {flags : List Flag}
    {qs : List (Text.Piece (List Flag))}
    (h : Text.piecesFrom pattern 0 before t = .hit flags :: qs) :
    ∃ last rest, rest.length < t.length ∧ endsWord rest = true
      ∧ qs = Text.piecesFrom pattern 0 (some last) rest := by
  obtain ⟨c, t, taken, rfl, hp, rfl⟩ := Text.exists_of_piecesFrom_eq_hit h
  obtain ⟨lead, form, rest, -, ht, hends, htaken, -⟩ := pattern_eq_some_iff.1 hp
  rw [← List.append_assoc] at ht
  rw [← List.length_append] at htaken
  cases hword : lead ++ form.text with
  | nil =>
    rw [hword] at htaken
    cases htaken
  | cons d word =>
    rw [hword] at ht htaken
    obtain rfl : t = word ++ rest := (List.cons.inj ht).2
    obtain rfl : taken = word.length := Nat.succ.inj htaken
    obtain ⟨_, last, -, hlast⟩ := Text.exists_lastOf (List.cons_ne_nil c word) none
    refine ⟨last, rest, ?_, hends, ?_⟩
    · simp only [List.length_cons, List.length_append]
      omega
    · rw [Text.piecesFrom_append, ← hlast]
      rfl

/-- Where a word ends, it still ends when flags are removed behind it. -/
theorem endsWord_kept (before : Option Char) {t : Text} (h : endsWord t = true) :
    endsWord (kept (Text.piecesFrom pattern 0 before t)) = true := by
  -- At a miss the first character stays; behind a hit a word ends again.
  induction hlen : t.length using Nat.strongRecOn generalizing before t with
  | ind n ih =>
    cases t with
    | nil => rfl
    | cons c t =>
      rcases Text.hit_or_miss pattern before (c :: t) with ⟨taken, flags, hp⟩ | hmiss
      · have hpieces := Text.piecesFrom_hit hp
        obtain ⟨last, rest, hlt, hends, hqs⟩ := exists_of_hit hpieces
        rw [hpieces, kept_hit, hqs]
        exact ih rest.length (hlen ▸ hlt) (some last) hends rfl
      · rw [Text.piecesFrom_miss hmiss, kept_char]
        exact h

/-- A word ends where a flag was removed. -/
theorem Seam.endsWord {t before after : Text} (h : Seam t before after) :
    endsWord after = true := by
  obtain ⟨hpieces⟩ := h
  obtain ⟨pre, suf, -, hsuf⟩ := Text.exists_of_piecesFrom_eq_append (by simp) hpieces
  obtain ⟨last, rest, -, hends, rfl⟩ := exists_of_hit hsuf.symm
  exact endsWord_kept (some last) hends

/-- A flag that the sides of a seam make goes on with a sign behind it. -/
theorem head?_of_joined {t before after : Text} {form : Form} (hseam : Seam t before after)
    (hjoined : Joined form before after) : after.head? = some '+' ∨ after.head? = some '-' := by
  have hends := hseam.endsWord
  cases hjoined with
  | @mk pre a b rest htext hne _ =>
    obtain ⟨c, b, rfl⟩ := List.exists_cons_of_ne_nil hne
    have hc : c ∈ form.text := by simp [htext]
    rcases Form.cases_of_mem_text hc with rfl | rfl | hword
    · exact .inl rfl
    · exact .inr rfl
    · simp [Flag.endsWord, Text.isWord?, hword] at hends

/-! ## Flags in what is left -/

/-- What is kept at the head of a text stands there, or it is kept from both
sides of a hit. -/
theorem stands_or_hit (before : Option Char) {y w rest : Text} (hbefore : before = none → w ≠ [])
    (h : kept (Text.piecesFrom pattern 0 before y) = w ++ rest) (hends : endsWord rest = true) :
    (∃ rest', y = w ++ rest' ∧ endsWord rest' = true)
      ∨ ∃ a b flags qs, w = a ++ b ∧ b ≠ []
        ∧ Text.piecesFrom pattern 0 before y = a.map .char ++ .hit flags :: qs := by
  -- Along `w` the walk misses, until it hits or `w` is at its end.
  induction w generalizing before y with
  | nil =>
    refine .inl ⟨y, rfl, ?_⟩
    cases y with
    | nil => rfl
    | cons d y =>
      rcases Text.hit_or_miss pattern before (d :: y) with ⟨taken, flags, hp⟩ | hmiss
      · obtain ⟨lead, form, rest', hlead, hy, -⟩ := pattern_eq_some_iff.1 hp
        cases hlead with
        | start => exact absurd rfl (hbefore rfl)
        | blank hblank =>
          obtain rfl := (List.cons.inj hy).1
          exact endsWord_of_isBlank hblank y
      · rw [Text.piecesFrom_miss hmiss, kept_char, List.nil_append] at h
        rw [← h] at hends
        exact hends
  | cons c w ih =>
    cases y with
    | nil => cases h
    | cons d y =>
      rcases Text.hit_or_miss pattern before (d :: y) with ⟨taken, flags, hp⟩ | hmiss
      · exact .inr ⟨[], c :: w, flags, _, rfl, by simp, Text.piecesFrom_hit hp⟩
      · rw [Text.piecesFrom_miss hmiss] at h ⊢
        rw [kept_char, List.cons_append] at h
        obtain ⟨rfl, hkept⟩ := List.cons.inj h
        rcases ih (some d) (fun hnone => nomatch hnone) hkept with
          ⟨rest', rfl, hrest⟩ | ⟨a, b, flags, qs, rfl, hb, hqs⟩
        · exact .inl ⟨rest', rfl, hrest⟩
        · exact .inr ⟨d :: a, b, flags, qs, rfl, hb, by rw [hqs]; rfl⟩

/-- A flag that is kept from both sides of a hit is one of its seam. -/
theorem exists_seam_of_hit {t b rest : Text} {form : Form} {flags : List Flag}
    (ps : List (Text.Piece (List Flag))) {qs : List (Text.Piece (List Flag))} (a : Text)
    (hpieces : Text.pieces pattern t = ps ++ (a.map .char ++ .hit flags :: qs))
    (htext : form.text = a ++ b) (hb : b ≠ []) (hstands : Stands (kept ps) rest)
    (h : strip t = kept ps ++ (form.text ++ rest)) :
    ∃ before after, Seam t before after ∧ Joined form before after := by
  have hafter : kept qs = b ++ rest := by
    rw [strip_eq_kept, hpieces, kept_append, kept_append, kept_map_char, kept_hit, htext,
      List.append_assoc] at h
    exact List.append_cancel_left (List.append_cancel_left h)
  rw [← List.append_assoc] at hpieces
  refine ⟨_, _, .mk hpieces, ?_⟩
  rw [kept_append, kept_map_char, hafter]
  exact .mk htext hb hstands

/-- A flag that begins what is left: one that began the text would be removed. -/
theorem exists_seam_start {t rest : Text} {form : Form} (h : strip t = form.text ++ rest)
    (hends : endsWord rest = true) :
    ∃ before after, Seam t before after ∧ Joined form before after := by
  have hkept : kept (Text.pieces pattern t) = form.text ++ rest := (strip_eq_kept t).symm.trans h
  rcases stands_or_hit none (fun _ => form.text_ne_nil) hkept hends with
    ⟨rest', rfl, hends'⟩ | ⟨a, b, flags, qs, htext, hb, hpieces⟩
  · have hp : pattern none (form.text ++ rest') = some (form.text.length, form.flags) :=
      pattern_eq_some_iff.2 ⟨[], form, rest', .start, rfl, hends', (Nat.zero_add _).symm, rfl⟩
    obtain ⟨c, later, htext⟩ := List.exists_cons_of_ne_nil form.text_ne_nil
    have hpieces : Text.pieces pattern (form.text ++ rest')
        = .hit form.flags :: Text.piecesFrom pattern later.length (some c) (later ++ rest') := by
      rw [htext] at hp ⊢
      exact Text.piecesFrom_hit hp
    exact exists_seam_of_hit [] [] hpieces rfl form.text_ne_nil ⟨rfl, hends⟩ h
  · exact exists_seam_of_hit [] a hpieces htext hb ⟨rfl, hends⟩ h

/-- A flag behind a blank: the blank is kept, so no flag stood behind it. -/
theorem exists_seam_blank {t outer rest : Text} {c : Char} {form : Form}
    (h : strip t = outer ++ c :: (form.text ++ rest)) (hblank : Text.isBlank c = true)
    (hends : endsWord rest = true) :
    ∃ before after, Seam t before after ∧ Joined form before after := by
  obtain ⟨qs, rs, hpieces, rfl, hrs⟩ := exists_of_kept_eq ((strip_eq_kept t).symm.trans h)
  obtain ⟨pre, suf, -, hsuf⟩ := Text.exists_of_piecesFrom_eq_append (by simp) hpieces
  obtain ⟨later, -, hmiss, rfl⟩ := Text.exists_of_piecesFrom_eq_char hsuf.symm
  rcases stands_or_hit (some c) (fun hnone => nomatch hnone) hrs hends with
    ⟨rest', rfl, hends'⟩ | ⟨a, b, flags, qs', htext, hb, hqs'⟩
  · have hp : pattern (Text.lastOf none pre) (c :: (form.text ++ rest'))
        = some (form.text.length + 1, form.flags) :=
      pattern_eq_some_iff.2 ⟨[c], form, rest', .blank hblank, rfl, hends', Nat.add_comm .., rfl⟩
    exact absurd hp (hmiss _ _)
  · have hkept : kept (qs ++ [.char c]) = kept qs ++ [c] := kept_append ..
    have hstands : Stands (kept (qs ++ [.char c])) rest := ⟨by simp [hkept, hblank], hends⟩
    rw [hqs', ← List.singleton_append, ← List.append_assoc] at hpieces
    refine exists_seam_of_hit _ a hpieces htext hb hstands ?_
    rw [h, hkept, List.append_assoc]
    rfl

/-- **Every flag in what is left runs over a seam.** -/
theorem exists_seam {t pre rest : Text} {form : Form} (h : strip t = pre ++ (form.text ++ rest))
    (hstands : Stands pre rest) :
    ∃ before after, Seam t before after ∧ Joined form before after := by
  rcases List.eq_nil_or_concat pre with rfl | ⟨outer, c, rfl⟩
  · exact exists_seam_start h hstands.ends
  · rw [List.concat_eq_append, List.append_assoc, List.singleton_append] at h
    exact exists_seam_blank h (by simpa using hstands.begins) hstands.ends

/-- **Flags are removed for good exactly where no seam makes one**: then
nothing changes when they are removed again, and none is found. This is so
where no removed flag is followed by a sign. -/
theorem strip_complete_iff (t : Text) :
    ((strip (strip t) = strip t ∧ inText (strip t) = [])
      ↔ ∀ before after, Seam t before after → ∀ form, ¬ Joined form before after)
    ∧ ((∀ before after, Seam t before after → after.head? ≠ some '+' ∧ after.head? ≠ some '-') →
      strip (strip t) = strip t ∧ inText (strip t) = []) := by
  have hiff : (strip (strip t) = strip t ∧ inText (strip t) = [])
      ↔ ∀ before after, Seam t before after → ∀ form, ¬ Joined form before after := by
    rw [and_iff_right_of_imp strip_of_inText_eq_nil, inText_eq_nil_iff]
    constructor
    · intro h before after hseam form hjoined
      have hleft := hseam.append_eq
      obtain ⟨htext, -, hstands⟩ := hjoined
      refine h _ form _ ?_ hstands
      rw [← hleft, htext]
      simp
    · intro h pre form rest ht hstands
      obtain ⟨before, after, hseam, hjoined⟩ := exists_seam ht hstands
      exact h before after hseam form hjoined
  refine ⟨hiff, fun h => hiff.2 fun before after hseam form hjoined => ?_⟩
  have hne := h before after hseam
  rcases head?_of_joined hseam hjoined with hhead | hhead
  · exact hne.1 hhead
  · exact hne.2 hhead

/-- Two flags are removed for good from the info of a directive: at neither of
its seams the sides make a flag. -/
theorem strip_complete_spaced :
    let t : Text := "!g ++dt terms --inline"
    (Seam t "!g" " terms" ∧ Seam t "!g terms" "")
      ∧ ∀ before after, Seam t before after → ∀ form, ¬ Joined form before after := by
  have hshort : Text.pieces pattern ("!g ++dt terms --inline" : Text)
      = ("!g" : Text).map .char ++ .hit [(.debug, true), (.includeTitles, true)]
        :: ((" terms" : Text).map .char ++ [.hit [(.inline, true)]]) := rfl
  have hlong : Text.pieces pattern ("!g ++dt terms --inline" : Text)
      = (("!g" : Text).map .char ++ .hit [(.debug, true), (.includeTitles, true)]
        :: (" terms" : Text).map .char) ++ .hit [(.inline, true)] :: [] := rfl
  exact ⟨⟨.mk hshort, .mk hlong⟩, (strip_complete_iff _).1.1 (by decide +kernel)⟩

/-- A flag that directly follows another one is none, but it is left at the
start of the text, where it is one. -/
theorem strip_leaves_flag :
    let t : Text := "++d++i"
    strip t = "++i" ∧ ¬ (strip (strip t) = strip t ∧ inText (strip t) = []) := by
  decide +kernel

end InlineSearch.Directive.Flag
