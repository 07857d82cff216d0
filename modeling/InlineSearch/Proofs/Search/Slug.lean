/-
InlineSearch.Proofs.Search.Slug — what a slug looks like, whatever it was made of.

A slug is the text in small letters with a dash in the place of each run of characters
that may not stand in it (`slug_of_runs`). So the runs of such characters in a slug are
single dashes (`runs_slug`), and the rest is read off that: two dashes never meet, what
stands between them are the letters of the text in their order, and a slug is its own
slug, since small letters stay as they are (`Text.lowercase_eq_self`). To put in a dash
for each such character and then one for each run of dashes makes the same slug
(`slug_eq_substitute_dashed`).

Slugs are put into templates. None of their characters is reserved in a URL, so percent
encoding leaves them as they are (`Text.percentEncode_eq_self`).
-/
import InlineSearch.Proofs.Text.Runs
import InlineSearch.Search.Shortcut

namespace InlineSearch

/-! ## Texts that stay as they are -/

theorem Text.lowercaseChar_eq_self {c : Char} (hascii : c.toNat < 0x80)
    (hsmall : c.isUpper = false) : Text.lowercaseChar c = [c] := by
  have hupper : ¬ (c.val ≥ 'A'.val ∧ c.val ≤ 'Z'.val) := of_decide_eq_false hsmall
  have hlower : c.toLower = c := dif_neg hupper
  rw [Text.lowercaseChar, if_pos hascii, hlower]

/-- A text of ASCII characters none of which is a capital is in small letters. -/
theorem Text.lowercase_eq_self {t : Text} (h : ∀ c ∈ t, c.toNat < 0x80 ∧ c.isUpper = false) :
    Text.lowercase t = t := by
  have hafter : ∀ (t before : Text), (∀ c ∈ t, c.toNat < 0x80 ∧ c.isUpper = false) →
      Text.lowercaseAfter before t = t := by
    intro t
    induction t with
    | nil => exact fun _ _ => rfl
    | cons c t ih =>
      intro before h
      obtain ⟨⟨hascii, hsmall⟩, hlater⟩ := List.forall_mem_cons.1 h
      have hsigma : (c == 'Σ') = false := by
        rw [beq_eq_false_iff_ne]
        rintro rfl
        exact absurd hascii (by decide)
      simp only [Text.lowercaseAfter, hsigma, Text.lowercaseChar_eq_self hascii hsmall,
        ih _ hlater]
      rfl
  exact hafter t [] h

/-- A text of unreserved characters is its own encoding. -/
theorem Text.percentEncode_eq_self {t : Text} (h : ∀ c ∈ t, Text.isUnreserved c = true) :
    Text.percentEncode t = t := by
  induction t with
  | nil => rfl
  | cons c t ih =>
    obtain ⟨hc, hlater⟩ := List.forall_mem_cons.1 h
    rw [Text.percentEncode, List.flatMap_cons, Text.percentEncodeChar, if_pos hc]
    exact congrArg (c :: ·) (ih hlater)

namespace Search

/-! ## The characters of slugs -/

/-- A small ASCII letter, an ASCII digit or a low line. -/
def IsSlugLetter (c : Char) : Prop := ('a' ≤ c ∧ c ≤ 'z') ∨ ('0' ≤ c ∧ c ≤ '9') ∨ c = '_'

instance : DecidablePred IsSlugLetter := fun c =>
  inferInstanceAs (Decidable (('a' ≤ c ∧ c ≤ 'z') ∨ ('0' ≤ c ∧ c ≤ '9') ∨ c = '_'))

theorem isSlugChar_iff {c : Char} : isSlugChar c = true ↔ IsSlugLetter c := by
  delta isSlugChar IsSlugLetter Char.isLower Char.isDigit
  simp [Char.le_def, or_assoc]

theorem isSlugChar_eq : isSlugChar = fun c => decide (IsSlugLetter c) := by
  funext c
  rw [← Bool.coe_iff_coe, isSlugChar_iff, decide_eq_true_iff]

/-- No character of a slug is a capital or lies beyond ASCII. -/
theorem ascii_of_slug {c : Char} (h : IsSlugLetter c ∨ c = '-') :
    c.toNat < 0x80 ∧ c.isUpper = false := by
  rcases h with h | rfl
  · have hcode : (97 ≤ c.toNat ∧ c.toNat ≤ 122) ∨ (48 ≤ c.toNat ∧ c.toNat ≤ 57)
        ∨ c.toNat = 95 := by
      simpa [IsSlugLetter, Char.le_def, UInt32.le_iff_toNat_le, Char.ext_iff, ← UInt32.toNat_inj]
        using h
    have hsmall : ¬ (65 ≤ c.toNat ∧ c.toNat ≤ 90) := by omega
    refine ⟨by omega, decide_eq_false ?_⟩
    simpa [UInt32.le_iff_toNat_le] using hsmall
  · decide

theorem isUnreserved_of_slug {c : Char} (h : IsSlugLetter c ∨ c = '-') :
    Text.isUnreserved c = true := by
  rcases h with h | rfl
  · rw [← isSlugChar_iff] at h
    simp only [isSlugChar, Bool.or_eq_true, beq_iff_eq] at h
    rcases h with (h | h) | rfl
    · have hletter : c.isAlphanum = true := by
        delta Char.isAlphanum Char.isAlpha
        rw [h, Bool.or_true, Bool.true_or]
      simp [Text.isUnreserved, hletter]
    · have hdigit : c.isAlphanum = true := by
        delta Char.isAlphanum
        rw [h, Bool.or_true]
      simp [Text.isUnreserved, hdigit]
    · decide
  · decide

/-! ## Slugs by their runs -/

theorem takesRuns_slugGap : Text.TakesRuns (!isSlugChar ·) (fun _ => ()) slugGap := fun _ _ => rfl

variable {t lead : Text} {runs : List (Text × Text)}

/-- A dash takes the place of each run of characters that may not stand in a slug. -/
theorem slug_of_runs (h : Text.Runs (!isSlugChar ·) lead runs (Text.lowercase t)) :
    slug t = lead ++ runs.flatMap fun r => '-' :: r.2 :=
  h.substitute takesRuns_slugGap fun _ => "-"

/-- The runs of such characters in a slug are single dashes. -/
theorem runs_slug (h : Text.Runs (!isSlugChar ·) lead runs (Text.lowercase t)) :
    Text.Runs (!isSlugChar ·) lead (runs.map fun r => (['-'], r.2)) (slug t) := by
  rw [slug_of_runs h]
  exact h.replace (by decide) (by decide)

/-- What may not stand in a slug beside dashes lies within a dash. -/
theorem infix_dash_of_infix_slug {stretch : Text} (hne : stretch ≠ [])
    (houtside : stretch.all (!isSlugChar ·) = true) (h : stretch <:+: slug t) :
    stretch <:+: ['-'] := by
  obtain ⟨lead, runs, hruns⟩ := Text.exists_runs (!isSlugChar ·) (Text.lowercase t)
  obtain ⟨r, hr, hwithin⟩ := (runs_slug hruns).within_run hne houtside h
  obtain ⟨r, -, rfl⟩ := List.mem_map.1 hr
  exact hwithin

theorem isSlugLetter_of_mem_slug {c : Char} (h : c ∈ slug t) : IsSlugLetter c ∨ c = '-' := by
  rw [← isSlugChar_iff]
  cases hc : isSlugChar c with
  | true => exact .inl rfl
  | false =>
    obtain ⟨before, after, hparts⟩ := List.append_of_mem h
    have hdash : [c] <:+: ['-'] :=
      infix_dash_of_infix_slug (List.cons_ne_nil c []) (by simp [hc])
        ⟨before, after, by rw [hparts, List.append_assoc]; rfl⟩
    exact .inr (List.mem_singleton.1 (hdash.subset (List.mem_singleton.2 rfl)))

/-- Small letters are small already, and single dashes stay single. -/
theorem slug_slug (t : Text) : slug (slug t) = slug t := by
  obtain ⟨lead, runs, hruns⟩ := Text.exists_runs (!isSlugChar ·) (Text.lowercase t)
  have hsmall : Text.lowercase (slug t) = slug t :=
    Text.lowercase_eq_self fun c hc => ascii_of_slug (isSlugLetter_of_mem_slug hc)
  have hagain := runs_slug hruns
  rw [← hsmall] at hagain
  rw [slug_of_runs hagain, slug_of_runs hruns, List.flatMap_map]

/-- A text with a dash for each character that may not stand in a slug. -/
def dashed (t : Text) : Text := t.map fun c => if isSlugChar c then c else '-'

/-- A run of dashes. -/
def dashRun : Text.Pattern Unit := fun _ t => some ((t.takeWhile (· == '-')).length, ())

theorem takesRuns_dashRun : Text.TakesRuns (· == '-') (fun _ => ()) dashRun := fun _ _ => rfl

theorem dashed_slug (t : Text) : dashed (slug t) = slug t := by
  refine (List.map_congr_left fun c hc => ?_).trans (List.map_id _)
  rcases isSlugLetter_of_mem_slug hc with hletter | rfl
  · exact if_pos (isSlugChar_iff.2 hletter)
  · rfl

/-- A slug is made in two steps as well: each character that may not stand in it becomes
a dash, and then each run of dashes becomes one. -/
theorem slug_eq_substitute_dashed (t : Text) :
    slug t = Text.substitute dashRun (fun _ => "-") (dashed (Text.lowercase t)) := by
  obtain ⟨lead, runs, hruns⟩ := Text.exists_runs (!isSlugChar ·) (Text.lowercase t)
  have hdash : ∀ c, ((if isSlugChar c then c else '-') == '-') = !isSlugChar c := by
    intro c
    split
    · next hc =>
      have hne : c ≠ '-' := by
        rintro rfl
        exact absurd hc (by decide)
      rw [hc, beq_false_of_ne hne]
      rfl
    · next hc => simp [hc]
  have hdashed : Text.Runs (· == '-') (dashed lead) _ (dashed (Text.lowercase t)) :=
    hruns.map hdash
  rw [hdashed.substitute takesRuns_dashRun, List.flatMap_map, ← dashed_slug, slug_of_runs hruns,
    dashed, List.map_append, List.map_flatMap]
  rfl

/-- Both the text and its slug have the letters that stand around their runs. -/
theorem filter_slug (t : Text) :
    (slug t).filter isSlugChar = (Text.lowercase t).filter isSlugChar := by
  obtain ⟨lead, runs, hruns⟩ := Text.exists_runs (!isSlugChar ·) (Text.lowercase t)
  have hslug := (runs_slug hruns).filter_outside
  rw [List.flatMap_map] at hslug
  simpa only [Bool.not_not] using hslug.trans hruns.filter_outside.symm

/-- **Slugs are canonical.** A slug has small ASCII letters, digits, low lines and dashes
only, and no two dashes side by side; it is its own slug and its own percent encoding.
The letters, digits and low lines of the text in small letters are all kept in their
order, and each run of other characters is one dash. -/
theorem slug_canonical (t : Text) :
    (∀ c ∈ slug t, IsSlugLetter c ∨ c = '-')
      ∧ ¬ ['-', '-'] <:+: slug t
      ∧ slug (slug t) = slug t
      ∧ Text.percentEncode (slug t) = slug t
      ∧ (slug t).filter IsSlugLetter = (Text.lowercase t).filter IsSlugLetter
      ∧ ∃ lead runs, Text.Runs (¬ IsSlugLetter ·) lead runs (Text.lowercase t)
        ∧ slug t = lead ++ runs.flatMap fun r => '-' :: r.2 := by
  refine ⟨fun c hc => isSlugLetter_of_mem_slug hc, fun hdashes => ?_, slug_slug t,
    Text.percentEncode_eq_self fun c hc => isUnreserved_of_slug (isSlugLetter_of_mem_slug hc),
    ?_, ?_⟩
  · have hlength := (infix_dash_of_infix_slug (by simp) (by decide) hdashes).length_le
    simp at hlength
  · have hletters := filter_slug t
    rwa [isSlugChar_eq] at hletters
  · obtain ⟨lead, runs, hruns⟩ := Text.exists_runs (!isSlugChar ·) (Text.lowercase t)
    refine ⟨lead, runs, ?_, slug_of_runs hruns⟩
    simpa only [isSlugChar_eq, decide_not] using hruns

/-- The small form of the first character is two characters, and one of them is kept. -/
theorem slug_canonical_dotted : slug "İ & Ünï_2!".toList = "i-n-_2-".toList
    ∧ 'i' ∈ slug "İ & Ünï_2!".toList ∧ (IsSlugLetter 'i' ∨ 'i' = '-') := by
  have hslug : slug "İ & Ünï_2!".toList = "i-n-_2-".toList := by decide +kernel
  have hmem : 'i' ∈ slug "İ & Ünï_2!".toList := by
    rw [hslug]
    decide
  exact ⟨hslug, hmem, (slug_canonical _).1 'i' hmem⟩

end Search

end InlineSearch
