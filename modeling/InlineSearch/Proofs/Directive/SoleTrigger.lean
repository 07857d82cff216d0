/-
InlineSearch.Proofs.Directive.SoleTrigger — a trigger without terms.

An info that is a trigger and nothing else asks for a search of the link text.
The link text takes the place of the terms before the rule for a plus sign is
applied to them, so a link text that begins with one is added to itself.

* `search_without_terms` — the search that is made of a link text alone.
* `read_sole_trigger_iff` — which link texts are searched for as they are.
-/
import InlineSearch.Directive.Basic
import InlineSearch.Proofs.Text.Cut
import InlineSearch.Proofs.Text.Phrase

namespace InlineSearch.Directive

/-! ## The info -/

/-- What begins with a trigger mark is a link target only if its first word ends
with a slash. -/
theorem isLinkTarget_marked {t : Text}
    (h : Text.endsWith "/" ('!' :: Text.leadingWord t) = false) :
    isLinkTarget ('!' :: t) = false := by
  have hword : Text.leadingWord ('!' :: t) = '!' :: Text.leadingWord t := by
    have hmark : Text.isBlank '!' = false := rfl
    unfold Text.leadingWord
    rw [List.takeWhile_cons, hmark]
    rfl
  have hfragment : (('!' :: t : Text).head? == some '#') = false := rfl
  have hhttp : isLongerThan "http://" ('!' :: Text.leadingWord t) = false := rfl
  have hhttps : isLongerThan "https://" ('!' :: Text.leadingWord t) = false := rfl
  have hpath : isLongerThan "/" ('!' :: Text.leadingWord t) = false := rfl
  have hmark : ('!' :: t : Text).head?.any (· != '!') = false := rfl
  unfold isLinkTarget isTarget
  simp only [hword, h, hfragment, hhttp, hhttps, hpath, hmark, Bool.and_false, Bool.false_and,
    Bool.or_self]

section

variable {trigger : Text} (h : Text.Alphanumeric trigger)
include h

/-- A trigger of letters and digits ends with no sign. -/
theorem getLast?_trigger_any {p : Char → Bool}
    (hp : ∀ c, Text.isAlphanumeric c = true → p c = false) :
    ('!' :: trigger).getLast?.any p = false := by
  rw [← List.singleton_append, List.getLast?_append_of_ne_nil _ h.1]
  exact h.phrase.last_any hp

theorem endsWith_trigger {sign : Text} {c : Char} (hsign : sign.getLast? = some c)
    (hc : Text.isAlphanumeric c = false) : Text.endsWith sign ('!' :: trigger) = false := by
  refine Text.endsWith_eq_false hsign ?_
  rw [← List.singleton_append, List.getLast?_append_of_ne_nil _ h.1]
  exact h.phrase.last_ne hc

theorem leadingWord_trigger : Text.leadingWord trigger = trigger :=
  List.takeWhile_eq_self_iff.2 (List.all_eq_true.1 h.all_not_blank)

theorem splitTrigger?_trigger : splitTrigger? ('!' :: trigger) = some (some trigger, []) := by
  have hafter : Text.afterWord trigger = [] :=
    List.dropWhile_eq_nil_iff.2 (List.all_eq_true.1 h.all_not_blank)
  have hne := h.1
  simp only [splitTrigger?, leadingWord_trigger h, hafter]
  rfl

end

/-! ## The search -/

/-- A link text that begins with one plus sign, and not with two. -/
def OnePlus (linkText : Text) : Prop :=
  linkText.head? = some '+' ∧ linkText.tail.head? ≠ some '+'

instance : DecidablePred OnePlus := fun linkText =>
  inferInstanceAs (Decidable (linkText.head? = some '+' ∧ linkText.tail.head? ≠ some '+'))

/-- The terms that a link text gives. -/
def borrowedTerms (linkText : Text) : Text :=
  if OnePlus linkText then linkText ++ " " ++ Text.trimStart linkText.tail else linkText

theorem borrowedTerms_eq_self_iff {linkText : Text} :
    borrowedTerms linkText = linkText ↔ ¬ OnePlus linkText := by
  unfold borrowedTerms
  split
  · next h =>
    refine iff_of_false (fun heq => ?_) (not_not_intro h)
    have hlength := congrArg List.length heq
    rw [List.append_assoc, List.length_append, List.length_append] at hlength
    have hspace : (" " : Text).length = 1 := rfl
    omega
  · next h => exact iff_of_true rfl h

theorem startsWith_plus (t : Text) : Text.startsWith "+" t = decide (t.head? = some '+') := by
  cases t with
  | nil => rfl
  | cons c t => simp [Text.startsWith, List.isPrefixOf_cons_cons, beq_eq_decide, eq_comm]

theorem borrowedTerms_plus (rest : Text) : borrowedTerms ('+' :: rest)
    = if Text.startsWith "+" rest then '+' :: rest
      else '+' :: rest ++ " " ++ Text.trimStart rest := by
  unfold borrowedTerms
  rw [startsWith_plus]
  by_cases h : rest.head? = some '+' <;> simp [OnePlus, h]

theorem borrowedTerms_other {linkText : Text} (h : ∀ rest, linkText ≠ '+' :: rest) :
    borrowedTerms linkText = linkText := by
  rw [borrowedTerms_eq_self_iff]
  rintro ⟨hhead, -⟩
  obtain ⟨rest, rfl⟩ := List.head?_eq_some_iff.1 hhead
  exact h rest rfl

/-- Terms that are missing are those that the link text gives. -/
theorem search_without_terms (linkText : Text) (trigger : Option Text) (refTitle : Bool) :
    search linkText trigger [] refTitle
      = { linkText, trigger, terms := borrowedTerms linkText, modifiers := { refTitle } } := by
  have hraw : dropOuterQuotes [] = [] := rfl
  have hterms : Text.trim (dropModifiers []) = [] := rfl
  unfold search
  simp only [hraw, hterms, List.isEmpty_nil, Bool.not_true, Bool.and_false, Bool.false_eq_true,
    ↓reduceIte]
  split
  · next rest =>
    rw [borrowedTerms_plus]
    rfl
  · next hother =>
    rw [borrowedTerms_other hother]
    rfl

/-- **Without terms the link text is searched for**, on a line of its own or not.
It is searched for as it is unless it begins with one plus sign. -/
theorem read_sole_trigger_iff {linkText trigger : Text}
    (hlinkText : Text.isBlankText linkText = false) (htrigger : Text.Alphanumeric trigger)
    (wholeLine : Bool) :
    ∃ d, read linkText ('!' :: trigger) wholeLine = .search d
      ∧ d.linkText = linkText ∧ d.trigger = some trigger ∧ d.modifiers = {}
      ∧ (d.terms = linkText ↔ ¬ OnePlus linkText)
      ∧ (OnePlus linkText → d.terms = linkText ++ " " ++ Text.trimStart linkText.tail) := by
  have htrim : Text.trim ('!' :: trigger) = '!' :: trigger :=
    Text.trim_eq_self rfl (getLast?_trigger_any htrigger fun _ => Text.isBlank_of_alphanumeric)
  have hquoted : takeQuoted linkText ('!' :: trigger) = (linkText, '!' :: trigger) := by
    simp [takeQuoted, hlinkText]
  have hnote : note? ('!' :: trigger) = none := rfl
  have hcolon : Text.endsWith ":" ('!' :: trigger) = false :=
    endsWith_trigger htrigger (c := ':') rfl (Text.sign_not_alphanumeric (by decide))
  have hslash : Text.endsWith "/" ('!' :: Text.leadingWord trigger) = false :=
    (leadingWord_trigger htrigger).symm ▸
      endsWith_trigger htrigger (c := '/') rfl (Text.sign_not_alphanumeric (by decide))
  have hempty : ('!' :: trigger).isEmpty = false := rfl
  have hread : read linkText ('!' :: trigger) wholeLine
      = .search (search linkText (some trigger) [] false) := by
    unfold read
    simp only [htrim, hquoted, hnote, hcolon, hlinkText, isLinkTarget_marked hslash, hempty,
      splitTrigger?_trigger htrigger, Bool.and_false, Bool.false_and, Bool.false_eq_true,
      ↓reduceIte]
  refine ⟨_, hread, ?_⟩
  rw [search_without_terms]
  refine ⟨rfl, rfl, rfl, borrowedTerms_eq_self_iff, fun h => ?_⟩
  exact if_pos h

/-- A link text with a sign of every rule, and a plus sign that is not its first
character. -/
theorem read_sole_trigger_signs :
    Text.isBlankText " +\x22%^!!:" = false ∧ Text.Alphanumeric "wiki"
      ∧ ∃ d, read " +\x22%^!!:" "!wiki" true = .search d ∧ d.terms = " +\x22%^!!:"
        ∧ d.modifiers = {} := by
  have hlinkText : Text.isBlankText " +\x22%^!!:" = false := by decide
  have htrigger : Text.Alphanumeric "wiki" := by decide +kernel
  obtain ⟨d, hread, -, -, hmodifiers, hterms, -⟩ :=
    read_sole_trigger_iff hlinkText htrigger true
  exact ⟨hlinkText, htrigger, d, hread, hterms.2 (by decide), hmodifiers⟩

/-- A link text with a plus sign in front is searched for twice over. -/
theorem plus_added_to_itself :
    Text.isBlankText "+1 button" = false ∧ Text.Alphanumeric "g"
      ∧ read "+1 button" "!g" false = .search
        { linkText := "+1 button", trigger := some "g", terms := "+1 button 1 button"
          modifiers := {} } := by
  decide +kernel

end InlineSearch.Directive
