/-
InlineSearch.Proofs.Reference.Title — titles that are safe behind a URL.

A title is safe (`SafeTitle`) if it holds no double quote, no bar, no line
feed and no tracking parameter, and neither begins nor ends with a blank.
Cleaning a title passes over it six times, each time over what the pass
before has left (`title_safe`). A pass that takes characters out may put what
stood around them together. So for each pass it is shown that it ends words:
then a parameter in its result stood in its input, or its mark is new.

The one thing that is also taken out of a safe title is a question mark that
introduces nothing (`Dangles`).
-/
import InlineSearch.Proofs.Reference.Visible
import InlineSearch.Proofs.Text.Origin
import InlineSearch.Proofs.Text.Trim

namespace InlineSearch.Reference

/-! ## Tracking parameters -/

/-- The name of a tracking parameter, behind `utm_`. -/
def TrackingName (name : Text) : Prop := name ≠ [] ∧ name.all isTrackingChar = true

/-- A tracking parameter without its mark and its value. -/
def parameter (name : Text) : Text := "utm_" ++ name ++ "="

/-- Whether a text holds a tracking parameter behind a mark. -/
def Tracks (mark : Char) (t : Text) : Prop :=
  ∃ name, TrackingName name ∧ mark :: parameter name <:+: t

/-- What the name of a parameter goes on with, and the sign that ends it. -/
def isParameterChar (c : Char) : Bool := isTrackingChar c || c == '='

/-- What the value of a parameter goes on with. -/
def isValueChar (c : Char) : Bool := c != '&' && !Text.isBlank c

theorem all_parameter {name : Text} (h : TrackingName name) :
    (parameter name).all isParameterChar = true := by
  have hname : name.all isParameterChar = true :=
    List.all_eq_true.2 fun c hc => by rw [isParameterChar, List.all_eq_true.1 h.2 c hc]; rfl
  have hends : ("utm_" : Text).all isParameterChar = true
      ∧ ("=" : Text).all isParameterChar = true := by decide
  rw [parameter, List.all_append, List.all_append, hends.1, hname, hends.2]
  rfl

theorem not_isParameterChar_of_isBlank {c : Char} (h : Text.isBlank c = true) :
    isParameterChar c = false := by
  cases hparameter : isParameterChar c with
  | false => rfl
  | true =>
    rw [Text.isBlank_eq_false_of (by decide) hparameter] at h
    cases h

/-- Nor does a parameter go on behind its value. -/
theorem head?_any_isParameterChar {t : Text} (h : t.head?.any isValueChar = false) :
    t.head?.any isParameterChar = false := by
  cases t with
  | nil => rfl
  | cons c t =>
    rw [List.head?_cons, Option.any_some] at h ⊢
    rw [isValueChar, Bool.and_eq_false_iff, bne_eq_false_iff_eq, Bool.not_eq_false'] at h
    rcases h with rfl | hblank
    · decide
    · exact not_isParameterChar_of_isBlank hblank

theorem afterTracking?_eq_some_iff {mark : Char} {t rest : Text} :
    afterTracking? mark t = some rest ↔ ∃ name value, TrackingName name
      ∧ value.all isValueChar = true ∧ rest.head?.any isValueChar = false
      ∧ t = mark :: (parameter name ++ value ++ rest) := by
  simp only [afterTracking?, Option.bind_eq_bind, Option.bind_eq_some_iff,
    Text.dropPrefix?_eq_some_iff, Option.guard_eq_some', Option.pure_def, Option.some.injEq]
  constructor
  · rintro ⟨opened, rfl, -, hhead, behind, hname, rfl⟩
    refine ⟨opened.takeWhile isTrackingChar, behind.takeWhile isValueChar, ⟨?_, List.all_takeWhile⟩,
      List.all_takeWhile, Text.head?_dropWhile_any _ behind, ?_⟩
    · cases opened with
      | nil => simp at hhead
      | cons c opened =>
        rw [List.takeWhile_cons_of_pos (by simpa using hhead)]
        simp
    · have hopened : opened.takeWhile isTrackingChar ++ '=' :: behind = opened := by
        rw [← List.singleton_append, ← show "=".toList = ['='] from rfl, ← hname]
        exact List.takeWhile_append_dropWhile
      have hvalue : behind.takeWhile isValueChar ++ behind.dropWhile isValueChar = behind :=
        List.takeWhile_append_dropWhile
      calc mark :: "utm_".toList ++ opened
          = mark :: "utm_".toList ++ (opened.takeWhile isTrackingChar ++ '=' :: behind) := by
            rw [hopened]
        _ = mark :: (parameter (opened.takeWhile isTrackingChar) ++ behind.takeWhile isValueChar
              ++ behind.dropWhile isValueChar) := by
            rw [List.append_assoc, hvalue, parameter]
            simp
  · rintro ⟨name, value, ⟨hne, hname⟩, hvalue, hrest, rfl⟩
    refine ⟨name ++ "=" ++ value ++ rest, by simp [parameter], (), ?_, value ++ rest, ?_, ?_⟩
    · obtain ⟨c, name, rfl⟩ := List.exists_cons_of_ne_nil hne
      simp only [List.all_cons, Bool.and_eq_true] at hname
      simp [hname.1]
    · rw [List.append_assoc, List.append_assoc]
      exact Text.dropWhile_append_stop hname rfl
    · exact Text.dropWhile_append_stop hvalue hrest

/-- What follows a parameter, and no other character, is left of the text from
its mark on. -/
theorem drop_of_afterTracking? {mark : Char} {t rest : Text} (h : afterTracking? mark t = some rest) :
    rest <:+ t ∧ rest.length < t.length ∧ rest.head?.any isValueChar = false := by
  obtain ⟨name, value, -, -, hrest, rfl⟩ := afterTracking?_eq_some_iff.1 h
  refine ⟨⟨mark :: (parameter name ++ value), by simp⟩, ?_, hrest⟩
  simp only [List.length_cons, List.length_append]
  omega

/-- A parameter is found wherever one begins. -/
theorem exists_afterTracking? {mark : Char} {name t : Text} (hname : TrackingName name)
    (h : mark :: parameter name <+: t) : ∃ rest, afterTracking? mark t = some rest := by
  obtain ⟨behind, rfl⟩ := h
  refine ⟨behind.dropWhile isValueChar, afterTracking?_eq_some_iff.2 ⟨name,
    behind.takeWhile isValueChar, hname, List.all_takeWhile, Text.head?_dropWhile_any _ behind, ?_⟩⟩
  rw [List.append_assoc, List.takeWhile_append_dropWhile, List.cons_append]

theorem afterTracking?_eq_none {mark : Char} {t suf : Text} (h : ¬ Tracks mark t) (hsuf : suf <:+ t) :
    afterTracking? mark suf = none := by
  refine Option.eq_none_iff_forall_ne_some.2 fun rest hrest => h ?_
  obtain ⟨name, value, hname, -, -, rfl⟩ := afterTracking?_eq_some_iff.1 hrest
  refine ⟨name, hname, List.IsInfix.trans ⟨[], value ++ rest, ?_⟩ hsuf.isInfix⟩
  simp

theorem head?_of_parameter {name t : Text} (h : parameter name <+: t) : t.head? = some 'u' := by
  obtain ⟨rest, rfl⟩ := h
  rfl

theorem Tracks.of_infix {mark : Char} {t u : Text} (h : Tracks mark t) (htu : t <:+: u) :
    Tracks mark u := by
  obtain ⟨name, hname, hinfix⟩ := h
  exact ⟨name, hname, hinfix.trans htu⟩

/-! ## What a pass leaves of them -/

/-- Whether a mark stands in a text so that the text behind it may begin a
parameter. -/
def mayIntroduce (mark : Char) : Text → Bool
  | [] => false
  | c :: t => (c == mark && t.head?.all (· == 'u')) || mayIntroduce mark t

theorem head?_of_mayIntroduce {mark : Char} {u v : Text}
    (h : mayIntroduce mark (u ++ mark :: v) = false) : v.head?.all (· == 'u') = false := by
  induction u with
  | nil =>
    rw [List.nil_append, mayIntroduce, Bool.or_eq_false_iff, beq_self_eq_true, Bool.true_and] at h
    exact h.1
  | cons c u ih =>
    rw [List.cons_append, mayIntroduce, Bool.or_eq_false_iff] at h
    exact ih h.2

section

variable {α : Type} {p : Text.Pattern α} {f : α → Text} {mark : Char} {t : Text}

/-- A pass that ends words, and after whose marks no parameter begins, makes no
new parameter. -/
theorem Tracks.of_substitute (h : Tracks mark (Text.substitute p f t))
    (hends : Text.EndsWords p f isParameterChar)
    (hput : ∀ a, mayIntroduce mark (f a) = false) : Tracks mark t := by
  obtain ⟨name, hname, hinfix⟩ := h
  cases Text.origin_of_infix hends (all_parameter hname) hinfix with
  | kept pre suf parts stands miss =>
    exact ⟨name, hname, stands.isInfix.trans (List.IsSuffix.isInfix ⟨_, parts.symm⟩)⟩
  | @put pre suf u v taken a parts hit mark_in goes_on =>
    have hv := head?_of_mayIntroduce (mark_in ▸ hput a)
    cases v with
    | nil => cases hv
    | cons c v =>
      rw [show c = 'u' from Option.some.inj (head?_of_parameter goes_on)] at hv
      cases hv

end

theorem endsWords_laterTracking :
    Text.EndsWords laterTracking (fun _ => []) isParameterChar := by
  intro before t taken a hp
  simp only [laterTracking, Option.bind_eq_bind, Option.bind_eq_some_iff, Option.pure_def,
    Option.some.injEq, Prod.mk.injEq] at hp
  obtain ⟨rest, hrest, htaken, -⟩ := hp
  obtain ⟨hsuf, -, hhead⟩ := drop_of_afterTracking? hrest
  rw [List.nil_append, ← htaken, ← List.suffix_iff_eq_drop.1 hsuf]
  exact head?_any_isParameterChar hhead

theorem not_tracks_remove_laterTracking (t : Text) : ¬ Tracks '&' (Text.remove laterTracking t) := by
  rintro ⟨name, hname, hinfix⟩
  cases Text.origin_of_infix endsWords_laterTracking (all_parameter hname) hinfix with
  | kept pre suf parts stands miss =>
    obtain ⟨rest, hrest⟩ := exists_afterTracking? hname stands
    have hlt := (drop_of_afterTracking? hrest).2.1
    refine miss (suf.length - rest.length - 1) () ?_
    rw [laterTracking, hrest, Nat.sub_add_cancel (by omega)]
    rfl
  | put pre suf parts hit mark_in goes_on => simp at mark_in

theorem endsWords_firstTracking :
    Text.EndsWords firstTracking (fun _ => "?") isParameterChar := fun _ _ _ _ _ => rfl

/-- What follows a first parameter begins with the next one, or with what ends
a value. -/
theorem firstTracking_eq_some {before : Option Char} {t : Text} {n : Nat} {u : Unit}
    (h : firstTracking before t = some (n, u)) : ('&' :: t.drop n <:+: t)
      ∨ (t.drop n).head?.any isValueChar = false := by
  simp only [firstTracking, Option.bind_eq_bind, Option.bind_eq_some_iff, Option.pure_def,
    Option.some.injEq, Prod.mk.injEq] at h
  obtain ⟨rest, hrest, rfl, -⟩ := h
  obtain ⟨hsuf, -, hhead⟩ := drop_of_afterTracking? hrest
  cases hnext : Text.dropPrefix? "&" rest with
  | none => exact .inr (by rwa [Option.getD_none, ← List.suffix_iff_eq_drop.1 hsuf])
  | some next =>
    obtain rfl := Text.dropPrefix?_eq_some_iff.1 hnext
    have hnext : next <:+ t := (List.suffix_append _ next).trans hsuf
    refine .inl ?_
    rw [Option.getD_some, ← List.suffix_iff_eq_drop.1 hnext]
    exact hsuf.isInfix

/-- The mark that is put in for a first parameter introduces no other one, once
there are no later ones. -/
theorem not_tracks_substitute_firstTracking {t : Text} (h : ¬ Tracks '&' t) :
    ¬ Tracks '?' (Text.substitute firstTracking (fun _ => "?") t) := by
  rintro ⟨name, hname, hinfix⟩
  cases Text.origin_of_infix endsWords_firstTracking (all_parameter hname) hinfix with
  | kept pre suf parts stands miss =>
    obtain ⟨rest, hrest⟩ := exists_afterTracking? hname stands
    obtain ⟨-, hlt, -⟩ := drop_of_afterTracking? hrest
    have hnext : ((Text.dropPrefix? "&" rest).getD rest).length ≤ rest.length := by
      cases hnext : Text.dropPrefix? "&" rest with
      | none => exact Nat.le_refl _
      | some next =>
        rw [Text.dropPrefix?_eq_some_iff.1 hnext, Option.getD_some, List.length_append]
        omega
    refine miss (suf.length - ((Text.dropPrefix? "&" rest).getD rest).length - 1) () ?_
    rw [firstTracking, hrest, Nat.sub_add_cancel (by omega)]
    rfl
  | @put pre suf u v taken a parts hit mark_in goes_on =>
    have hv : v = [] := by
      rcases List.append_eq_singleton_iff.1 mark_in.symm with ⟨-, hv⟩ | ⟨-, hv⟩
      · exact (List.cons.inj hv).2
      · cases hv
    rw [hv, List.nil_append] at goes_on
    rcases firstTracking_eq_some hit with hlater | hend
    · have hparameter : '&' :: parameter name <:+: suf :=
        (List.cons_prefix_cons.2 ⟨rfl, goes_on⟩).isInfix.trans hlater
      exact h ⟨name, hname, hparameter.trans (List.IsSuffix.isInfix ⟨pre, parts.symm⟩)⟩
    · rw [head?_of_parameter goes_on] at hend
      exact absurd hend (by decide)

theorem danglingMark_eq_some_iff {before : Option Char} {t : Text} {n : Nat} {u : Unit} :
    danglingMark before t = some (n, u)
      ↔ n = 1 ∧ ∃ rest, t = '?' :: rest ∧ rest.head?.all Text.isBlank = true := by
  unfold danglingMark
  split
  · next rest =>
    by_cases hrest : rest.head?.all Text.isBlank = true
    · rw [if_pos hrest]
      constructor
      · intro h
        obtain ⟨rfl, -⟩ := Prod.mk.inj (Option.some.inj h)
        exact ⟨rfl, rest, rfl, hrest⟩
      · rintro ⟨rfl, -⟩
        rfl
    · rw [if_neg hrest]
      simp only [reduceCtorEq, false_iff]
      rintro ⟨-, _, ⟨⟩, hblank⟩
      exact hrest hblank
  · next hne =>
    simp only [reduceCtorEq, false_iff]
    rintro ⟨-, rest, rfl, -⟩
    exact hne rest rfl

theorem endsWords_danglingMark : Text.EndsWords danglingMark (fun _ => []) isParameterChar := by
  intro before t taken a hp
  obtain ⟨htaken, rest, rfl, hrest⟩ := danglingMark_eq_some_iff.1 hp
  rw [htaken, List.nil_append, List.drop_one, List.tail_cons]
  cases rest with
  | nil => rfl
  | cons c rest => exact not_isParameterChar_of_isBlank hrest

theorem Tracks.of_replaceAll {mark c : Char} {new t : Text} (h : Tracks mark (Text.replaceAll [c] new t))
    (hhead : new.head?.any (!isParameterChar ·) = true)
    (hput : mayIntroduce mark new = false) : Tracks mark t := by
  rw [Text.replaceAll_singleton] at h
  refine h.of_substitute (fun _ _ _ _ _ => ?_) fun _ => hput
  cases new with
  | nil => cases hhead
  | cons d new => simpa using hhead

/-! ## Safe titles -/

/-- Whether a title is safe behind a URL, in double quotes on its line. -/
structure SafeTitle (t : Text) : Prop where
  no_quote : '\x22' ∉ t
  no_bar : '|' ∉ t
  no_feed : '\n' ∉ t
  head : t.head?.any Text.isBlank = false
  last : t.getLast?.any Text.isBlank = false
  no_first : ¬ Tracks '?' t
  no_later : ¬ Tracks '&' t

/-- Whether a question mark stands before a blank or at the end. -/
def Dangles (t : Text) : Prop :=
  ∃ pre rest, t = pre ++ '?' :: rest ∧ rest.head?.all Text.isBlank = true

theorem not_tracks_titleText (title : Text) :
    ¬ Tracks '?' (titleText title) ∧ ¬ Tracks '&' (titleText title) := by
  let broken := Text.substitute lineBreak (fun _ => " ") (Text.trim title)
  let later := Text.remove laterTracking broken
  let first := Text.substitute firstTracking (fun _ => "?") later
  have hlater : ¬ Tracks '&' later := not_tracks_remove_laterTracking broken
  have hfirst : ¬ Tracks '?' first := not_tracks_substitute_firstTracking hlater
  have hfirst' : ¬ Tracks '&' first := fun h =>
    hlater (h.of_substitute endsWords_firstTracking fun _ => rfl)
  -- The passes behind these put in no mark, but for the sign of a written quote.
  have hbehind : ∀ mark, mark = '?' ∨ mark = '&' → Tracks mark (titleText title) →
      Tracks mark first := by
    intro mark hmark h
    have hbar : mayIntroduce mark "-" = false := by rcases hmark with rfl | rfl <;> rfl
    have hquote : mayIntroduce mark "&quot;" = false := by rcases hmark with rfl | rfl <;> rfl
    have hmarked := ((h.of_infix (Text.isInfix_trim _)).of_replaceAll rfl hbar).of_replaceAll rfl hquote
    exact hmarked.of_substitute endsWords_danglingMark fun _ => rfl
  exact ⟨fun h => hfirst (hbehind '?' (.inl rfl) h), fun h => hfirst' (hbehind '&' (.inr rfl) h)⟩

theorem bar_not_mem_titleText (title : Text) : '|' ∉ titleText title := by
  intro h
  unfold titleText at h
  exact Text.not_mem_replaceAll (by decide) _ (Text.mem_trim h)

theorem safeTitle_titleText (title : Text) : SafeTitle (titleText title) where
  no_quote := quote_not_mem_titleText title
  no_bar := bar_not_mem_titleText title
  no_feed := feed_not_mem_titleText title
  head := Text.head?_trim_any _
  last := Text.getLast?_trim_any _
  no_first := (not_tracks_titleText title).1
  no_later := (not_tracks_titleText title).2

/-! ## What cleaning leaves as it is -/

theorem SafeTitle.substitute_lineBreak {t : Text} (h : SafeTitle t) (f : Unit → Text) :
    Text.substitute lineBreak f t = t := by
  refine Text.substitute_eq_self fun before suf hsuf => if_neg fun hfeed => h.no_feed ?_
  rw [List.contains_iff_mem] at hfeed
  exact hsuf.subset ((List.takeWhile_prefix _).subset hfeed)

theorem SafeTitle.remove_laterTracking {t : Text} (h : SafeTitle t) :
    Text.remove laterTracking t = t :=
  Text.substitute_eq_self fun before suf hsuf => by
    rw [laterTracking, afterTracking?_eq_none h.no_later hsuf]
    rfl

theorem SafeTitle.substitute_firstTracking {t : Text} (h : SafeTitle t) (f : Unit → Text) :
    Text.substitute firstTracking f t = t :=
  Text.substitute_eq_self fun before suf hsuf => by
    rw [firstTracking, afterTracking?_eq_none h.no_first hsuf]
    rfl

/-- Of a safe title at most the marks that introduce nothing are taken out. -/
theorem SafeTitle.titleText_eq {t : Text} (h : SafeTitle t) :
    titleText t = Text.trim (Text.remove danglingMark t) := by
  have hquote : '\x22' ∉ Text.remove danglingMark t := fun hmem => h.no_quote (Text.mem_remove hmem)
  have hbar : '|' ∉ Text.remove danglingMark t := fun hmem => h.no_bar (Text.mem_remove hmem)
  simp only [titleText, Text.trim_eq_self h.head h.last, h.substitute_lineBreak,
    h.remove_laterTracking, h.substitute_firstTracking]
  exact congrArg Text.trim
    ((congrArg _ (Text.replaceAll_eq_self hquote _)).trans (Text.replaceAll_eq_self hbar _))

theorem remove_danglingMark_eq_self {t : Text} (h : ¬ Dangles t) :
    Text.remove danglingMark t = t :=
  Text.substitute_eq_self fun before suf hsuf => Option.eq_none_iff_forall_ne_some.2 fun hit hhit => by
    obtain ⟨-, rest, rfl, hrest⟩ := danglingMark_eq_some_iff.1 hhit
    obtain ⟨pre, rfl⟩ := hsuf
    exact h ⟨pre, rest, rfl, hrest⟩

theorem length_remove_danglingMark {t : Text} (h : Dangles t) :
    (Text.remove danglingMark t).length < t.length := by
  obtain ⟨pre, rest, rfl, hrest⟩ := h
  have hmatch : danglingMark (Text.lastOf none pre) ('?' :: rest) = some (0 + 1, ()) :=
    danglingMark_eq_some_iff.2 ⟨rfl, rest, rfl, hrest⟩
  have hhits : 0 < (Text.hits danglingMark (pre ++ '?' :: rest)).length := by
    rcases Text.mem_hits_or_covered (by simp) hmatch with hmem | ⟨u, hmem, -⟩ <;>
      exact List.length_pos_of_mem hmem
  have hlength := Text.length_remove danglingMark (pre ++ '?' :: rest)
  omega

/-- **Cleaned titles are safe**, and of the safe titles cleaning leaves exactly
those as they are in which no question mark dangles. -/
theorem title_safe (title : Text) : SafeTitle (titleText title)
    ∧ (titleText title = title ↔ SafeTitle title ∧ ¬ Dangles title) := by
  refine ⟨safeTitle_titleText title, fun hself => ?_, fun ⟨hsafe, hdangles⟩ => ?_⟩
  · have hsafe : SafeTitle title := hself ▸ safeTitle_titleText title
    refine ⟨hsafe, fun hdangles => ?_⟩
    have hshort := length_remove_danglingMark hdangles
    have htrim := (Text.isInfix_trim (Text.remove danglingMark title)).length_le
    rw [← hsafe.titleText_eq, hself] at htrim
    omega
  · rw [hsafe.titleText_eq, remove_danglingMark_eq_self hdangles,
      Text.trim_eq_self hsafe.head hsafe.last]

/-- Only what a parameter was put in front of dangles. -/
example : titleText " Log | a?utm_source=x&utm_medium=y\n b?" = "Log - a b" := by decide

end InlineSearch.Reference
