/-
InlineSearch.Proofs.Directive.LinkTarget — infos that are a URL and at most a
title.

A run writes a title in double quotes behind the URL, on one line (`Titled`).
The pattern for link targets takes such a title whatever it says, so the URL
alone decides whether the info is a link target (`isLinkTarget_append`).

When the info is read again, what looks like a flag in the title is taken out of
it. The quotes stay, and what is left is a title again (`exists_strip_titled`).
So a URL with a scheme in small letters is read as a link, with the one
exception that a blank link text takes the title for itself (`read_titled`).
-/
import InlineSearch.Directive.Basic
import InlineSearch.Proofs.Directive.Flag
import InlineSearch.Proofs.Text.Origin

namespace InlineSearch.Directive

/-! ## Titles behind a URL -/

/-- Nothing, or a title in double quotes on one line. -/
inductive Titled : Text → Prop
  | none : Titled []
  | quoted {title : Text} (unquoted : '\x22' ∉ title) (unbroken : '\n' ∉ title) :
      Titled (' ' :: '\x22' :: (title ++ ['\x22']))

theorem Titled.head?_any {t : Text} (h : Titled t) : t.head?.any (!Text.isBlank ·) = false := by
  cases h with
  | none => rfl
  | quoted _ _ => rfl

theorem Titled.isTitlePart {t : Text} (h : Titled t) : isTitlePart t = true := by
  cases h with
  | none => rfl
  | @quoted title _ unbroken =>
    have hstart : Text.trimStart (' ' :: '\x22' :: (title ++ ['\x22']))
        = '\x22' :: (title ++ ['\x22']) := rfl
    have hlines : title.all (· != '\n') = true :=
      List.all_eq_true.2 fun c hc => bne_iff_ne.2 fun h => unbroken (h ▸ hc)
    unfold Directive.isTitlePart
    rw [hstart]
    simp [hlines, Text.isBlank]

theorem getLast?_quoted (url title : Text) :
    (url ++ ' ' :: '\x22' :: (title ++ ['\x22'])).getLast? = some '\x22' := by
  rw [← List.cons_append, ← List.cons_append, ← List.append_assoc, List.getLast?_concat]

/-- There is no blank behind a URL and its title. -/
theorem Titled.getLast?_any {url t : Text} (h : Titled t)
    (hword : url.all (!Text.isBlank ·) = true) :
    (url ++ t).getLast?.any Text.isBlank = false := by
  cases h with
  | none =>
    rw [List.append_nil]
    cases hlast : url.getLast? with
    | none => rfl
    | some c => simpa using List.all_eq_true.1 hword c (List.mem_of_getLast? hlast)
  | @quoted title =>
    rw [getLast?_quoted]
    rfl

/-- A URL ends where its title begins. -/
theorem leadingWord_titled {url t : Text} (hword : url.all (!Text.isBlank ·) = true)
    (h : Titled t) : Text.leadingWord (url ++ t) = url ∧ Text.afterWord (url ++ t) = t :=
  ⟨Text.takeWhile_append_stop hword h.head?_any, Text.dropWhile_append_stop hword h.head?_any⟩

theorem isTarget_titled {url t : Text} (hword : url.all (!Text.isBlank ·) = true) (h : Titled t)
    (target : Text → Bool) : isTarget target (url ++ t) = target url := by
  obtain ⟨hlead, hafter⟩ := leadingWord_titled hword h
  rw [isTarget, hlead, hafter, h.isTitlePart, Bool.and_true]

/-- A title has no part in whether an info is a link target. -/
theorem isLinkTarget_append {c : Char} {url t : Text}
    (hword : (c :: url).all (!Text.isBlank ·) = true) (hfragment : c ≠ '#') (hmark : c ≠ '!')
    (h : Titled t) : isLinkTarget (c :: url ++ t)
      = (isLongerThan "http://" (c :: url) || isLongerThan "https://" (c :: url)
        || isLongerThan "/" (c :: url) || (c :: url).length ≥ 2 && Text.endsWith "/" (c :: url)
        || hasInnerDot url) := by
  have hlater : url.all (!Text.isBlank ·) = true := (Bool.and_eq_true_iff.1 hword).2
  have hfirst : (some c == some '#') = false := by simpa using hfragment
  have hsecond : (c != '!') = true := bne_iff_ne.2 hmark
  unfold isLinkTarget
  rw [isTarget_titled hword h, List.cons_append, List.head?_cons, List.tail_cons,
    isTarget_titled hlater h, hfirst, Option.any_some, hsecond, Bool.false_and, Bool.false_or,
    Bool.true_and]

/-! ## URLs with a scheme -/

/-- A word that begins with the scheme of a web page in small letters. -/
structure Schemed (url : Text) : Prop where
  scheme : ("http://" : Text) <+: url ∨ ("https://" : Text) <+: url
  word : url.all (!Text.isBlank ·) = true

namespace Schemed

variable {url : Text} (h : Schemed url)
include h

theorem exists_cons : ∃ rest, url = 'h' :: rest := by
  rcases h.scheme with ⟨rest, rfl⟩ | ⟨rest, rfl⟩
  · exact ⟨_, rfl⟩
  · exact ⟨_, rfl⟩

theorem isLinkTarget {t : Text} (ht : Titled t) : isLinkTarget (url ++ t) = true := by
  have hlonger : ∀ p rest : Text, rest ≠ [] → isLongerThan p (p ++ rest) = true := by
    intro p rest hne
    rw [isLongerThan, Text.dropPrefix?_eq_some_iff.2 rfl, Option.any_some, Bool.not_eq_true',
      List.isEmpty_eq_false_iff]
    exact hne
  obtain ⟨behind, rfl⟩ := h.exists_cons
  rw [isLinkTarget_append h.word (by decide) (by decide) ht]
  rcases h.scheme with ⟨rest, hrest⟩ | ⟨rest, hrest⟩
  · rcases eq_or_ne rest [] with rfl | hne
    · obtain rfl : behind = "ttp://".toList := (List.cons.inj hrest).2.symm
      decide
    · rw [← hrest, hlonger _ rest hne]
      simp
  · rcases eq_or_ne rest [] with rfl | hne
    · obtain rfl : behind = "ttps://".toList := (List.cons.inj hrest).2.symm
      decide
    · rw [← hrest, hlonger _ rest hne]
      simp

/-- A colon at the end of a URL does not belong to its scheme. -/
theorem dropLast (hcolon : Text.endsWith ":" url = true) : Schemed url.dropLast := by
  obtain ⟨front, rfl⟩ := List.isSuffixOf_iff_suffix.1 hcolon
  have hcut : ∀ scheme : Text, scheme.getLast? = some '/' → scheme <+: front ++ [':'] →
      scheme <+: front := by
    intro scheme hlast hprefix
    refine (List.prefix_concat_iff.1 hprefix).resolve_left fun hwhole => ?_
    rw [hwhole, List.getLast?_concat] at hlast
    exact absurd hlast (by decide)
  have hword := h.word
  rw [List.all_append, Bool.and_eq_true] at hword
  have hdrop : (front ++ ":".toList).dropLast = front := List.dropLast_concat
  rw [hdrop]
  exact ⟨h.scheme.imp (hcut _ rfl) (hcut _ rfl), hword.1⟩

end Schemed

/-! ## Flags in a title -/

/-- No flag goes over a quotation mark. -/
theorem quote_not_mem_taken {before : Option Char} {t : Text} {n : Nat} {flags : List Flag}
    (h : Flag.pattern before t = some (n, flags)) : '\x22' ∉ t.take n := by
  obtain ⟨lead, form, rest, hlead, rfl, -, rfl, -⟩ := Flag.pattern_eq_some_iff.1 h
  rw [← List.append_assoc, ← List.length_append, List.take_left, List.mem_append]
  rintro (hmem | hmem)
  · cases hlead with
    | start => cases hmem
    | blank hblank =>
      rw [← List.mem_singleton.1 hmem] at hblank
      exact absurd hblank (by decide)
  · rcases Flag.Form.cases_of_mem_text hmem with h | h | h
    · cases h
    · cases h
    · exact absurd h (by decide +kernel)

section

variable {c : Char} {url : Text} (hword : (c :: url).all (!Text.isBlank ·) = true)
  (hplus : c ≠ '+') (hminus : c ≠ '-')
include hword hplus hminus

omit hplus hminus in
/-- The only blank of a URL with the opening of a title is in front of the
quotation mark. -/
theorem eq_gap_of_blank {gap pre suf : Text} {d : Char} (hgap : gap = [] ∨ gap = [' ', '\x22'])
    (hsplit : c :: url ++ gap = pre ++ d :: suf) (hblank : Text.isBlank d = true) :
    suf = ['\x22'] := by
  have hquote : Text.isBlank '\x22' = false := by decide
  have hbehind : ∀ x, gap = x ++ d :: suf → suf = ['\x22'] := by
    intro x hx
    rcases hgap with rfl | rfl
    · simp at hx
    · rcases x with _ | ⟨e, x⟩
      · exact (List.cons.inj hx).2.symm
      · have hmem : d ∈ ['\x22'] := (List.cons.inj hx).2 ▸ List.mem_append_cons_self
        rw [List.mem_singleton.1 hmem, hquote] at hblank
        cases hblank
  rcases List.append_eq_append_iff.1 hsplit with ⟨x, -, hx⟩ | ⟨x, hurl, hx⟩
  · exact hbehind x hx
  · cases x with
    | nil => exact hbehind [] hx.symm
    | cons e x =>
      have hmem : d ∈ c :: url := by
        rw [hurl, (List.cons.inj hx).1]
        exact List.mem_append_cons_self
      have hnot := List.all_eq_true.1 hword d hmem
      rw [hblank] at hnot
      cases hnot

/-- No flag begins in a URL, or at the blank between it and its title. -/
theorem pattern_miss_url {gap pre suf t : Text} (hgap : gap = [] ∨ gap = [' ', '\x22'])
    (hsplit : c :: url ++ gap = pre ++ suf) (hne : suf ≠ []) (taken : Nat) (flags : List Flag) :
    Flag.pattern (Text.lastOf none pre) (suf ++ t) ≠ some (taken + 1, flags) := by
  intro h
  obtain ⟨lead, form, rest, hlead, htext, -⟩ := Flag.pattern_eq_some_iff.1 h
  obtain ⟨sign, later, hform, hsign⟩ := form.exists_sign
  obtain ⟨d, suf, rfl⟩ := List.exists_cons_of_ne_nil hne
  generalize hlast : Text.lastOf none pre = before at hlead
  rw [hform] at htext
  cases hlead with
  | start =>
    have hpre : pre = [] := by
      by_contra hpre
      obtain ⟨_, e, -, hsome⟩ := Text.exists_lastOf hpre none
      rw [hlast] at hsome
      cases hsome
    subst hpre
    have hc : c = d := (List.cons.inj hsplit).1
    have hd : d = sign := (List.cons.inj htext).1
    rcases hsign with rfl | rfl
    · exact hplus (hc.trans hd)
    · exact hminus (hc.trans hd)
  | blank hblank =>
    have hd := (List.cons.inj htext).1
    have hsuf := eq_gap_of_blank hword hgap hsplit (hd ▸ hblank)
    subst hsuf
    have hquote : '\x22' = sign := (List.cons.inj (List.cons.inj htext).2).1
    rcases hsign with rfl | rfl
    · cases hquote
    · cases hquote

/-- Without a title, a URL has no flags. -/
theorem strip_url : Flag.strip (c :: url) = c :: url := by
  have hwalk := @Text.substituteFrom_append_of_miss _ Flag.pattern (fun _ => [])
    (c :: url) [] none fun pre suf hsplit hne =>
      pattern_miss_url hword hplus hminus (.inl rfl) (by rwa [List.append_nil]) hne
  rw [List.append_nil] at hwalk
  exact hwalk.trans (List.append_nil _)

/-- With the flags taken out a title is still one, and nothing is still nothing. -/
theorem exists_strip_titled {t : Text} (h : Titled t) :
    ∃ t', Flag.strip (c :: url ++ t) = c :: url ++ t' ∧ Titled t' ∧ (t = [] → t' = []) := by
  cases h with
  | none => exact ⟨[], by rw [List.append_nil, strip_url hword hplus hminus], .none, fun _ => rfl⟩
  | @quoted title unquoted unbroken =>
    have hwalk := @Text.substituteFrom_append_of_miss _ Flag.pattern (fun _ => [])
      (c :: url ++ [' ', '\x22']) (title ++ ['\x22']) none fun pre suf =>
        pattern_miss_url hword hplus hminus (.inr rfl)
    obtain ⟨title', htitle, hmem⟩ := Text.exists_substituteFrom_append_cons (f := fun _ => [])
      (fun _ _ _ _ => quote_not_mem_taken) title [] (Text.lastOf none (c :: url ++ [' ', '\x22']))
    have hkept : ∀ d ∈ title', d ∈ title := fun d hd => (hmem d hd).resolve_right (by simp)
    rw [htitle] at hwalk
    refine ⟨' ' :: '\x22' :: (title' ++ ['\x22']), ?_,
      .quoted (fun hd => unquoted (hkept _ hd)) (fun hd => unbroken (hkept _ hd)), by simp⟩
    have hinfo : ∀ title : Text, c :: url ++ ' ' :: '\x22' :: (title ++ ['\x22'])
        = c :: url ++ [' ', '\x22'] ++ (title ++ ['\x22']) := fun title => by simp
    rw [hinfo, hinfo]
    exact hwalk

end

end InlineSearch.Directive
