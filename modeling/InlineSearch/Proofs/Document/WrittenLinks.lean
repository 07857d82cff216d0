/-
InlineSearch.Proofs.Document.WrittenLinks — links as they are written, read
again.

A run writes a link with its target in parentheses, a title included. The
scanner takes the whole of it for one span with the same link text, as long as
no parenthesis closes in the title (`written_link_again_iff`). Then the URL
decides whether the info is a link target.

A later run reads such a span as a link and leaves it where it is. It does so
whatever the title says, but not if the link text is blank: then the title is
taken for the link text, and the rest is no link target any more
(`Directive.read_titled`).
-/
import InlineSearch.Proofs.Directive.LinkTarget
import InlineSearch.Proofs.Document.AtRest
import InlineSearch.Proofs.Document.Brackets
import InlineSearch.Proofs.Document.Reports
import InlineSearch.Proofs.Reference.Visible

namespace InlineSearch

/-! ## Reading a link again -/

namespace Directive

/-- The quotation marks that are taken out for a blank link text are not part of
the scheme. -/
theorem Schemed.takeQuoted {url : Text} (h : Schemed url) (linkText : Text) :
    Schemed (takeQuoted linkText url).2 where
  scheme := by
    unfold Directive.takeQuoted
    split
    · have hstays : ∀ scheme : Text, '\x22' ∉ scheme → scheme <+: url →
          scheme <+: Text.substitute quotedPart id url := by
        rintro scheme hquote ⟨rest, rfl⟩
        refine ⟨_, (Text.substituteFrom_append_of_miss _ _ _ ?_).symm⟩
        intro pre suf hsplit hne taken inner hp
        obtain ⟨c, suf, rfl⟩ := List.exists_cons_of_ne_nil hne
        have hc : c ≠ '\x22' := fun hc => hquote (hsplit ▸ hc ▸ List.mem_append_cons_self)
        simp [quotedPart, hc] at hp
      exact h.scheme.imp (hstays _ (by decide)) (hstays _ (by decide))
    · exact h.scheme
  word := List.all_eq_true.2 fun _ hc => List.all_eq_true.1 h.word _ (mem_of_takeQuoted hc)

/-- **A URL with a scheme is read as a link**, whatever its title says, unless a
blank link text takes the title for itself. -/
theorem read_titled {url t linkText : Text} (h : Schemed url) (ht : Titled t)
    (hblank : Text.isBlankText linkText = true → t = []) (wholeLine : Bool) :
    read linkText (url ++ t) wholeLine = .link := by
  obtain ⟨rest, rfl⟩ := h.exists_cons
  have hends : Text.trim ('h' :: rest ++ t) = 'h' :: rest ++ t :=
    Text.trim_eq_self rfl (ht.getLast?_any h.word)
  -- Either the link text is taken as it is, or there is no title.
  obtain ⟨taken, url, htaken, hurl⟩ : ∃ taken url,
      takeQuoted linkText ('h' :: rest ++ t) = (taken, url ++ t) ∧ Schemed url := by
    cases hlink : Text.isBlankText linkText with
    | true =>
      obtain rfl := hblank hlink
      rw [List.append_nil]
      exact ⟨_, _, by rw [List.append_nil], h.takeQuoted linkText⟩
    | false => exact ⟨linkText, _, by rw [Directive.takeQuoted, hlink], h⟩
  -- The colon of a reference title may be cut off the URL, but not off a title.
  obtain ⟨target, t', hinfo, htarget, ht'⟩ : ∃ target t', (if wholeLine && Text.endsWith ":" (url ++ t)
      then Text.trimEnd (url ++ t).dropLast else url ++ t) = target ++ t'
        ∧ Schemed target ∧ Titled t' := by
    cases hcolon : wholeLine && Text.endsWith ":" (url ++ t) with
    | false => exact ⟨url, t, if_neg (by decide), hurl, ht⟩
    | true =>
      have hcolon := (Bool.and_eq_true_iff.1 hcolon).2
      cases ht with
      | none =>
        rw [List.append_nil] at hcolon ⊢
        have hcut := hurl.dropLast hcolon
        refine ⟨url.dropLast, [], ?_, hcut, .none⟩
        have hlast := Titled.none.getLast?_any hcut.word
        rw [List.append_nil] at hlast
        rw [if_pos rfl, List.append_nil]
        exact Text.dropEndWhile_eq_self hlast
      | @quoted title =>
        have hlast := getLast?_quoted url title
        rw [Text.endsWith_eq_false (c := ':') rfl (by rw [hlast]; decide)] at hcolon
        cases hcolon
  obtain ⟨behind, rfl⟩ := hurl.exists_cons
  obtain ⟨behind', rfl⟩ := htarget.exists_cons
  have hnote : note? ('h' :: behind ++ t) = none := rfl
  have hnamed : Text.isBlankText (dropTriggerWord ('h' :: behind' ++ t')) = false := rfl
  unfold read
  rw [hends, htaken]
  dsimp only
  rw [hnote]
  dsimp only
  rw [hinfo, hnamed, Bool.and_false, if_neg (by decide), htarget.isLinkTarget ht', if_pos rfl]

end Directive

/-! ## Links as they are written -/

namespace Reference

theorem titled_titlePart (title : Option Text) : Directive.Titled (titlePart title) := by
  unfold titlePart
  split
  · next written htitle =>
    obtain ⟨title, -, rfl⟩ := Option.map_eq_some_iff.1 (Option.eq_some_of_filter_eq_some htitle)
    have hquoted : " \x22" ++ titleText title ++ "\x22"
        = ' ' :: '\x22' :: (titleText title ++ ['\x22']) := by simp
    rw [hquoted]
    exact .quoted (quote_not_mem_titleText title) (feed_not_mem_titleText title)
  · exact .none

/-- The URL of a web page: a scheme in any case, no blanks and no parentheses. -/
structure PageUrl (url : Text) : Prop where
  scheme : Text.startsWith "http://" (Text.lowerAscii url) = true
    ∨ Text.startsWith "https://" (Text.lowerAscii url) = true
  word : url.all (!Text.isBlank ·) = true
  unparenthesised : '(' ∉ url ∧ ')' ∉ url

theorem PageUrl.exists_cons {url : Text} (h : PageUrl url) :
    ∃ c rest, url = c :: rest ∧ c.toLower = 'h' ∧ rest ≠ [] := by
  have hlower : ∃ d later, Text.lowerAscii url = 'h' :: d :: later := by
    rcases h.scheme with h | h
    · obtain ⟨rest, hrest⟩ := List.isPrefixOf_iff_prefix.1 h
      exact ⟨_, _, hrest.symm⟩
    · obtain ⟨rest, hrest⟩ := List.isPrefixOf_iff_prefix.1 h
      exact ⟨_, _, hrest.symm⟩
  obtain ⟨d, later, hlower⟩ := hlower
  obtain ⟨c, rest, rfl, hc, hrest⟩ := List.map_eq_cons_iff.1 hlower
  exact ⟨c, rest, rfl, hc, by rintro rfl; cases hrest⟩

/-- Whether a page URL is a link target is decided by its scheme in small letters,
or else by a slash at its end or a dot inside. -/
theorem PageUrl.isLinkTarget_iff {url t : Text} (h : PageUrl url) (ht : Directive.Titled t) :
    Directive.isLinkTarget (url ++ t) = true
      ↔ Text.startsWith "http://" url = true ∨ Text.startsWith "https://" url = true
        ∨ Text.endsWith "/" url = true ∨ Directive.hasInnerDot url.tail = true := by
  have hlonger : ∀ p, Directive.isLongerThan p url = true → Text.startsWith p url = true := by
    intro p hp
    cases hdrop : Text.dropPrefix? p url with
    | none => simp [Directive.isLongerThan, hdrop] at hp
    | some rest => exact List.isPrefixOf_iff_prefix.2 ⟨rest, (Text.dropPrefix?_eq_some_iff.1 hdrop).symm⟩
  have hscheme : Text.startsWith "http://" url = true ∨ Text.startsWith "https://" url = true →
      Directive.isLinkTarget (url ++ t) = true := fun hscheme =>
    Directive.Schemed.isLinkTarget ⟨hscheme.imp List.isPrefixOf_iff_prefix.1
      List.isPrefixOf_iff_prefix.1, h.word⟩ ht
  obtain ⟨c, rest, rfl, hc, hrest⟩ := h.exists_cons
  have hne : ∀ d : Char, d.toLower ≠ 'h' → c ≠ d := fun d hd hcd => hd (hcd ▸ hc)
  have htarget := Directive.isLinkTarget_append h.word (hne '#' (by decide)) (hne '!' (by decide)) ht
  have hroot : Directive.isLongerThan "/" (c :: rest) = false := by
    rw [Bool.eq_false_iff]
    intro hp
    exact hne '/' (by decide) (List.cons_prefix_cons.1 (List.isPrefixOf_iff_prefix.1 (hlonger _ hp))).1.symm
  constructor
  · intro h
    rw [htarget, hroot] at h
    simp only [Bool.or_false, Bool.or_eq_true, Bool.and_eq_true] at h
    rcases h with ((h | h) | ⟨-, h⟩) | h
    · exact .inl (hlonger _ h)
    · exact .inr (.inl (hlonger _ h))
    · exact .inr (.inr (.inl h))
    · exact .inr (.inr (.inr h))
  · rintro (h | h | h | h)
    · exact hscheme (.inl h)
    · exact hscheme (.inr h)
    · have hlong : (c :: rest).length ≥ 2 := by
        rw [List.length_cons]
        exact Nat.succ_le_succ (List.length_pos_iff.2 hrest)
      rw [htarget, h, decide_eq_true hlong]
      simp
    · rw [htarget, show Directive.hasInnerDot rest = true from h, Bool.or_true]

/-! ### As spans -/

theorem inlineLink_eq (text url : Text) (title : Option Text) :
    inlineLink text url title = Span.text ⟨[], text, url ++ titlePart title⟩ := by
  simp [inlineLink, Span.text]

theorem feed_not_mem_inlineLink {text url : Text} (htext : '\n' ∉ text) (hurl : PageUrl url)
    (title : Option Text) : '\n' ∉ inlineLink text url title := by
  have hfeed : '\n' ∉ url := fun hmem => absurd (List.all_eq_true.1 hurl.word _ hmem) (by decide)
  rw [inlineLink_eq]
  simp [Span.text, htext, hfeed, feed_not_mem_titlePart]

end Reference

namespace Span

/-- A span on a line of its own is found as it is. -/
theorem inLine_text {linkText info : Text} (hlink : ']' ∉ linkText) (hinfo : ')' ∉ info) :
    inLine [] (text ⟨[], linkText, info⟩) = [⟨[], linkText, info⟩] := by
  obtain ⟨found, hfirst, hfound⟩ :=
    first?_of_parts (p := []) (by decide) hlink hinfo [] []
  obtain rfl : found = linkText := (List.cons.inj hfound).2
  rw [List.nil_append, List.append_nil] at hfirst
  rw [inLine_of_first? hfirst, inLine_of_none rfl]
  rfl

/-- A span that fills its line is what stands there. -/
theorem text_of_fills {line : Text} {s : Span} (h : s ∈ inLine [] line) (hstart : s.start = 0)
    (hstop : s.stop = Text.bytes line) : s.text = line := by
  have hnil : ∀ t : Text, Text.bytes t = 0 → t = [] := by
    intro t ht
    cases t with
    | nil => rfl
    | cons c t =>
      have hpos := c.utf8Size_pos
      rw [Text.bytes_cons] at ht
      omega
  obtain ⟨gap, rest, hbefore, hline⟩ := exists_split_of_mem h
  rw [List.nil_append] at hbefore
  have hgap : gap = [] := hnil gap (hbefore ▸ hstart)
  have hrest : rest = [] := by
    rw [stop, hstart, hline, hgap, Text.bytes_append, Text.bytes_append] at hstop
    refine hnil rest ?_
    rw [Text.bytes_nil] at hstop
    omega
  rw [hline, hgap, hrest, List.nil_append, List.append_nil]

/-- The parts of a span are those that it is written with. -/
theorem Cut.parts_of_text {s : Span} (h : s.Cut) {linkText info : Text} (hlink : ']' ∉ linkText)
    (htext : s.text = text ⟨[], linkText, info⟩) : s.linkText = linkText ∧ s.info = info := by
  have hopened : s.linkText ++ ("](" : Text) ++ (s.info ++ ")")
      = linkText ++ ("](".toList ++ (info ++ ")")) := by
    simpa [text] using htext
  have hcut : Text.cut "](" (linkText ++ ("](".toList ++ (info ++ ")")))
      = some (linkText, info ++ ")") := Text.cut_of_not_mem hlink _
  have hturn := h.turn (s.info ++ ")")
  rw [hopened, hcut] at hturn
  obtain ⟨hlinkText, hinfo⟩ := Prod.mk.inj (Option.some.inj hturn)
  exact ⟨hlinkText.symm, (List.append_cancel_right hinfo).symm⟩

/-- What is written as a span is read as one exactly if no parenthesis closes in
its info. -/
theorem read_as_written_iff {linkText info : Text} (hlink : ']' ∉ linkText)
    (hfeed : '\n' ∉ text ⟨[], linkText, info⟩) (holds : Text → Bool) :
    (∃ s, inText (text ⟨[], linkText, info⟩) = [s] ∧ s.start = 0
        ∧ s.stop = Text.bytes (text ⟨[], linkText, info⟩) ∧ s.linkText = linkText
        ∧ holds s.info = true)
      ↔ ')' ∉ info ∧ holds info = true := by
  rw [inText_of_line hfeed]
  constructor
  · rintro ⟨s, hspans, hstart, hstop, -, hholds⟩
    have hmem : s ∈ inLine [] (text ⟨[], linkText, info⟩) := hspans ▸ List.mem_singleton_self s
    have hcut := cut_of_mem hmem
    obtain ⟨-, hinfo⟩ := hcut.parts_of_text hlink (text_of_fills hmem hstart hstop)
    exact ⟨hinfo ▸ hcut.parts.2, hinfo ▸ hholds⟩
  · rintro ⟨hclosed, hholds⟩
    exact ⟨⟨[], linkText, info⟩, inLine_text hlink hclosed, rfl, Nat.zero_add _, rfl, hholds⟩

end Span

/-! ## In a later run -/

namespace Document

open Reference (PageUrl inlineLink titlePart)

/-- A span with a URL and its title as its info stays on its line. -/
theorem stays_of_titled {url t : Text} (hurl : Directive.Schemed url) (ht : Directive.Titled t)
    {s : Span} (hinfo : s.info = url ++ t)
    (hblank : Text.isBlankText s.linkText = true → t = []) (line : Text) : s.Stays line := by
  obtain ⟨rest, rfl⟩ := hurl.exists_cons
  obtain ⟨t', hstrip, ht', hnone⟩ :=
    Directive.exists_strip_titled hurl.word (by decide) (by decide) ht
  refine .inr ?_
  rw [hinfo, hstrip]
  exact Directive.read_titled hurl ht' (fun h => hnone (hblank h)) _

/-- A link that is written with a scheme in small letters stays in every run that
meets it, unless its text is blank and it has a title. -/
theorem written_link_stays {text url : Text} {title : Option Text} (htext : ']' ∉ text)
    (hurl : Directive.Schemed url) (hblank : Text.isBlankText text = true → titlePart title = [])
    {σ : Type} {l : Linker σ} {input : Text} {s : σ} {t : Step} (ht : t ∈ Run.steps l input s)
    (hwritten : t.planned.span.text = inlineLink text url title) :
    (t.planned.action = .inlineCode ∨ t.planned.action = .link)
      ∧ ∃ line, (Run.lines input)[t.planned.line]? = some line
        ∧ (Run.draft l input s).deleted.contains t.planned.line = false
        ∧ inlineLink text url title <:+: Edit.apply
          (((Run.draft l input s).edits.filter (·.1 == t.planned.line)).map Prod.snd) line := by
  obtain ⟨line, span, scope, -, hspan, hplan⟩ :=
    exists_planSpan_of_mem l.resolver.registry l.config (planned_of_mem ht)
  have hsame : span.text = Span.text ⟨[], text, url ++ titlePart title⟩ := by
    rw [← Reference.inlineLink_eq, ← hwritten, hplan, span_planSpan]
  obtain ⟨hlink, hinfo⟩ := (Span.cut_of_mem hspan).parts_of_text htext hsame
  have hstays := stays_of_titled hurl (Reference.titled_titlePart title) hinfo
    (fun h => hblank (hlink ▸ h)) line
  have haction : t.planned.action = .inlineCode ∨ t.planned.action = .link := by
    rw [hplan]
    exact (planSpan_stays_iff _).2 hstays
  have hunwritten := Step.unwritten_of_stays haction
  exact ⟨haction, hwritten ▸ text_stays ht hunwritten.edit hunwritten.dropsLine⟩

/-- **Links as they are written, read again.** The scanner takes the whole of a
link for one span, and its info for a link target, exactly if no parenthesis
closes in the title, and the URL has its scheme in small letters, a slash at its
end or a dot inside. -/
theorem written_link_again_iff {text url : Text} {title : Option Text}
    (htext : '[' ∉ text ∧ ']' ∉ text ∧ '\n' ∉ text) (hurl : PageUrl url) :
    ((∃ s, Span.inText (inlineLink text url title) = [s] ∧ s.start = 0
        ∧ s.stop = Text.bytes (inlineLink text url title) ∧ s.linkText = text
        ∧ Directive.isLinkTarget s.info = true)
      ↔ ')' ∉ titlePart title
        ∧ (Text.startsWith "http://" url = true ∨ Text.startsWith "https://" url = true
          ∨ Text.endsWith "/" url = true ∨ Directive.hasInnerDot url.tail = true))
    ∧ (Text.startsWith "http://" url = true ∨ Text.startsWith "https://" url = true →
      (Text.isBlankText text = true → titlePart title = []) →
      ∀ {σ : Type} (l : Linker σ) (input : Text) (s : σ), ∀ t ∈ Run.steps l input s,
        t.planned.span.text = inlineLink text url title →
          (t.planned.action = .inlineCode ∨ t.planned.action = .link)
          ∧ ∃ line, (Run.lines input)[t.planned.line]? = some line
            ∧ (Run.draft l input s).deleted.contains t.planned.line = false
            ∧ inlineLink text url title <:+: Edit.apply
              (((Run.draft l input s).edits.filter (·.1 == t.planned.line)).map Prod.snd) line) := by
  have hfeed := Reference.feed_not_mem_inlineLink htext.2.2 hurl title
  have hinfo : ')' ∉ url ++ titlePart title ↔ ')' ∉ titlePart title := by
    rw [List.mem_append, not_or, and_iff_right hurl.unparenthesised.2]
  constructor
  · rw [Reference.inlineLink_eq] at hfeed
    rw [← hurl.isLinkTarget_iff (Reference.titled_titlePart title), ← hinfo, Reference.inlineLink_eq]
    exact Span.read_as_written_iff htext.2.1 hfeed _
  · intro hscheme hblank σ l input s t ht hwritten
    have hschemed : Directive.Schemed url :=
      ⟨hscheme.imp List.isPrefixOf_iff_prefix.1 List.isPrefixOf_iff_prefix.1, hurl.word⟩
    exact written_link_stays htext.2.1 hschemed hblank ht hwritten

/-- A title with quotes, a bar and a flag. -/
theorem written_link_again_with_title :
    let url : Text := "https://example.org/i"
    let written := inlineLink "x" url (some "The ++i operator | \"docs\"")
    written = "[x](https://example.org/i \"The ++i operator - &quot;docs&quot;\")".toList
      ∧ PageUrl url
      ∧ (∃ s, Span.inText written = [s] ∧ s.start = 0 ∧ s.stop = Text.bytes written
        ∧ s.linkText = ['x'] ∧ Directive.isLinkTarget s.info = true)
      ∧ ∀ t ∈ Run.steps pageLinker written (), t.planned.span.text = written →
        t.planned.action = .inlineCode ∨ t.planned.action = .link := by
  intro url written
  have hurl : PageUrl url := ⟨.inr (by decide), by decide, by decide⟩
  obtain ⟨hread, hlater⟩ := @written_link_again_iff ['x'] url
    (some "The ++i operator | \"docs\"".toList) (by decide) hurl
  refine ⟨by decide +kernel, hurl, hread.2 ⟨by decide +kernel, .inr (.inl (by decide))⟩, ?_⟩
  exact fun t ht hwritten => (hlater (.inr (by decide)) (fun h => absurd h (by decide)) pageLinker _ ()
    t ht hwritten).1

/-- A title with parentheses ends the span, and what is left of the URL and the
title is searched for by the next run. -/
theorem written_link_cut_by_title :
    let written := inlineLink "x" "https://example.org" (some "A (b)")
    written = "[x](https://example.org \"A (b)\")".toList
      ∧ Span.inText written = [⟨[], "x", "https://example.org \"A (b"⟩]
      ∧ Directive.isLinkTarget "https://example.org \"A (b" = false
      ∧ (link pageLinker written ()).1.output ≠ written := by
  decide +kernel

/-- A blank link text gives way to the title. -/
theorem written_link_without_text :
    let written := inlineLink [] "https://example.org" (some "A")
    Span.inText written = [⟨[], [], "https://example.org \"A\""⟩]
      ∧ Directive.isLinkTarget "https://example.org \"A\"" = true
      ∧ (link pageLinker written ()).1.output ≠ written := by
  decide +kernel

end Document

end InlineSearch
