/-
InlineSearch.Proofs.Provider.PageOrder — whether the order of pages decides which
article is found.

The pages of an answer are kept by their numbers, of several with one number the
last, and gone through in an order that is not fixed (`Finds`). So every article of
a page may be the one that is found, wherever its page stands in the answer
(`exists_order_of_mem`), and none may be found only where another page can take the
place of each (`exists_order_of_replaced`).

* `order_irrelevant_iff` — for which answers the order does not matter.
* `settled_iff_of_nodup` — where no number is repeated, for those with one article.
* `order_decides` — for which it does.
-/
import InlineSearch.Proofs.Json.Record
import InlineSearch.Proofs.Json.RoundTrip
import InlineSearch.Provider.Encyclopedia
import Mathlib.Data.List.Nodup

namespace InlineSearch.Provider.Encyclopedia

open Json (Slot Str)

variable {entries ordered : List (Text × Page)} {article : Text × Text} {v v' : Json}

/-! ## Pages by their numbers -/

/-- The address and the title of a page with an article. -/
def Page.article? (page : Page) : Option (Text × Text) :=
  if page.missing then none else page.url.map (·, page.title)

theorem article?_eq (entries : List (Text × Page)) :
    article? entries = (lastPages entries).findSome? Page.article? := rfl

theorem exists_number_of_mem {page : Page} (h : page ∈ lastPages entries) :
    ∃ number, (number, page) ∈ entries := by
  induction entries with
  | nil => cases h
  | cons entry rest ih =>
    rw [lastPages] at h
    split at h
    · obtain ⟨number, hin⟩ := ih h
      exact ⟨number, List.mem_cons_of_mem _ hin⟩
    · rcases List.mem_cons.1 h with rfl | h
      · exact ⟨entry.1, List.mem_cons_self ..⟩
      · obtain ⟨number, hin⟩ := ih h
        exact ⟨number, List.mem_cons_of_mem _ hin⟩

/-- Of every number a page is kept. -/
theorem exists_page_of_mem {entry : Text × Page} (h : entry ∈ entries) :
    ∃ page ∈ lastPages entries, (entry.1, page) ∈ entries := by
  induction entries generalizing entry with
  | nil => cases h
  | cons first rest ih =>
    rw [lastPages]
    split
    · next hagain =>
      -- The first entry has the number of a later one, which is kept in its place.
      obtain ⟨later, hlater, hnumber⟩ : ∃ later ∈ rest, later.1 = entry.1 := by
        rcases List.mem_cons.1 h with rfl | h
        · simpa using hagain
        · exact ⟨entry, h, rfl⟩
      obtain ⟨page, hkept, hin⟩ := ih hlater
      exact ⟨page, hkept, List.mem_cons_of_mem _ (hnumber ▸ hin)⟩
    · rcases List.mem_cons.1 h with rfl | h
      · exact ⟨entry.2, List.mem_cons_self .., List.mem_cons_self ..⟩
      · obtain ⟨page, hkept, hin⟩ := ih h
        exact ⟨page, List.mem_cons_of_mem _ hkept, List.mem_cons_of_mem _ hin⟩

/-- Pages behind which there is another one of the same number are not kept. -/
theorem lastPages_append {front back : List (Text × Page)}
    (h : ∀ entry ∈ front, ∃ page, (entry.1, page) ∈ back) :
    lastPages (front ++ back) = lastPages back := by
  induction front with
  | nil => rfl
  | cons entry front ih =>
    obtain ⟨page, hback⟩ := h entry (List.mem_cons_self ..)
    have hagain : (front ++ back).any (·.1 == entry.1) = true :=
      List.any_eq_true.2 ⟨_, List.mem_append_right front hback, by simp⟩
    rw [List.cons_append, lastPages, if_pos hagain]
    exact ih fun entry hin => h entry (List.mem_cons_of_mem _ hin)

/-! ## What may be found -/

/-- The articles of all pages. -/
def articles (entries : List (Text × Page)) : List (Text × Text) :=
  entries.filterMap (·.2.article?)

/-- What may be found if the members of an answer may be in any order, and its pages
may be gone through in any order. -/
def Finds (entries : List (Text × Page)) (found : Option (Text × Text)) : Prop :=
  ∃ (ordered : List (Text × Page)) (pages : List Page), entries.Perm ordered
    ∧ pages.Perm (lastPages ordered) ∧ found = pages.findSome? Page.article?

theorem Finds.mem_articles (h : Finds entries (some article)) : article ∈ articles entries := by
  obtain ⟨ordered, pages, hordered, hpages, hfound⟩ := h
  obtain ⟨page, hin, harticle⟩ := List.exists_of_findSome?_eq_some hfound.symm
  obtain ⟨number, hin⟩ := exists_number_of_mem (hpages.mem_iff.1 hin)
  exact List.mem_filterMap.2 ⟨_, hordered.mem_iff.2 hin, harticle⟩

theorem Finds.replaced (h : Finds entries none) {entry : Text × Page} (hin : entry ∈ entries) :
    ∃ page, (entry.1, page) ∈ entries ∧ page.article? = none := by
  obtain ⟨ordered, pages, hordered, hpages, hfound⟩ := h
  obtain ⟨page, hkept, hnumber⟩ := exists_page_of_mem (hordered.mem_iff.1 hin)
  exact ⟨page, hordered.mem_iff.2 hnumber,
    List.findSome?_eq_none_iff.1 hfound.symm page (hpages.mem_iff.2 hkept)⟩

/-- Every article is found in some order. -/
theorem exists_order_of_mem (h : article ∈ articles entries) :
    ∃ ordered, entries.Perm ordered ∧ article? ordered = some article := by
  obtain ⟨⟨number, page⟩, hin, harticle⟩ := List.mem_filterMap.1 h
  obtain ⟨front, back, rfl⟩ := List.append_of_mem hin
  -- All others of that number go in front of the page, and the rest goes behind it.
  let others := (front ++ back).filter (·.1 == number)
  let rest := (front ++ back).filter (!·.1 == number)
  refine ⟨others ++ (number, page) :: rest, ?_, ?_⟩
  · have hsplit : (others ++ rest).Perm (front ++ back) := List.filter_append_perm ..
    exact List.perm_middle.trans ((hsplit.symm.cons _).trans List.perm_middle.symm)
  · have hothers : ∀ entry ∈ others, ∃ page', (entry.1, page') ∈ (number, page) :: rest := by
      intro entry hentry
      obtain ⟨-, hnumber⟩ := List.mem_filter.1 hentry
      have hnumber : entry.1 = number := by simpa using hnumber
      exact ⟨page, hnumber ▸ List.mem_cons_self ..⟩
    have hrest : rest.any (·.1 == number) = false := by simp [rest]
    rw [article?_eq, lastPages_append hothers, lastPages, if_neg (by simp [hrest])]
    exact List.findSome?_cons_of_isSome (by rw [harticle]; rfl) |>.trans harticle

/-- If another page may take the place of each page with an article, then in some order
nothing is found. -/
theorem exists_order_of_replaced
    (h : ∀ entry ∈ entries, ∃ page, (entry.1, page) ∈ entries ∧ page.article? = none) :
    ∃ ordered, entries.Perm ordered ∧ article? ordered = none := by
  let having := entries.filter (·.2.article?.isSome)
  let others := entries.filter (!·.2.article?.isSome)
  have hothers : ∀ entry ∈ having, ∃ page, (entry.1, page) ∈ others := by
    intro entry hentry
    obtain ⟨page, hin, hnone⟩ := h entry (List.mem_of_mem_filter hentry)
    exact ⟨page, List.mem_filter.2 ⟨hin, by simp [hnone]⟩⟩
  refine ⟨having ++ others, (List.filter_append_perm ..).symm, ?_⟩
  rw [article?_eq, lastPages_append hothers, List.findSome?_eq_none_iff]
  intro page hpage
  obtain ⟨number, hin⟩ := exists_number_of_mem hpage
  simpa using (List.mem_filter.1 hin).2

/-- No order of pages makes a difference. -/
structure Settled (entries : List (Text × Page)) : Prop where
  /-- There is only one article to be found. -/
  one : ∀ article ∈ articles entries, ∀ article' ∈ articles entries, article = article'
  /-- If there is one, then all pages of some number have it. -/
  kept : articles entries ≠ [] →
    ∃ entry ∈ entries, ∀ page, (entry.1, page) ∈ entries → page.article? ≠ none

theorem Settled.unique (h : Settled entries) {found found' : Option (Text × Text)}
    (hfound : Finds entries found) (hfound' : Finds entries found') : found = found' := by
  have kept {article} (ha : Finds entries (some article)) : ¬ Finds entries none := by
    intro hnone
    obtain ⟨entry, hin, hall⟩ := h.kept (List.ne_nil_of_mem ha.mem_articles)
    obtain ⟨page, hpage, hno⟩ := hnone.replaced hin
    exact hall page hpage hno
  cases found with
  | none => cases found' with
    | none => rfl
    | some article' => exact absurd hfound (kept hfound')
  | some article => cases found' with
    | none => exact absurd hfound' (kept hfound)
    | some article' => rw [h.one _ hfound.mem_articles _ hfound'.mem_articles]

theorem settled_of_orders
    (h : ∀ ordered, entries.Perm ordered → article? ordered = article? entries) :
    Settled entries where
  one := by
    intro article harticle article' harticle'
    obtain ⟨ordered, hperm, hfound⟩ := exists_order_of_mem harticle
    obtain ⟨ordered', hperm', hfound'⟩ := exists_order_of_mem harticle'
    rw [h _ hperm] at hfound
    rw [h _ hperm', hfound] at hfound'
    exact Option.some.inj hfound'
  kept := by
    intro hne
    by_contra hno
    push Not at hno
    obtain ⟨article, harticle⟩ := List.exists_mem_of_ne_nil _ hne
    obtain ⟨ordered, hperm, hfound⟩ := exists_order_of_mem harticle
    obtain ⟨ordered', hperm', hnone⟩ := exists_order_of_replaced hno
    rw [h _ hperm] at hfound
    rw [h _ hperm', hfound] at hnone
    cases hnone

/-- If no number is repeated, only pages with different articles make the order matter. -/
theorem settled_iff_of_nodup (h : (entries.map Prod.fst).Nodup) : Settled entries
    ↔ ∀ article ∈ articles entries, ∀ article' ∈ articles entries, article = article' := by
  refine ⟨Settled.one, fun hone => ⟨hone, fun hne => ?_⟩⟩
  obtain ⟨article, harticle⟩ := List.exists_mem_of_ne_nil _ hne
  obtain ⟨entry, hin, hfound⟩ := List.mem_filterMap.1 harticle
  refine ⟨entry, hin, fun page hpage hnone => ?_⟩
  have hsame : (entry.1, page) = entry := List.inj_on_of_nodup_map h hpage hin rfl
  rw [← hsame, hnone] at hfound
  cases hfound

/-! ## Answers -/

/-- An answer with pages in it. -/
def document (outer inner : Slot) (pages : List (Str × Json)) : Json :=
  outer.fill "query" (inner.fill "pages" (.obj pages))

theorem pagesDecoder_eq (v : Json) : pagesDecoder v = (Json.record ["pages"] v).bind fun query =>
    query.withDefault "pages" [] (Json.entries pageDecoder) := rfl

theorem answerDecoder_eq (v : Json) : answerDecoder v = (Json.record ["query"] v).bind fun answer =>
    (answer.optional "query" pagesDecoder).map (·.getD []) := by
  simp only [answerDecoder, Option.map_eq_bind]
  rfl

theorem pagesDecoder_fill (inner : Slot) :
    (∀ pages, pagesDecoder (inner.fill "pages" (.obj pages)) = none)
      ∨ ∀ pages, pagesDecoder (inner.fill "pages" (.obj pages))
          = Json.entries pageDecoder (.obj pages) := by
  rcases Json.record_fill "pages" inner with hinner | ⟨positional, hinner⟩
  · exact .inl fun pages => by rw [pagesDecoder_eq, hinner, Option.bind_none]
  · refine .inr fun pages => ?_
    rw [pagesDecoder_eq, hinner, Option.bind_some, Json.withDefault_alone]

/-- Either what stands around the pages makes for no answer, or they are all that is
read. -/
theorem answerDecoder_document (outer inner : Slot) :
    (∀ pages, answerDecoder (document outer inner pages) = none)
      ∨ ∀ pages, answerDecoder (document outer inner pages)
          = Json.entries pageDecoder (.obj pages) := by
  rcases Json.record_fill "query" outer with houter | ⟨positional, houter⟩
  · exact .inl fun pages => by rw [document, answerDecoder_eq, houter, Option.bind_none]
  have hread (pages : List (Str × Json)) : answerDecoder (document outer inner pages)
      = pagesDecoder (inner.fill "pages" (.obj pages)) := by
    rw [document, answerDecoder_eq, houter, Option.bind_some, Json.optional_alone,
      Json.nullable_fill]
    simp
  simp only [hread]
  exact pagesDecoder_fill inner

/-- An answer with entries has them in an object. -/
theorem exists_document (h : answerDecoder v = some entries) (hne : entries ≠ []) :
    ∃ outer inner pages, v = document outer inner pages
      ∧ Json.entries pageDecoder (.obj pages) = some entries := by
  rw [answerDecoder_eq] at h
  obtain ⟨answer, hanswer, h⟩ := Option.bind_eq_some_iff.1 h
  obtain ⟨listed, hlisted, rfl⟩ := Option.map_eq_some_iff.1 h
  obtain ⟨entries, rfl⟩ : ∃ entries, listed = some entries := by
    cases listed with
    | none => exact absurd rfl hne
    | some entries => exact ⟨entries, rfl⟩
  obtain ⟨query, hvalue, hquery⟩ := Json.exists_of_optional hlisted
  obtain ⟨outer, rfl⟩ := Json.exists_slot hanswer hvalue
  obtain ⟨record, hrecord, hquery⟩ := Option.bind_eq_some_iff.1 hquery
  obtain ⟨pages, hvalue, hpages⟩ := Json.exists_of_withDefault hquery hne
  obtain ⟨inner, rfl⟩ := Json.exists_slot hrecord hvalue
  obtain ⟨pages, rfl⟩ := Json.exists_of_entries hpages
  exact ⟨outer, inner, pages, rfl, hpages⟩

/-- The same answer but for the order of its pages. -/
def Reordered (v v' : Json) : Prop :=
  ∃ outer inner pages pages', pages.Perm pages'
    ∧ v = document outer inner pages ∧ v' = document outer inner pages'

/-- What is read in an answer, if it can be read. -/
def answered (v : Json) : Option (Option (Text × Text)) := (answerDecoder v).map article?

/-- What may be read in an answer if its pages may be gone through in any order. -/
def MayRead (v : Json) (found : Option (Option (Text × Text))) : Prop :=
  match answerDecoder v with
  | none => found = none
  | some entries => ∃ pages : List Page, pages.Perm (lastPages entries)
      ∧ found = some (pages.findSome? Page.article?)

theorem mayRead_answered (v : Json) : MayRead v (answered v) := by
  unfold MayRead answered
  cases answerDecoder v with
  | none => rfl
  | some entries => exact ⟨_, .refl _, rfl⟩

theorem Reordered.answers (h : Reordered v v') :
    (answerDecoder v = none ∧ answerDecoder v' = none)
      ∨ ∃ entries entries', answerDecoder v = some entries ∧ answerDecoder v' = some entries'
        ∧ entries.Perm entries' := by
  obtain ⟨outer, inner, pages, pages', hperm, rfl, rfl⟩ := h
  rcases answerDecoder_document outer inner with hnone | hread
  · exact .inl ⟨hnone pages, hnone pages'⟩
  rw [hread, hread]
  cases h : Json.entries pageDecoder (.obj pages) with
  | some entries =>
    obtain ⟨entries', h', hentries⟩ := Json.entries_perm hperm h
    exact .inr ⟨entries, entries', rfl, h', hentries⟩
  | none =>
    cases h' : Json.entries pageDecoder (.obj pages') with
    | none => exact .inl ⟨rfl, rfl⟩
    | some entries' =>
      obtain ⟨entries, hentries, -⟩ := Json.entries_perm hperm.symm h'
      rw [h] at hentries
      cases hentries

/-- For every order of the entries there is an answer that has them in it. -/
theorem exists_reordered (h : answerDecoder v = some entries) (hne : entries ≠ [])
    (hperm : entries.Perm ordered) : ∃ v', Reordered v v' ∧ answerDecoder v' = some ordered := by
  obtain ⟨outer, inner, pages, rfl, hpages⟩ := exists_document h hne
  obtain ⟨pages', hpages', hordered⟩ := Json.exists_perm_of_entries hpages hperm
  rcases answerDecoder_document outer inner with hnone | hread
  · rw [hnone] at h
    cases h
  · exact ⟨_, ⟨outer, inner, pages, pages', hpages', rfl, rfl⟩, by rw [hread, hordered]⟩

theorem MayRead.finds {found : Option (Option (Text × Text))} (h : MayRead v found)
    (hv : answerDecoder v = some ordered) (hperm : entries.Perm ordered) :
    ∃ article?, found = some article? ∧ Finds entries article? := by
  rw [MayRead, hv] at h
  obtain ⟨pages, hpages, hfound⟩ := h
  exact ⟨_, hfound, ordered, pages, hperm, hpages, rfl⟩

theorem mayRead_unique (hsettled : ∀ entries, answerDecoder v = some entries → Settled entries)
    (hv : Reordered v v') {found found' : Option (Option (Text × Text))}
    (hfound : MayRead v found) (hfound' : MayRead v' found') : found = found' := by
  rcases hv.answers with ⟨hnone, hnone'⟩ | ⟨entries, entries', hentries, hentries', hperm⟩
  · rw [MayRead, hnone] at hfound
    rw [MayRead, hnone'] at hfound'
    exact hfound.trans hfound'.symm
  · obtain ⟨article, rfl, harticle⟩ := hfound.finds hentries (.refl _)
    obtain ⟨article', rfl, harticle'⟩ := hfound'.finds hentries' hperm
    rw [(hsettled entries hentries).unique harticle harticle']

theorem settled_of_answered (h : ∀ v', Reordered v v' → answered v' = answered v)
    (hv : answerDecoder v = some entries) : Settled entries := by
  apply settled_of_orders
  intro ordered hperm
  by_cases hne : entries = []
  · rw [hne] at hperm ⊢
    rw [hperm.symm.eq_nil]
  · obtain ⟨v', hreordered, hv'⟩ := exists_reordered hv hne hperm
    have hread := h v' hreordered
    rw [answered, answered, hv, hv'] at hread
    exact Option.some.inj hread

/-- The order of pages in an answer decides nothing, in whichever order they are gone
through, exactly if the pages leave no choice; the same holds if the pages are gone
through as they stand in the answer. -/
theorem order_irrelevant_iff (v : Json) :
    ((∀ v' found found', Reordered v v' → MayRead v found → MayRead v' found' → found = found')
        ↔ ∀ entries, answerDecoder v = some entries → Settled entries)
      ∧ ((∀ v', Reordered v v' → answered v' = answered v)
        ↔ ∀ entries, answerDecoder v = some entries → Settled entries) := by
  have hread (h : ∀ entries, answerDecoder v = some entries → Settled entries) (v' : Json)
      (hv : Reordered v v') : answered v' = answered v :=
    (mayRead_unique h hv (mayRead_answered v) (mayRead_answered v')).symm
  refine ⟨⟨fun h entries hv => settled_of_answered (fun v' hv' => ?_) hv, ?_⟩,
    ⟨fun h entries hv => settled_of_answered h hv, hread⟩⟩
  · exact (h v' _ _ hv' (mayRead_answered v) (mayRead_answered v')).symm
  · intro hsettled v' found found' hv hfound hfound'
    exact mayRead_unique hsettled hv hfound hfound'

/-- A page as an answer lists it. -/
def listed (number title url : Text) : Str × Json :=
  (some number, .obj [(some "title", .str (some title)), (some "fullurl", .str (some url))])

/-- An answer that lists pages. -/
def listing (pages : List (Str × Json)) : Json :=
  document (.member [] []) (.member [] []) pages

/-- An answer that lists two pages of one number is answered by the second of them, and one
that lists pages of two numbers may be answered by either. -/
theorem order_decides :
    Json.parse? ("\x7b\x22query\x22:\x7b\x22pages\x22:\x7b"
        ++ "\x221\x22:\x7b\x22title\x22:\x22A\x22,\x22fullurl\x22:\x22a\x22\x7d,"
        ++ "\x221\x22:\x7b\x22title\x22:\x22B\x22,\x22fullurl\x22:\x22b\x22\x7d\x7d\x7d\x7d")
      = some (listing [listed "1" "A" "a", listed "1" "B" "b"])
    ∧ Json.parse? ("\x7b\x22query\x22:\x7b\x22pages\x22:\x7b"
        ++ "\x221\x22:\x7b\x22title\x22:\x22B\x22,\x22fullurl\x22:\x22b\x22\x7d,"
        ++ "\x221\x22:\x7b\x22title\x22:\x22A\x22,\x22fullurl\x22:\x22a\x22\x7d\x7d\x7d\x7d")
      = some (listing [listed "1" "B" "b", listed "1" "A" "a"])
    ∧ Reordered (listing [listed "1" "A" "a", listed "1" "B" "b"])
      (listing [listed "1" "B" "b", listed "1" "A" "a"])
    ∧ answered (listing [listed "1" "A" "a", listed "1" "B" "b"])
      = some (some (("b" : Text), ("B" : Text)))
    ∧ answered (listing [listed "1" "B" "b", listed "1" "A" "a"])
      = some (some (("a" : Text), ("A" : Text)))
    ∧ MayRead (listing [listed "1" "A" "a", listed "2" "B" "b"])
      (some (some (("a" : Text), ("A" : Text))))
    ∧ MayRead (listing [listed "1" "A" "a", listed "2" "B" "b"])
      (some (some (("b" : Text), ("B" : Text)))) := by
  have parse (v : Json) (t : Text) (hprint : Json.print v = t)
      (htextual : Json.isTextual v = true) : Json.parse? t = some v := by
    rw [← hprint, Json.parse?_print htextual]
  refine ⟨?_, ?_, ?_, ?_, ?_, ?_, ?_⟩
  · exact parse _ _ (by decide +kernel) (by decide +kernel)
  · exact parse _ _ (by decide +kernel) (by decide +kernel)
  · exact ⟨_, _, _, _, .swap .., rfl, rfl⟩
  · decide +kernel
  · decide +kernel
  · exact mayRead_answered _
  · exact ⟨[_, _], .swap .., rfl⟩

end InlineSearch.Provider.Encyclopedia
