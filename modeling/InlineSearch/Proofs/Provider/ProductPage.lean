/-
InlineSearch.Proofs.Provider.ProductPage — the product that a partner link names.

The URL of a product page has the id of the product behind `dp/` or behind
`gp/product/`, and a reference and a query may follow it. A reader takes what
stands behind `dp/` or `gp/` up to the query for the id (`bareProduct?_start`). So
a folder in front of the id and a reference behind it are part of what it takes.
Where the URL has a slug, it ends at the first of these folders
(`splitInLine?_slug`). Where it has none, one is looked for all the same, and
another folder that stands later, be it in the query, ends it.

* `same_product_linked_iff` — for which pages the link names the same product.
-/
import InlineSearch.Proofs.Text.Phrase
import InlineSearch.Proofs.Text.Search
import InlineSearch.Provider.Web
import Mathlib.Data.Option.Basic

namespace InlineSearch.Provider.Web

open Search (Site)

/-! ## Addresses of products -/

/-- The two kinds of product pages. -/
inductive PageKind where
  | dp
  | gp
deriving DecidableEq, Repr

namespace PageKind

/-- The letter of a kind. -/
def letter : PageKind → Char
  | dp => 'd'
  | gp => 'g'

/-- The folder of a kind. -/
def folder (kind : PageKind) : Text := kind.letter :: "p/"

/-- What stands between the folder and the id. -/
def inner : PageKind → Text
  | dp => []
  | gp => "product/"

end PageKind

/-- Whether a character belongs to a URL in front of its fragment. -/
def isUrlChar (c : Char) : Bool := c != '#' && c != '\n'

/-- The address of a product page. -/
structure ProductUrl where
  slug : Option Text
  kind : PageKind
  id : Text
  reference : Option Text
  query : Option Text
  slug_chars : ∀ t ∈ slug, ∀ c ∈ t, isUrlChar c = true ∧ c ≠ '?' ∧ c ≠ '/'
  alphanumeric_id : Text.Alphanumeric id
  reference_chars : ∀ t ∈ reference, ∀ c ∈ t, isUrlChar c = true ∧ c ≠ '?'
  query_chars : ∀ t ∈ query, ∀ c ∈ t, isUrlChar c = true

namespace ProductUrl

/-- The slug and the slash behind it. -/
def slugText (u : ProductUrl) : Text :=
  match u.slug with
  | some slug => slug ++ "/"
  | none => []

/-- The slash and the name in front of a reference, and the reference. -/
def referenceText (u : ProductUrl) : Text :=
  match u.reference with
  | some reference => "/ref=" ++ reference
  | none => []

/-- The question mark and the query behind it. -/
def queryText (u : ProductUrl) : Text :=
  match u.query with
  | some query => '?' :: query
  | none => []

/-- What stands behind the folder, up to the query. -/
def tail (u : ProductUrl) : Text := u.kind.inner ++ u.id ++ u.referenceText

/-- What stands behind the slug. -/
def page (u : ProductUrl) : Text := u.kind.folder ++ (u.tail ++ u.queryText)

/-- The URL of the page. -/
def text (u : ProductUrl) : Text := "https://www.amazon.com/" ++ (u.slugText ++ u.page)

end ProductUrl

/-- The path of a URL: what stands behind its host, up to the query or the
fragment. -/
def pathOf (url : Text) : Text :=
  match Text.cut "://" url with
  | some (_, rest) =>
    (rest.dropWhile fun c => c != '/' && c != '?' && c != '#').takeWhile fun c =>
      c != '?' && c != '#'
  | none => []

/-- The path of the link to a product. -/
def linkPath (kind : PageKind) (id : Text) : Text :=
  "/" ++ (kind.folder ++ ("product/" ++ id ++ "/ref=as_li_ss_tl"))

/-! ## Folders -/

variable {kind : PageKind} {id t : Text}

/-- The product that a folder behind a slash names. -/
def productInFolder? (t : Text) : Option (Char × Text) := (Text.dropPrefix? "/" t).bind bareProduct?

/-- The id is what stands behind the folder, up to a question mark. -/
theorem bareProduct?_folder (kind : PageKind) (hne : id ≠ []) (hid : '?' ∉ id)
    (ht : t.head?.any (· != '?') = false) :
    bareProduct? (kind.folder ++ (id ++ t)) = some (kind.letter, id) := by
  have hall : id.all (· != '?') = true := by
    rw [List.all_eq_true]
    exact fun c hc => bne_iff_ne.2 fun heq => hid (heq ▸ hc)
  have htaken : (id ++ t).takeWhile (· != '?') = id := Text.takeWhile_append_stop hall ht
  have hsome : id.isEmpty = false := List.isEmpty_eq_false_iff.2 hne
  cases kind <;> simp [PageKind.folder, PageKind.letter, bareProduct?, htaken, hsome]

/-- What is read as a product is one of a kind, with an id from the text. -/
theorem exists_kind_of_bareProduct? {letter : Char} (h : bareProduct? t = some (letter, id)) :
    (∃ kind : PageKind, letter = kind.letter) ∧ ∀ c ∈ id, c ∈ t ∧ c ≠ '?' := by
  unfold bareProduct? at h
  split at h
  · next first rest =>
    simp only [Option.bind_eq_bind, Option.bind_eq_some_iff, Option.guard_eq_some', Bool.or_eq_true,
      beq_iff_eq, Option.pure_def, Option.some.injEq, Prod.mk.injEq] at h
    obtain ⟨-, hletter, -, -, rfl, rfl⟩ := h
    refine ⟨?_, fun c hc => ⟨?_, ?_⟩⟩
    · rcases hletter with rfl | rfl
      · exact ⟨.dp, rfl⟩
      · exact ⟨.gp, rfl⟩
    · simp [(List.takeWhile_prefix _).subset hc]
    · simpa using List.mem_takeWhile_imp hc
  · cases h

theorem exists_kind_of_productInFolder? {letter : Char}
    (h : productInFolder? t = some (letter, id)) :
    (∃ kind : PageKind, letter = kind.letter) ∧ ∀ c ∈ id, c ∈ t ∧ c ≠ '?' := by
  obtain ⟨rest, hrest, hproduct⟩ := Option.bind_eq_some_iff.1 h
  obtain ⟨hkind, hid⟩ := exists_kind_of_bareProduct? hproduct
  rw [Text.dropPrefix?_eq_some_iff.1 hrest]
  exact ⟨hkind, fun c hc => ⟨List.mem_append_right _ (hid c hc).1, (hid c hc).2⟩⟩

theorem productOfPath?_eq (path : Text) : productOfPath? path
    = match Text.splitInLine? productInFolder? path with
      | some (slug, letter, id) => some ⟨some slug, letter, id⟩
      | none => (bareProduct? path).map fun (letter, id) => ⟨none, letter, id⟩ := rfl

/-- A slug ends at the folder behind it. -/
theorem splitInLine?_slug {slug : Text} (hslug : ∀ c ∈ slug, isUrlChar c = true ∧ c ≠ '?' ∧ c ≠ '/')
    {letter : Char} (h : bareProduct? t = some (letter, id)) :
    Text.splitInLine? productInFolder? (slug ++ '/' :: t) = some (slug, letter, id) := by
  have hfirst : Text.splitFirst? productInFolder? (slug ++ '/' :: t) = some (slug, letter, id) := by
    refine Text.splitFirst?_append (fun suf hsuf hne => ?_) ?_
    · obtain ⟨c, suf, rfl⟩ := List.exists_cons_of_ne_nil hne
      have hc := (hslug c (hsuf.subset (List.mem_cons_self ..))).2.2
      simp [productInFolder?, Text.dropPrefix?, hc.symm]
    · simp [productInFolder?, Text.dropPrefix?, h]
  have hline : slug.all (· != '\n') = true := by
    rw [List.all_eq_true]
    intro c hc
    have hchar := (hslug c hc).1
    simp only [isUrlChar, Bool.and_eq_true] at hchar
    exact hchar.2
  simp [Text.splitInLine?, hfirst, hline]

/-! ## The product of a URL -/

namespace ProductUrl

variable (u : ProductUrl)

theorem mem_tail {c : Char} (h : c ∈ u.tail) : isUrlChar c = true ∧ c ≠ '?' := by
  have hinner : u.kind.inner.all (fun d => isUrlChar d && d != '?') = true := by
    cases u.kind <;> rfl
  have hname : "/ref=".toList.all (fun d => isUrlChar d && d != '?') = true := rfl
  simp only [tail, List.mem_append] at h
  rcases h with (h | h) | h
  · simpa using List.all_eq_true.1 hinner c h
  · have hc := u.alphanumeric_id.2 c h
    have hmark : c ≠ '#' := Text.ne_of_alphanumeric hc (by decide +kernel)
    have hfeed : c ≠ '\n' := Text.ne_of_alphanumeric hc (by decide +kernel)
    have hquery : c ≠ '?' := Text.ne_of_alphanumeric hc (by decide +kernel)
    simp [isUrlChar, hmark, hfeed, hquery]
  · unfold referenceText at h
    split at h
    · next reference hreference =>
      rcases List.mem_append.1 h with h | h
      · simpa using List.all_eq_true.1 hname c h
      · exact u.reference_chars reference hreference c h
    · cases h

theorem isUrlChar_of_mem_page {c : Char} (h : c ∈ u.page) : isUrlChar c = true := by
  have hfolder : u.kind.folder.all isUrlChar = true := by cases u.kind <;> rfl
  simp only [page, List.mem_append] at h
  rcases h with h | h | h
  · exact List.all_eq_true.1 hfolder c h
  · exact (u.mem_tail h).1
  · unfold queryText at h
    split at h
    · next query hquery =>
      rcases List.mem_cons.1 h with rfl | h
      · decide
      · exact u.query_chars query hquery c h
    · cases h

theorem bareProduct?_page : bareProduct? u.page = some (u.kind.letter, u.tail) := by
  have hne : u.tail ≠ [] := by simp [tail, u.alphanumeric_id.1]
  have hquery : u.queryText.head?.any (· != '?') = false := by
    unfold queryText
    split <;> rfl
  exact bareProduct?_folder u.kind hne (fun h => (u.mem_tail h).2 rfl) hquery

/-- In the URL of a page without a slug, what a folder names that stands behind a
slash. -/
def later? : Option (Char × Text) :=
  if u.slug.isSome then none else Text.findSuffix? productInFolder? u.page

theorem findSuffix?_of_later? {found : Char × Text} (h : u.later? = some found) :
    Text.findSuffix? productInFolder? u.page = some found := by
  unfold later? at h
  split at h
  · cases h
  · exact h

/-- The letter and the id that are read from the URL. -/
def named : Char × Text := u.later?.getD (u.kind.letter, u.tail)

theorem splitInLine?_page : Text.splitInLine? productInFolder? u.page
    = Text.splitFirst? productInFolder? u.page := by
  refine Text.splitInLine?_eq fun h => ?_
  have hfeed := u.isUrlChar_of_mem_page h
  simp [isUrlChar] at hfeed

theorem exists_productOfPath? : ∃ slug, productOfPath? (u.slugText ++ u.page)
    = some ⟨slug, u.named.1, u.named.2⟩ := by
  rw [productOfPath?_eq]
  cases hslug : u.slug with
  | some slug =>
    have hpath : u.slugText ++ u.page = slug ++ '/' :: u.page := by simp [slugText, hslug]
    have hnamed : u.named = (u.kind.letter, u.tail) := by simp [named, later?, hslug]
    rw [hpath, hnamed, splitInLine?_slug (u.slug_chars slug hslug) u.bareProduct?_page]
    exact ⟨some slug, rfl⟩
  | none =>
    have hpath : u.slugText ++ u.page = u.page := by simp [slugText, hslug]
    have hlater : u.later? = (Text.splitFirst? productInFolder? u.page).map Prod.snd := by
      simp [later?, hslug, Text.findSuffix?]
    rw [hpath, u.splitInLine?_page, named, hlater]
    cases Text.splitFirst? productInFolder? u.page with
    | some found => exact ⟨some found.1, rfl⟩
    | none => exact ⟨none, by simp [u.bareProduct?_page]⟩

/-- The product is read behind the name of the store. -/
theorem exists_findSuffix?_productAt? : ∃ slug, Text.findSuffix? productAt? u.text
    = some ⟨slug, u.named.1, u.named.2⟩ := by
  obtain ⟨slug, hproduct⟩ := u.exists_productOfPath?
  have hsite : productOnSite? ("amazon.com/" ++ (u.slugText ++ u.page))
      = some ⟨slug, u.named.1, u.named.2⟩ := by
    have hdrop : Text.dropPrefix? (Site.amazon.domain ++ "/")
        ("amazon.com/" ++ (u.slugText ++ u.page)) = some (u.slugText ++ u.page) := rfl
    unfold productOnSite?
    rw [hdrop]
    exact hproduct
  have hhost : Text.splitFirst? productOnSite? ("www." ++ ("amazon.com/" ++ (u.slugText ++ u.page)))
      = some ("www.".toList, ⟨slug, u.named.1, u.named.2⟩) := by
    refine Text.splitFirst?_append (fun suf hsuf hne => ?_) hsite
    have hpasses : Text.Passes (Site.amazon.domain ++ "/") "www." := by decide
    unfold productOnSite?
    rw [Text.dropPrefix?_eq_none_iff.2 (hpasses.not_prefix hsuf hne _)]
    rfl
  have hat : productAt? u.text = some ⟨slug, u.named.1, u.named.2⟩ := by
    have hrest : (Text.dropPrefix? "https://" u.text).or (Text.dropPrefix? "http://" u.text)
        = some ("www." ++ ("amazon.com/" ++ (u.slugText ++ u.page))) := rfl
    unfold productAt? Text.splitInLine?
    rw [hrest]
    dsimp only [Option.bind_eq_bind, Option.bind_some]
    rw [hhost]
    rfl
  exact ⟨slug, Text.findSuffix?_append (a := []) (fun suf hsuf hne =>
    absurd (List.suffix_nil.1 hsuf) hne) hat⟩

end ProductUrl

/-! ## Links -/

/-- The path of a URL stands between the host and the query. -/
theorem pathOf_append {scheme host path query : Text} (hscheme : ':' ∉ scheme)
    (hhost : ∀ c ∈ host, c ≠ '/' ∧ c ≠ '?' ∧ c ≠ '#') (hpath : ∀ c ∈ path, c ≠ '?' ∧ c ≠ '#') :
    pathOf (scheme ++ ("://" ++ (host ++ ('/' :: path ++ '?' :: query)))) = '/' :: path := by
  have hcut : Text.cut "://" (scheme ++ ("://" ++ (host ++ ('/' :: path ++ '?' :: query))))
      = some (scheme, host ++ ('/' :: path ++ '?' :: query)) := Text.cut_of_not_mem hscheme _
  have hdropped : (host ++ ('/' :: path ++ '?' :: query)).dropWhile
      (fun c => c != '/' && c != '?' && c != '#') = '/' :: path ++ '?' :: query :=
    Text.dropWhile_append_stop (by simpa [and_assoc] using hhost) rfl
  have htaken : ('/' :: path ++ '?' :: query).takeWhile (fun c => c != '?' && c != '#')
      = '/' :: path := Text.takeWhile_append_stop (by simpa using hpath) rfl
  unfold pathOf
  rw [hcut]
  dsimp only
  rw [hdropped, htaken]

theorem pathOf_tagged {p : Product} (hletter : p.letter = kind.letter)
    (hid : ∀ c ∈ p.id, c ≠ '?' ∧ c ≠ '#') (partner : Text) :
    pathOf (p.tagged partner) = linkPath kind p.id := by
  have htagged : p.tagged partner = "http" ++ ("://" ++ ("www.amazon.com"
      ++ ('/' :: (kind.folder ++ ("product/" ++ p.id ++ "/ref=as_li_ss_tl"))
        ++ '?' :: ("ie=UTF8&linkCode=ll1&tag=" ++ partner)))) := by
    have hstart : "http://www.amazon.com/".toList
        = "http" ++ ("://" ++ ("www.amazon.com" ++ ['/'])) := rfl
    have hend : "/ref=as_li_ss_tl?ie=UTF8&linkCode=ll1&tag=".toList
        = "/ref=as_li_ss_tl" ++ '?' :: "ie=UTF8&linkCode=ll1&tag=" := rfl
    have hinner : "p/product/".toList = "p/" ++ "product/" := rfl
    unfold Product.tagged PageKind.folder
    rw [hstart, hend, hinner, hletter]
    simp only [List.append_assoc, List.cons_append, List.nil_append]
  have hfixed : ∀ c ∈ kind.folder ++ "product/" ++ "/ref=as_li_ss_tl", c ≠ '?' ∧ c ≠ '#' := by
    cases kind <;> simp [PageKind.folder, PageKind.letter]
  have hhost : ∀ c ∈ "www.amazon.com".toList, c ≠ '/' ∧ c ≠ '?' ∧ c ≠ '#' := by simp
  rw [htagged, pathOf_append (by decide) hhost]
  · rfl
  · intro c hc
    simp only [List.mem_append] at hc hfixed
    rcases hc with hc | (hc | hc) | hc
    · exact hfixed c (.inl (.inl hc))
    · exact hfixed c (.inl (.inr hc))
    · exact hid c hc
    · exact hfixed c (.inr hc)

theorem linkPath_inj {kind' : PageKind} {id' : Text} (h : linkPath kind id = linkPath kind' id') :
    id = id' := by
  have hlength : kind.folder.length = kind'.folder.length := rfl
  have hpage := List.append_inj_right (List.append_cancel_left h) hlength
  exact List.append_cancel_left (List.append_cancel_right hpage)

namespace ProductUrl

variable (u : ProductUrl)

/-- What is read from the URL is a kind of page, and an id that ends in front of the
query. -/
theorem exists_kind_of_named : ∃ kind : PageKind, u.named.1 = kind.letter
    ∧ ∀ c ∈ u.named.2, c ≠ '?' ∧ c ≠ '#' := by
  have hfragment : ∀ c, isUrlChar c = true → c ≠ '#' := by
    intro c hc
    simp only [isUrlChar, Bool.and_eq_true, bne_iff_ne] at hc
    exact hc.1
  unfold named
  cases hlater : u.later? with
  | none =>
    exact ⟨u.kind, rfl, fun c hc => ⟨(u.mem_tail hc).2, hfragment c (u.mem_tail hc).1⟩⟩
  | some found =>
    obtain ⟨suf, hsuf, hfound⟩ := Text.exists_of_findSuffix? (u.findSuffix?_of_later? hlater)
    obtain ⟨⟨kind, hkind⟩, hid⟩ := exists_kind_of_productInFolder? hfound
    exact ⟨kind, hkind, fun c hc => ⟨(hid c hc).2,
      hfragment c (u.isUrlChar_of_mem_page (hsuf.subset (hid c hc).1))⟩⟩

/-- The id is all that stands behind the folder where there is no other folder and no
reference. -/
theorem tail_eq_id_iff : u.tail = u.id ↔ u.kind = .dp ∧ u.reference = none := by
  have hinner : u.kind.inner = [] ↔ u.kind = .dp := by cases u.kind <;> decide
  have hreference : u.referenceText = [] ↔ u.reference = none := by
    unfold referenceText
    cases u.reference <;> simp
  rw [← hinner, ← hreference]
  constructor
  · intro h
    have hlength := congrArg List.length h
    simp only [tail, List.length_append] at hlength
    exact ⟨List.length_eq_zero_iff.1 (by omega), List.length_eq_zero_iff.1 (by omega)⟩
  · intro ⟨hi, hr⟩
    simp [tail, hi, hr]

/-- **The pages whose product the link names.** Every product page gets a link. Its
path has the id directly behind the folder `product` and in front of the store's
mark exactly in two cases: the page has the id directly behind `dp`, no reference
behind it and, unless it has a slug, no other folder of a product later in its URL;
or it has no slug, and the first such folder later in its URL has the same id. -/
theorem same_product_linked_iff (partner : Text) :
    ∃ link name, withPartner? partner u.text = some (link, name)
      ∧ ((∃ kind, pathOf link = linkPath kind u.id)
        ↔ (u.later? = none ∧ u.kind = .dp ∧ u.reference = none)
          ∨ u.later?.map Prod.snd = some u.id) := by
  obtain ⟨slug, hproduct⟩ := u.exists_findSuffix?_productAt?
  obtain ⟨kind, hkind, hid⟩ := u.exists_kind_of_named
  have hpath := pathOf_tagged (p := ⟨slug, u.named.1, u.named.2⟩) hkind hid partner
  refine ⟨Product.tagged ⟨slug, u.named.1, u.named.2⟩ partner,
    Product.name? ⟨slug, u.named.1, u.named.2⟩, by rw [withPartner?, hproduct]; rfl, ?_⟩
  rw [hpath]
  have hsame : (∃ kind', linkPath kind u.named.2 = linkPath kind' u.id) ↔ u.named.2 = u.id :=
    ⟨fun ⟨_, h⟩ => linkPath_inj h, fun h => ⟨kind, by rw [h]⟩⟩
  rw [hsame, named]
  cases u.later? with
  | none => simpa using u.tail_eq_id_iff
  | some found => simp

/-- A page with the id behind `gp/product`. -/
def shelved : ProductUrl where
  slug := none
  kind := .gp
  id := "1718500440"
  reference := none
  query := none
  slug_chars := by simp
  alphanumeric_id := by decide +kernel
  reference_chars := by simp
  query_chars := by simp

/-- The folder in front of the id is taken for a part of the id. -/
theorem folder_named_twice :
    shelved.text = "https://www.amazon.com/gp/product/1718500440"
    ∧ ∃ link : Text, withPartner? "partner-20" shelved.text = some (link, none)
      ∧ pathOf link = "/gp/product/product/1718500440/ref=as_li_ss_tl"
      ∧ ∀ kind, pathOf link ≠ linkPath kind shelved.id := by
  refine ⟨by decide, "http://www.amazon.com/gp/product/product/1718500440/ref=as_li_ss_tl"
    ++ "?ie=UTF8&linkCode=ll1&tag=partner-20", by decide +kernel, by decide +kernel, ?_⟩
  intro kind
  cases kind <;> decide +kernel

end ProductUrl

end InlineSearch.Provider.Web
