/-
InlineSearch.Proofs.Query.TypedUrl — queries that are URLs.

A query that is a URL becomes a link to it, whatever the providers are: the
result does not depend on the resolver, and nothing is asked of it
(`resolve_typed_url`).

Whether a URL has a scheme is decided twice, by different means. To recognise
the query, `http://` and `https://` are compared in any case, in the sense of
Unicode. To complete it, only the first four letters are looked at. A URL with
a scheme begins with them (`begins_http_of_hasScheme`), but so may a host name
without one. These hosts are the exception in `typed_url_completed_iff`.
-/
import InlineSearch.Document.Query
import InlineSearch.Proofs.Document.Trace
import InlineSearch.Proofs.Scope
import InlineSearch.Proofs.Text.FoldCase

namespace InlineSearch

/-! ## Schemes -/

/-- Away from `s` and `k` only capitals are variants of a small letter. -/
theorem Text.lowerAscii_of_map_foldChar {t part : Text} (h : t.map foldChar = part)
    (hs : 's' ∉ part) (hk : 'k' ∉ part) : lowerAscii t = part := by
  subst h
  refine List.map_congr_left fun c hc => ?_
  have hfold : foldChar c ∈ t.map foldChar := List.mem_map_of_mem hc
  unfold foldChar at hfold ⊢
  split at hfold
  · exact absurd hfold hs
  · exact absurd hfold hk
  · rfl

namespace Query

/-- Whether a text has the scheme of a web page at its start, in any case. -/
def hasScheme (t : Text) : Bool :=
  (Text.dropFolded? "https://" t).isSome || (Text.dropFolded? "http://" t).isSome

/-- Whether a text begins with the letters `http`, in any case. -/
def beginsHttp (t : Text) : Bool := Text.startsWith "http" (Text.lowerAscii t)

theorem hasScheme_append_https (t : Text) : hasScheme ("https://" ++ t) = true := by
  have hscheme : Text.dropFolded? "https://" ("https://" ++ t) = some t :=
    Text.dropFolded?_eq_some_iff.2 ⟨"https://", rfl, rfl⟩
  rw [hasScheme, hscheme]
  rfl

/-- A text with a scheme begins with the first letters of it. -/
theorem beginsHttp_of_hasScheme {t : Text} (h : hasScheme t = true) : beginsHttp t = true := by
  have hprefix : ("http" : Text) <+: t.map Text.foldChar := by
    rw [hasScheme, Bool.or_eq_true, Text.isSome_dropFolded?_iff, Text.isSome_dropFolded?_iff] at h
    rcases h with h | h
    · exact List.IsPrefix.trans ⟨"s://", rfl⟩ h
    · exact List.IsPrefix.trans ⟨"://", rfl⟩ h
  obtain ⟨rest, hrest⟩ := hprefix
  obtain ⟨start, rest, rfl, hstart, -⟩ := List.map_eq_append_iff.1 hrest.symm
  have hlower := Text.lowerAscii_of_map_foldChar hstart (by decide) (by decide)
  rw [beginsHttp, Text.startsWith, List.isPrefixOf_iff_prefix, Text.lowerAscii, List.map_append]
  exact ⟨rest.map Char.toLower, congrArg (· ++ _) hlower.symm⟩

/-- Whether a URL is what the text `t` asks for: it has a scheme, and is the text
itself or the text behind a scheme. -/
def Completes (t url : Text) : Prop :=
  hasScheme url = true ∧ url = if hasScheme t then t else "https://" ++ t

/-- A text is completed unless it is taken to have a scheme and has none. -/
theorem completes_completeUrl_iff (t : Text) :
    Completes t (completeUrl t) ↔ hasScheme t = true ∨ beginsHttp t = false := by
  have hurl : completeUrl t = if beginsHttp t then t else "https://" ++ t := rfl
  unfold Completes
  cases hscheme : hasScheme t with
  | true =>
    rw [hurl, beginsHttp_of_hasScheme hscheme]
    simp [hscheme]
  | false =>
    cases hhttp : beginsHttp t with
    | true =>
      rw [hurl, hhttp]
      simp [hscheme]
    | false =>
      rw [hurl, hhttp]
      exact iff_of_true ⟨hasScheme_append_https t, rfl⟩ (.inr rfl)

/-! ## The link to a URL -/

/-- A query without its flags. -/
def unflagged (query : Text) : Text := Text.trim (Directive.Flag.strip (Text.trim query))

/-- A query without its flags and signs. -/
def bare (query : Text) : Text := dropSigns (unflagged query)

section

variable {σ : Type} (l : Linker σ)

/-- The settings for a query: the flags in it hold for it. -/
def settings (query : Text) : Config :=
  l.config.withFlags (Directive.Flag.inText (Text.trim query))

theorem exists_urlOutcome_eq (t : Text) :
    ∃ f, urlOutcome t = .found f ∧ f.form = .link ∧ f.notes = [] ∧ f.url = completeUrl t :=
  ⟨_, rfl, rfl, rfl, rfl⟩

theorem outcome_of_isUrl (config : Config) {t : Text} (h : isUrl t = true) :
    outcome l config t = pure (urlOutcome t) := by
  have hne : t.isEmpty = false := by
    cases t with
    | nil => exact absurd h (by decide)
    | cons c t => rfl
  unfold outcome
  rw [hne, h]
  rfl

/-- What a query that is a URL becomes. No resolver and no state has a part in it. -/
theorem resolve_typed_url {query : Text} (h : isUrl (bare query) = true) (s : σ) {f : Search.Found}
    (hfound : urlOutcome (bare query) = .found f) (hnotes : f.notes = []) :
    resolve l query s = ({
      output := written (settings l query) (unflagged query) f
      clipboard := asksForClipboard (unflagged query)
      links := 1
      errors := [] }, s) := by
  have hconfig : ((Scope.openLine { config := l.config }).setFlags
      (Directive.Flag.inText (Text.trim query))).config = settings l query :=
    Scope.config_setFlags_openLine _ _
  have hlog : errors (Text.trim query) (.found f) = [] := by rw [errors, hnotes]; rfl
  have houtcome : outcome l (settings l query)
      (dropSigns (Text.trim (Directive.Flag.strip (Text.trim query)))) = pure (.found f) :=
    hfound ▸ outcome_of_isUrl l (settings l query) h
  have hplain : ∀ output : Text, output ++ ErrorLog.trailer [] = output := List.append_nil
  unfold resolve
  simp only [hconfig, houtcome, pure_bind, hlog, hplain, ite_self]
  rfl

/-- **A typed URL becomes a link.** Nothing is asked of a provider, and there are
no errors. The link is complete if the URL has a scheme or does not begin with
the letters of one. -/
theorem typed_url_completed_iff {query : Text} (h : isUrl (bare query) = true) (s : σ) :
    ∃ f, urlOutcome (bare query) = .found f ∧ f.form = .link
      ∧ resolve l query s = ({
          output := written (settings l query) (unflagged query) f
          clipboard := asksForClipboard (unflagged query)
          links := 1
          errors := [] }, s)
      ∧ (Completes (bare query) f.url
        ↔ hasScheme (bare query) = true ∨ beginsHttp (bare query) = false) := by
  obtain ⟨f, hfound, hlink, hnotes, hurl⟩ := exists_urlOutcome_eq (bare query)
  refine ⟨f, hfound, hlink, resolve_typed_url l h s hfound hnotes, ?_⟩
  rw [hurl]
  exact completes_completeUrl_iff (bare query)

end

/-- A path, flags and a sign at the end. -/
theorem typed_url_with_flags :
    let query : Text := "www.rust-lang.org/learn ++t ^"
    isUrl (bare query) = true
      ∧ ∃ f, urlOutcome (bare query) = .found f ∧ f.form = .link
        ∧ resolve Document.pageLinker query () = ({
            output := written (settings Document.pageLinker query) (unflagged query) f
            clipboard := asksForClipboard (unflagged query)
            links := 1
            errors := [] }, ())
        ∧ (Completes (bare query) f.url
          ↔ hasScheme (bare query) = true ∨ beginsHttp (bare query) = false) :=
  ⟨by decide +kernel, typed_url_completed_iff Document.pageLinker (by decide +kernel) ()⟩

/-- The name of this host begins like a scheme, so none is put in front of it. -/
theorem typed_host_without_scheme :
    let query : Text := "httpbin.org"
    isUrl (bare query) = true
      ∧ (resolve Document.pageLinker query ()).1
        = ⟨"[httpbin.org](httpbin.org)", false, 1, []⟩
      ∧ ∀ f, urlOutcome (bare query) = .found f → ¬ Completes (bare query) f.url := by
  refine ⟨by decide +kernel, by decide +kernel, fun f hfound hcompletes => ?_⟩
  obtain ⟨g, hg, -, -, hurl⟩ := exists_urlOutcome_eq (bare "httpbin.org")
  obtain rfl : f = g := by rw [hfound] at hg; exact Search.Outcome.found.inj hg
  rw [hurl, completes_completeUrl_iff] at hcompletes
  exact absurd hcompletes (by decide +kernel)

end Query

end InlineSearch
