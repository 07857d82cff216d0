/-
InlineSearch.Proofs.Provider.Redirect — the page behind a tracking page.

A redirect over the search engine's tracking page carries its target in a
parameter, percent-encoded. The encoded text holds no sign that ends a
parameter (`Escaped.not_mem`), and the name of the parameter begins with a sign
that stands nowhere else in it (`trackedAt?_append_cons`), so the parameter is
found where it was put and read up to its end.

* `tracked_page_found` — what was put into the parameter is the target, whatever
  stands before and behind it.
-/
import InlineSearch.Proofs.Text.Percent
import InlineSearch.Proofs.Text.Search
import InlineSearch.Proofs.Text.Trim
import InlineSearch.Provider.Web

namespace InlineSearch.Provider.Web

open Text (isBlank percentEncode)

variable {sign : Char} {before page after : Text}

/-- A location that carries a target: what stands before its parameter, the sign
that begins the parameter, the encoded target and what stands behind it. -/
def tracking (before : Text) (sign : Char) (page after : Text) : Text :=
  before ++ sign :: ("uddg=" ++ (percentEncode page ++ after))

/-- The parameter stands somewhere in a text. -/
def Tracked (t : Text) : Prop := "?uddg=".toList <:+: t ∨ "&uddg=".toList <:+: t

/-! ## The parameter -/

theorem dropPrefix?_parameter (sign : Char) (t : Text) :
    Text.dropPrefix? (sign :: "uddg=") (sign :: ("uddg=" ++ t)) = some t :=
  Text.dropPrefix?_eq_some_iff.2 rfl

/-- The value of the parameter ends before a sign that begins another one. -/
theorem trackedAt?_parameter (hsign : sign = '?' ∨ sign = '&') {value : Text} (hne : value ≠ [])
    (hvalue : '&' ∉ value) (hafter : after.head?.all (· == '&') = true) :
    trackedAt? (sign :: ("uddg=" ++ (value ++ after))) = some value := by
  have hrest : ((Text.dropPrefix? "?uddg=" (sign :: ("uddg=" ++ (value ++ after)))).or
        (Text.dropPrefix? "&uddg=" (sign :: ("uddg=" ++ (value ++ after)))))
      = some (value ++ after) := by
    rcases hsign with rfl | rfl
    · exact congrArg (Option.or · _) (dropPrefix?_parameter '?' (value ++ after))
    · exact dropPrefix?_parameter '&' (value ++ after)
  have hall : value.all (· != '&') = true := by
    rw [List.all_eq_true]
    exact fun c hc => bne_iff_ne.2 fun heq => hvalue (heq ▸ hc)
  have hstop : after.head?.any (· != '&') = false := by
    cases hhead : after.head? with
    | none => rfl
    | some c =>
      rw [hhead] at hafter
      simpa using hafter
  have hsome : value.isEmpty = false := List.isEmpty_eq_false_iff.2 hne
  unfold trackedAt?
  rw [hrest]
  dsimp only [Option.bind_eq_bind, Option.bind_some]
  rw [Text.takeWhile_append_stop hall hstop, hsome]
  rfl

/-- The parameter begins at no position in front of its sign, if the text there
does not hold it. -/
theorem trackedAt?_append_cons (hsign : sign = '?' ∨ sign = '&') {a : Text}
    (hne : a ≠ []) (ha : ¬ Tracked a) (b : Text) : trackedAt? (a ++ sign :: b) = none := by
  have hlater : sign ∉ "uddg=".toList := by
    rcases hsign with rfl | rfl
    · decide
    · decide
  have hmiss : ∀ start : Char, ¬ start :: "uddg=".toList <:+: a →
      Text.dropPrefix? (start :: "uddg=") (a ++ sign :: b) = none := by
    intro start hin
    rw [Text.dropPrefix?_eq_none_iff, Text.cons_prefix_append_cons hlater hne]
    exact fun hstart => hin hstart.isInfix
  have hquestion := hmiss '?' fun hin => ha (.inl hin)
  have hand := hmiss '&' fun hin => ha (.inr hin)
  unfold trackedAt?
  rw [show ("?uddg=".toList : Text) = '?' :: "uddg=" from rfl, hquestion,
    show ("&uddg=".toList : Text) = '&' :: "uddg=" from rfl, hand]
  rfl

theorem not_tracked_of_suffix {a suf : Text} (ha : ¬ Tracked a) (hsuf : suf <:+ a) :
    ¬ Tracked suf :=
  fun h => ha (h.imp (·.trans hsuf.isInfix) (·.trans hsuf.isInfix))

theorem percentEncode_ne_nil {t : Text} (hne : t ≠ []) : percentEncode t ≠ [] := by
  intro hnil
  have hback := Text.percentDecode_percentEncode t
  rw [hnil] at hback
  exact hne hback.symm

/-! ## Web pages -/

/-- A web URL begins with a letter. -/
theorem head?_of_isWebUrl {t : Text} (h : isWebUrl t = true) : t.head? = some 'h' := by
  rcases Bool.or_eq_true_iff.1 h with h | h
  · obtain ⟨rest, rfl⟩ := List.isPrefixOf_iff_prefix.1 h
    rfl
  · obtain ⟨rest, rfl⟩ := List.isPrefixOf_iff_prefix.1 h
    rfl

/-- **A tracked page is found.** The target of a location that carries the URL of
a page behind a text without the parameter is that URL: whatever characters the
URL holds, and whatever other parameters follow. -/
theorem tracked_page_found (hpage : isWebUrl page = true)
    (hlast : page.getLast?.any isBlank = false) (hbefore : ¬ Tracked before)
    (hsign : sign = '?' ∨ sign = '&') (hafter : after.head?.all (· == '&') = true) :
    targetOf? (tracking before sign page after) = some page := by
  have hhead := head?_of_isWebUrl hpage
  have hne : page ≠ [] := by
    rintro rfl
    cases hhead
  have hvalue : '&' ∉ percentEncode page :=
    (Text.escaped_percentEncode page).not_mem (by decide) (by decide)
  have hfound : Text.findSuffix? trackedAt? (tracking before sign page after)
      = some (percentEncode page) := by
    refine Text.findSuffix?_append (fun suf hsuf hsome => ?_) ?_
    · exact trackedAt?_append_cons hsign hsome (not_tracked_of_suffix hbefore hsuf) _
    · exact trackedAt?_parameter hsign (percentEncode_ne_nil hne) hvalue hafter
  have htrim : Text.trim page = page :=
    Text.trim_eq_self (by rw [hhead]; rfl) hlast
  unfold targetOf?
  rw [hfound]
  simp only [Text.percentDecode_percentEncode, htrim, Option.filter_some, hpage, if_true]

/-- A target with a parameter of the same name, a plus sign and an escape. -/
theorem tracked_page_found_with_parameters :
    isWebUrl "https://a.example/?q=a+b&uddg=%25" = true
    ∧ ¬ Tracked "//duckduckgo.com/l/?kh=1"
    ∧ targetOf? (tracking "//duckduckgo.com/l/?kh=1" '&' "https://a.example/?q=a+b&uddg=%25"
        "&uddg=https%3A%2F%2Fb.example&rut=abc") = some "https://a.example/?q=a+b&uddg=%25" := by
  have hpage : isWebUrl "https://a.example/?q=a+b&uddg=%25" = true := by decide
  have hbefore : ¬ Tracked "//duckduckgo.com/l/?kh=1" := by
    unfold Tracked
    decide
  exact ⟨hpage, hbefore, tracked_page_found hpage (by decide) hbefore (.inr rfl) (by decide)⟩

end InlineSearch.Provider.Web
