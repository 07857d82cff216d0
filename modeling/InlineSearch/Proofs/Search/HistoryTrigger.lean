/-
InlineSearch.Proofs.Search.HistoryTrigger — the grammar of history triggers.

A history trigger is `h` alone, or `h`, the letter of a browser, and then
letters of browsers and `h` in any order (`HistoryTrigger`). A letter `b` that
follows another one is part of a suffix and never the letter of a browser;
elsewhere two triggers may be put together (`sourcesOfLetters?_append`).

* `history_grammar` — which triggers are read, that no source is named twice,
  what a suffix selects, and what two triggers select together.
-/
import InlineSearch.Proofs.Text.Trim
import InlineSearch.Search.Trigger
import Mathlib.Data.List.Nodup

namespace InlineSearch.Search

open Config (Browser Source)

/-- The letters of the browsers. -/
def browserLetters : Text := "scfeba"

/-- A trigger of the history grammar. -/
inductive HistoryTrigger : Text → Prop
  /-- The configured sources. -/
  | bare : HistoryTrigger ['h']
  /-- The sources of one or more browsers. -/
  | letters {letter : Char} {rest : Text} (browser : letter ∈ browserLetters)
      (later : ∀ c ∈ rest, c = 'h' ∨ c ∈ browserLetters) : HistoryTrigger ('h' :: letter :: rest)

/-! ## Letters -/

theorem isSome_ofLetter?_iff {c : Char} :
    (Browser.ofLetter? c).isSome = true ↔ c ∈ browserLetters := by
  have hletters : browserLetters = Browser.all.map Browser.letter := rfl
  rw [Browser.ofLetter?, List.find?_isSome, hletters, List.mem_map]
  simp

/-- Letters that select a store are letters of the grammar. -/
theorem letter_of_isStoreLetter {c : Char} (h : isStoreLetter c = true) :
    c = 'h' ∨ c ∈ browserLetters := by
  rw [isStoreLetter, Bool.or_eq_true, beq_iff_eq, beq_iff_eq] at h
  rcases h with rfl | rfl
  · exact .inl rfl
  · exact .inr (by decide)

theorem sourcesOfLetters?_cons (letter : Char) (rest : Text) :
    sourcesOfLetters? (letter :: rest) = (Browser.ofLetter? letter).bind fun browser =>
      (sourcesOfLetters? (rest.dropWhile isStoreLetter)).map
        (sourcesOf browser (rest.takeWhile isStoreLetter) ++ ·) := by
  rw [sourcesOfLetters?]
  simp only [Option.bind_eq_bind, Option.pure_def, Option.map_eq_bind, Function.comp_def]

theorem isSome_sourcesOfLetters?_cons {letter : Char} {rest : Text} :
    (sourcesOfLetters? (letter :: rest)).isSome = true ↔ letter ∈ browserLetters
      ∧ (sourcesOfLetters? (rest.dropWhile isStoreLetter)).isSome = true := by
  rw [sourcesOfLetters?_cons, ← isSome_ofLetter?_iff]
  cases Browser.ofLetter? letter <;> simp

/-- Letters are read where the first one is that of a browser and the others
are letters of browsers or `h`. -/
theorem isSome_sourcesOfLetters?_iff (t : Text) : (sourcesOfLetters? t).isSome = true
    ↔ (∀ c ∈ t.head?, c ∈ browserLetters) ∧ ∀ c ∈ t, c = 'h' ∨ c ∈ browserLetters := by
  induction t using sourcesOfLetters?.induct with
  | case1 => simp [sourcesOfLetters?]
  | case2 letter rest ih =>
    have hsuffix : ∀ c ∈ rest.takeWhile isStoreLetter, c = 'h' ∨ c ∈ browserLetters :=
      fun c hc => letter_of_isStoreLetter (List.all_eq_true.1 List.all_takeWhile c hc)
    -- What is read behind a suffix begins with no store letter, so not with `h`.
    have hlater : (sourcesOfLetters? (rest.dropWhile isStoreLetter)).isSome = true
        ↔ ∀ c ∈ rest, c = 'h' ∨ c ∈ browserLetters := by
      rw [ih]
      constructor
      · rintro ⟨-, hrest⟩ c hc
        rw [← List.takeWhile_append_dropWhile (p := isStoreLetter) (l := rest)] at hc
        exact (List.mem_append.1 hc).elim (hsuffix c) (hrest c)
      · intro hrest
        have hdrop : ∀ c ∈ rest.dropWhile isStoreLetter, c = 'h' ∨ c ∈ browserLetters :=
          fun c hc => hrest c ((List.dropWhile_suffix _).subset hc)
        refine ⟨fun c hhead => ?_, hdrop⟩
        have hstop := Text.head?_dropWhile_any isStoreLetter rest
        rw [Option.mem_def.1 hhead, Option.any_some] at hstop
        rcases hdrop c (List.mem_of_mem_head? hhead) with rfl | hletter
        · cases hstop
        · exact hletter
    rw [isSome_sourcesOfLetters?_cons, hlater]
    simp only [List.head?_cons, Option.mem_some_iff, forall_eq', List.forall_mem_cons]
    constructor
    · rintro ⟨hletter, hrest⟩
      exact ⟨hletter, .inr hletter, hrest⟩
    · rintro ⟨hletter, -, hrest⟩
      exact ⟨hletter, hrest⟩

/-- Letters are read one group after the other, where the second group does
not go on with the suffix of the first one. -/
theorem sourcesOfLetters?_append {y : Text} (hy : y.head?.any isStoreLetter = false) (x : Text) :
    sourcesOfLetters? (x ++ y) = (sourcesOfLetters? x).bind fun a =>
      (sourcesOfLetters? y).map (a ++ ·) := by
  induction x using sourcesOfLetters?.induct with
  | case1 => simp [sourcesOfLetters?]
  | case2 letter rest ih =>
    rw [List.cons_append, sourcesOfLetters?_cons, sourcesOfLetters?_cons,
      Text.takeWhile_append_of_head hy, Text.dropWhile_append_of_head hy, ih]
    cases Browser.ofLetter? letter with
    | none => rfl
    | some browser =>
      cases sourcesOfLetters? (rest.dropWhile isStoreLetter) <;> cases sourcesOfLetters? y <;> simp

/-! ## Suffixes -/

/-- Of two letters only one stands in a text where it has all places. -/
theorem mem_and_not_mem_iff {t : Text} {x y : Char} (hne : x ≠ y) (h : ∀ c ∈ t, c = x ∨ c = y) :
    (x ∈ t ∧ y ∉ t) ↔ (!t.isEmpty && t.all (· == x)) = true := by
  simp only [Bool.and_eq_true, Bool.not_eq_true', List.isEmpty_eq_false_iff, List.all_eq_true,
    beq_iff_eq]
  constructor
  · rintro ⟨hx, hy⟩
    refine ⟨List.ne_nil_of_mem hx, fun c hc => (h c hc).resolve_right ?_⟩
    rintro rfl
    exact hy hc
  · rintro ⟨hnil, hall⟩
    obtain ⟨c, hc⟩ := List.exists_mem_of_ne_nil t hnil
    exact ⟨hall c hc ▸ hc, fun hy => hne (hall y hy).symm⟩

/-- A suffix of `h` selects the history, one of `b` the bookmarks, and an empty
or a mixed one both. -/
theorem sourcesOf_eq (browser : Browser) {suffix : Text} (h : suffix.all isStoreLetter = true) :
    sourcesOf browser suffix
      = if !suffix.isEmpty && suffix.all (· == 'h') then [⟨browser, .history⟩]
        else if !suffix.isEmpty && suffix.all (· == 'b') then [⟨browser, .bookmarks⟩]
        else [⟨browser, .bookmarks⟩, ⟨browser, .history⟩] := by
  have hletters : ∀ c ∈ suffix, c = 'h' ∨ c = 'b' := fun c hc => by
    simpa [isStoreLetter] using List.all_eq_true.1 h c hc
  have hhistory := mem_and_not_mem_iff (by decide) hletters
  have hbookmarks := mem_and_not_mem_iff (by decide) fun c hc => (hletters c hc).symm
  unfold sourcesOf
  rw [List.any_beq', List.any_beq']
  simp only [← hhistory, ← hbookmarks]
  by_cases hh : 'h' ∈ suffix <;> by_cases hb : 'b' ∈ suffix <;> simp [hh, hb]

/-! ## Each source once -/

section

variable {α : Type} [BEq α] [LawfulBEq α]

theorem nodup_eraseDups : ∀ l : List α, l.eraseDups.Nodup
  | [] => List.nodup_nil
  | a :: l => by
    rw [List.eraseDups_cons, List.nodup_cons, List.mem_eraseDups]
    exact ⟨by simp, nodup_eraseDups _⟩
termination_by l => l.length
decreasing_by exact Nat.lt_succ_of_le (List.length_filter_le _ _)

theorem eraseDups_filter (p : α → Bool) :
    ∀ l : List α, (l.filter p).eraseDups = l.eraseDups.filter p
  | [] => rfl
  | a :: l => by
    have hcomm : (l.filter p).filter (fun b => !b == a)
        = (l.filter fun b => !b == a).filter p := by
      rw [List.filter_filter, List.filter_filter]
      simp only [Bool.and_comm]
    rw [List.eraseDups_cons, List.filter_cons, List.filter_cons, ← eraseDups_filter p, ← hcomm]
    split
    · rw [List.eraseDups_cons]
    · next hp =>
      -- An element that fails the test is not in the way of the others.
      congr 1
      refine (List.filter_eq_self.2 fun b hb => ?_).symm
      have hpb := (List.mem_filter.1 hb).2
      simp only [Bool.not_eq_true', beq_eq_false_iff_ne]
      rintro rfl
      exact hp hpb
termination_by l => l.length
decreasing_by exact Nat.lt_succ_of_le (List.length_filter_le _ _)

end

/-! ## Triggers -/

theorem historySources?_cons (letters : Text) :
    historySources? ('h' :: letters) = (sourcesOfLetters? letters).map List.eraseDups := by
  unfold historySources?
  have hdrop : Text.dropPrefix? "h" ('h' :: letters) = some letters := rfl
  simp only [hdrop, Option.bind_eq_bind, Option.bind_some, Option.pure_def, Option.map_eq_bind,
    Function.comp_def]

theorem exists_of_historySources? {t : Text} {sources : List Source}
    (h : historySources? t = some sources) : ∃ letters, t = 'h' :: letters := by
  obtain ⟨letters, hdrop, -⟩ := Option.bind_eq_some_iff.1 h
  exact ⟨letters, Text.dropPrefix?_eq_some_iff.1 hdrop⟩

theorem isSome_historySources?_iff (t : Text) :
    (historySources? t).isSome = true ↔ HistoryTrigger t := by
  constructor
  · intro h
    obtain ⟨sources, hsources⟩ := Option.isSome_iff_exists.1 h
    obtain ⟨letters, rfl⟩ := exists_of_historySources? hsources
    rw [historySources?_cons, Option.isSome_map, isSome_sourcesOfLetters?_iff] at h
    cases letters with
    | nil => exact .bare
    | cons letter rest =>
      exact .letters (h.1 letter rfl) fun c hc => h.2 c (List.mem_cons_of_mem _ hc)
  · intro h
    cases h with
    | bare => simp [historySources?_cons, sourcesOfLetters?]
    | letters browser later =>
      rw [historySources?_cons, Option.isSome_map, isSome_sourcesOfLetters?_iff]
      refine ⟨fun c hc => ?_, List.forall_mem_cons.2 ⟨.inr browser, later⟩⟩
      rwa [← Option.mem_some_iff.1 hc]

theorem nodup_of_historySources? {t : Text} {sources : List Source}
    (h : historySources? t = some sources) : sources.Nodup := by
  obtain ⟨letters, rfl⟩ := exists_of_historySources? h
  rw [historySources?_cons, Option.map_eq_some_iff] at h
  obtain ⟨named, -, rfl⟩ := h
  exact nodup_eraseDups named

/-- Two triggers together select what the first one selects, and then what
only the second one selects. -/
theorem historySources?_append {x y : Text} {a b : List Source}
    (hx : historySources? ('h' :: x) = some a) (hy : historySources? ('h' :: y) = some b)
    (hb : y.head? ≠ some 'b') :
    historySources? ('h' :: (x ++ y)) = some (a ++ b.filter (· ∉ a)) := by
  rw [historySources?_cons, Option.map_eq_some_iff] at hx hy
  obtain ⟨namedX, hx, rfl⟩ := hx
  obtain ⟨namedY, hy, rfl⟩ := hy
  have hread := (isSome_sourcesOfLetters?_iff y).1 (by rw [hy]; rfl)
  have hstop : y.head?.any isStoreLetter = false := by
    cases hhead : y.head? with
    | none => rfl
    | some c =>
      have hletter := hread.1 c hhead
      rw [hhead, ne_eq, Option.some.injEq] at hb
      rw [Option.any_some, isStoreLetter, Bool.or_eq_false_iff]
      refine ⟨beq_false_of_ne ?_, beq_false_of_ne hb⟩
      rintro rfl
      exact absurd hletter (by decide)
  rw [historySources?_cons, sourcesOfLetters?_append hstop, hx, hy]
  simp only [Option.bind_some, Option.map_some, List.eraseDups_append, Option.some.injEq,
    List.append_cancel_left_eq]
  rw [List.removeAll, eraseDups_filter]
  simp [List.mem_eraseDups]

/-- One letter of a browser with a suffix. -/
theorem historySources?_group (browser : Browser) {suffix : Text}
    (h : suffix.all isStoreLetter = true) :
    historySources? ('h' :: browser.letter :: suffix)
      = some (if !suffix.isEmpty && suffix.all (· == 'h') then [⟨browser, .history⟩]
        else if !suffix.isEmpty && suffix.all (· == 'b') then [⟨browser, .bookmarks⟩]
        else [⟨browser, .bookmarks⟩, ⟨browser, .history⟩]) := by
  have hbrowser : Browser.ofLetter? browser.letter = some browser := by cases browser <;> rfl
  have hnone : sourcesOfLetters? [] = some [] := by rw [sourcesOfLetters?]
  have hall := List.all_eq_true.1 h
  rw [historySources?_cons, sourcesOfLetters?_cons, hbrowser, Option.bind_some,
    List.takeWhile_eq_self_iff.2 hall, List.dropWhile_eq_nil_iff.2 hall, hnone, Option.map_some,
    Option.map_some, List.append_nil, sourcesOf_eq browser h]
  split
  · rfl
  · split
    · rfl
    · simp [List.eraseDups_cons]

/-- **The history grammar**: a trigger is read exactly where it is one of the
grammar, it names no source twice, a browser has the stores that its suffix
selects, and two triggers put together select what the first one selects and
then what the second one adds. A second group that begins with `b` would go on
with the suffix of the first one. -/
theorem history_grammar :
    (∀ t, (historySources? t).isSome = true ↔ HistoryTrigger t)
    ∧ (∀ t sources, historySources? t = some sources → sources.Nodup)
    ∧ (∀ (browser : Browser) (suffix : Text), suffix.all isStoreLetter = true →
      historySources? ('h' :: browser.letter :: suffix)
        = some (if !suffix.isEmpty && suffix.all (· == 'h') then [⟨browser, .history⟩]
          else if !suffix.isEmpty && suffix.all (· == 'b') then [⟨browser, .bookmarks⟩]
          else [⟨browser, .bookmarks⟩, ⟨browser, .history⟩]))
    ∧ ∀ x y a b, historySources? ('h' :: x) = some a → historySources? ('h' :: y) = some b →
      y.head? ≠ some 'b' → historySources? ('h' :: (x ++ y)) = some (a ++ b.filter (· ∉ a)) :=
  ⟨isSome_historySources?_iff, fun _ _ => nodup_of_historySources?,
    fun browser _ => historySources?_group browser, fun _ _ _ _ => historySources?_append⟩

/-- Safari's bookmarks, and then those of Chrome with the history of Safari: the
bookmarks of Safari are not named again. -/
theorem history_grammar_two_groups :
    historySources? "hsb" = some [⟨.safari, .bookmarks⟩]
    ∧ historySources? "hcbs" = some [⟨.chrome, .bookmarks⟩, ⟨.safari, .bookmarks⟩,
      ⟨.safari, .history⟩]
    ∧ historySources? "hsbcbs" = some [⟨.safari, .bookmarks⟩, ⟨.chrome, .bookmarks⟩,
      ⟨.safari, .history⟩] := by
  obtain ⟨-, -, hgroup, happend⟩ := history_grammar
  have hsafari : historySources? "hsb" = some [⟨.safari, .bookmarks⟩] :=
    hgroup .safari "b" (by decide)
  have hchrome : historySources? "hcb" = some [⟨.chrome, .bookmarks⟩] :=
    hgroup .chrome "b" (by decide)
  have hboth : historySources? "hs" = some [⟨.safari, .bookmarks⟩, ⟨.safari, .history⟩] :=
    hgroup .safari "" (by decide)
  have htwo : historySources? "hcbs" = some [⟨.chrome, .bookmarks⟩, ⟨.safari, .bookmarks⟩,
      ⟨.safari, .history⟩] := happend "cb" "s" _ _ hchrome hboth (by decide)
  exact ⟨hsafari, htwo, happend "sb" "cbs" _ _ hsafari htwo (by decide)⟩

end InlineSearch.Search
