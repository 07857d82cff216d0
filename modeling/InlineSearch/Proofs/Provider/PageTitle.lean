/-
InlineSearch.Proofs.Provider.PageTitle — a title is what its markup stands for.

Entities are replaced one kind after another. Inside a title that was escaped no
step can meet what another one made: an entity begins at an ampersand, each
ampersand of the escaped title begins the entity of some character, and none of
these entities begins another one (`replaceAll_escapedWithin`). The ampersands
themselves come last. So a title that looks like markup comes back as it was
(`unescaped_escaped`), and its spaces are left alone as long as they are single
ones (`collapseBlanks_unwords`).

* `escaped_title_read` — the title of a page, from the first title element on.
-/
import InlineSearch.Proofs.Text.FoldCase
import InlineSearch.Proofs.Text.Origin
import InlineSearch.Proofs.Text.Search
import InlineSearch.Proofs.Text.Trim
import InlineSearch.Proofs.Text.Words
import InlineSearch.Provider.PageTitle

namespace InlineSearch

/-! ## Words with single spaces between them -/

namespace Text

variable {words : List Text}

theorem Unbroken.head?_any {word : Text} (h : Unbroken word) (rest : Text) :
    (word ++ rest).head?.any isBlank = false := by
  obtain ⟨c, word, rfl⟩ := List.exists_cons_of_ne_nil h.1
  exact h.2 c (List.mem_cons_self ..)

theorem Unbroken.getLast?_any {word : Text} (h : Unbroken word) (before : Text) :
    (before ++ word).getLast?.any isBlank = false := by
  rw [List.getLast?_append_of_ne_nil _ h.1, List.getLast?_eq_some_getLast h.1]
  exact h.2 _ (List.getLast_mem h.1)

theorem unwords_cons_cons (word next : Text) (words : List Text) :
    unwords (word :: next :: words) = word ++ ' ' :: unwords (next :: words) :=
  join_cons_cons ..

/-- Words that are joined begin with a word. -/
theorem head?_unwords_any (h : ∀ word ∈ words, Unbroken word) :
    (unwords words).head?.any isBlank = false := by
  cases words with
  | nil => rfl
  | cons word words =>
    have hword := h word (List.mem_cons_self ..)
    cases words with
    | nil => simpa [unwords, join_singleton] using hword.head?_any []
    | cons next words =>
      rw [unwords_cons_cons]
      exact hword.head?_any _

/-- They end with a word. -/
theorem getLast?_unwords_any (h : ∀ word ∈ words, Unbroken word) :
    (unwords words).getLast?.any isBlank = false := by
  rcases List.eq_nil_or_concat words with rfl | ⟨init, last, rfl⟩
  · rfl
  · rw [List.concat_eq_append] at h ⊢
    have hlast := h last (List.mem_append_right _ (List.mem_singleton_self last))
    by_cases hnil : init = []
    · rw [hnil, List.nil_append, unwords, join_singleton]
      exact hlast.getLast?_any []
    · rw [unwords, join_concat hnil, ← List.append_assoc]
      exact hlast.getLast?_any _

theorem trim_unwords (h : ∀ word ∈ words, Unbroken word) : trim (unwords words) = unwords words :=
  trim_eq_self (head?_unwords_any h) (getLast?_unwords_any h)

theorem blankRun_of_not_blank {c : Char} (hc : isBlank c = false) (before : Option Char) (t : Text)
    (taken : Nat) (a : Unit) : blankRun before (c :: t) ≠ some (taken + 1, a) := by
  unfold blankRun
  rw [List.takeWhile_cons_of_neg (by rw [hc]; exact Bool.false_ne_true)]
  simp

/-- Single spaces between words are what runs of blanks become. -/
theorem collapseBlanks_unwords (h : ∀ word ∈ words, Unbroken word) :
    collapseBlanks (unwords words) = unwords words := by
  -- Behind a word the walk goes on with the last character of the word before it.
  have hfrom : ∀ before, substituteFrom blankRun (fun _ => " ") 0 before (unwords words)
      = unwords words := by
    induction words with
    | nil => exact fun _ => rfl
    | cons word words ih =>
      intro before
      have hword := h word (List.mem_cons_self ..)
      have hkept : ∀ t, substituteFrom blankRun (fun _ => " ") 0 before (word ++ t)
          = word ++ substituteFrom blankRun (fun _ => " ") 0 (lastOf before word) t := by
        intro t
        refine substituteFrom_append_of_miss word t before fun pre suf hsplit hne => ?_
        obtain ⟨c, suf, rfl⟩ := List.exists_cons_of_ne_nil hne
        have hc : isBlank c = false :=
          hword.2 c (hsplit ▸ List.mem_append_right pre (List.mem_cons_self ..))
        exact blankRun_of_not_blank hc _ _
      cases words with
      | nil =>
        have hend := hkept []
        rw [List.append_nil] at hend
        rw [unwords, join_singleton, hend]
        exact List.append_nil word
      | cons next words =>
        have hlater : ∀ word ∈ next :: words, Unbroken word := fun w hw =>
          h w (List.mem_cons_of_mem _ hw)
        have hrun : blankRun (lastOf before word) (' ' :: unwords (next :: words))
            = some (0 + 1, ()) := by
          have hstop : (' ' :: unwords (next :: words)).takeWhile isBlank = [' '] :=
            takeWhile_append_stop (a := [' ']) rfl (head?_unwords_any hlater)
          unfold blankRun
          rw [hstop]
          rfl
        rw [unwords_cons_cons, hkept, substituteFrom_hit hrun, ih hlater]
        rfl
  exact hfrom none

end Text

namespace Provider.PageTitle

open Text (Unbroken unwords)

/-! ## Escaping -/

/-- The characters that are written as entities. -/
def marks : Text := "&<>\x22'"

/-- The entity that a character is written as. -/
def entityOf : Char → Text
  | '&' => "&amp;"
  | '<' => "&lt;"
  | '>' => "&gt;"
  | '\x22' => "&quot;"
  | '\x27' => "&#39;"
  | c => [c]

/-- A character, as an entity if it is one of some marks. -/
def escapeWithin (marks : Text) (c : Char) : Text := if c ∈ marks then entityOf c else [c]

/-- A text with its marks written as entities. -/
def escaped (t : Text) : Text := t.flatMap (escapeWithin marks)

theorem entityOf_ne_nil (c : Char) : entityOf c ≠ [] := by
  unfold entityOf
  split <;> exact List.cons_ne_nil _ _

/-- What holds of the entities and of the other characters of a text holds of the
escaped text. -/
theorem forall_mem_escaped {p : Char → Bool}
    (hp : marks.all (fun c => (entityOf c).all p) = true) {t : Text}
    (h : ∀ c ∈ t, c ∉ marks → p c = true) : ∀ d ∈ escaped t, p d = true := by
  intro d hd
  obtain ⟨c, hc, hd⟩ := List.mem_flatMap.1 hd
  unfold escapeWithin at hd
  split at hd
  · next hmark => exact List.all_eq_true.1 (List.all_eq_true.1 hp c hmark) d hd
  · next hmark => exact List.mem_singleton.1 hd ▸ h c hc hmark

/-- The sign that begins an element is written as an entity. -/
theorem not_mem_escaped (t : Text) : '<' ∉ escaped t := by
  intro hmem
  have hmark : '<' ∈ marks := by decide
  have hother := forall_mem_escaped (p := (· != '<')) (by decide)
    (fun c _ hc => bne_iff_ne.2 fun heq => hc (heq ▸ hmark)) '<' hmem
  exact bne_iff_ne.1 hother rfl

theorem escaped_ne_nil {t : Text} (h : t ≠ []) : escaped t ≠ [] := by
  obtain ⟨c, t, rfl⟩ := List.exists_cons_of_ne_nil h
  unfold escaped escapeWithin
  rw [List.flatMap_cons, ne_eq, List.append_eq_nil_iff, not_and_or]
  left
  split
  · exact entityOf_ne_nil c
  · exact List.cons_ne_nil c []

theorem unbroken_escaped {word : Text} (h : Unbroken word) : Unbroken (escaped word) := by
  refine ⟨escaped_ne_nil h.1, fun d hd => ?_⟩
  have hnot := forall_mem_escaped (p := (!Text.isBlank ·)) (by decide)
    (fun c hc _ => by rw [h.2 c hc]; rfl) d hd
  simpa using hnot

/-- Words are escaped one by one. -/
theorem escaped_unwords (words : List Text) :
    escaped (unwords words) = unwords (words.map escaped) := by
  induction words with
  | nil => rfl
  | cons word words ih =>
    cases words with
    | nil => simp [unwords, Text.join_singleton]
    | cons next words =>
      have hspace : ∀ t, escaped (' ' :: t) = ' ' :: escaped t := fun t => rfl
      rw [Text.unwords_cons_cons, escaped, List.flatMap_append, ← escaped, ← escaped, hspace, ih]
      rfl

/-! ## Replacing entities -/

/-- An entity is the one that a mark is written as, and makes that mark again, or
it begins nowhere in what the mark is written as. -/
def Restores (entity written : Text) (c : Char) : Prop :=
  (entityOf c = entity ∧ written = [c])
    ∨ (entityOf c ≠ entity ∧ Text.Passes entity (entityOf c))

instance (entity written : Text) : DecidablePred (Restores entity written) := fun _ =>
  inferInstanceAs (Decidable (_ ∨ _))

/-- Replacing entities one kind after another undoes the escaping of some marks.
The ampersand has to be the last of the marks. -/
def Undoes : List (Text × Text) → (marks : Text) → Prop
  | [], marks => marks = []
  | (entity, written) :: later, marks =>
    '&' ∈ marks ∧ entity.head? = some '&' ∧ (∀ c ∈ marks, Restores entity written c)
      ∧ Undoes later (marks.filter (entityOf · ≠ entity))

instance decidableUndoes : (table : List (Text × Text)) → (marks : Text) →
    Decidable (Undoes table marks)
  | [], marks => inferInstanceAs (Decidable (marks = []))
  | (entity, written) :: later, marks =>
    have : Decidable (∀ c ∈ marks, Restores entity written c) := List.decidableBAll _ _
    have := decidableUndoes later (marks.filter (entityOf · ≠ entity))
    inferInstanceAs (Decidable (_ ∧ _ ∧ _ ∧ _))

/-- One kind of entities is replaced, and no other one. -/
theorem replaceAll_escapedWithin {entity written marks : Text} (hmark : '&' ∈ marks)
    (hhead : entity.head? = some '&') (h : ∀ c ∈ marks, Restores entity written c) (t : Text) :
    Text.replaceAll entity written (t.flatMap (escapeWithin marks))
      = t.flatMap (escapeWithin (marks.filter (entityOf · ≠ entity))) := by
  obtain ⟨rest, rfl⟩ := List.head?_eq_some_iff.1 hhead
  refine Text.replaceAll_flatMap (List.cons_ne_nil '&' rest) (fun c => ?_) t
  unfold escapeWithin
  by_cases hc : c ∈ marks
  · rw [if_pos hc]
    rcases h c hc with ⟨hentity, hwritten⟩ | ⟨hentity, hpasses⟩
    · rw [if_neg (by simp [hentity])]
      exact .inl ⟨hentity, hwritten.symm⟩
    · rw [if_pos (List.mem_filter.2 ⟨hc, decide_eq_true hentity⟩)]
      exact .inr ⟨hpasses, rfl⟩
  · rw [if_neg hc, if_neg fun hin => hc (List.mem_filter.1 hin).1]
    have hne : '&' ≠ c := fun heq => hc (heq ▸ hmark)
    exact .inr ⟨Text.passes_singleton hne rest, rfl⟩

theorem foldl_replaceAll_of_undoes {table : List (Text × Text)} {marks : Text}
    (h : Undoes table marks) (t : Text) :
    table.foldl (fun t (entity, written) => Text.replaceAll entity written t)
      (t.flatMap (escapeWithin marks)) = t := by
  induction table generalizing marks with
  | nil =>
    obtain rfl : marks = [] := h
    exact List.flatMap_singleton' t
  | cons entry later ih =>
    obtain ⟨entity, written⟩ := entry
    obtain ⟨hmark, hhead, hmarks, hlater⟩ := h
    rw [List.foldl_cons]
    dsimp only
    rw [replaceAll_escapedWithin hmark hhead hmarks]
    exact ih hlater

/-- A title that was escaped is decoded once. -/
theorem unescaped_escaped (t : Text) : unescaped (escaped t) = t :=
  foldl_replaceAll_of_undoes (by decide) t

/-! ## Title elements -/

/-- No element begins at another character. -/
theorem dropFolded?_eq_none {part t : Text} {c : Char} (hc : c ≠ '<') :
    Text.dropFolded? ('<' :: part) (c :: t) = none := by
  have hfold : Text.foldChar '<' ≠ Text.foldChar c := fun heq =>
    hc (Text.eq_of_foldChar_eq heq.symm (by decide))
  rw [Text.dropFolded?, if_neg hfold]

theorem elementAt?_element {attributes inside after : Text} (hattributes : '>' ∉ attributes)
    (hinside : '<' ∉ inside) :
    elementAt? ("<title" ++ (attributes ++ '>' :: (inside ++ ("</title>" ++ after))))
      = some inside := by
  have hopen (rest : Text) : Text.dropFolded? "<title" ("<title" ++ rest) = some rest :=
    Text.dropFolded?_eq_some_iff.2 ⟨"<title", rfl, rfl⟩
  have hclose : Text.dropFolded? "</title>" ("</title>" ++ after) = some after :=
    Text.dropFolded?_eq_some_iff.2 ⟨"</title>", rfl, rfl⟩
  have hend : Text.splitFirst? (Text.dropFolded? "</title>") (inside ++ ("</title>" ++ after))
      = some (inside, after) := by
    refine Text.splitFirst?_append (fun suf hsuf hne => ?_) hclose
    obtain ⟨c, suf, rfl⟩ := List.exists_cons_of_ne_nil hne
    exact dropFolded?_eq_none fun heq => hinside (hsuf.subset (heq ▸ List.mem_cons_self ..))
  have hcut : Text.cut ">" (attributes ++ '>' :: (inside ++ ("</title>" ++ after)))
      = some (attributes, inside ++ ("</title>" ++ after)) := Text.cut_singleton hattributes _
  unfold elementAt?
  rw [hopen]
  dsimp only [Option.bind_eq_bind, Option.bind_some]
  rw [hcut]
  dsimp only [Option.bind_some]
  rw [hend]
  rfl

/-- No title element begins in front of the first one. -/
theorem elementAt?_before {before : Text} (h : ¬ Text.OccursFolded "<title" before) {suf : Text}
    (hsuf : suf <:+ before) (hne : suf ≠ []) (rest : Text) :
    elementAt? (suf ++ ("<title" ++ rest)) = none := by
  have hnot : ¬ "<title".toList.map Text.foldChar <+: suf.map Text.foldChar := fun hstart =>
    h (hstart.isInfix.trans (hsuf.map Text.foldChar).isInfix)
  have hcut (b : Text) : '<' :: "title".toList <+: suf.map Text.foldChar ++ '<' :: b
      ↔ '<' :: "title".toList <+: suf.map Text.foldChar :=
    Text.cons_prefix_append_cons (by decide) (by simpa using hne) b
  have hnone : Text.dropFolded? "<title" (suf ++ ("<title" ++ rest)) = none := by
    rw [← Option.isNone_iff_eq_none, ← Option.isSome_eq_false_iff, Bool.eq_false_iff, ne_eq,
      Text.isSome_dropFolded?_iff, List.map_append]
    exact fun hstart => hnot ((hcut _).1 hstart)
  unfold elementAt?
  rw [hnone]
  rfl

/-- **Titles are read as they were escaped.** The title of a page is what was
escaped into its first title element, if that are words with single spaces
between them: a title that looks like markup or like entities is not decoded
again. -/
theorem escaped_title_read {before attributes after : Text} {words : List Text}
    (hbefore : ¬ Text.OccursFolded "<title" before) (hattributes : '>' ∉ attributes)
    (hne : words ≠ []) (hwords : ∀ word ∈ words, Unbroken word) :
    ofPage? (before ++ ("<title" ++ (attributes ++ '>' :: (escaped (unwords words)
      ++ ("</title>" ++ after))))) = some (unwords words) := by
  have hinside : Text.findSuffix? elementAt? (before ++ ("<title" ++ (attributes ++ '>' ::
      (escaped (unwords words) ++ ("</title>" ++ after))))) = some (escaped (unwords words)) :=
    Text.findSuffix?_append (fun suf hsuf hsome => elementAt?_before hbefore hsuf hsome _)
      (elementAt?_element hattributes (not_mem_escaped _))
  have hescaped : ∀ word ∈ words.map escaped, Unbroken word := by
    intro _ hmem
    obtain ⟨word, hword, rfl⟩ := List.mem_map.1 hmem
    exact unbroken_escaped (hwords word hword)
  have hspaces : Text.collapseBlanks (Text.trim (escaped (unwords words)))
      = escaped (unwords words) := by
    rw [escaped_unwords, Text.trim_unwords hescaped, Text.collapseBlanks_unwords hescaped]
  have hsome : (unwords words).isEmpty = false := by
    obtain ⟨word, hword⟩ := List.exists_mem_of_ne_nil words hne
    exact List.isEmpty_eq_false_iff.2 (Text.join_ne_nil hword (hwords word hword).1)
  unfold ofPage?
  rw [hinside]
  dsimp only [Option.bind_eq_bind, Option.bind_some]
  rw [hspaces, unescaped_escaped, Option.filter_some, hsome]
  rfl

/-- A title that shows an entity and an element. -/
theorem escaped_title_read_of_markup :
    ¬ Text.OccursFolded "<title" "<html><head>"
    ∧ escaped (unwords ["Why", "&lt;", "isn't", "<b>"]) = "Why &amp;lt; isn&#39;t &lt;b&gt;"
    ∧ ofPage? ("<html><head>" ++ ("<title" ++ (" lang=en" ++ '>' ::
        (escaped (unwords ["Why", "&lt;", "isn't", "<b>"]) ++ ("</title>" ++ "</head>")))))
      = some (unwords ["Why", "&lt;", "isn't", "<b>"]) := by
  have hbefore : ¬ Text.OccursFolded "<title" "<html><head>" := by decide
  have hwords : ∀ word ∈ (["Why", "&lt;", "isn't", "<b>"] : List Text), Unbroken word := by decide
  exact ⟨hbefore, by decide, escaped_title_read hbefore (by decide) (List.cons_ne_nil _ _) hwords⟩

end Provider.PageTitle

end InlineSearch
