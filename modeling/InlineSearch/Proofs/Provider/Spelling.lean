/-
InlineSearch.Proofs.Provider.Spelling — corrections touch the words of a phrase only.

The words of a phrase are its runs of ASCII letters, so the phrase is cut at them
(`Text.Runs`). Corrections are given by number: the first is for the first word and so
on. There may be fewer of them than words or more, and any of them may be missing.

* `correctWords_of_runs` — each word becomes what its correction says, and between the
  words everything stays.
* `woven?_wordEdits` — the same phrase comes about by edits at the places of the words
  that have a correction beside them. A cursor goes over the phrase from one edit to the
  next, and every slice that it takes lies in the phrase.
-/
import InlineSearch.Proofs.Edit
import InlineSearch.Proofs.Text.Runs
import InlineSearch.Provider.Spelling

namespace InlineSearch.Provider.Spelling

/-! ## What becomes of the words -/

/-- What the word with the number `i` becomes: its correction, if there is one. -/
def corrected (fixes : List (Option Text)) (i : Nat) (word : Text) : Text :=
  (fixes[i]?.join).getD word

theorem corrected_succ (fixes : List (Option Text)) (i : Nat) (word : Text) :
    corrected fixes (i + 1) word = corrected fixes.tail i word := by
  rw [corrected, corrected, List.getElem?_tail]

/-- Missing corrections, and those that the list does not reach, leave the word. -/
theorem corrected_of_missing {fixes : List (Option Text)} (h : ∀ fix ∈ fixes, fix = none)
    (i : Nat) (word : Text) : corrected fixes i word = word := by
  unfold corrected
  cases hfix : fixes[i]? with
  | none => rfl
  | some fix =>
    obtain rfl := h fix (List.mem_of_getElem? hfix)
    rfl

/-- Words with what stands behind each of them, where the words are corrected. -/
def correctedWords (words : List (Text × Text)) (fixes : List (Option Text)) : Text :=
  (words.mapIdx fun i w => corrected fixes i w.1 ++ w.2).flatten

theorem correctedWords_cons (w : Text × Text) (words : List (Text × Text))
    (fixes : List (Option Text)) : correctedWords (w :: words) fixes
      = corrected fixes 0 w.1 ++ (w.2 ++ correctedWords words fixes.tail) := by
  simp only [correctedWords, List.mapIdx_cons, List.flatten_cons, corrected_succ,
    List.append_assoc]

theorem correctedWords_of_missing {fixes : List (Option Text)} (h : ∀ fix ∈ fixes, fix = none)
    (words : List (Text × Text)) :
    correctedWords words fixes = words.flatMap fun w => w.1 ++ w.2 := by
  induction words generalizing fixes with
  | nil => rfl
  | cons w words ih =>
    rw [correctedWords_cons, corrected_of_missing h,
      ih fun fix hfix => h fix (List.mem_of_mem_tail hfix), List.flatMap_cons, List.append_assoc]

variable {phrase lead : Text} {words : List (Text × Text)}

theorem takesRuns_word : Text.TakesRuns Char.isAlpha id word := fun _ _ => rfl

theorem correctPieces_chars (t : Text) (pieces : List (Text.Piece Text))
    (fixes : List (Option Text)) :
    correctPieces (t.map .char ++ pieces) fixes = t ++ correctPieces pieces fixes := by
  induction t with
  | nil => rfl
  | cons c t ih => exact congrArg (c :: ·) ih

theorem correctPieces_hit (word : Text) (pieces : List (Text.Piece Text))
    (fixes : List (Option Text)) : correctPieces (.hit word :: pieces) fixes
      = corrected fixes 0 word ++ correctPieces pieces fixes.tail := by
  cases fixes with
  | nil => rfl
  | cons fix fixes => rfl

/-- Each word becomes what its correction says, and everything else stays. -/
theorem correctWords_of_runs (h : Text.Runs Char.isAlpha lead words phrase)
    (fixes : List (Option Text)) :
    correctWords phrase fixes = lead ++ correctedWords words fixes := by
  have hwords : ∀ (words : List (Text × Text)) (fixes : List (Option Text)),
      correctPieces (words.flatMap fun w => .hit (id w.1) :: w.2.map .char) fixes
        = correctedWords words fixes := by
    intro words
    induction words with
    | nil => exact fun _ => rfl
    | cons w words ih =>
      intro fixes
      rw [List.flatMap_cons, List.cons_append, correctPieces_hit, correctPieces_chars, ih,
        correctedWords_cons, id]
  rw [correctWords, Text.pieces, h.piecesFrom takesRuns_word, correctPieces_chars, hwords]

/-! ## The same by slices of the phrase -/

/-- The words of a phrase with the byte offsets where they begin, the first of them at
`offset`. -/
def wordPlaces : (offset : Nat) → (words : List (Text × Text)) → List (Nat × Text)
  | _, [] => []
  | offset, (word, gap) :: later =>
    (offset, word) :: wordPlaces (offset + Text.bytes word + Text.bytes gap) later

/-- The edits at the places of words that have a correction beside them, missing or not. -/
def wordEdits (places : List (Nat × Text)) (fixes : List (Option Text)) : List Edit :=
  places.zipWith (fun (start, word) fix => ⟨start, start + Text.bytes word, fix.getD word⟩) fixes

/-- Without edits all that is behind the cursor is kept. -/
theorem woven?_nil (done rest : Text) :
    Edit.woven? (done ++ rest) (Text.bytes done) [] = some rest := by
  have hslice := Text.slice?_append done rest []
  rwa [List.append_nil, ← Text.bytes_append] at hslice

/-- The cursor goes from word to word through the slices that are kept. -/
theorem woven?_wordEdits {t : Text} (h : Text.Runs Char.isAlpha lead words t) (done : Text)
    (fixes : List (Option Text)) :
    Edit.woven? (done ++ t) (Text.bytes done)
        (wordEdits (wordPlaces (Text.bytes done + Text.bytes lead) words) fixes)
      = some (lead ++ correctedWords words fixes) := by
  induction h generalizing done fixes with
  | none outside =>
    exact (woven?_nil done _).trans (congrArg some (List.append_nil _).symm)
  | @run lead run gap rest later outside nonempty inside apart behind ih =>
    cases fixes with
    | nil =>
      have hall := (Text.Runs.run outside nonempty inside apart behind).parts
      rw [correctedWords_of_missing (by simp), hall, wordPlaces]
      exact woven?_nil done _
    | cons fix fixes =>
      have hslice : Text.slice? (Text.bytes done) (Text.bytes done + Text.bytes lead)
          (done ++ (lead ++ (run ++ rest))) = some lead := Text.slice?_append done lead _
      have hlater := ih (done ++ lead ++ run) fixes
      rw [Text.bytes_append, Text.bytes_append, List.append_assoc, List.append_assoc] at hlater
      rw [wordPlaces, wordEdits, List.zipWith_cons_cons, ← wordEdits, Edit.woven?, hslice,
        correctedWords_cons]
      dsimp only
      rw [hlater]
      exact congrArg some (List.append_assoc ..)

/-- **Corrections touch words only.** A phrase is cut at its words in one way. For any
corrections, however many there are, the word with the number `i` becomes the correction
with that number if there is one, and stays otherwise; what stands between the words
stays. The slices of the phrase that are taken between words with a correction beside
them are all slices of it, and without any correction the phrase is returned. -/
theorem corrections_touch_words_only (phrase : Text) :
    ∃ lead words, (∀ l ws, Text.Runs Char.isAlpha l ws phrase ↔ l = lead ∧ ws = words)
      ∧ ∀ fixes : List (Option Text),
        correctWords phrase fixes
            = lead ++ (words.mapIdx fun i w => corrected fixes i w.1 ++ w.2).flatten
          ∧ Edit.woven? phrase 0 (wordEdits (wordPlaces (Text.bytes lead) words) fixes)
            = some (correctWords phrase fixes)
          ∧ ((∀ fix ∈ fixes, fix = none) → correctWords phrase fixes = phrase) := by
  obtain ⟨lead, words, hruns⟩ := Text.exists_runs Char.isAlpha phrase
  refine ⟨lead, words, fun l ws => ⟨fun h => hruns.unique h rfl, ?_⟩, fun fixes => ?_⟩
  · rintro ⟨rfl, rfl⟩
    exact hruns
  have hcorrected := correctWords_of_runs hruns fixes
  refine ⟨hcorrected, ?_, fun hmissing => ?_⟩
  · have hwoven := woven?_wordEdits hruns [] fixes
    rw [Text.bytes_nil, Nat.zero_add, List.nil_append] at hwoven
    rw [hwoven, hcorrected]
  · rw [hcorrected, correctedWords_of_missing hmissing, hruns.parts]

/-- A word behind a letter that is not an ASCII one, and fewer corrections than words. -/
theorem corrections_touch_words_only_all_missing :
    correctWords "I recieve éteh, ok".toList
        [none, some "receive".toList, some "the".toList] = "I receive éthe, ok".toList
      ∧ (∀ fix ∈ ([none, none] : List (Option Text)), fix = none)
      ∧ correctWords "I recieve éteh, ok".toList [none, none] = "I recieve éteh, ok".toList := by
  have hmissing : ∀ fix ∈ ([none, none] : List (Option Text)), fix = none := by decide
  obtain ⟨_, _, -, hfixes⟩ := corrections_touch_words_only "I recieve éteh, ok".toList
  exact ⟨by decide, hmissing, (hfixes _).2.2 hmissing⟩

end InlineSearch.Provider.Spelling
