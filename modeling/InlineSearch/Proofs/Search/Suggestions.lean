/-
InlineSearch.Proofs.Search.Suggestions — what is suggested for a trigger that
nobody knows.

A name is suggested where it contains the letters and digits of the trigger,
or where one edit makes it out of the trigger (`mem_suggestions_iff`). A
trigger without blanks is one term, so the score of a name is either zero or
full (`scoreAt_eq`), and the threshold asks for nothing but an occurrence.

* `suggestions_sound_complete` — the suggestions of a registry: which names
  they are, that each of them is known, and how they are ordered.
-/
import InlineSearch.Proofs.Match.Occurrence
import InlineSearch.Proofs.Search.HistoryTrigger
import InlineSearch.Proofs.Text.OneEdit
import InlineSearch.Search.Registry

namespace InlineSearch

open Text (isBlank OneEdit)

/-! ## Candidates -/

namespace Search

open Match (Contains)

theorem historyTrigger_of_simple {name : Text} (h : name ∈ simpleHistoryTriggers) :
    HistoryTrigger name := by
  unfold simpleHistoryTriggers at h
  rcases List.mem_cons.1 h with rfl | h
  · exact .bare
  · obtain ⟨letter, hletter, hname⟩ := List.mem_flatMap.1 h
    have hbrowser : letter ∈ browserLetters := hletter
    simp only [List.mem_cons, List.not_mem_nil, or_false] at hname
    rcases hname with rfl | rfl | rfl
    · exact .letters hbrowser (by simp)
    · exact .letters hbrowser (by simp)
    · exact .letters hbrowser (by simp [browserLetters])

namespace Registry

variable {σ : Type} (r : Registry σ)

/-- Every name that may be suggested is known. -/
theorem knows_of_mem_candidates {name : Text} (h : name ∈ r.candidates) : r.knows name = true := by
  unfold knows resolve?
  cases hshortcut : r.shortcuts.get? name with
  | some value => rfl
  | none =>
    dsimp only
    rw [Option.isSome_map, builtin?]
    cases hhistory : historySources? name with
    | some sources => rfl
    | none =>
      dsimp only
      rw [Option.isSome_map]
      unfold candidates at h
      rcases List.mem_append.1 h with h | h
      · rcases List.mem_append.1 h with h | h
        · obtain ⟨builtin, hbuiltin, rfl⟩ := List.mem_map.1 h
          exact List.find?_isSome.2 ⟨builtin, hbuiltin, beq_self_eq_true _⟩
        · have hread := (isSome_historySources?_iff name).2 (historyTrigger_of_simple h)
          rw [hhistory] at hread
          cases hread
      · obtain ⟨⟨trigger, value⟩, hmem, rfl⟩ := List.mem_map.1 h
        have hlookup := List.lookup_eq_none_iff.1 hshortcut (trigger, value) hmem
        simp at hlookup

/-! ## Suggestions -/

/-- The names that are suggested for what they contain, the best first. -/
def containing (token : Text) : List Text :=
  let scored := (r.candidates.map fun name => (Match.scoreAt false name token, name)).filter
    fun (score, name) => suggestionScore < score && name != token
  (scored.mergeSort fun a b => b.1 ≤ a.1).map Prod.snd

/-- The names that are suggested because they are close. -/
def close (token : Text) : List Text :=
  r.candidates.filter (2 ≤ token.length && Text.differByOne · token)

theorem suggestions_eq (token : Text) :
    r.suggestions token = (r.containing token ++ r.close token).eraseDups := rfl

theorem mem_containing_iff {token name : Text} (h : ∀ c ∈ token, isBlank c = false) :
    name ∈ r.containing token ↔ name ∈ r.candidates ∧ Contains token name ∧ name ≠ token := by
  have hscore : ∀ name, suggestionScore < Match.scoreAt false name token ↔ Contains token name := by
    intro name
    rw [Match.scoreAt_eq h]
    split
    · next hcontains => simpa [hcontains] using show suggestionScore < Match.fullScore by decide
    · next hcontains => simpa [hcontains] using show (0 : Rat) ≤ suggestionScore by decide
  unfold containing
  simp only [List.mem_map, List.mem_mergeSort, List.mem_filter, Prod.exists, exists_eq_right,
    Prod.mk.injEq, Bool.and_eq_true, decide_eq_true_eq, bne_iff_ne]
  constructor
  · rintro ⟨score, ⟨name, hmem, rfl, rfl⟩, hhigh, hne⟩
    exact ⟨hmem, (hscore name).1 hhigh, hne⟩
  · rintro ⟨hmem, hcontains, hne⟩
    exact ⟨_, ⟨name, hmem, rfl, rfl⟩, (hscore name).2 hcontains, hne⟩

theorem mem_close_iff {token name : Text} :
    name ∈ r.close token ↔ name ∈ r.candidates ∧ 2 ≤ token.length ∧ OneEdit name token := by
  unfold close
  rw [List.mem_filter, Bool.and_eq_true, decide_eq_true_eq, Text.differByOne_iff]

theorem mem_suggestions_iff {token name : Text} (h : ∀ c ∈ token, isBlank c = false) :
    name ∈ r.suggestions token ↔ name ∈ r.candidates
      ∧ ((Contains token name ∧ name ≠ token) ∨ (2 ≤ token.length ∧ OneEdit name token)) := by
  rw [suggestions_eq, List.mem_eraseDups, List.mem_append, mem_containing_iff r h, mem_close_iff,
    ← and_or_left]

/-- The names that contain the trigger come first, and behind them those that
are only close to it. -/
theorem exists_suggestions_eq {token : Text} (h : ∀ c ∈ token, isBlank c = false) :
    ∃ first others, r.suggestions token = first ++ others
      ∧ (∀ name ∈ first, Contains token name)
      ∧ ∀ name ∈ others, ¬ Contains token name ∧ OneEdit name token := by
  refine ⟨(r.containing token).eraseDups,
    ((r.close token).removeAll (r.containing token)).eraseDups,
    by rw [suggestions_eq, List.eraseDups_append], fun name hname => ?_, fun name hname => ?_⟩
  · exact ((r.mem_containing_iff h).1 (List.mem_eraseDups.1 hname)).2.1
  · rw [List.mem_eraseDups, List.removeAll, List.mem_filter, mem_close_iff] at hname
    obtain ⟨⟨hmem, -, hedit⟩, hnot⟩ := hname
    refine ⟨fun hcontains => ?_, hedit⟩
    have hfirst := (r.mem_containing_iff h).2 ⟨hmem, hcontains, hedit.ne⟩
    simp [hfirst] at hnot

/-- **Suggestions are sound and complete.** Whatever triggers the user has, no
name is suggested twice for a trigger without blanks, nor is the trigger
itself. Every suggestion is a known trigger. It contains the letters and digits
of the trigger, or it is one edit away, and those that contain them come first.
All candidates that do so are suggested, for one edit if the trigger has two
characters or more. -/
theorem suggestions_sound_complete {token : Text} (h : ∀ c ∈ token, isBlank c = false) :
    (r.suggestions token).Nodup
    ∧ token ∉ r.suggestions token
    ∧ (∀ name ∈ r.suggestions token, r.knows name = true)
    ∧ (∃ first others, r.suggestions token = first ++ others
      ∧ (∀ name ∈ first, Contains token name)
      ∧ ∀ name ∈ others, ¬ Contains token name ∧ OneEdit name token)
    ∧ ∀ name, name ∈ r.suggestions token ↔ name ∈ r.candidates
      ∧ ((Contains token name ∧ name ≠ token) ∨ (2 ≤ token.length ∧ OneEdit name token)) := by
  have hmem : ∀ name, name ∈ r.suggestions token ↔ _ := fun name => r.mem_suggestions_iff h
  refine ⟨nodup_eraseDups _, fun hself => ?_, fun name hname => ?_, r.exists_suggestions_eq h, hmem⟩
  · rcases ((hmem token).1 hself).2 with ⟨-, hne⟩ | ⟨-, hedit⟩
    · exact hne rfl
    · exact hedit.ne rfl
  · exact r.knows_of_mem_candidates ((hmem name).1 hname).1

end Registry

/-- A registry whose user has two triggers of their own. -/
def ownTriggers : Registry Unit where
  shortcuts := [("Ghub", "https://example.org/$term"), ("gx", "example.org")]

/-- For `g-h`, of which `gh` is left, the names with `gh` in them are suggested
in any case, and `gx` is not: it is two edits away. For `gh` it is. -/
theorem suggestions_sound_complete_own : ("gh" : Text) ∈ ownTriggers.suggestions "g-h"
    ∧ ("Ghub" : Text) ∈ ownTriggers.suggestions "g-h"
    ∧ ("gx" : Text) ∉ ownTriggers.suggestions "g-h"
    ∧ ("gx" : Text) ∈ ownTriggers.suggestions "gh"
    ∧ ("gh" : Text) ∉ ownTriggers.suggestions "gh" := by
  have hblank : ∀ c ∈ ("g-h" : Text), isBlank c = false := by
    simpa using show ("g-h" : Text).all (!isBlank ·) = true by decide
  have hblank' : ∀ c ∈ ("gh" : Text), isBlank c = false := by
    simpa using show ("gh" : Text).all (!isBlank ·) = true by decide
  obtain ⟨-, -, -, -, hdashed⟩ := ownTriggers.suggestions_sound_complete hblank
  obtain ⟨-, hself, -, -, hplain⟩ := ownTriggers.suggestions_sound_complete hblank'
  rw [hdashed, hdashed, hdashed, hplain]
  simp only [← Text.differByOne_iff]
  exact ⟨by decide +kernel, by decide +kernel, by decide +kernel, by decide +kernel, hself⟩

end Search

end InlineSearch
