/-
InlineSearch.Proofs.Provider.Sources — which bookmark files a search gets to.

The files of the sources are searched one after the other (`searchFiles_eq`). A
file without a match is passed over (`firstMatch_append`), and so is a source
without a file. But a file that cannot be read, or that holds no bookmarks, ends
the search with an error (`firstMatch_eq_error`): the sources behind it are not
looked at.

* `first_match_found_iff` — when the first match there is is found.
-/
import InlineSearch.Proofs.World
import InlineSearch.Provider.Bookmarks

namespace InlineSearch.Provider.Bookmarks

open Config (Source)
open Search (Hit Request)

variable {overrides : Overrides} {w : World} {terms : Text} {place : Path}

/-! ## Files -/

/-- What a file has for some terms. -/
def matchIn (w : World) (terms : Text) (place : Path) : Except LookupError (Option Bookmark) :=
  match w.files.readAt place with
  | .error _ => .error .unreadable
  | .ok t =>
    match Json.decode? fileDecoder t with
    | some bookmarks => .ok (best? bookmarks terms)
    | none => .error .malformed

/-- A file cannot be read, or holds no bookmarks. -/
def Unusable (w : World) (place : Path) : Prop :=
  ∀ t, w.files.readAt place = .ok t → Json.decode? fileDecoder t = none

theorem unusable_iff (terms : Text) : Unusable w place ↔ ∃ e, matchIn w terms place = .error e := by
  unfold Unusable matchIn
  cases w.files.readAt place with
  | error e => simp
  | ok t => cases hdecode : Json.decode? fileDecoder t <;> simp [hdecode]

theorem searchIn_eq (terms : Text) (place : Path) (w : World) :
    (searchIn terms place).run.run w = (matchIn w terms place, w) := by
  have hread := World.read_eq place w
  unfold searchIn matchIn
  cases hfile : w.files.readAt place with
  | error e =>
    rw [hfile] at hread
    exact World.bind_error hread _
  | ok t =>
    rw [hfile] at hread
    rw [World.bind_ok hread]
    dsimp only
    cases Json.decode? fileDecoder t <;> rfl

/-- What some files have for some terms, gone through up to the first one with a match
or an error. -/
def firstMatch (w : World) (terms : Text) : List Path → Except LookupError (Option Bookmark)
  | [] => .ok none
  | place :: places =>
    match matchIn w terms place with
    | .ok none => firstMatch w terms places
    | result => result

theorem searchFiles_eq (terms : Text) (places : List Path) (w : World) :
    (searchFiles terms places).run.run w = (firstMatch w terms places, w) := by
  induction places with
  | nil => rfl
  | cons place places ih =>
    have hin := searchIn_eq terms place w
    unfold searchFiles firstMatch
    rcases hmatch : matchIn w terms place with e | _ | found
    · rw [hmatch] at hin
      exact World.bind_error hin _
    · rw [hmatch] at hin
      rw [World.bind_ok hin]
      exact ih
    · rw [hmatch] at hin
      rw [World.bind_ok hin]
      rfl

/-- Files without a match are passed over. -/
theorem firstMatch_append {front : List Path}
    (h : ∀ place ∈ front, matchIn w terms place = .ok none) (places : List Path) :
    firstMatch w terms (front ++ places) = firstMatch w terms places := by
  induction front with
  | nil => rfl
  | cons place front ih =>
    have hplace := h place (List.mem_cons_self ..)
    have hlater := ih fun p hp => h p (List.mem_cons_of_mem _ hp)
    simp only [List.cons_append, firstMatch, hplace, hlater]

/-- In front of the first match an unusable file ends the search. -/
theorem firstMatch_eq_error {front : List Path}
    (hnone : ∀ place ∈ front, ∀ found, matchIn w terms place ≠ .ok (some found))
    (h : ∃ place ∈ front, Unusable w place) (places : List Path) :
    ∃ e, firstMatch w terms (front ++ places) = .error e := by
  induction front with
  | nil => simp at h
  | cons place front ih =>
    rcases hmatch : matchIn w terms place with e | _ | found
    · exact ⟨e, by simp [firstMatch, hmatch]⟩
    · have hlater : ∃ p ∈ front, Unusable w p := by
        obtain ⟨p, hp, hun⟩ := h
        rcases List.mem_cons.1 hp with rfl | hp
        · obtain ⟨e, he⟩ := (unusable_iff terms).1 hun
          rw [hmatch] at he
          cases he
        · exact ⟨p, hp, hun⟩
      obtain ⟨e, he⟩ := ih (fun p hp => hnone p (List.mem_cons_of_mem _ hp)) hlater
      exact ⟨e, by simp [firstMatch, hmatch, he]⟩
    · exact absurd hmatch (hnone place (List.mem_cons_self ..) found)

/-! ## Sources -/

/-- A source has a file that can be read, and in it a match for some terms. -/
def Matches (overrides : Overrides) (w : World) (terms : Text) (source : Source)
    (found : Bookmark) : Prop :=
  ∃ place, file? overrides w source = some place ∧ matchIn w terms place = .ok (some found)

/-- A source has a file, but not one that can be used. -/
def Fails (overrides : Overrides) (w : World) (source : Source) : Prop :=
  ∃ place, file? overrides w source = some place ∧ Unusable w place

/-- A file that can be used and has no match is passed over. -/
theorem matchIn_of_not_fails {source : Source} (hplace : file? overrides w source = some place)
    (husable : ¬ Fails overrides w source) (hnone : ∀ b, ¬ Matches overrides w terms source b) :
    matchIn w terms place = .ok none := by
  rcases hin : matchIn w terms place with e | _ | b
  · exact absurd ⟨place, hplace, (unusable_iff terms).2 ⟨e, hin⟩⟩ husable
  · rfl
  · exact absurd ⟨place, hplace, hin⟩ (hnone b)

/-- The files of a request. -/
def filesOf (overrides : Overrides) (w : World) (request : Request) : List Path :=
  (sourcesOf request.kind request.config).filterMap (file? overrides w)

/-- A search with a file to look into answers with the first match, or fails with what
is said about the first error. -/
theorem run_provider (overrides : Overrides) (w : World) (request : Request)
    (hne : filesOf overrides w request ≠ []) :
    (provider overrides request).run w
      = (match firstMatch w request.terms (filesOf overrides w request) with
        | .ok found => .ok (found.map fun b => .titled b.url b.title)
        | .error e => .error (.backend (some e.message)), w) := by
  have hget : (get : SearchStep World).run.run w = (.ok w, w) := rfl
  have hsome : ((sourcesOf request.kind request.config).filterMap (file? overrides w)).isEmpty
      = false := List.isEmpty_eq_false_iff.2 hne
  have hsearch := World.liftM_eq (searchFiles request.terms (filesOf overrides w request)) w
  rw [searchFiles_eq] at hsearch
  unfold provider
  refine (World.bind_ok hget _).trans ?_
  dsimp only
  rw [hsome]
  simp only [Bool.false_and, Bool.false_eq_true, if_false]
  cases hfirst : firstMatch w request.terms (filesOf overrides w request) with
  | error e =>
    rw [hfirst] at hsearch
    exact World.bind_error hsearch _
  | ok found =>
    rw [hfirst] at hsearch
    refine (World.bind_ok hsearch _).trans ?_
    cases found <;> rfl

/-- **When the first match is found.** Of the sources whose files can be read, let one be
the first with a match. A search answers with that match exactly if no source in front
of it has a file that is unusable. If one has, the search fails with what is said about
a file. -/
theorem first_match_found_iff {request : Request} {earlier later : List Source} {source : Source}
    {found : Bookmark}
    (hsources : sourcesOf request.kind request.config = earlier ++ source :: later)
    (hfound : Matches overrides w request.terms source found)
    (hfirst : ∀ s ∈ earlier, ∀ b, ¬ Matches overrides w request.terms s b) :
    ((provider overrides request).run w = (.ok (some (.titled found.url found.title)), w)
        ↔ ∀ s ∈ earlier, ¬ Fails overrides w s)
      ∧ ((∃ s ∈ earlier, Fails overrides w s) → ∃ e : LookupError,
        (provider overrides request).run w = (.error (.backend (some e.message)), w)) := by
  obtain ⟨place, hplace, hmatch⟩ := hfound
  have hfiles : filesOf overrides w request = earlier.filterMap (file? overrides w)
      ++ place :: later.filterMap (file? overrides w) := by
    simp [filesOf, hsources, hplace]
  have hrun := run_provider overrides w request (by rw [hfiles]; simp)
  rw [hfiles] at hrun
  have hnone : ∀ p ∈ earlier.filterMap (file? overrides w), ∀ b,
      matchIn w request.terms p ≠ .ok (some b) := by
    intro p hp b hb
    obtain ⟨s, hs, hfile⟩ := List.mem_filterMap.1 hp
    exact hfirst s hs b ⟨p, hfile, hb⟩
  have hfails : (∃ s ∈ earlier, Fails overrides w s) → ∃ e : LookupError,
      (provider overrides request).run w = (.error (.backend (some e.message)), w) := by
    rintro ⟨s, hs, p, hp, hun⟩
    obtain ⟨e, he⟩ := firstMatch_eq_error hnone
      ⟨p, List.mem_filterMap.2 ⟨s, hs, hp⟩, hun⟩ (place :: later.filterMap (file? overrides w))
    exact ⟨e, by rw [hrun, he]⟩
  refine ⟨⟨fun hok s hs hfail => ?_, fun husable => ?_⟩, hfails⟩
  · obtain ⟨e, he⟩ := hfails ⟨s, hs, hfail⟩
    rw [he] at hok
    cases hok
  · have hpassed : ∀ p ∈ earlier.filterMap (file? overrides w),
        matchIn w request.terms p = .ok none := by
      intro p hp
      obtain ⟨s, hs, hfile⟩ := List.mem_filterMap.1 hp
      exact matchIn_of_not_fails hfile (husable s hs) (hfirst s hs)
    rw [hrun, firstMatch_append hpassed, firstMatch, hmatch]
    rfl

/-! ## Two browsers -/

/-- A search in the bookmarks of two browsers. -/
def twoSources : Request where
  trigger := "h"
  kind := .history []
  terms := "rust"
  linkText := []
  config := { historyTypes := [⟨.chrome, .bookmarks⟩, ⟨.edge, .bookmarks⟩] }

/-- Where Chrome keeps its bookmarks. -/
def chromePlace : Path := [".config", "google-chrome", "Default", "Bookmarks"]

/-- Where Edge keeps its bookmarks. -/
def edgePlace : Path := [".config", "microsoft-edge", "Default", "Bookmarks"]

/-- A file with one bookmark. -/
def oneBookmark : Text :=
  "\x7b\x22roots\x22:\x7b\x22other\x22:\x7b\x22type\x22:\x22url\x22,"
    ++ "\x22name\x22:\x22Rust\x22,\x22url\x22:\x22https://edge.example\x22\x7d\x7d\x7d"

/-- A file without bookmarks. -/
def noBookmarks : Text := "\x7b\x22roots\x22:\x7b\x7d\x7d"

/-- Two browsers of which the second one has a bookmark, with the file of the first. -/
def twoBrowsers (chrome : Text) : World where
  files := { entries := [(chromePlace, some chrome), (edgePlace, some oneBookmark)] }

theorem matches_edge (chrome : Text) : Matches [] (twoBrowsers chrome) "rust" ⟨.edge, .bookmarks⟩
    ⟨"https://edge.example", "Rust", 0⟩ := by
  have hdecode : Json.decode? fileDecoder oneBookmark
      = some [⟨"https://edge.example", "Rust", 0⟩] := by decide +kernel
  have hbest : best? [⟨"https://edge.example", "Rust", 0⟩] "rust"
      = some ⟨"https://edge.example", "Rust", 0⟩ := by decide +kernel
  have hread : (twoBrowsers chrome).files.readAt edgePlace = .ok oneBookmark := rfl
  refine ⟨edgePlace, rfl, ?_⟩
  unfold matchIn
  rw [hread]
  simp only [hdecode, hbest]

/-- What Chrome has is told by what its file holds. -/
theorem matchIn_chromePlace (chrome terms : Text) :
    matchIn (twoBrowsers chrome) terms chromePlace
      = match Json.decode? fileDecoder chrome with
        | some bookmarks => .ok (best? bookmarks terms)
        | none => .error .malformed := rfl

theorem matches_chrome_iff {chrome terms : Text} {found : Bookmark} :
    Matches [] (twoBrowsers chrome) terms ⟨.chrome, .bookmarks⟩ found
      ↔ matchIn (twoBrowsers chrome) terms chromePlace = .ok (some found) := by
  have hfile : file? [] (twoBrowsers chrome) ⟨.chrome, .bookmarks⟩ = some chromePlace := rfl
  simp [Matches, hfile]

theorem fails_chrome_iff {chrome : Text} :
    Fails [] (twoBrowsers chrome) ⟨.chrome, .bookmarks⟩
      ↔ Unusable (twoBrowsers chrome) chromePlace := by
  have hfile : file? [] (twoBrowsers chrome) ⟨.chrome, .bookmarks⟩ = some chromePlace := rfl
  simp [Fails, hfile]

/-- A file without bookmarks in it does not hide the match of a later source. -/
theorem match_found_behind_empty_file :
    Matches [] (twoBrowsers noBookmarks) "rust" ⟨.edge, .bookmarks⟩
      ⟨"https://edge.example", "Rust", 0⟩
    ∧ (∀ b, ¬ Matches [] (twoBrowsers noBookmarks) "rust" ⟨.chrome, .bookmarks⟩ b)
    ∧ ¬ Fails [] (twoBrowsers noBookmarks) ⟨.chrome, .bookmarks⟩
    ∧ (provider [] twoSources).run (twoBrowsers noBookmarks)
      = (.ok (some (.titled "https://edge.example" "Rust")), twoBrowsers noBookmarks) := by
  have hdecode : Json.decode? fileDecoder noBookmarks = some [] := by decide +kernel
  have hnothing : matchIn (twoBrowsers noBookmarks) "rust" chromePlace = .ok none := by
    rw [matchIn_chromePlace, hdecode]
    rfl
  have hmatch := matches_edge noBookmarks
  have hnone : ∀ b, ¬ Matches [] (twoBrowsers noBookmarks) "rust" ⟨.chrome, .bookmarks⟩ b := by
    intro b
    rw [matches_chrome_iff, hnothing]
    simp
  have husable : ¬ Fails [] (twoBrowsers noBookmarks) ⟨.chrome, .bookmarks⟩ := by
    rw [fails_chrome_iff, unusable_iff "rust", hnothing]
    simp
  have hsources : sourcesOf twoSources.kind twoSources.config
      = [⟨.chrome, .bookmarks⟩] ++ ⟨.edge, .bookmarks⟩ :: [] := rfl
  refine ⟨hmatch, hnone, husable, (first_match_found_iff hsources hmatch ?_).1.2 ?_⟩
  · exact List.forall_mem_singleton.2 hnone
  · exact List.forall_mem_singleton.2 husable

/-- A file that is no document hides the match of a later source. -/
theorem match_hidden_behind_malformed_file :
    Matches [] (twoBrowsers "no document") "rust" ⟨.edge, .bookmarks⟩
      ⟨"https://edge.example", "Rust", 0⟩
    ∧ (∀ b, ¬ Matches [] (twoBrowsers "no document") "rust" ⟨.chrome, .bookmarks⟩ b)
    ∧ (provider [] twoSources).run (twoBrowsers "no document")
      = (.error (.backend (some "JSON error")), twoBrowsers "no document") := by
  have hdecode : Json.decode? fileDecoder "no document" = none := by decide +kernel
  have herror : matchIn (twoBrowsers "no document") "rust" chromePlace = .error .malformed := by
    rw [matchIn_chromePlace, hdecode]
  have hfiles : filesOf [] (twoBrowsers "no document") twoSources = [chromePlace, edgePlace] := rfl
  have hterms : twoSources.terms = "rust" := rfl
  have hrun := run_provider [] (twoBrowsers "no document") twoSources
    (by rw [hfiles]; exact List.cons_ne_nil _ _)
  rw [hfiles, hterms, firstMatch, herror] at hrun
  exact ⟨matches_edge "no document", fun b => by rw [matches_chrome_iff, herror]; simp, hrun⟩

end InlineSearch.Provider.Bookmarks
