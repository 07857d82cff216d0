/-
InlineSearch.Proofs.Provider.Pinboard — one search among the user's bookmarks.

What is written to the file is read back as it was (`Cache.read?_written`). A
search takes one of four courses (`Course`): it fails at its first or at its
second request, it answers with what was kept, or it fetches the bookmarks anew
and writes them to the file, where that is possible. Then they are kept, or else
what was kept before (`kept_keep`).
-/
import InlineSearch.Proofs.Json.RoundTrip
import InlineSearch.Proofs.World
import InlineSearch.Provider.Pinboard

namespace InlineSearch.Provider.Pinboard

open Search (Hit Request)

/-! ## The file -/

theorem decode_toJson (b : Bookmark) : Bookmark.decoder b.toJson = some b := rfl

/-- The document that is written. -/
def Cache.toJson (c : Cache) : Json := .ofMembers [
  ("update_time", .ofText c.updated), ("bookmarks", .arr (c.bookmarks.map Bookmark.toJson))]

theorem mapM_toJson (bookmarks : List Bookmark) :
    (bookmarks.map Bookmark.toJson).mapM Bookmark.decoder = some bookmarks := by
  induction bookmarks with
  | nil => rfl
  | cons b bs ih => simp [decode_toJson, ih]

theorem areTextual_toJson (bookmarks : List Bookmark) :
    Json.areTextual (bookmarks.map Bookmark.toJson) = true := by
  induction bookmarks with
  | nil => rfl
  | cons b bs ih => exact ih

theorem decode_cacheToJson (c : Cache) : Cache.decoder c.toJson = some c := by
  have hcache : Cache.decoder c.toJson
      = ((c.bookmarks.map Bookmark.toJson).mapM Bookmark.decoder).bind fun bookmarks =>
        some { c with bookmarks } := rfl
  rw [hcache, mapM_toJson]
  rfl

theorem isTextual_toJson (c : Cache) : Json.isTextual c.toJson = true := by
  have hcache : Json.isTextual c.toJson
      = (Json.areTextual (c.bookmarks.map Bookmark.toJson) && true) := rfl
  rw [hcache, areTextual_toJson]
  rfl

/-- What is written is read back. -/
theorem Cache.read?_written (c : Cache) : Cache.read? c.written = some c := by
  have hparse : Json.parse? c.written = some c.toJson := Json.parse?_print (isTextual_toJson c)
  unfold Cache.read? Json.decode?
  rw [hparse]
  exact decode_cacheToJson c

/-- What a world keeps of the bookmarks; nothing if it cannot be read. -/
def kept (w : World) : Option Cache :=
  match w.files.readAt (w.home ++ [cacheName]) with
  | .ok written => Cache.read? written
  | .error _ => none

theorem keptCache_eq (w : World) : keptCache.run w = (kept w, w) := by
  have hplace : (World.inHome [cacheName]).run w = pure (w.home ++ [cacheName], w) := rfl
  have hread : StateT.run (World.read (w.home ++ [cacheName])).run w
      = pure ((w.files.readAt (w.home ++ [cacheName])).mapError fun _ => .unreadable, w) :=
    World.read_eq ..
  unfold keptCache kept
  rw [StateT.run_bind, hplace, pure_bind, StateT.run_bind, hread, pure_bind]
  cases w.files.readAt (w.home ++ [cacheName]) <;> rfl

/-- The world with bookmarks written to the file, where that is possible. -/
def keep (w : World) (c : Cache) : World :=
  ((World.tryWrite (w.home ++ [cacheName]) c.written).run w).2

/-! ## One search -/

variable (token : Text) (w : World)

/-- The time of the last change that a search is told. -/
def toldUpdate : Except LookupError Text :=
  World.told (w.network w.requests.length) updateDecoder (queryUrl "update" token)

/-- The bookmarks that a search is told, if it asks for them. -/
def toldBookmarks : Except LookupError (List Bookmark) :=
  World.told (w.network (w.requests.length + 1)) (Json.list Bookmark.decoder) (queryUrl "all" token)

/-- The world once the time has been asked for. -/
def checked : World := w.asked (queryUrl "update" token)

/-- The world once the bookmarks have been asked for as well. -/
def fetched : World := (checked token w).asked (queryUrl "all" token)

/-- How a search comes to its bookmarks, or to none, and what it leaves. -/
inductive Course : Except LookupError (List Bookmark) → World → Prop where
  | unchecked {e : LookupError} : toldUpdate token w = .error e →
      Course (.error e) (checked token w)
  | reused {time : Text} {c : Cache} : toldUpdate token w = .ok time → kept w = some c →
      Text.le time c.updated = true → Course (.ok c.bookmarks) (checked token w)
  | unfetched {time : Text} {e : LookupError} : toldUpdate token w = .ok time →
      (∀ c ∈ kept w, Text.le time c.updated = false) → toldBookmarks token w = .error e →
      Course (.error e) (fetched token w)
  | refreshed {time : Text} {list : List Bookmark} : toldUpdate token w = .ok time →
      (∀ c ∈ kept w, Text.le time c.updated = false) → toldBookmarks token w = .ok list →
      Course (.ok list) (keep (fetched token w) ⟨time, list⟩)

/-- Every search takes one of the courses. -/
theorem bookmarks_course :
    Course token w ((bookmarks token).run.run w).1 ((bookmarks token).run.run w).2 := by
  have hkept : (liftM keptCache : Lookup (Option Cache)).run.run w = (.ok (kept w), w) := by
    show ((keptCache.run w).map (fun c => Except.ok c) id : Except LookupError _ × World) = _
    rw [keptCache_eq]
    rfl
  have htime : (World.data updateDecoder (queryUrl "update" token)).run.run w
      = (toldUpdate token w, checked token w) := World.data_eq ..
  have hlist : (World.data (Json.list Bookmark.decoder) (queryUrl "all" token)).run.run
        (checked token w)
      = (toldBookmarks token w, fetched token w) := World.data_eq ..
  unfold bookmarks
  rw [World.bind_ok hkept]
  cases hupdate : toldUpdate token w with
  | error e =>
    rw [hupdate] at htime
    rw [World.bind_error htime]
    exact .unchecked hupdate
  | ok time =>
    rw [hupdate] at htime
    rw [World.bind_ok htime]
    cases hreuse : (kept w).filter fun c => Text.le time c.updated with
    | some c =>
      obtain ⟨hc, hle⟩ := Option.filter_eq_some_iff.1 hreuse
      exact .reused hupdate hc hle
    | none =>
      have hold : ∀ c ∈ kept w, Text.le time c.updated = false := by
        intro c hc
        simpa using Option.filter_eq_none_iff.1 hreuse c hc
      cases hall : toldBookmarks token w with
      | error e =>
        rw [hall] at hlist
        dsimp only
        rw [World.bind_error hlist]
        exact .unfetched hupdate hold hall
      | ok list =>
        rw [hall] at hlist
        dsimp only
        rw [World.bind_ok hlist]
        exact .refreshed hupdate hold hall

/-- What was fetched is kept, or else what was kept before. -/
theorem kept_keep (c : Cache) : kept (keep w c) = some c ∨ kept (keep w c) = kept w := by
  cases hwrite : w.files.writeAt (w.home ++ [cacheName]) c.written with
  | error e =>
    right
    rw [keep, World.tryWrite_error hwrite]
  | ok files =>
    left
    rw [keep, World.tryWrite_ok hwrite]
    unfold kept
    dsimp only
    rw [Files.readAt_writeAt hwrite]
    exact Cache.read?_written c

theorem keep_eq (c : Cache) :
    (keep w c).network = w.network ∧ (keep w c).requests = w.requests := by
  cases hwrite : w.files.writeAt (w.home ++ [cacheName]) c.written with
  | error e => rw [keep, World.tryWrite_error hwrite]; exact ⟨rfl, rfl⟩
  | ok files => rw [keep, World.tryWrite_ok hwrite]; exact ⟨rfl, rfl⟩

/-! ## Answers -/

/-- What a search answers with, given the bookmarks. -/
def answer (list : List Bookmark) (terms : Text) : Option Hit :=
  (best? list terms).map fun b => .titled b.url b.title

theorem provider_eq {request : Request} (h : request.config.pinboardApiKey.isEmpty = false) :
    (provider request).run w
      = (match ((bookmarks request.config.pinboardApiKey).run.run w).1 with
        | .ok list => .ok (answer list request.terms)
        | .error e => .error (.backend (some e.message)),
        ((bookmarks request.config.pinboardApiKey).run.run w).2) := by
  have hlift := World.liftM_eq (bookmarks request.config.pinboardApiKey) w
  unfold provider
  dsimp only
  rw [if_neg (by simp [h])]
  cases hresult : ((bookmarks request.config.pinboardApiKey).run.run w).1 with
  | ok list =>
    rw [hresult] at hlift
    exact World.bind_ok hlift _
  | error e =>
    rw [hresult] at hlift
    exact World.bind_error hlift _

/-- Without a token nothing is done, and otherwise the search takes its course. -/
theorem search_cases (request : Request) (w : World) :
    ((provider request).run w).2 = w
      ∨ ∃ result, Course request.config.pinboardApiKey w result ((provider request).run w).2 := by
  cases htoken : request.config.pinboardApiKey.isEmpty with
  | true =>
    unfold provider
    dsimp only
    rw [if_pos htoken]
    exact .inl rfl
  | false =>
    rw [provider_eq w htoken]
    exact .inr ⟨_, bookmarks_course ..⟩

/-- A search that answers has come to bookmarks with the token in the
configuration. -/
theorem exists_bookmarks {w : World} {request : Request} {hit : Option Hit}
    (h : ((provider request).run w).1 = .ok hit) :
    ∃ list, hit = answer list request.terms
      ∧ Course request.config.pinboardApiKey w (.ok list) ((provider request).run w).2 := by
  cases htoken : request.config.pinboardApiKey.isEmpty with
  | true =>
    unfold provider at h
    dsimp only at h
    rw [if_pos htoken] at h
    cases h
  | false =>
    have hcourse := bookmarks_course request.config.pinboardApiKey w
    rw [provider_eq w htoken] at h ⊢
    cases hresult : ((bookmarks request.config.pinboardApiKey).run.run w).1 with
    | error e =>
      rw [hresult] at h
      cases h
    | ok list =>
      rw [hresult] at h hcourse
      exact ⟨list, (Except.ok.inj h).symm, hcourse⟩

end InlineSearch.Provider.Pinboard
