/-
InlineSearch.Proofs.Provider.PinboardHistory — searches among bookmarks that
change meanwhile.

An account changes from one instant to the next, and with every change its time
moves on (`Serves`). Between any two requests it may change, and so between the
two requests of one search: then the file keeps a list that is newer than the
time beside it. The file may also be lost, made unreadable or replaced by what
another run of the program fetched, before a search, behind it or, which comes
to the same, while it waits for an answer.

`Reached` follows such a history together with the token of the search that
wrote what is kept. As long as there is one token, no search answers with what
has changed since (`never_stale`). With several of them a search compares the
time of its own account with that of another one, and answers with bookmarks of
the other if its own time is no later (`answer_own_iff`).
-/
import InlineSearch.Proofs.Provider.Pinboard

namespace InlineSearch.Provider.Pinboard

open Search (Hit Request)

/-! ## Accounts -/

/-- What the service holds for an account. -/
structure Account where
  /-- The time of the last change. -/
  updated : Text
  bookmarks : List Bookmark

/-- What a network tells about the account of a token is what the account holds
at the instant of the request. `clock n` is the instant of the request that `n`
others come before. -/
structure Serves (network : Http.Network) (clock : Nat → Nat) (token : Text)
    (account : Nat → Account) : Prop where
  changes : ∀ i, account (i + 1) = account i ∨ (account i).updated < (account (i + 1)).updated
  update : ∀ n time, World.told (network n) updateDecoder (queryUrl "update" token) = .ok time →
    time = (account (clock n)).updated
  all : ∀ n list, World.told (network n) (Json.list Bookmark.decoder) (queryUrl "all" token)
    = .ok list → list = (account (clock n)).bookmarks

namespace Serves

variable {network : Http.Network} {clock : Nat → Nat} {token : Text} {account : Nat → Account}
  (h : Serves network clock token account)
include h

/-- From one instant to a later one an account stays, or its time moves on. -/
theorem eq_or_lt {i k : Nat} (hik : i ≤ k) :
    account i = account k ∨ (account i).updated < (account k).updated := by
  induction hik with
  | refl => exact .inl rfl
  | @step k _ ih =>
    rcases h.changes k with hsame | hlater
    · rwa [hsame]
    · rcases ih with heq | hlt
      · exact .inr (heq ▸ hlater)
      · exact .inr (List.lt_trans hlt hlater)

/-- An account whose time has not moved on since an instant is what it was ever
since. -/
theorem eq_of_le {i j k : Nat} (hij : i ≤ j) (hjk : j ≤ k)
    (hle : Text.le (account k).updated (account i).updated = true) : account j = account k := by
  have hnot : ¬ (account i).updated < (account k).updated := by simpa [Text.le] using hle
  rcases h.eq_or_lt hjk with heq | hlt
  · exact heq
  · rcases h.eq_or_lt hij with heq | hlt'
    · exact absurd (heq ▸ hlt) hnot
    · exact absurd (List.lt_trans hlt' hlt) hnot

end Serves

/-! ## A service -/

/-- What a service answers that holds an account for a token. -/
def Account.answers (token : Text) (a : Account) : Http.Request → Option Http.Response :=
  fun request =>
    if request.url = queryUrl "update" token then
      some { body := some (Json.ofMembers [("update_time", .ofText a.updated)]).print }
    else if request.url = queryUrl "all" token then
      some { body := some (Json.arr (a.bookmarks.map Bookmark.toJson)).print }
    else none

theorem told_update_answers (token : Text) (a : Account) :
    World.told (a.answers token) updateDecoder (queryUrl "update" token) = .ok a.updated := by
  have htextual : Json.isTextual (.ofMembers [("update_time", .ofText a.updated)]) = true := rfl
  refine World.told_of_body (if_pos rfl) ?_
  rw [Json.decode?, Json.parse?_print htextual]
  rfl

theorem told_all_answers (token : Text) (a : Account) :
    World.told (a.answers token) (Json.list Bookmark.decoder) (queryUrl "all" token)
      = .ok a.bookmarks := by
  have hurl : queryUrl "all" token ≠ queryUrl "update" token := by
    intro h
    unfold queryUrl at h
    rw [List.append_assoc, List.append_assoc, List.append_assoc, List.append_assoc,
      List.append_assoc, List.append_assoc] at h
    exact absurd (List.head_eq_of_cons_eq (List.append_cancel_left h)) (by decide)
  have htextual : Json.isTextual (.arr (a.bookmarks.map Bookmark.toJson)) = true :=
    areTextual_toJson _
  refine World.told_of_body ((if_neg hurl).trans (if_pos rfl)) ?_
  rw [Json.decode?, Json.parse?_print htextual]
  exact mapM_toJson _

/-- Such a service serves the account, whatever else the network has. -/
theorem serves_of_answers {network : Http.Network} {clock : Nat → Nat} {token : Text}
    {account : Nat → Account}
    (hchanges : ∀ i, account (i + 1) = account i ∨ (account i).updated < (account (i + 1)).updated)
    (hanswers : ∀ n what, what ∈ ["update".toList, "all".toList] →
      network n ⟨.get, queryUrl what token, true⟩
        = (account (clock n)).answers token ⟨.get, queryUrl what token, true⟩) :
    Serves network clock token account where
  changes := hchanges
  update n time h := by
    rw [World.told_congr (hanswers n "update" (by simp)), told_update_answers] at h
    exact (Except.ok.inj h).symm
  all n list h := by
    rw [World.told_congr (hanswers n "all" (by simp)), told_all_answers] at h
    exact (Except.ok.inj h).symm

/-! ## Histories -/

/-- A world that comes later, with whatever requests in between. -/
structure Later (w w' : World) : Prop where
  network : w'.network = w.network
  requests : w.requests.length ≤ w'.requests.length

/-- The worlds of a history that starts with nothing kept, each with the token
of the search that fetched what is kept. -/
inductive Reached (clock : Nat → Nat) (accounts : Text → Nat → Account) (tokens : Text → Prop)
    (start : World) : World → Option Text → Prop where
  | start : kept start = none → Reached clock accounts tokens start start none
  /-- A search with one of the tokens, whatever comes of it. What it writes has
  a later time than what was kept, and so it changes what is kept. -/
  | search {w : World} {owner : Option Text} (request : Request) :
      Reached clock accounts tokens start w owner → tokens request.config.pinboardApiKey →
      Reached clock accounts tokens start ((provider request).run w).2
        (if kept ((provider request).run w).2 = kept w then owner
          else some request.config.pinboardApiKey)
  /-- Something else, that leaves what is kept. -/
  | elsewhere {w w' : World} {owner : Option Text} :
      Reached clock accounts tokens start w owner → Later w w' → kept w' = kept w →
      Reached clock accounts tokens start w' owner
  /-- The file is removed, or written over with what cannot be read. -/
  | lost {w w' : World} {owner : Option Text} :
      Reached clock accounts tokens start w owner → Later w w' → kept w' = none →
      Reached clock accounts tokens start w' none
  /-- Another run of the program has asked for the time and then for the
  bookmarks, and kept them. -/
  | replaced {w w' : World} {owner : Option Text} {other : Text} {i j : Nat} :
      Reached clock accounts tokens start w owner → Later w w' → tokens other →
      i < j → j < clock w'.requests.length →
      kept w' = some ⟨(accounts other i).updated, (accounts other j).bookmarks⟩ →
      Reached clock accounts tokens start w' (some other)

section

variable {clock : Nat → Nat} {accounts : Text → Nat → Account} {tokens : Text → Prop}
  {start w : World} {owner : Option Text}

/-- What is kept was the time of its owner's account at an instant, and are the
bookmarks of that account at a later one. -/
def Held (clock : Nat → Nat) (accounts : Text → Nat → Account) (tokens : Text → Prop) (w : World)
    (owner : Option Text) : Prop :=
  ∀ c ∈ kept w, ∃ token i j, owner = some token ∧ tokens token ∧ i < j
    ∧ j < clock w.requests.length ∧ c.updated = (accounts token i).updated
    ∧ c.bookmarks = (accounts token j).bookmarks

/-- A search goes on in the same network, and leaves what is kept or what it was
told. -/
theorem kept_search (request : Request) (w : World) :
    Later w ((provider request).run w).2
      ∧ (kept ((provider request).run w).2 = kept w
        ∨ ∃ time list, toldUpdate request.config.pinboardApiKey w = .ok time
          ∧ toldBookmarks request.config.pinboardApiKey w = .ok list
          ∧ ((provider request).run w).2.requests.length = w.requests.length + 2
          ∧ kept ((provider request).run w).2 = some ⟨time, list⟩) := by
  rcases search_cases request w with hsame | ⟨result, hcourse⟩
  · rw [hsame]
    exact ⟨⟨rfl, Nat.le_refl _⟩, .inl rfl⟩
  · generalize ((provider request).run w).2 = w' at hcourse ⊢
    cases hcourse with
    | unchecked => exact ⟨⟨rfl, Nat.le_succ _⟩, .inl rfl⟩
    | reused => exact ⟨⟨rfl, Nat.le_succ _⟩, .inl rfl⟩
    | unfetched => exact ⟨⟨rfl, Nat.le_add_right _ 2⟩, .inl rfl⟩
    | @refreshed time list htime _ hlist =>
      obtain ⟨hnetwork, hrequests⟩ := keep_eq (fetched request.config.pinboardApiKey w) ⟨time, list⟩
      have hlength : (keep (fetched request.config.pinboardApiKey w) ⟨time, list⟩).requests.length
          = w.requests.length + 2 := congrArg List.length hrequests
      refine ⟨⟨hnetwork, by omega⟩, ?_⟩
      rcases kept_keep (fetched request.config.pinboardApiKey w) ⟨time, list⟩ with hkept | hkept
      · exact .inr ⟨time, list, htime, hlist, hlength, hkept⟩
      · exact .inl hkept

section

variable (hclock : ∀ n, clock n < clock (n + 1))
include hclock

theorem clock_mono {n m : Nat} (h : n ≤ m) : clock n ≤ clock m := by
  induction h with
  | refl => exact Nat.le_refl _
  | step _ ih => exact Nat.le_trans ih (Nat.le_of_lt (hclock _))

/-- What is held stays so in a later world. -/
theorem Held.later {w' : World} (h : Held clock accounts tokens w owner) (hlater : Later w w')
    (hkept : kept w' = kept w) : Held clock accounts tokens w' owner := by
  intro c hc
  rw [hkept] at hc
  obtain ⟨token, i, j, howner, htoken, hij, hj, hcache⟩ := h c hc
  exact ⟨token, i, j, howner, htoken, hij,
    Nat.lt_of_lt_of_le hj (clock_mono hclock hlater.requests), hcache⟩

variable (hserves : ∀ token, tokens token → Serves start.network clock token (accounts token))
include hserves

/-- The invariant of histories. -/
theorem Reached.held (h : Reached clock accounts tokens start w owner) :
    w.network = start.network ∧ Held clock accounts tokens w owner := by
  induction h with
  | start hnone =>
    refine ⟨rfl, fun c hc => ?_⟩
    rw [hnone] at hc
    cases hc
  | @search w owner request _ htoken ih =>
    obtain ⟨hnetwork, hheld⟩ := ih
    obtain ⟨hlater, hcases⟩ := kept_search request w
    refine ⟨hlater.network.trans hnetwork, ?_⟩
    by_cases hsame : kept ((provider request).run w).2 = kept w
    · rw [if_pos hsame]
      exact hheld.later hclock hlater hsame
    · -- What the search has fetched is held: first the time, and then the list.
      obtain ⟨time, list, htime, hlist, hlength, hkept⟩ := hcases.resolve_left hsame
      rw [if_neg hsame]
      intro c hc
      rw [hkept, Option.mem_some] at hc
      subst hc
      have hserve := hserves _ htoken
      rw [← hnetwork] at hserve
      refine ⟨_, _, _, rfl, htoken, hclock w.requests.length, ?_, hserve.update _ _ htime,
        hserve.all _ _ hlist⟩
      rw [hlength]
      exact hclock _
  | elsewhere _ hlater hkept ih =>
    exact ⟨hlater.network.trans ih.1, ih.2.later hclock hlater hkept⟩
  | lost _ hlater hkept ih =>
    refine ⟨hlater.network.trans ih.1, fun c hc => ?_⟩
    rw [hkept] at hc
    cases hc
  | @replaced w w' owner other i j _ hlater htoken hij hj hkept ih =>
    refine ⟨hlater.network.trans ih.1, fun c hc => ?_⟩
    rw [hkept, Option.mem_some] at hc
    subst hc
    exact ⟨other, i, j, rfl, htoken, hij, hj, rfl, rfl⟩

end

/-! ## One account -/

/-- A search leads from `w` to `w'` and to the bookmarks that an account held at
the instant of one of its requests: of the only one, if they are those that were
kept, and else of the second one. -/
inductive Current (clock : Nat → Nat) (token : Text) (account : Nat → Account) (w w' : World) :
    List Bookmark → Prop where
  | reused {c : Cache} : w'.requests = ⟨.get, queryUrl "update" token, true⟩ :: w.requests →
      kept w = some c → c.bookmarks = (account (clock w.requests.length)).bookmarks →
      Current clock token account w w' c.bookmarks
  | refreshed {list : List Bookmark} :
      w'.requests = ⟨.get, queryUrl "all" token, true⟩
        :: ⟨.get, queryUrl "update" token, true⟩ :: w.requests →
      list = (account (clock (w.requests.length + 1))).bookmarks →
      Current clock token account w w' list

/-- **What is kept is never stale.** Let all searches use one token. One that
answers with what was kept has asked for the time alone, and the bookmarks are
those of the account at that instant. Any other has asked for the bookmarks as
well, and answers with those of the account at that instant. -/
theorem never_stale {token : Text} {account : Nat → Account}
    (hclock : ∀ n, clock n < clock (n + 1))
    (hserves : Serves start.network clock token account)
    (hreached : Reached clock (fun _ => account) (· = token) start w owner)
    {request : Request} (htoken : request.config.pinboardApiKey = token) {hit : Option Hit}
    (hhit : ((provider request).run w).1 = .ok hit) :
    ∃ list, hit = answer list request.terms
      ∧ Current clock token account w ((provider request).run w).2 list := by
  obtain ⟨hnetwork, hheld⟩ := hreached.held hclock fun other hother => hother ▸ hserves
  rw [← hnetwork] at hserves
  obtain ⟨list, hanswer, hcourse⟩ := exists_bookmarks hhit
  refine ⟨list, hanswer, ?_⟩
  rw [htoken] at hcourse
  generalize ((provider request).run w).2 = w' at hcourse ⊢
  cases hcourse with
  | @reused time c htime hc hle =>
    obtain ⟨_, i, j, -, -, hij, hj, hupdated, hbookmarks⟩ := hheld c hc
    rw [hserves.update _ _ htime, hupdated] at hle
    have hsame := hserves.eq_of_le (Nat.le_of_lt hij) (Nat.le_of_lt hj) hle
    exact .reused rfl hc (hbookmarks.trans (congrArg Account.bookmarks hsame))
  | @refreshed time list _ _ hlist =>
    exact .refreshed (keep_eq _ _).2 (hserves.all _ _ hlist)

/-- A search for tea. -/
def teaSearch (token : Text) : Request where
  trigger := "pb"
  kind := .pinboard
  terms := "tea"
  linkText := []
  config := { pinboardApiKey := token }

/-- The world behind such a search. -/
def afterTea (token : Text) (w : World) : World := ((provider (teaSearch token)).run w).2

/-- An account that changes between the first request and the second one. -/
def changing : Nat → Account
  | 0 => ⟨"2024-01-01T00:00:00Z", [{ url := "https://old.example", title := "Tea" }]⟩
  | _ + 1 => ⟨"2024-02-01T00:00:00Z", [{ url := "https://new.example", title := "Tea" }]⟩

/-- A world with a service that holds this account. -/
def changingWorld : World := { network := fun n => (changing n).answers "first:1" }

/-- The world after two searches. -/
def changedWorld : World := afterTea "first:1" (afterTea "first:1" changingWorld)

/-- The first search keeps the new list beside the old time, so the second one
fetches it again, and the third one answers with it. -/
theorem never_stale_after_change :
    ((provider (teaSearch "first:1")).run changedWorld).1
        = .ok (some (.titled "https://new.example" "Tea"))
      ∧ ∃ list, some (Hit.titled "https://new.example" "Tea")
          = answer list (teaSearch "first:1").terms
        ∧ Current id "first:1" changing changedWorld
          ((provider (teaSearch "first:1")).run changedWorld).2 list := by
  have hchanges : ∀ i, changing (i + 1) = changing i
      ∨ (changing i).updated < (changing (i + 1)).updated := by
    intro i
    cases i with
    | zero => exact .inr (by decide +kernel)
    | succ i => exact .inl rfl
  have hserves : Serves changingWorld.network id "first:1" changing :=
    serves_of_answers hchanges fun _ _ _ => rfl
  have hfirst : Reached id (fun _ => changing) (· = "first:1") changingWorld
      (afterTea "first:1" changingWorld) _ :=
    .search (teaSearch "first:1") (.start (by decide +kernel)) rfl
  have hreached : Reached id (fun _ => changing) (· = "first:1") changingWorld changedWorld _ :=
    .search (teaSearch "first:1") hfirst rfl
  have hhit : ((provider (teaSearch "first:1")).run changedWorld).1
      = .ok (some (.titled "https://new.example" "Tea")) := by
    decide +kernel
  exact ⟨hhit, never_stale Nat.lt_succ_self hserves hreached rfl hhit⟩

/-! ## Several accounts -/

/-- **Whose bookmarks a search answers with.** They are those that an account
held at some instant. The account is the one that the search has the token of,
unless what is kept was fetched with another token and the time that the search
is told is no later than the one beside it. -/
theorem answer_own_iff (hclock : ∀ n, clock n < clock (n + 1))
    (hserves : ∀ token, tokens token → Serves start.network clock token (accounts token))
    (hreached : Reached clock accounts tokens start w owner)
    {request : Request} (htoken : tokens request.config.pinboardApiKey) {hit : Option Hit}
    (hhit : ((provider request).run w).1 = .ok hit) :
    ∃ source i, tokens source ∧ i < clock ((provider request).run w).2.requests.length
      ∧ hit = answer (accounts source i).bookmarks request.terms
      ∧ (source = request.config.pinboardApiKey ↔
        ∀ time c, toldUpdate request.config.pinboardApiKey w = .ok time → kept w = some c →
          Text.le time c.updated = true → owner = some request.config.pinboardApiKey) := by
  obtain ⟨hnetwork, hheld⟩ := hreached.held hclock hserves
  have hserve := hserves _ htoken
  rw [← hnetwork] at hserve
  obtain ⟨list, hanswer, hcourse⟩ := exists_bookmarks hhit
  generalize ((provider request).run w).2 = w' at hcourse ⊢
  cases hcourse with
  | @reused time c htime hc hle =>
    obtain ⟨source, i, j, howner, hsource, -, hj, -, hbookmarks⟩ := hheld c hc
    refine ⟨source, j, hsource, Nat.lt_of_lt_of_le hj (clock_mono hclock (Nat.le_succ _)),
      hbookmarks ▸ hanswer, ?_⟩
    constructor
    · rintro rfl _ _ _ _ _
      exact howner
    · intro hown
      exact Option.some.inj (howner.symm.trans (hown time c htime hc hle))
  | @refreshed time list htime hold hlist =>
    have hlast : (keep (fetched request.config.pinboardApiKey w) ⟨time, list⟩).requests.length
        = w.requests.length + 2 := congrArg List.length (keep_eq _ _).2
    refine ⟨_, clock (w.requests.length + 1), htoken, ?_, hserve.all _ _ hlist ▸ hanswer, ?_⟩
    · rw [hlast]
      exact hclock _
    · refine ⟨fun _ time' c htime' hc hle => ?_, fun _ => rfl⟩
      rw [htime] at htime'
      rw [← Except.ok.inj htime', hold c hc] at hle
      cases hle

/-- Two accounts that do not change, the first of them with the later time. -/
def twoAccounts (token : Text) : Nat → Account := fun _ =>
  if token = "first:1" then
    ⟨"2024-06-01T00:00:00Z", [{ url := "https://first.example", title := "Tea" }]⟩
  else ⟨"2024-01-01T00:00:00Z", [{ url := "https://second.example", title := "Tea" }]⟩

/-- A world with a service that holds both. -/
def sharedWorld : World where
  network _ request := ((twoAccounts "first:1" 0).answers "first:1" request).or
    ((twoAccounts "second:2" 0).answers "second:2" request)

/-- The service tells each account from the other. -/
theorem serves_sharedWorld : ∀ token : Text, token = "first:1" ∨ token = "second:2" →
    Serves sharedWorld.network id token (twoAccounts token) := by
  have hanswers : ∀ token ∈ ["first:1".toList, "second:2".toList],
      ∀ what ∈ ["update".toList, "all".toList],
        sharedWorld.network 0 ⟨.get, queryUrl what token, true⟩
          = (twoAccounts token 0).answers token ⟨.get, queryUrl what token, true⟩ := by
    decide +kernel
  rintro token (rfl | rfl)
  · exact serves_of_answers (fun _ => .inl rfl) fun _ what hwhat =>
      hanswers "first:1" (by simp) what hwhat
  · exact serves_of_answers (fun _ => .inl rfl) fun _ what hwhat =>
      hanswers "second:2" (by simp) what hwhat

/-- The first account is asked for, and its bookmarks are kept. -/
theorem reached_sharedWorld :
    Reached id twoAccounts (fun token => token = "first:1" ∨ token = "second:2") sharedWorld
      (afterTea "first:1" sharedWorld) (some "first:1") := by
  have hsearch : Reached id twoAccounts (fun token => token = "first:1" ∨ token = "second:2")
      sharedWorld (afterTea "first:1" sharedWorld) _ :=
    .search (teaSearch "first:1") (.start (by decide +kernel)) (.inl rfl)
  rwa [if_neg (by decide +kernel)] at hsearch

/-- A search with the second token finds a bookmark, and not one of its own. -/
theorem answer_source_of_first :
    ((provider (teaSearch "second:2")).run (afterTea "first:1" sharedWorld)).1
        = .ok (some (.titled "https://first.example" "Tea"))
      ∧ ∃ (source : Text) (i : Nat), (source = "first:1" ∨ source = "second:2")
        ∧ i < ((provider (teaSearch "second:2")).run
          (afterTea "first:1" sharedWorld)).2.requests.length
        ∧ some (Hit.titled "https://first.example" "Tea")
          = answer (twoAccounts source i).bookmarks (teaSearch "second:2").terms
        ∧ (source = "second:2" ↔ ∀ time c,
          toldUpdate "second:2" (afterTea "first:1" sharedWorld) = .ok time →
          kept (afterTea "first:1" sharedWorld) = some c → Text.le time c.updated = true →
          some "first:1".toList = some "second:2".toList) := by
  have hhit : ((provider (teaSearch "second:2")).run (afterTea "first:1" sharedWorld)).1
      = .ok (some (.titled "https://first.example" "Tea")) := by
    decide +kernel
  exact ⟨hhit, answer_own_iff Nat.lt_succ_self serves_sharedWorld reached_sharedWorld
    (.inr rfl) hhit⟩

/-- It never was one of the second account. -/
theorem answer_of_other_account :
    Reached id twoAccounts (fun token => token = "first:1" ∨ token = "second:2") sharedWorld
        (afterTea "first:1" sharedWorld) (some "first:1")
      ∧ (∀ token : Text, token = "first:1" ∨ token = "second:2" →
        Serves sharedWorld.network id token (twoAccounts token))
      ∧ ∃ hit, ((provider (teaSearch "second:2")).run (afterTea "first:1" sharedWorld)).1 = .ok hit
        ∧ ∀ i, hit ≠ answer (twoAccounts "second:2" i).bookmarks (teaSearch "second:2").terms := by
  refine ⟨reached_sharedWorld, serves_sharedWorld,
    some (.titled "https://first.example" "Tea"), by decide +kernel, fun i => ?_⟩
  show _ ≠ answer (twoAccounts "second:2" 0).bookmarks (teaSearch "second:2").terms
  decide +kernel

end

end InlineSearch.Provider.Pinboard
