/-
InlineSearch.Proofs.Provider.QuietHost — whose refusals pass without a note.

A server that refuses to be checked leaves the link open, unless it is the store,
which is known to refuse. What is looked at is all of the URL between the scheme
and the path: user information, host and port (`host_text`). The store is
recognised there by its name anywhere in it, which no `@` or `:` can be a part of
(`infix_authority_iff`). So its name in the user information, or in the name of
another host, passes for the store itself.

* `refusal_silent_iff` — for which URLs a refusal is silent only at the store.
-/
import InlineSearch.Proofs.Text.Cut
import InlineSearch.Proofs.Text.Trim
import InlineSearch.Provider.LinkCheck

namespace InlineSearch.Provider.LinkCheck

open Search (Validation)

/-! ## URLs in their parts -/

/-- Whether a character ends what stands between the scheme and the path. -/
def endsAuthority (c : Char) : Bool := c == '/' || c == '?' || c == '#'

/-- The URL of a page on the web. -/
structure WebUrl where
  secure : Bool
  /-- The user information in front of the host. -/
  user : Option Text
  host : Text
  port : Option Text
  /-- The path, the query and the fragment. -/
  rest : Text
  user_chars : ∀ t ∈ user, ∀ c ∈ t, endsAuthority c = false
  host_chars : ∀ c ∈ host, endsAuthority c = false ∧ c ≠ '@'
  /-- A colon stands in a host only if this is a number in brackets. -/
  host_colon : ':' ∈ host → host.head? = some '[' ∧ host.getLast? = some ']'
  port_digits : ∀ t ∈ port, ∀ c ∈ t, c.isDigit = true
  rest_head : rest.head?.all endsAuthority = true

namespace WebUrl

variable (u : WebUrl)

/-- The scheme. -/
def scheme : Text := if u.secure then "https" else "http"

/-- The user information and the sign behind it. -/
def userText : Text :=
  match u.user with
  | some user => user ++ "@"
  | none => []

/-- The colon in front of a port, and the port. -/
def portText : Text :=
  match u.port with
  | some port => ':' :: port
  | none => []

/-- What stands between the scheme and the path. -/
def authority : Text := u.userText ++ (u.host ++ u.portText)

/-- The URL as it is written. -/
def text : Text := u.scheme ++ ("://" ++ (u.authority ++ u.rest))

end WebUrl

/-- The domain of the store. -/
def storeDomain : Text := "amazon.com"

/-- The host of the store, or one below it. -/
def IsStoreHost (host : Text) : Prop := host = storeDomain ∨ '.' :: storeDomain <:+ host

instance : DecidablePred IsStoreHost := fun _ => inferInstanceAs (Decidable (_ ∨ _))

theorem IsStoreHost.infix {host : Text} (h : IsStoreHost host) : storeDomain <:+: host := by
  rcases h with rfl | h
  · exact List.infix_refl storeDomain
  · exact (List.suffix_cons '.' storeDomain).isInfix.trans h.isInfix

/-! ## What is looked at -/

namespace WebUrl

variable (u : WebUrl)

theorem endsAuthority_of_mem {c : Char} (h : c ∈ u.authority) : endsAuthority c = false := by
  simp only [authority, List.mem_append] at h
  rcases h with h | h | h
  · unfold userText at h
    split at h
    · next user huser =>
      rcases List.mem_append.1 h with h | h
      · exact u.user_chars user huser c h
      · rw [List.mem_singleton.1 h]
        rfl
    · cases h
  · exact (u.host_chars c h).1
  · unfold portText at h
    split at h
    · next port hport =>
      rcases List.mem_cons.1 h with rfl | h
      · rfl
      · have hdigit := u.port_digits port hport c h
        rw [Bool.eq_false_iff]
        intro hends
        simp only [endsAuthority, Bool.or_eq_true, beq_iff_eq, or_assoc] at hends
        rcases hends with rfl | rfl | rfl <;> cases hdigit
    · cases h

/-- The host that is looked at has the user information and the port with it. -/
theorem host_text : LinkCheck.host u.text = u.authority := by
  have hscheme : ':' ∉ u.scheme := by
    unfold scheme
    cases u.secure <;> decide
  have hcut : Text.cut "://" u.text = some (u.scheme, u.authority ++ u.rest) :=
    Text.cut_of_not_mem hscheme _
  have hsame : ∀ c, (c != '/' && c != '?' && c != '#') = !endsAuthority c := by
    simp [endsAuthority, bne]
  have hrest : u.rest.head?.any (!endsAuthority ·) = false := by
    have hhead := u.rest_head
    cases hc : u.rest.head? <;> simp_all
  unfold LinkCheck.host
  rw [hcut]
  simp only [hsame]
  refine Text.takeWhile_append_stop ?_ hrest
  rw [List.all_eq_true]
  intro c hc
  rw [u.endsAuthority_of_mem hc]
  rfl

/-- The domain of the store stands in the host or in the user information. -/
theorem infix_authority_iff : storeDomain <:+: u.authority
    ↔ storeDomain <:+: u.host ∨ ∃ user ∈ u.user, storeDomain <:+: user := by
  have hne : storeDomain ≠ [] := by decide
  have hport : storeDomain <:+: u.host ++ u.portText ↔ storeDomain <:+: u.host := by
    unfold portText
    split
    · next port hport =>
      rw [Text.infix_append_cons (by decide) hne]
      refine or_iff_left fun hin => ?_
      have hletter : 'a' ∈ port := hin.subset (by decide)
      exact absurd (u.port_digits port hport 'a' hletter) (by decide)
    · rw [List.append_nil]
  unfold authority userText
  cases huser : u.user with
  | some user =>
    rw [List.append_assoc]
    have hsplit : storeDomain <:+: user ++ '@' :: (u.host ++ u.portText)
        ↔ storeDomain <:+: user ∨ storeDomain <:+: u.host ++ u.portText :=
      Text.infix_append_cons (by decide) hne
    simp [hsplit, hport, or_comm]
  | none => simp [hport]

/-! ## Refusals -/

/-- The domain of the store stands somewhere in the URL where it is looked for. -/
def ShowsStore : Prop := storeDomain <:+: u.host ∨ ∃ user ∈ u.user, storeDomain <:+: user

theorem isQuiet_text : isQuiet u.text = true ↔ u.ShowsStore := by
  unfold isQuiet ShowsStore
  rw [u.host_text, ← Bool.not_eq_false, Text.contains_eq_false_iff, not_not]
  exact u.infix_authority_iff

instance : Decidable u.ShowsStore := inferInstanceAs (Decidable (_ ∨ ∃ _ ∈ u.user, _))

/-- A refusal is silent where the domain of the store stands, and a note elsewhere. -/
theorem ofStatus_refused {status : Nat} (hstatus : status = 405 ∨ status = 503) :
    ofStatus u.text status
      = if u.ShowsStore then .valid else .blocked ("HTTP " ++ Text.ofNat status) := by
  have hrefuses : refusesChecks status = true := by rcases hstatus with rfl | rfl <;> rfl
  have hfailed : ¬ (200 ≤ status ∧ status ≤ 299) := by omega
  unfold ofStatus
  simp [hrefuses, hfailed, isQuiet_text]

/-- **Where only the refusals of the store are silent.** A refusal passes without a
note if the host is the store's or one below it, and is a note with the status for a
reason if not, exactly for these URLs: those of the store, and those that have its
domain neither in the host nor in the user information. -/
theorem refusal_silent_iff {status : Nat} (hstatus : status = 405 ∨ status = 503) :
    ofStatus u.text status
        = (if IsStoreHost u.host then .valid else .blocked ("HTTP " ++ Text.ofNat status))
      ↔ IsStoreHost u.host
        ∨ (¬ storeDomain <:+: u.host ∧ ∀ user ∈ u.user, ¬ storeDomain <:+: user) := by
  have hhidden : (¬ storeDomain <:+: u.host ∧ ∀ user ∈ u.user, ¬ storeDomain <:+: user)
      ↔ ¬ u.ShowsStore := by simp [ShowsStore]
  rw [u.ofStatus_refused hstatus, hhidden]
  by_cases hstore : IsStoreHost u.host
  · have hshows : u.ShowsStore := .inl hstore.infix
    simp [hstore, hshows]
  · by_cases hshows : u.ShowsStore <;> simp [hstore, hshows]

/-- A URL of the store with all parts. -/
def atStore : WebUrl where
  secure := true
  user := some "alice"
  host := "www.amazon.com"
  port := some "443"
  rest := "/dp/1?tag=x#top"
  user_chars := by simp [endsAuthority]
  host_chars := by simp [endsAuthority]
  host_colon := by decide
  port_digits := by simp
  rest_head := by decide

/-- The store refuses without a note, whatever user information and port there are. -/
theorem refusal_silent_at_store :
    atStore.text = "https://alice@www.amazon.com:443/dp/1?tag=x#top"
    ∧ IsStoreHost atStore.host ∧ ofStatus atStore.text 503 = .valid := by
  have hstore : IsStoreHost atStore.host := by decide
  have hsilent := (atStore.refusal_silent_iff (.inr rfl)).2 (.inl hstore)
  rw [if_pos hstore] at hsilent
  exact ⟨by decide, hstore, hsilent⟩

/-- A URL of another host, whose name begins like the store's. -/
def lookalike : WebUrl where
  secure := true
  user := none
  host := "amazon.com.evil.example"
  port := none
  rest := "/"
  user_chars := by simp
  host_chars := by simp [endsAuthority]
  host_colon := by decide
  port_digits := by simp
  rest_head := by decide

/-- A host with a name like the store's passes for the store. -/
theorem lookalike_refuses_silently :
    lookalike.text = "https://amazon.com.evil.example/"
    ∧ ¬ IsStoreHost lookalike.host ∧ ofStatus lookalike.text 405 = .valid := by
  exact ⟨by decide, by decide, by decide +kernel⟩

end WebUrl

end InlineSearch.Provider.LinkCheck
