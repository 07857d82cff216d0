/-
InlineSearch.Proofs.Search.Steady — searches whose outcomes do not depend
on when they are carried out.

A provider, a validator or a title source acts on a state and may leave
traces in it. It is steady if its answer does not depend on that state.
Where all that a resolver asks is steady, so is every search
(`Resolver.Steady.resolve`): a search then has one outcome, whatever has
been searched before.
-/
import InlineSearch.Search.Resolve

namespace InlineSearch.Search

variable {σ α β : Type}

/-- What an action gives does not depend on the state that it begins in. -/
def Steady (action : StateM σ α) : Prop := ∀ s s' : σ, (action s).1 = (action s').1

theorem steady_pure (a : α) : Steady (pure a : StateM σ α) := fun _ _ => rfl

/-- Steady actions one after the other are steady. -/
theorem Steady.bind {action : StateM σ α} {next : α → StateM σ β} (h : Steady action)
    (hnext : ∀ a, Steady (next a)) : Steady (action >>= next) := by
  intro s s'
  show (next (action s).1 (action s).2).1 = (next (action s').1 (action s').2).1
  rw [h s s']
  exact hnext _ _ _

/-- What goes on behind an action that gives nothing, made or left out. -/
theorem Steady.behind {c : Prop} [Decidable c] {action : StateM σ Unit}
    {next : Unit → StateM σ β} (h : Steady (next ())) :
    Steady (if c then action >>= next else next ()) := by
  split
  · exact Steady.bind (fun _ _ => rfl) fun _ => h
  · exact h

namespace Resolver

/-- Providers, validator and title source answer as functions of what they
are asked. -/
structure Steady (r : Resolver σ) : Prop where
  providers : ∀ entry ∈ r.registry.providers, ∀ request, Search.Steady (entry.2 request)
  history : ∀ provider ∈ r.registry.history, ∀ request, Search.Steady (provider request)
  validator : ∀ validator ∈ r.validator, ∀ url, Search.Steady (validator url)
  titles : ∀ titles ∈ r.titles, ∀ url, Search.Steady (titles url)

namespace Steady

variable {r : Resolver σ} (h : r.Steady)
include h

theorem validate (url : Text) : Search.Steady (r.validate url) := by
  unfold Resolver.validate
  split
  · next validator hvalidator => exact h.validator validator hvalidator url
  · exact steady_pure _

theorem pageTitle (url : Text) : Search.Steady (r.pageTitle url) := by
  unfold Resolver.pageTitle
  split
  · next titles htitles =>
    exact (h.titles titles htitles url).bind fun _ => steady_pure _
  · exact steady_pure _

theorem hitTitle (job : Job) (hit : Hit) : Search.Steady (r.hitTitle job hit) := by
  unfold Resolver.hitTitle
  dsimp only
  split
  · exact h.pageTitle hit.url
  · exact steady_pure _

/-- A validation that is made or left out, and what goes on behind it. -/
theorem validated {c : Prop} [Decidable c] (url : Text) {next : Validation → StateM σ β}
    (hnext : ∀ validation, Search.Steady (next validation)) :
    Search.Steady (if c then r.validate url >>= next else pure .valid >>= next) := by
  split
  · exact (h.validate url).bind hnext
  · exact (steady_pure _).bind hnext

theorem settle (job : Job) (kind : Kind) (terms linkText : Text) (hit : Hit) :
    Search.Steady (r.settle job kind terms linkText hit) := by
  unfold Resolver.settle
  refine (h.hitTitle job hit).bind fun title => ?_
  refine h.validated hit.url fun validation => ?_
  dsimp only
  split
  · exact steady_pure _
  · exact steady_pure _

theorem replace (job : Job) (url linkText : Text) :
    Search.Steady (r.replace job url linkText) := by
  unfold Resolver.replace
  refine h.validated url fun validation => ?_
  dsimp only
  split
  · exact steady_pure _
  · exact steady_pure _

theorem ask (job : Job) {provider : Provider σ} (trigger : Text) (kind : Kind)
    (terms linkText : Text) (hprovider : ∀ request, Search.Steady (provider request)) :
    Search.Steady (r.ask job provider trigger kind terms linkText) := by
  unfold Resolver.ask
  refine (hprovider _).bind fun answer => ?_
  split
  · split
    · exact steady_pure _
    · exact h.settle job kind terms linkText _
  · exact steady_pure _
  · exact steady_pure _
  · exact steady_pure _

/-- A provider that is looked up is one of the registry. -/
theorem lookup {trigger : Text} {provider : Provider σ}
    (hlookup : r.registry.providers.lookup trigger = some provider) :
    ∀ request, Search.Steady (provider request) := by
  obtain ⟨before, after, hentries, -⟩ := List.lookup_eq_some_iff.1 hlookup
  refine h.providers (trigger, provider) ?_
  rw [hentries]
  exact List.mem_append_right _ (List.mem_cons_self ..)

theorem builtin? {trigger : Text} {kind : Kind} {provider : Provider σ}
    (hbuiltin : r.registry.builtin? trigger = some (kind, some provider)) :
    ∀ request, Search.Steady (provider request) := by
  unfold Registry.builtin? at hbuiltin
  split at hbuiltin
  · simp only [Option.some.injEq, Prod.mk.injEq] at hbuiltin
    exact h.history provider hbuiltin.2
  · obtain ⟨b, -, hb⟩ := Option.map_eq_some_iff.1 hbuiltin
    exact h.lookup (Prod.mk.inj hb).2

/-- Whatever a trigger leads to, the provider is one of the registry. -/
theorem target {job : Job} {trigger terms linkText terms' linkText' : Text} {kind : Kind}
    {provider : Provider σ}
    (htarget : r.target job trigger terms linkText = (kind, some provider, terms', linkText')) :
    ∀ request, Search.Steady (provider request) := by
  unfold Resolver.target at htarget
  split at htarget
  · next kind own hbuiltin =>
    simp only [Prod.mk.injEq] at htarget
    obtain ⟨-, hprovider, -⟩ := htarget
    cases own with
    | some own =>
      rw [← Option.some.inj hprovider]
      exact h.builtin? hbuiltin
    | none => exact h.lookup hprovider
  · split at htarget
    · exact h.lookup (Prod.mk.inj (Prod.mk.inj htarget).2).1
    · exact h.lookup (Prod.mk.inj (Prod.mk.inj htarget).2).1

/-- **Searches of a steady resolver are steady.** -/
theorem resolve (job : Job) (rank : Nat) : Search.Steady (r.resolve job rank) := by
  unfold Resolver.resolve
  split
  · exact steady_pure _
  · refine Steady.behind ?_
    split
    split
    · exact h.replace job _ _
    · next _ htarget => exact h.ask job _ _ _ _ (h.target htarget)
    · exact steady_pure _

end Steady

end Resolver

end InlineSearch.Search
