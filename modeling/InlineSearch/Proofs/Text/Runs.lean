/-
InlineSearch.Proofs.Text.Runs — the runs of a class of characters in a text.

A run is a stretch of the class that cannot be made longer. `Runs` cuts a text into what
stands in front of its first run and its runs, each with what stands behind it. A text
has exactly one such cut (`exists_runs`, `Runs.unique`), and whatever stretch of the
class stands in the text lies within one of its runs (`Runs.within_run`).

A pattern that takes the characters of a class as far as they go (`TakesRuns`) hits the
runs, one after the other, and nothing else (`Runs.piecesFrom`). So a substitution puts
something in the place of each run and leaves the rest (`Runs.substitute`).
-/
import InlineSearch.Proofs.Text.Origin
import InlineSearch.Proofs.Text.Trim

namespace InlineSearch.Text

/-- A text cut at its runs of a class: `lead` stands in front of the first run, and each
run has beside it what stands behind it. Only behind the last run may that be nothing,
since two runs that touch each other would be one. -/
inductive Runs (p : Char → Bool) : (lead : Text) → (runs : List (Text × Text)) → Text → Prop
  | none {lead : Text} (outside : lead.all (!p ·) = true) : Runs p lead [] lead
  | run {lead run gap rest : Text} {later : List (Text × Text)}
      (outside : lead.all (!p ·) = true) (nonempty : run ≠ []) (inside : run.all p = true)
      (apart : gap = [] → later = []) (behind : Runs p gap later rest) :
      Runs p lead ((run, gap) :: later) (lead ++ (run ++ rest))

/-- Every text can be cut at its runs. -/
theorem exists_runs (p : Char → Bool) (t : Text) : ∃ lead runs, Runs p lead runs t := by
  induction t with
  | nil => exact ⟨[], [], .none rfl⟩
  | cons c t ih =>
    obtain ⟨lead, runs, h⟩ := ih
    cases hc : p c with
    | false =>
      have hlonger : ∀ {l : Text}, l.all (!p ·) = true → (c :: l).all (!p ·) = true := by
        intro l hl
        rw [List.all_cons, hl, hc]
        rfl
      cases h with
      | none outside => exact ⟨c :: t, [], .none (hlonger outside)⟩
      | run outside nonempty inside apart behind =>
        exact ⟨c :: lead, _, .run (hlonger outside) nonempty inside apart behind⟩
    | true =>
      have hsingle : [c].all p = true := by rw [List.all_cons, hc]; rfl
      -- The character goes on with a run that begins the rest, and else is a run itself.
      cases h with
      | none outside =>
        exact ⟨[], [([c], t)], .run rfl (by simp) hsingle (fun _ => rfl) (.none outside)⟩
      | @run _ run gap rest later outside nonempty inside apart behind =>
        cases lead with
        | nil =>
          have hinside : (c :: run).all p = true := by rw [List.all_cons, hc, inside]; rfl
          exact ⟨[], (c :: run, gap) :: later, .run rfl (by simp) hinside apart behind⟩
        | cons d lead =>
          exact ⟨[], ([c], d :: lead) :: (run, gap) :: later, .run rfl (by simp) hsingle
            (fun hnil => absurd hnil (by simp)) (.run outside nonempty inside apart behind)⟩

/-- What the class goes through at the start of a text ends where the class does. -/
theorem prefix_of_prefix_append {p : Char → Bool} {word a b : Text} (hword : word.all p = true)
    (hb : b.head?.any p = false) (h : word <+: a ++ b) : word <+: a := by
  obtain ⟨after, hafter⟩ := h
  rcases List.append_eq_append_iff.1 hafter with ⟨x, rfl, -⟩ | ⟨x, rfl, rfl⟩
  · exact List.prefix_append word x
  · cases x with
    | nil => rw [List.append_nil]
    | cons c x =>
      have hc : p c = true := List.all_eq_true.1 hword c (by simp)
      rw [List.cons_append, List.head?_cons, Option.any_some, hc] at hb
      cases hb

namespace Runs

variable {p : Char → Bool} {lead gap t rest : Text} {runs later : List (Text × Text)}

/-- What stands in front of the runs and behind them holds no character of the class. -/
theorem all_lead (h : Runs p lead runs t) : lead.all (!p ·) = true := by
  cases h with
  | none outside => exact outside
  | run outside => exact outside

/-- The runs and what stands around them are all of the text. -/
theorem parts (h : Runs p lead runs t) : lead ++ (runs.flatMap fun r => r.1 ++ r.2) = t := by
  induction h with
  | none => exact List.append_nil _
  | run outside nonempty inside apart behind ih => rw [List.flatMap_cons, List.append_assoc, ih]

/-- A run ends where the class does. -/
theorem head?_behind (h : Runs p gap later rest) (apart : gap = [] → later = []) :
    rest.head?.any p = false := by
  have houtside := List.all_eq_true.1 h.all_lead
  rw [← h.parts]
  cases gap with
  | nil =>
    obtain rfl := apart rfl
    rfl
  | cons c gap => simpa using houtside c (List.mem_cons_self ..)

/-- What stands in front of a run ends where the class begins. -/
theorem head?_run {run : Text} (nonempty : run ≠ []) (inside : run.all p = true) (rest : Text) :
    (run ++ rest).head?.any (!p ·) = false := by
  obtain ⟨c, run, rfl⟩ := List.exists_cons_of_ne_nil nonempty
  simpa using List.all_eq_true.1 inside c (List.mem_cons_self ..)

theorem takeWhile_lead (h : Runs p lead runs t) : t.takeWhile (!p ·) = lead := by
  cases h with
  | none outside => exact List.takeWhile_eq_self_iff.2 (List.all_eq_true.1 outside)
  | run outside nonempty inside => exact takeWhile_append_stop outside (head?_run nonempty inside _)

/-- There is one cut only: where each part ends is seen from the characters. -/
theorem unique {lead' t' : Text} {runs' : List (Text × Text)} (h : Runs p lead runs t)
    (h' : Runs p lead' runs' t') (ht : t' = t) : lead' = lead ∧ runs' = runs := by
  induction h generalizing lead' runs' t' with
  | none outside =>
    have hlead := h'.takeWhile_lead
    rw [ht, (none outside).takeWhile_lead] at hlead
    cases h' with
    | none => exact ⟨ht, rfl⟩
    | run _ nonempty =>
      rw [← hlead, List.append_right_eq_self] at ht
      exact absurd (List.append_eq_nil_iff.1 ht).1 nonempty
  | @run lead run gap rest later outside nonempty inside apart behind ih =>
    have hlead := h'.takeWhile_lead
    rw [ht, (Runs.run outside nonempty inside apart behind).takeWhile_lead] at hlead
    cases h' with
    | none =>
      rw [hlead, List.self_eq_append_right] at ht
      exact absurd (List.append_eq_nil_iff.1 ht).1 nonempty
    | @run _ run' gap' rest' later' _ nonempty' inside' apart' behind' =>
      subst hlead
      have hbehind := List.append_cancel_left ht
      have hrun := takeWhile_append_stop inside (behind.head?_behind apart)
      rw [← hbehind, takeWhile_append_stop inside' (behind'.head?_behind apart')] at hrun
      subst hrun
      obtain ⟨rfl, rfl⟩ := ih behind' (List.append_cancel_left hbehind)
      exact ⟨rfl, rfl⟩

/-- A stretch of the class lies within one of the runs. -/
theorem within_run (h : Runs p lead runs t) {stretch : Text} (hne : stretch ≠ [])
    (hinside : stretch.all p = true) (hwithin : stretch <:+: t) : ∃ r ∈ runs, stretch <:+: r.1 := by
  obtain ⟨c, tail, rfl⟩ := List.exists_cons_of_ne_nil hne
  have hall := List.all_eq_true.1 hinside
  have hc : p c = true := hall c (List.mem_cons_self ..)
  have hnotin : ∀ {a : Text}, a.all (!p ·) = true → c ∉ a := by
    intro a ha hmem
    simpa [hc] using List.all_eq_true.1 ha c hmem
  induction h with
  | none outside => exact absurd (hwithin.subset (List.mem_cons_self ..)) (hnotin outside)
  | @run lead run gap rest later outside nonempty inside apart behind ih =>
    rw [infix_append_of_not_mem (hnotin outside)] at hwithin
    rcases cons_infix_append hwithin with ⟨u, v, rfl, hstart⟩ | hrest
    · -- The stretch begins in this run, and what follows the run would end it.
      rw [List.all_cons, Bool.and_eq_true] at hinside
      obtain ⟨after, rfl⟩ := prefix_of_prefix_append hinside.2 (behind.head?_behind apart) hstart
      exact ⟨_, List.mem_cons_self .., u, after, by simp⟩
    · obtain ⟨r, hr, hin⟩ := ih hrest
      exact ⟨r, List.mem_cons_of_mem _ hr, hin⟩

/-- The characters outside the class stay if the runs are taken out. -/
theorem filter_outside (h : Runs p lead runs t) :
    t.filter (!p ·) = lead ++ runs.flatMap Prod.snd := by
  induction h with
  | none outside =>
    rw [List.filter_eq_self.2 (List.all_eq_true.1 outside), List.flatMap_nil, List.append_nil]
  | @run _ run _ _ _ outside nonempty inside apart behind ih =>
    have hnone : ∀ c ∈ run, ¬ (!p c) = true := fun c hc => by
      simp [List.all_eq_true.1 inside c hc]
    rw [List.filter_append, List.filter_append, ih,
      List.filter_eq_self.2 (List.all_eq_true.1 outside), List.filter_eq_nil_iff.2 hnone,
      List.nil_append, List.flatMap_cons]

/-- Runs stay runs if each character becomes one that is in a second class exactly if it
was in the first. -/
theorem map {q : Char → Bool} {f : Char → Char} (hf : ∀ c, q (f c) = p c)
    (h : Runs p lead runs t) :
    Runs q (lead.map f) (runs.map fun r => (r.1.map f, r.2.map f)) (t.map f) := by
  have houtside : ∀ {a : Text}, a.all (!p ·) = true → (a.map f).all (!q ·) = true := by
    intro a ha
    simpa [hf] using ha
  induction h with
  | none outside => exact .none (houtside outside)
  | run outside nonempty inside apart behind ih =>
    rw [List.map_append, List.map_append, List.map_cons]
    refine .run (houtside outside) (by simpa using nonempty) (by simpa [hf] using inside)
      (fun hgap => ?_) ih
    rw [apart (List.map_eq_nil_iff.1 hgap), List.map_nil]

/-- A text of the class in the place of each run makes no fewer and no more runs. -/
theorem replace (h : Runs p lead runs t) {new : Text} (hne : new ≠ [])
    (hinside : new.all p = true) :
    Runs p lead (runs.map fun r => (new, r.2)) (lead ++ runs.flatMap fun r => new ++ r.2) := by
  induction h with
  | none outside =>
    rw [List.map_nil, List.flatMap_nil, List.append_nil]
    exact .none outside
  | run outside nonempty inside apart behind ih =>
    rw [List.map_cons, List.flatMap_cons, List.append_assoc]
    exact .run outside hne hinside (fun hgap => by rw [apart hgap, List.map_nil]) ih

end Runs

/-! ## Patterns that take runs -/

variable {α : Type} {p : Char → Bool} {q : Pattern α} {found : Text → α}

/-- A pattern takes the characters of a class from its position on, as far as they go, and
answers with what is found in them. -/
def TakesRuns (p : Char → Bool) (found : Text → α) (q : Pattern α) : Prop :=
  ∀ before t, q before t = some ((t.takeWhile p).length, found (t.takeWhile p))

section

variable (hq : TakesRuns p found q)
include hq

/-- Outside the class the pattern takes nothing, so it does not hit. -/
theorem TakesRuns.piecesFrom_outside {a : Text} (ha : a.all (!p ·) = true) (before : Option Char)
    (t : Text) :
    piecesFrom q 0 before (a ++ t) = a.map .char ++ piecesFrom q 0 (lastOf before a) t := by
  induction a generalizing before with
  | nil => rfl
  | cons c a ih =>
    rw [List.all_cons, Bool.and_eq_true] at ha
    have hc : p c = false := by simpa using ha.1
    have hmiss : ∀ taken b, q before (c :: (a ++ t)) ≠ some (taken + 1, b) := by
      intro taken b
      rw [hq, List.takeWhile_cons_of_neg (by simp [hc])]
      simp
    rw [List.cons_append, piecesFrom_miss hmiss, ih ha.2]
    rfl

/-- The pieces of a text are its runs and the characters around them. -/
theorem Runs.piecesFrom {lead t : Text} {runs : List (Text × Text)} (h : Runs p lead runs t)
    (before : Option Char) : piecesFrom q 0 before t
      = lead.map .char ++ runs.flatMap fun r => .hit (found r.1) :: r.2.map .char := by
  induction h generalizing before with
  | @none lead outside =>
    have hpieces := hq.piecesFrom_outside outside before []
    rwa [List.append_nil] at hpieces
  | @run lead run gap rest later outside nonempty inside apart behind ih =>
    rw [hq.piecesFrom_outside outside, List.flatMap_cons]
    obtain ⟨c, run, rfl⟩ := List.exists_cons_of_ne_nil nonempty
    have hhit : q (lastOf before lead) (c :: (run ++ rest))
        = some (run.length + 1, found (c :: run)) := by
      rw [hq, ← List.cons_append, takeWhile_append_stop inside (behind.head?_behind apart),
        List.length_cons]
    rw [List.cons_append, piecesFrom_hit hhit, piecesFrom_append, ih, List.cons_append]

/-- A substitution puts something in the place of each run and leaves the rest. -/
theorem Runs.substitute {lead t : Text} {runs : List (Text × Text)} (h : Runs p lead runs t)
    (f : α → Text) : substitute q f t = lead ++ runs.flatMap fun r => f (found r.1) ++ r.2 := by
  rw [Text.substitute, pieces, h.piecesFrom hq]
  simp only [List.flatMap_append, List.flatMap_map, List.flatMap_assoc, List.flatMap_cons,
    List.flatMap_singleton']

end

end InlineSearch.Text
