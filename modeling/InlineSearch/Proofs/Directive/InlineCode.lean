/-
InlineSearch.Proofs.Directive.InlineCode — which backticks open and close
inline code.

A backtick is seen together with the character in front of it. In a run of
backticks only every second one is seen, the first one among them.

* `hitsFrom_backtick_append` — the backticks of a text are those of its parts,
  where no run is cut.
* `length_hits_backtick` — how many are seen, run by run.
* `endsInCode_iff` — whether inline code is open behind a text, and
  `Within.endsInCode_iff` — inside a code span.
-/
import InlineSearch.Directive.Span
import InlineSearch.Proofs.Text.Hits
import Mathlib.Algebra.Order.Group.Nat
import Mathlib.Algebra.Ring.Parity

namespace InlineSearch.Span

/-! ## Texts put together -/

open Text (hitsFrom lastOf)

/-- What a backtick is seen with stands in front of it. -/
theorem backtick_append {b : Text} (hb : b.head? ≠ some '\x60') (before : Option Char) (c : Char)
    (a : Text) : backtick before (c :: a ++ b) = backtick before (c :: a) := by
  cases a with
  | cons d a =>
    unfold backtick
    split <;> simp_all
  | nil =>
    cases b with
    | nil => rfl
    | cons d b =>
      have hd : d ≠ '\x60' := fun hd => hb (congrArg some hd)
      unfold backtick
      split <;> simp_all

/-- A backtick that is seen ends what is taken. -/
theorem length_le_of_backtick {before : Option Char} {c : Char} {a : Text} {taken : Nat} {u : Unit}
    (h : backtick before (c :: a) = some (taken + 1, u)) : taken ≤ a.length := by
  unfold backtick at h
  split at h
  · cases h
    exact Nat.zero_le _
  · next heq =>
    split at h
    · cases h
    · cases h
      cases heq
      exact Nat.le_add_left ..
  · cases h

/-- The backticks of a text are those of its parts, if the second one does not
begin with one. -/
theorem hitsFrom_backtick_append {b : Text} (hb : b.head? ≠ some '\x60') {a : Text} {skip : Nat}
    (hskip : skip ≤ a.length) (before : Option Char) :
    hitsFrom backtick skip before (a ++ b)
      = hitsFrom backtick skip before a ++ hitsFrom backtick 0 (lastOf before a) b := by
  induction a generalizing skip before with
  | nil =>
    rw [Nat.le_zero.1 hskip]
    rfl
  | cons c a ih =>
    rw [List.cons_append]
    cases skip with
    | succ skip =>
      rw [Text.hitsFrom_skip, Text.hitsFrom_skip]
      exact ih (Nat.le_of_succ_le_succ hskip) (some c)
    | zero =>
      rcases Text.hit_or_miss backtick before (c :: a) with ⟨taken, u, hp⟩ | hmiss
      · have hp' : backtick before (c :: (a ++ b)) = some (taken + 1, u) :=
          (backtick_append hb before c a).trans hp
        rw [Text.hitsFrom_hit hp, Text.hitsFrom_hit hp', ih (length_le_of_backtick hp)]
        rfl
      · have hmiss' : ∀ taken u, backtick before (c :: (a ++ b)) ≠ some (taken + 1, u) := by
          intro taken u hp
          exact hmiss taken u ((backtick_append hb before c a).symm.trans hp)
        rw [Text.hitsFrom_miss hmiss, Text.hitsFrom_miss hmiss', ih (Nat.zero_le _)]
        rfl

/-- A text that begins with something else does not depend on what stands
before it. -/
theorem hitsFrom_backtick_of_head {b : Text} (hb : b.head? ≠ some '\x60')
    (before before' : Option Char) :
    hitsFrom backtick 0 before b = hitsFrom backtick 0 before' b := by
  cases b with
  | nil => rfl
  | cons c b =>
    have hc : c ≠ '\x60' := fun hc => hb (congrArg some hc)
    have hsame : backtick before (c :: b) = backtick before' (c :: b) := by
      unfold backtick
      split <;> simp_all
    rcases Text.hit_or_miss backtick before (c :: b) with ⟨taken, u, hp⟩ | hmiss
    · rw [Text.hitsFrom_hit hp, Text.hitsFrom_hit (hsame ▸ hp)]
    · rw [Text.hitsFrom_miss hmiss, Text.hitsFrom_miss (hsame ▸ hmiss)]

theorem hitsFrom_backtick_eq_nil {x : Text} (hx : '\x60' ∉ x) (before : Option Char) :
    hitsFrom backtick 0 before x = [] := by
  refine List.eq_nil_iff_forall_not_mem.2 fun u hu => ?_
  obtain ⟨pre, suf, taken, rfl, hp⟩ := Text.exists_of_mem_hitsFrom hu
  refine hx (List.mem_append_right _ ?_)
  unfold backtick at hp
  split at hp
  · simp
  · simp
  · cases hp

/-- What has no backtick opens and closes no inline code. -/
theorem endsInCode_insert {x b : Text} (hx : '\x60' ∉ x) (hb : b.head? ≠ some '\x60') (a : Text) :
    endsInCode (a ++ x ++ b) = endsInCode (a ++ b) := by
  have hhead : x.head? ≠ some '\x60' := fun h => hx (List.mem_of_head? h)
  have hcut : Text.hits backtick (a ++ x ++ b) = Text.hits backtick (a ++ b) := by
    show hitsFrom backtick 0 none _ = hitsFrom backtick 0 none _
    rw [hitsFrom_backtick_append hb (Nat.zero_le _), hitsFrom_backtick_append hb (Nat.zero_le _),
      hitsFrom_backtick_append hhead (Nat.zero_le _), hitsFrom_backtick_eq_nil hx,
      List.append_nil, hitsFrom_backtick_of_head hb]
  unfold endsInCode
  rw [hcut]

/-! ## Runs of backticks -/

/-- Behind any other character a text is seen as at the start of a line. -/
theorem hitsFrom_backtick_cons {c : Char} (hc : c ≠ '\x60') (hescape : c ≠ '\x5c')
    (before : Option Char) (t : Text) :
    hitsFrom backtick 0 before (c :: t) = hitsFrom backtick 0 none t := by
  have hfirst : ∀ t, backtick before (c :: '\x60' :: t) = some (2, ()) := by
    intro t
    unfold backtick
    split <;> simp_all
  by_cases hhead : t.head? = some '\x60'
  · obtain ⟨t, rfl⟩ := List.head?_eq_some_iff.1 hhead
    rw [Text.hitsFrom_hit (hfirst t), Text.hitsFrom_skip, Text.hitsFrom_hit rfl]
  · have hmiss : ∀ taken u, backtick before (c :: t) ≠ some (taken + 1, u) := by
      intro taken u
      unfold backtick
      split <;> simp_all
    rw [Text.hitsFrom_miss hmiss, hitsFrom_backtick_of_head hhead]

theorem hits_backtick_append_cons {c : Char} (hc : c ≠ '\x60') (hescape : c ≠ '\x5c') (a b : Text) :
    Text.hits backtick (a ++ c :: b) = Text.hits backtick a ++ Text.hits backtick b := by
  have hhead : (c :: b).head? ≠ some '\x60' := by simpa using hc
  have hparts := hitsFrom_backtick_append hhead (Nat.zero_le a.length) none
  rw [hitsFrom_backtick_cons hc hescape] at hparts
  exact hparts

/-- Of a run behind a backtick every second one is seen. -/
theorem length_hitsFrom_run : ∀ n : Nat,
    (hitsFrom backtick 0 (some '\x60') (List.replicate n '\x60')).length = n / 2
  | 0 => rfl
  | 1 => rfl
  | n + 2 => by
    have hpair : backtick (some '\x60') ('\x60' :: '\x60' :: List.replicate n '\x60')
        = some (2, ()) := rfl
    rw [List.replicate_succ, List.replicate_succ, Text.hitsFrom_hit hpair, Text.hitsFrom_skip,
      List.length_cons, length_hitsFrom_run n]
    omega

/-- Of a run the first backtick is seen, and every second one from there on. -/
theorem length_hits_run (n : Nat) :
    (Text.hits backtick (List.replicate n '\x60')).length = (n + 1) / 2 := by
  cases n with
  | zero => rfl
  | succ n =>
    have hfirst : backtick none ('\x60' :: List.replicate n '\x60') = some (1, ()) := rfl
    show (hitsFrom backtick 0 none _).length = _
    rw [List.replicate_succ, Text.hitsFrom_hit hfirst, List.length_cons, length_hitsFrom_run]
    omega

/-! ## Code delimiters -/

/-- The code delimiters of a text: its runs of backticks, each as long as it
goes. -/
def delimiters (t : Text) : List Text := (t.splitOnP (· != '\x60')).filter (!·.isEmpty)

theorem delimiters_append_cons {c : Char} (hc : c ≠ '\x60') (a b : Text) :
    delimiters (a ++ c :: b) = delimiters a ++ delimiters b := by
  have hends : (· != '\x60') c = true := bne_iff_ne.2 hc
  unfold delimiters
  rw [List.splitOnP_append_cons (p := (· != '\x60')) a b hends, List.filter_append]

theorem delimiters_run (n : Nat) : delimiters (List.replicate n '\x60')
    = if n = 0 then [] else [List.replicate n '\x60'] := by
  have hsplit : (List.replicate n '\x60').splitOnP (· != '\x60') = [List.replicate n '\x60'] :=
    List.splitOnP_eq_singleton (by simp)
  unfold delimiters
  rw [hsplit]
  cases n <;> simp

/-- A text is a run of backticks, or one that another character ends. -/
theorem run_or_cons (t : Text) : (∃ n, t = List.replicate n '\x60')
    ∨ ∃ n c rest, c ≠ '\x60' ∧ t = List.replicate n '\x60' ++ c :: rest := by
  induction t with
  | nil => exact .inl ⟨0, rfl⟩
  | cons c t ih =>
    by_cases hc : c = '\x60'
    · subst hc
      rcases ih with ⟨n, rfl⟩ | ⟨n, d, rest, hd, rfl⟩
      · exact .inl ⟨n + 1, rfl⟩
      · exact .inr ⟨n + 1, d, rest, hd, rfl⟩
    · exact .inr ⟨0, c, t, hc, rfl⟩

/-- **A delimiter is seen once for every two of its backticks**, rounded up. -/
theorem length_hits_backtick (t : Text) (h : '\x5c' ∉ t) :
    (Text.hits backtick t).length = ((delimiters t).map fun d => (d.length + 1) / 2).sum := by
  have hrun : ∀ n, (Text.hits backtick (List.replicate n '\x60')).length
      = ((delimiters (List.replicate n '\x60')).map fun d => (d.length + 1) / 2).sum := by
    intro n
    rw [length_hits_run, delimiters_run]
    cases n <;> simp
  rcases run_or_cons t with ⟨n, rfl⟩ | ⟨n, c, rest, hc, rfl⟩
  · exact hrun n
  · rw [List.mem_append, List.mem_cons, not_or, not_or] at h
    rw [hits_backtick_append_cons hc (Ne.symm h.2.1), delimiters_append_cons hc, List.length_append,
      List.map_append, List.sum_append, hrun, length_hits_backtick rest h.2.2]
termination_by t.length

/-- A delimiter that is seen an even number of times: one of three or four
backticks, of seven or eight, and so on. -/
def seenEvenly (d : Text) : Bool := d.length % 4 == 3 || d.length % 4 == 0

theorem sum_seen_mod_two (ds : List Text) :
    (ds.map fun d => (d.length + 1) / 2).sum % 2 = (ds.length + ds.countP seenEvenly) % 2 := by
  induction ds with
  | nil => rfl
  | cons d ds ih =>
    rw [List.map_cons, List.sum_cons, List.length_cons, List.countP_cons, seenEvenly]
    split
    · next heven =>
      rw [Bool.or_eq_true, beq_iff_eq, beq_iff_eq] at heven
      omega
    · next hodd =>
      rw [Bool.or_eq_true, beq_iff_eq, beq_iff_eq] at hodd
      omega

/-- Inline code is open behind a text if it has an odd number of delimiters, where
those that are seen evenly count twice. -/
theorem endsInCode_iff {t : Text} (h : '\x5c' ∉ t) :
    endsInCode t = true ↔ Odd ((delimiters t).length + (delimiters t).countP seenEvenly) := by
  unfold endsInCode
  rw [length_hits_backtick t h, sum_seen_mod_two, beq_iff_eq, Nat.odd_iff]

/-- The delimiters of a text are those of its parts, if no run is cut. -/
theorem delimiters_append {a b : Text}
    (h : a.getLast? ≠ some '\x60' ∨ b.head? ≠ some '\x60') :
    delimiters (a ++ b) = delimiters a ++ delimiters b := by
  have hnil : delimiters [] = [] := rfl
  rcases h with hlast | hhead
  · rcases List.eq_nil_or_concat a with rfl | ⟨init, c, rfl⟩
    · rw [hnil, List.nil_append, List.nil_append]
    · rw [List.concat_eq_append] at hlast ⊢
      have hc : c ≠ '\x60' := by simpa using hlast
      rw [List.append_assoc, List.singleton_append, delimiters_append_cons hc,
        delimiters_append_cons hc, hnil, List.append_nil]
  · cases b with
    | nil => rw [hnil, List.append_nil, List.append_nil]
    | cons c b =>
      have hc : c ≠ '\x60' := by simpa using hhead
      rw [delimiters_append_cons hc, ← List.nil_append (c :: b), delimiters_append_cons hc, hnil,
        List.nil_append]

/-- A text that ends inside a code span: a delimiter of `n` backticks opens the
span, and no other code is open, neither in front of the delimiter nor in the span
so far. -/
inductive Within (n : Nat) : Text → Prop
  | mk {pre inner : Text} (long : 0 < n) (pre_plain : '\x5c' ∉ pre) (inner_plain : '\x5c' ∉ inner)
      (starts : pre.getLast? ≠ some '\x60') (ends : inner.head? ≠ some '\x60')
      (pre_closed : endsInCode pre = false) (inner_closed : endsInCode inner = false) :
      Within n (pre ++ (List.replicate n '\x60' ++ inner))

/-- A code span is told from other text by the length of its delimiters. -/
theorem Within.endsInCode_iff {n : Nat} {t : Text} (h : Within n t) :
    endsInCode t = true ↔ n % 4 = 1 ∨ n % 4 = 2 := by
  obtain ⟨long, pre_plain, inner_plain, starts, ends, pre_closed, inner_closed⟩ := h
  next pre inner =>
  have hplain : '\x5c' ∉ pre ++ (List.replicate n '\x60' ++ inner) := by
    simp [pre_plain, inner_plain]
  have hrun : delimiters (List.replicate n '\x60') = [List.replicate n '\x60'] := by
    rw [delimiters_run, if_neg (by omega)]
  rw [← Bool.not_eq_true, Span.endsInCode_iff pre_plain, Nat.odd_iff] at pre_closed
  rw [← Bool.not_eq_true, Span.endsInCode_iff inner_plain, Nat.odd_iff] at inner_closed
  rw [Span.endsInCode_iff hplain, delimiters_append (.inl starts), delimiters_append (.inr ends),
    hrun, Nat.odd_iff]
  simp only [List.length_append, List.countP_append, List.length_singleton, List.countP_singleton,
    seenEvenly, List.length_replicate, Bool.or_eq_true, beq_iff_eq]
  split <;> omega

end InlineSearch.Span
