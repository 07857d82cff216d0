/-
InlineSearch.Proofs.Edit — what edits make of a line, whatever their ranges are.

A range may be reversed, reach beyond the line, split a character or overlap another
one. `Cuts` says when a range is none of the first three, and `accepted` goes through
the edits in the order of their starts and takes those that cut the line behind the
last one taken. That order is the only one in which edits with the same start keep the
order in which they were added (`sortedByStart_iff`).

`woven?` puts the line together from its slices between the accepted edits and from
their texts, and fails where a slice is none of the line. `apply` never comes to that
(`woven?_accepted`): what remains of the line behind the last accepted edit starts at a
character, and with it what is kept in front of the next one. Edits that lie apart are
all accepted, and then nothing depends on the order in which they were added
(`apply_accepted`).
-/
import InlineSearch.Proofs.Directive.Splice
import Mathlib.Data.List.Sort

namespace InlineSearch

/-! ## Slices -/

theorem Text.splitBytes?_eq_some_iff {n : Nat} {t a b : Text} :
    Text.splitBytes? n t = some (a, b) ↔ t = a ++ b ∧ n = Text.bytes a := by
  constructor
  · intro h
    fun_induction Text.splitBytes? n t generalizing a b with
    | case1 t =>
      obtain ⟨rfl, rfl⟩ := Prod.mk.inj (Option.some.inj h)
      exact ⟨rfl, rfl⟩
    | case2 => cases h
    | case3 n c t hle ih =>
      obtain ⟨⟨front, back⟩, hsplit, heq⟩ := Option.map_eq_some_iff.1 h
      obtain ⟨rfl, rfl⟩ := Prod.mk.inj heq
      obtain ⟨ht, hn⟩ := ih hsplit
      refine ⟨by rw [ht, List.cons_append], ?_⟩
      rw [Text.bytes_cons, ← hn]
      omega
    | case4 => cases h
  · rintro ⟨rfl, rfl⟩
    exact Text.splitBytes?_append a b

theorem Text.slice?_eq_some_iff {start stop : Nat} {t part : Text} :
    Text.slice? start stop t = some part
      ↔ ∃ before after, t = before ++ (part ++ after) ∧ start = Text.bytes before
        ∧ stop = start + Text.bytes part := by
  constructor
  · intro h
    simp only [Text.slice?, Option.bind_eq_bind, Option.bind_eq_some_iff, Prod.exists,
      Option.pure_def, Option.some.injEq, Text.splitBytes?_eq_some_iff] at h
    obtain ⟨_, hguard, before, rest, ⟨rfl, rfl⟩, _, after, ⟨rfl, hstop⟩, rfl⟩ := h
    have hle := (Option.guard_eq_some' _).1 hguard
    exact ⟨before, after, rfl, rfl, by omega⟩
  · rintro ⟨before, after, rfl, rfl, rfl⟩
    exact Text.slice?_append before part after

/-- Of two beginnings of a text the one with no more bytes is a beginning of the
other. -/
theorem Text.prefix_of_bytes_le {a b rest after : Text} (h : a ++ rest = b ++ after)
    (hle : Text.bytes a ≤ Text.bytes b) : ∃ gap, b = a ++ gap := by
  rcases List.append_eq_append_iff.1 h with ⟨gap, hb, -⟩ | ⟨gap, rfl, -⟩
  · exact ⟨gap, hb⟩
  · rw [Text.bytes_append] at hle
    cases gap with
    | nil => exact ⟨[], by simp⟩
    | cons c gap =>
      have := c.utf8Size_pos
      rw [Text.bytes_cons] at hle
      omega

namespace Edit

/-- An edit cuts a line if its range is the place of some part of the line. -/
def Cuts (line : Text) (e : Edit) : Prop :=
  ∃ before part after, line = before ++ (part ++ after) ∧ e.start = Text.bytes before
    ∧ e.stop = e.start + Text.bytes part

theorem cuts_iff {line : Text} {e : Edit} :
    Cuts line e ↔ (Text.slice? e.start e.stop line).isSome = true := by
  rw [Option.isSome_iff_exists]
  simp only [Text.slice?_eq_some_iff]
  exact exists_comm

instance (line : Text) (e : Edit) : Decidable (Cuts line e) := decidable_of_iff _ cuts_iff.symm

/-! ## Accepted edits -/

/-- The edits that are accepted, of some that are gone through in their order: those that
cut the line behind byte `cursor` and behind all that were accepted before. -/
def accepted (line : Text) : (cursor : Nat) → List Edit → List Edit
  | _, [] => []
  | cursor, e :: es =>
    if cursor ≤ e.start ∧ Cuts line e then e :: accepted line e.stop es
    else accepted line cursor es

/-- The line from byte `cursor` on with each of some edits in the place of its range.
Nothing if what stands between two of them is no slice of the line. -/
def woven? (line : Text) : (cursor : Nat) → List Edit → Option Text
  | cursor, [] => Text.slice? cursor (Text.bytes line) line
  | cursor, e :: es => do
    let kept ← Text.slice? cursor e.start line
    return kept ++ e.text ++ (← woven? line e.stop es)

theorem fit?_eq_some_iff {cursor : Nat} {rest kept after : Text} {e : Edit} :
    fit? cursor rest e = some (kept, after)
      ↔ ∃ part, rest = kept ++ (part ++ after) ∧ e.start = cursor + Text.bytes kept
        ∧ e.stop = e.start + Text.bytes part := by
  constructor
  · intro h
    simp only [fit?, Option.bind_eq_bind, Option.bind_eq_some_iff, Prod.exists,
      Option.pure_def, Option.some.injEq, Text.splitBytes?_eq_some_iff, Prod.mk.injEq] at h
    obtain ⟨_, hguard, _, _, ⟨rfl, hstart⟩, part, _, ⟨rfl, hstop⟩, rfl, rfl⟩ := h
    have hle := (Option.guard_eq_some' _).1 hguard
    exact ⟨part, rfl, by omega, by omega⟩
  · rintro ⟨part, rfl, hstart, hstop⟩
    exact fit?_append hstart hstop

/-- An edit fits into the rest of a line exactly if it cuts the line there. -/
theorem fits_iff {done rest : Text} {e : Edit} :
    (∃ kept after, fit? (Text.bytes done) rest e = some (kept, after))
      ↔ Text.bytes done ≤ e.start ∧ Cuts (done ++ rest) e := by
  simp only [fit?_eq_some_iff]
  constructor
  · rintro ⟨kept, after, part, rfl, hstart, hstop⟩
    refine ⟨by omega, done ++ kept, part, after, by simp, ?_, hstop⟩
    rw [hstart, Text.bytes_append]
  · rintro ⟨hle, before, part, after, hline, hstart, hstop⟩
    rw [hstart] at hle
    obtain ⟨kept, rfl⟩ := Text.prefix_of_bytes_le hline hle
    rw [List.append_assoc, List.append_cancel_left_eq] at hline
    exact ⟨kept, after, part, hline, by rw [hstart, Text.bytes_append], hstop⟩

/-- The line is woven from what the accepted edits leave of it. The part up to byte
`bytes done` is behind; it grows with each accepted edit up to the end of its range. -/
theorem woven?_accepted (done rest : Text) (edits : List Edit) :
    woven? (done ++ rest) (Text.bytes done) (accepted (done ++ rest) (Text.bytes done) edits)
      = some (applyFrom (Text.bytes done) rest edits) := by
  induction edits generalizing done rest with
  | nil =>
    have hrest := Text.slice?_append done rest []
    rw [List.append_nil] at hrest
    rw [accepted, woven?, applyFrom, Text.bytes_append, hrest]
  | cons e es ih =>
    rw [accepted, applyFrom]
    cases hfit : fit? (Text.bytes done) rest e with
    | none =>
      have hrefused : ¬ (Text.bytes done ≤ e.start ∧ Cuts (done ++ rest) e) := by
        rw [← fits_iff, hfit]
        simp
      rw [if_neg hrefused]
      exact ih done rest
    | some cut =>
      obtain ⟨kept, after⟩ := cut
      have haccepted := fits_iff.1 ⟨kept, after, hfit⟩
      obtain ⟨part, rfl, hstart, hstop⟩ := fit?_eq_some_iff.1 hfit
      have hkept : Text.slice? (Text.bytes done) e.start (done ++ (kept ++ (part ++ after)))
          = some kept := by
        rw [hstart]
        exact Text.slice?_append done kept (part ++ after)
      have hline : done ++ (kept ++ (part ++ after)) = (done ++ kept ++ part) ++ after := by simp
      have hend : e.stop = Text.bytes (done ++ kept ++ part) := by
        rw [hstop, hstart, Text.bytes_append, Text.bytes_append]
      have hlater := ih (done ++ kept ++ part) after
      rw [← hline, ← hend] at hlater
      rw [if_pos haccepted, woven?, hkept, hlater]
      rfl

/-! ## The order of edits -/

/-- Edits in the order of their starts, and those with one start in the order in which
they were added. -/
structure SortedByStart (edits sorted : List Edit) : Prop where
  ordered : sorted.Pairwise fun a b => a.start ≤ b.start
  stable : ∀ n, sorted.filter (·.start = n) = edits.filter (·.start = n)

theorem mem_of_filter_eq {a b : List Edit}
    (h : ∀ n, a.filter (·.start = n) = b.filter (·.start = n)) {e : Edit} (he : e ∈ a) : e ∈ b := by
  have hfiltered : e ∈ a.filter (·.start = e.start) := List.mem_filter.2 ⟨he, by simp⟩
  rw [h] at hfiltered
  exact List.mem_of_mem_filter hfiltered

/-- Ordered edits are the same if those with each start are. -/
theorem eq_of_ordered {a b : List Edit} (ha : a.Pairwise fun x y => x.start ≤ y.start)
    (hb : b.Pairwise fun x y => x.start ≤ y.start)
    (h : ∀ n, a.filter (·.start = n) = b.filter (·.start = n)) : a = b := by
  induction a generalizing b with
  | nil =>
    cases b with
    | nil => rfl
    | cons y b =>
      exact absurd (mem_of_filter_eq (fun n => (h n).symm) (List.mem_cons_self ..)) List.not_mem_nil
  | cons x a ih =>
    cases b with
    | nil => exact absurd (mem_of_filter_eq h (List.mem_cons_self ..)) List.not_mem_nil
    | cons y b =>
      obtain ⟨hx, hlaterx⟩ := List.pairwise_cons.1 ha
      obtain ⟨hy, hlatery⟩ := List.pairwise_cons.1 hb
      have hxfirst : ∀ e ∈ x :: a, x.start ≤ e.start :=
        List.forall_mem_cons.2 ⟨Nat.le_refl _, hx⟩
      have hyfirst : ∀ e ∈ y :: b, y.start ≤ e.start :=
        List.forall_mem_cons.2 ⟨Nat.le_refl _, hy⟩
      -- Each of the first edits is in the other list, so neither starts behind the other.
      have hxy : x.start ≤ y.start :=
        hxfirst y (mem_of_filter_eq (fun n => (h n).symm) (List.mem_cons_self ..))
      have hyx : y.start ≤ x.start := hyfirst x (mem_of_filter_eq h (List.mem_cons_self ..))
      have hfirst := h x.start
      rw [List.filter_cons_of_pos (by simp),
        List.filter_cons_of_pos (by simpa using Nat.le_antisymm hyx hxy)] at hfirst
      obtain ⟨rfl, -⟩ := List.cons.inj hfirst
      refine congrArg (x :: ·) (ih hlaterx hlatery fun n => ?_)
      have hn := h n
      by_cases hstart : x.start = n
      · rw [List.filter_cons_of_pos (by simpa using hstart),
          List.filter_cons_of_pos (by simpa using hstart)] at hn
        exact (List.cons.inj hn).2
      · rwa [List.filter_cons_of_neg (by simpa using hstart),
          List.filter_cons_of_neg (by simpa using hstart)] at hn

theorem inOrder_perm (edits : List Edit) : (inOrder edits).Perm edits :=
  List.mergeSort_perm ..

theorem start_trans (a b c : Edit) (hab : decide (a.start ≤ b.start) = true)
    (hbc : decide (b.start ≤ c.start) = true) : decide (a.start ≤ c.start) = true :=
  decide_eq_true (Nat.le_trans (of_decide_eq_true hab) (of_decide_eq_true hbc))

theorem start_total (a b : Edit) :
    (decide (a.start ≤ b.start) || decide (b.start ≤ a.start)) = true := by
  rw [Bool.or_eq_true, decide_eq_true_eq, decide_eq_true_eq]
  exact Nat.le_total ..

theorem inOrder_ordered (edits : List Edit) :
    (inOrder edits).Pairwise fun a b => a.start ≤ b.start :=
  (List.pairwise_mergeSort start_trans start_total edits).imp of_decide_eq_true

/-- The edits with one start are taken in the order in which they were added. -/
theorem filter_inOrder (edits : List Edit) (n : Nat) :
    (inOrder edits).filter (·.start = n) = edits.filter (·.start = n) := by
  have hequal : (edits.filter (·.start = n)).Pairwise
      fun a b => decide (a.start ≤ b.start) = true := by
    refine List.pairwise_of_forall_mem_list fun a ha b hb => ?_
    simp only [List.mem_filter, decide_eq_true_eq] at ha hb
    exact decide_eq_true (Nat.le_of_eq (ha.2.trans hb.2.symm))
  have hkept : (edits.filter (·.start = n)).Sublist (inOrder edits) :=
    List.sublist_mergeSort start_trans start_total hequal List.filter_sublist
  have hfiltered := hkept.filter (·.start = n)
  rw [List.filter_filter] at hfiltered
  simp only [Bool.and_self] at hfiltered
  exact (hfiltered.eq_of_length ((inOrder_perm edits).filter _).length_eq.symm).symm

/-- The edits can be put in order, and in one order alone. -/
theorem sortedByStart_iff {edits sorted : List Edit} :
    SortedByStart edits sorted ↔ sorted = inOrder edits := by
  constructor
  · intro h
    exact eq_of_ordered h.ordered (inOrder_ordered edits) fun n =>
      (h.stable n).trans (filter_inOrder edits n).symm
  · rintro rfl
    exact ⟨inOrder_ordered edits, filter_inOrder edits⟩

/-- Edits that follow one another on the line are all accepted. -/
theorem accepted_eq_self {line : Text} {edits : List Edit} (hcuts : ∀ e ∈ edits, Cuts line e)
    (hconsecutive : edits.Pairwise fun a b => a.stop ≤ b.start) {cursor : Nat}
    (hcursor : ∀ e ∈ edits, cursor ≤ e.start) : accepted line cursor edits = edits := by
  induction edits generalizing cursor with
  | nil => rfl
  | cons e es ih =>
    obtain ⟨hfirst, hcuts⟩ := List.forall_mem_cons.1 hcuts
    obtain ⟨hbehind, hconsecutive⟩ := List.pairwise_cons.1 hconsecutive
    rw [accepted, if_pos ⟨hcursor e (List.mem_cons_self ..), hfirst⟩,
      ih hcuts hconsecutive hbehind]

/-! ## Edits that lie apart -/

/-- Edits whose ranges are nonempty, cut the line and have nothing in common. -/
structure LieApart (line : Text) (edits : List Edit) : Prop where
  cuts : ∀ e ∈ edits, Cuts line e
  nonempty : ∀ e ∈ edits, e.start < e.stop
  disjoint : edits.Pairwise fun a b => a.stop ≤ b.start ∨ b.stop ≤ a.start

namespace LieApart

variable {line : Text} {edits added : List Edit}

/-- It does not matter in which order the edits were added. -/
theorem perm (h : LieApart line edits) (hperm : added.Perm edits) : LieApart line added where
  cuts e he := h.cuts e (hperm.mem_iff.1 he)
  nonempty e he := h.nonempty e (hperm.mem_iff.1 he)
  disjoint := (hperm.pairwise_iff Or.symm).2 h.disjoint

/-- In order, each of the edits starts behind the end of those before it. -/
theorem consecutive (h : LieApart line edits)
    (hordered : edits.Pairwise fun a b => a.start ≤ b.start) :
    edits.Pairwise fun a b => a.stop ≤ b.start := by
  refine (hordered.and h.disjoint).imp_of_mem fun {a b} ha hb hab => ?_
  obtain ⟨hle, hbehind | hbefore⟩ := hab
  · exact hbehind
  · have := h.nonempty b hb
    omega

/-- No two of the edits have the same start, so there is one order of them. -/
theorem inOrder_eq (h : LieApart line edits) (hperm : added.Perm edits) :
    inOrder added = inOrder edits := by
  have hadded := (h.perm ((inOrder_perm added).trans hperm)).consecutive (inOrder_ordered added)
  have hedits := (h.perm (inOrder_perm edits)).consecutive (inOrder_ordered edits)
  refine List.Perm.eq_of_pairwise (fun a b ha hb hab hba => ?_) hadded hedits
    ((inOrder_perm added).trans (hperm.trans (inOrder_perm edits).symm))
  have hanonempty := h.nonempty a (hperm.mem_iff.1 ((inOrder_perm added).mem_iff.1 ha))
  have hbnonempty := h.nonempty b ((inOrder_perm edits).mem_iff.1 hb)
  omega

end LieApart

/-- **The accepted edits are applied.** The edits are put in the order of their starts,
those with one start in the order in which they were added, and the result is the line
with those that are accepted in the places of their ranges; every slice of the line that
is taken lies in it, between two characters. Edits that lie apart are all accepted, and
the result is the same in whatever order they were added. -/
theorem apply_accepted (edits : List Edit) (line : Text) :
    ∃ sorted, (∀ l, SortedByStart edits l ↔ l = sorted)
      ∧ woven? line 0 (accepted line 0 sorted) = some (apply edits line)
      ∧ (LieApart line edits → (accepted line 0 sorted).Perm edits
        ∧ ∀ added : List Edit, added.Perm edits → apply added line = apply edits line) := by
  refine ⟨inOrder edits, fun l => sortedByStart_iff, woven?_accepted [] line (inOrder edits), ?_⟩
  intro hapart
  constructor
  · have hsorted := hapart.perm (inOrder_perm edits)
    rw [accepted_eq_self hsorted.cuts (hsorted.consecutive (inOrder_ordered edits))
      fun e _ => Nat.zero_le e.start]
    exact inOrder_perm edits
  · intro added hadded
    rw [apply, apply, hapart.inOrder_eq hadded]

/-- Edits that lie apart, added in any order. -/
theorem apply_accepted_in_any_order :
    LieApart "aéb".toList [⟨1, 3, ['e']⟩, ⟨3, 4, ['c']⟩]
      ∧ ∀ added : List Edit, added.Perm [⟨1, 3, ['e']⟩, ⟨3, 4, ['c']⟩] →
        apply added "aéb".toList = "aec".toList := by
  have hapart : LieApart "aéb".toList [⟨1, 3, ['e']⟩, ⟨3, 4, ['c']⟩] :=
    ⟨by decide, by decide, by decide⟩
  have happly : apply [⟨1, 3, ['e']⟩, ⟨3, 4, ['c']⟩] "aéb".toList = "aec".toList := by
    rw [apply, inOrder, List.mergeSort_of_pairwise (by decide)]
    decide
  obtain ⟨sorted, -, -, hall⟩ := apply_accepted [⟨1, 3, ['e']⟩, ⟨3, 4, ['c']⟩] "aéb".toList
  exact ⟨hapart, fun added hadded => ((hall hapart).2 added hadded).trans happly⟩

/-- A range that overlaps the first, one that splits a character, a reversed one and one
that reaches beyond the line are passed over. -/
example : applyFrom 0 "aéb".toList
    [⟨0, 3, ['x']⟩, ⟨1, 4, ['a']⟩, ⟨2, 3, ['b']⟩, ⟨3, 2, ['c']⟩, ⟨3, 5, ['d']⟩]
      = "xb".toList := by
  decide

end Edit

end InlineSearch
