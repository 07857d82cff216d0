/-
InlineSearch.Proofs.Reference.Draws — markers that are drawn one after the
other.

Markers are drawn for links and for footnotes, in any order, and each draw says
whether it wants the random prefix. What the draws of one kind return does not
depend on those of the other (`drawn_eq`): the `i`-th of them has the `i`-th
number behind the count of the document (`nth`), and the prefix that all share.

Numbers stop at the largest one of 64 bits. Until then they increase, so no
marker is drawn twice; from then on a marker is new only if its flag is
(`markers_distinct_iff`).
-/
import InlineSearch.Proofs.Reference.Spelling
import Mathlib.Data.List.Nodup

namespace InlineSearch.Reference

/-- What a marker is drawn for. -/
inductive MarkerKind where
  | link
  | footnote
deriving DecidableEq, Repr

namespace MarkerKind

/-- What stands before the number of a marker. -/
def mark : MarkerKind → Text
  | .link => []
  | .footnote => "fn"

/-- The marker with a number, behind what it begins with. -/
def label (kind : MarkerKind) (start : Text) (n : Nat) : Text := start ++ kind.mark ++ fourDigits n

end MarkerKind

/-- A wish for the next marker of a kind, with the random prefix or without. -/
structure Draw where
  kind : MarkerKind
  random : Bool
deriving DecidableEq, Repr

namespace Draw

/-- Which draws of a kind want the random prefix, in their order. -/
def flags (kind : MarkerKind) (draws : List Draw) : List Bool :=
  (draws.filter (·.kind == kind)).map Draw.random

end Draw

namespace Markers

/-- The last number that was given to a kind. -/
def count (m : Markers) : MarkerKind → Nat
  | .link => m.links
  | .footnote => m.footnotes

/-- The next marker, and the markers that come next. -/
def draw (m : Markers) (d : Draw) : Text × Markers :=
  match d.kind with
  | .link => m.freshLink d.random
  | .footnote => m.freshFootnote d.random

/-- The markers that are drawn, one after the other, with their draws. -/
def drawAll (m : Markers) : List Draw → List (Draw × Text)
  | [] => []
  | d :: rest => (d, (m.draw d).1) :: (m.draw d).2.drawAll rest

/-- The markers of a kind that are drawn. -/
def drawn (m : Markers) (kind : MarkerKind) (draws : List Draw) : List Text :=
  ((m.drawAll draws).filter (·.1.kind == kind)).map Prod.snd

/-- The number of the `i`-th marker that is drawn behind a count, counted from
zero. -/
def nth (count i : Nat) : Nat := min (count + i + 1) Text.maxWord

/-! ## One draw -/

theorem draw_fst (m : Markers) (d : Draw) :
    (m.draw d).1 = d.kind.label (m.start d.random) (nth (m.count d.kind) 0) := by
  obtain ⟨kind, random⟩ := d
  cases kind with
  | link => exact congrArg (· ++ _) (List.append_nil _).symm
  | footnote => rfl

/-- A draw counts for its own kind. -/
theorem count_draw (m : Markers) (d : Draw) (kind : MarkerKind) :
    (m.draw d).2.count kind = if d.kind = kind then nth (m.count kind) 0 else m.count kind := by
  obtain ⟨drawnFor, random⟩ := d
  cases drawnFor <;> cases kind <;> rfl

/-- It leaves what markers begin with. -/
theorem start_draw (m : Markers) (d : Draw) : (m.draw d).2.start = m.start := by
  obtain ⟨kind, random⟩ := d
  cases kind <;> rfl

/-- Numbers go on from each other. -/
theorem nth_nth (count i : Nat) : nth (nth count 0) i = nth count (i + 1) := by
  unfold nth
  omega

/-- Two draws have the same number exactly if both have the largest one. -/
theorem nth_eq_nth_iff {count i j : Nat} (h : i < j) :
    nth count i = nth count j ↔ Text.maxWord ≤ count + i + 1 := by
  unfold nth
  omega

theorem nth_lt_nth_iff {count i j : Nat} (h : i < j) :
    nth count i < nth count j ↔ count + i + 1 < Text.maxWord := by
  unfold nth
  omega

/-! ## Many draws -/

/-- **What the draws of a kind return.** -/
theorem drawn_eq (m : Markers) (kind : MarkerKind) (draws : List Draw) :
    m.drawn kind draws = (Draw.flags kind draws).mapIdx fun i random =>
      kind.label (m.start random) (nth (m.count kind) i) := by
  induction draws generalizing m with
  | nil => rfl
  | cons d rest ih =>
    have hrest := ih (m.draw d).2
    rw [start_draw, count_draw] at hrest
    unfold drawn Draw.flags at hrest ⊢
    rw [drawAll]
    by_cases hkind : d.kind = kind
    · rw [if_pos hkind] at hrest
      rw [List.filter_cons_of_pos (by simpa using hkind),
        List.filter_cons_of_pos (by simpa using hkind), List.map_cons, List.map_cons, List.mapIdx_cons, hrest, draw_fst, hkind]
      simp only [nth_nth]
    · rw [if_neg hkind] at hrest
      rw [List.filter_cons_of_neg (by simpa using hkind),
        List.filter_cons_of_neg (by simpa using hkind), hrest]

/-! ## Markers and their parts -/

theorem fourDigits_injective {n k : Nat} (h : fourDigits n = fourDigits k) : n = k := by
  have hread := congrArg Text.toNat? h
  rw [toNat?_fourDigits, toNat?_fourDigits] at hread
  exact Option.some.inj hread

/-- Numbers are written without a dash, and so are the marks before them. -/
theorem dash_not_mem_label (kind : MarkerKind) (n : Nat) : '-' ∉ kind.label [] n := by
  intro hdash
  rw [MarkerKind.label, List.nil_append] at hdash
  rcases List.mem_append.1 hdash with hmark | hdigits
  · cases kind with
    | link => cases hmark
    | footnote => exact absurd hmark (by decide)
  · exact absurd (isDigit_of_mem_fourDigits hdigits) (by decide)

/-- A random prefix ends with a dash. -/
theorem dash_mem_randomPrefix (random : Nat) (document : Text) :
    '-' ∈ (ofDocument random document).randomPrefix := by
  change '-' ∈ ((prefixes document).head?).getD (fourDigits random ++ "-")
  cases hhead : (prefixes document).head? with
  | none => simp
  | some start =>
    obtain ⟨digits, -, -, rfl⟩ := isRandomPrefix_of_mem (List.mem_of_head? hhead)
    simp

/-- A marker tells whether it has the random prefix, and what its number is. -/
theorem label_eq_label_iff {random : Nat} {document : Text} {kind : MarkerKind} {a b : Bool}
    {n k : Nat} : kind.label ((ofDocument random document).start a) n
      = kind.label ((ofDocument random document).start b) k ↔ a = b ∧ n = k := by
  have hdash := dash_mem_randomPrefix random document
  constructor
  · intro h
    have hflags : a = b := by
      have hmem : '-' ∈ kind.label ((ofDocument random document).start a) n
          ↔ '-' ∈ kind.label ((ofDocument random document).start b) k := by rw [h]
      cases a <;> cases b
      · rfl
      · exact absurd (hmem.2 (by simp [MarkerKind.label, start, hdash])) (dash_not_mem_label kind n)
      · exact absurd (hmem.1 (by simp [MarkerKind.label, start, hdash])) (dash_not_mem_label kind k)
      · rfl
    subst hflags
    exact ⟨rfl, fourDigits_injective (List.append_cancel_left h)⟩
  · rintro ⟨rfl, rfl⟩
    rfl

/-! ## When markers repeat -/

/-- Markers that are drawn are distinct exactly if no two of those with the
largest number have the same flag. -/
theorem nodup_labels_iff {random : Nat} {document : Text} {kind : MarkerKind} (count : Nat)
    (flags : List Bool) :
    (flags.mapIdx fun i flag =>
        kind.label ((ofDocument random document).start flag) (nth count i)).Nodup
      ↔ (flags.drop (Text.maxWord - 1 - count)).Nodup := by
  simp only [List.Nodup, List.pairwise_iff_getElem, List.length_mapIdx, List.getElem_mapIdx, ne_eq,
    label_eq_label_iff, not_and, List.length_drop, List.getElem_drop]
  constructor
  · intro h i j hi hj hij hflags
    refine h _ _ (by omega) (by omega) (Nat.add_lt_add_left hij _) hflags
      ((nth_eq_nth_iff (Nat.add_lt_add_left hij _)).2 (by omega))
  · intro h i j hi hj hij hflags hnumbers
    have hlargest := (nth_eq_nth_iff hij).1 hnumbers
    -- From the first draw with the largest number on, draws are counted anew.
    obtain ⟨a, rfl⟩ : ∃ a, i = Text.maxWord - 1 - count + a :=
      ⟨i - (Text.maxWord - 1 - count), by omega⟩
    obtain ⟨b, rfl⟩ : ∃ b, j = Text.maxWord - 1 - count + b :=
      ⟨j - (Text.maxWord - 1 - count), by omega⟩
    exact h a b (by omega) (by omega) (by omega) hflags

theorem numbers_increase_iff (count draws : Nat) :
    ((List.range draws).map (nth count)).Pairwise (· < ·)
      ↔ count + draws ≤ Text.maxWord ∨ draws ≤ 1 := by
  simp only [List.pairwise_iff_getElem, List.length_map, List.length_range, List.getElem_map,
    List.getElem_range]
  constructor
  · intro hall
    rcases Nat.lt_or_ge 1 draws with hmany | hfew
    · have hlast := (nth_lt_nth_iff (by omega)).1
        (hall (draws - 2) (draws - 1) (by omega) (by omega) (by omega))
      exact .inl (by omega)
    · exact .inr hfew
  · intro hfits i j hi hj hij
    exact (nth_lt_nth_iff hij).2 (by omega)

/-- **When drawn markers are distinct**, over a document and any draws. Those of
a kind are numbered on from the document's count, behind one random prefix or
none. Their numbers increase exactly if the last of them fits 64 bits (or is the
only one), and they repeat exactly if two that have the largest number have the
same flag. -/
theorem markers_distinct_iff (random : Nat) (document : Text) (kind : MarkerKind)
    (draws : List Draw) :
    let m := ofDocument random document
    let flags := Draw.flags kind draws
    (m.drawn kind draws = flags.mapIdx fun i flag =>
        kind.label (if flag then m.randomPrefix else []) (nth (m.count kind) i))
    ∧ (((List.range flags.length).map (nth (m.count kind))).Pairwise (· < ·)
      ↔ m.count kind + flags.length ≤ Text.maxWord ∨ flags.length ≤ 1)
    ∧ ((m.drawn kind draws).Nodup
      ↔ (flags.drop (Text.maxWord - 1 - m.count kind)).Nodup) := by
  intro m flags
  refine ⟨m.drawn_eq kind draws, numbers_increase_iff (m.count kind) flags.length, ?_⟩
  rw [drawn_eq]
  exact nodup_labels_iff (m.count kind) flags

/-- Behind the largest number the same marker is drawn again. -/
theorem link_drawn_twice :
    ¬ ((ofDocument 4821 "[18446744073709551615]: https://x.example\n").drawn .link
      [⟨.link, false⟩, ⟨.link, false⟩]).Nodup := by
  decide +kernel

end Markers

end InlineSearch.Reference
