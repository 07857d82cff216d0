/-
InlineSearch.Proofs.CodeBlock.Tracking — fences over the lines of a text.

The classifier carries the open fence from line to line. What it has to find
is said here without it: `Opener` and `Closer` give the shape of the lines that
a fence begins and ends with, and a line stands in a fence if an earlier line
opened that fence and no line in between closed it (`Inside`).

* `fenceAfter_eq_some_iff` — the fence that is open behind some lines is the
  one that the next line stands in.
* `isSome_fenceAfter` — each line of kind `fence` opens or closes one, and no
  other line does.
* `fences_tracked` — the kinds of all lines, from this.
-/
import InlineSearch.Proofs.CodeBlock
import InlineSearch.Proofs.Directive.Splice
import Mathlib.Algebra.Ring.Parity

namespace InlineSearch.CodeBlock

/-! ## Lines that begin and end a fence -/

/-- A line that opens a fence where none is open: at most three bytes of blanks,
of which the first is no tab, and a run of three marks or more. -/
inductive Opener : Fence → Text → Prop
  | mk {indent rest : Text} {fence : Fence} (blank : Text.isBlankText indent = true)
      (shallow : Text.bytes indent ≤ 3) (no_tab : indent.head? ≠ some '\t')
      (mark : isMark fence.mark = true) (long : 3 ≤ fence.length)
      (whole : rest.head? ≠ some fence.mark) :
      Opener fence (indent ++ (List.replicate fence.length fence.mark ++ rest))

/-- A line that closes a fence: a run of the same mark, at least as long, with
nothing but blanks around it. -/
inductive Closer : Fence → Text → Prop
  | mk {indent rest : Text} {fence : Fence} {length : Nat} (blank : Text.isBlankText indent = true)
      (long : fence.length ≤ length) (end_blank : Text.isBlankText rest = true) :
      Closer fence (indent ++ (List.replicate length fence.mark ++ rest))

/-- The run of one character at the start of a text, and what follows it. -/
theorem replicate_append_dropWhile (c : Char) (t : Text) :
    List.replicate (t.takeWhile (· == c)).length c ++ t.dropWhile (· == c) = t := by
  have hrun : t.takeWhile (· == c) = List.replicate (t.takeWhile (· == c)).length c :=
    List.eq_replicate_of_mem fun d hd => by
      simpa using List.mem_takeWhile_imp (p := (· == c)) hd
  rw [← hrun, List.takeWhile_append_dropWhile]

/-- A run of one character ends where another follows. -/
theorem head?_any_beq {t : Text} {c : Char} (h : t.head? ≠ some c) :
    t.head?.any (· == c) = false := by
  cases hhead : t.head? with
  | none => rfl
  | some d =>
    rw [Option.any_some, beq_eq_false_iff_ne]
    rintro rfl
    exact h hhead

theorem all_replicate_beq (n : Nat) (c : Char) : (List.replicate n c).all (· == c) = true := by
  simp

theorem opening?_eq_some_iff {trimmed : Text} {fence : Fence} :
    opening? trimmed = some fence ↔ isMark fence.mark = true ∧ 3 ≤ fence.length
      ∧ ∃ rest, trimmed = List.replicate fence.length fence.mark ++ rest
        ∧ rest.head? ≠ some fence.mark := by
  constructor
  · intro h
    cases trimmed with
    | nil => cases h
    | cons c rest =>
      rw [opening?_cons] at h
      split at h
      · next hopens =>
        rw [Bool.and_eq_true, decide_eq_true_eq] at hopens
        obtain rfl := Option.some.inj h
        refine ⟨hopens.1, hopens.2, _, (replicate_append_dropWhile c (c :: rest)).symm, ?_⟩
        intro hhead
        have hstop := Text.head?_dropWhile_any (· == c) (c :: rest)
        rw [hhead] at hstop
        simp at hstop
      · cases h
  · rintro ⟨hmark, hlong, rest, rfl, hrest⟩
    obtain ⟨n, hn⟩ : ∃ n, fence.length = n + 1 := ⟨fence.length - 1, by omega⟩
    have hrun : (List.replicate fence.length fence.mark ++ rest).takeWhile (· == fence.mark)
        = List.replicate fence.length fence.mark :=
      Text.takeWhile_append_stop (all_replicate_beq ..) (head?_any_beq hrest)
    rw [hn, List.replicate_succ, List.cons_append] at hrun ⊢
    rw [opening?_cons, hrun, hmark, ← List.replicate_succ, ← hn, List.length_replicate,
      decide_eq_true hlong]
    rfl

/-- Behind the blanks that a line begins with stands the rest of it. -/
theorem trimStart_append {indent rest : Text} (h : Text.isBlankText indent = true)
    (hrest : rest.head?.any Text.isBlank = false) : Text.trimStart (indent ++ rest) = rest :=
  Text.dropWhile_append_stop h hrest

theorem head?_replicate_append {n : Nat} (hn : 0 < n) (c : Char) (rest : Text) :
    (List.replicate n c ++ rest).head? = some c := by
  obtain ⟨m, rfl⟩ : ∃ m, n = m + 1 := ⟨n - 1, by omega⟩
  rfl

/-- Where a fence may open, a line is not indented as far as code. -/
theorem isIndented_of_mayOpen {line : Text} (h : mayOpen line = true) :
    isIndented line = false := by
  unfold mayOpen at h
  rw [Bool.and_eq_true, decide_eq_true_eq, Bool.not_eq_true'] at h
  have hspaces : Text.dropPrefix? "    " line = none := by
    rw [Option.eq_none_iff_forall_ne_some]
    intro rest hrest
    have hline := Text.dropPrefix?_eq_some_iff.1 hrest
    have hshallow := h.1
    have hblank : Text.isBlank ' ' = true := by decide
    simp [hline, hblank, deepestFence, Char.utf8Size] at hshallow
    omega
  have htab : Text.dropPrefix? "\t" line = none := by
    rw [Text.dropPrefix?_eq_none_iff, ← List.isPrefixOf_iff_prefix, Bool.not_eq_true]
    exact h.2
  unfold isIndented
  rw [hspaces, htab]
  rfl

theorem startsWith_tab (t : Text) : Text.startsWith "\t" t = (t.head? == some '\t') := by
  cases t with
  | nil => rfl
  | cons c t => simp [Text.startsWith, List.isPrefixOf_cons_cons, Bool.beq_comm (a := c)]

/-- A fence opens on the lines that have the shape for it. -/
theorem opener_iff {fence : Fence} {line : Text} :
    Opener fence line ↔ mayOpen line = true ∧ opening? (Text.trimStart line) = some fence := by
  unfold mayOpen
  rw [Bool.and_eq_true, decide_eq_true_eq, Bool.not_eq_true', startsWith_tab, beq_eq_false_iff_ne]
  constructor
  · rintro ⟨hblank, hshallow, htab, hmark, hlong, hwhole⟩
    next indent rest =>
    have hhead := head?_replicate_append (by omega : 0 < fence.length) fence.mark rest
    have hstop : (List.replicate fence.length fence.mark ++ rest).head?.any Text.isBlank
        = false := by
      rw [hhead]
      exact not_isBlank_of_isMark hmark
    have hindent : (indent ++ (List.replicate fence.length fence.mark ++ rest)).takeWhile
        Text.isBlank = indent := Text.takeWhile_append_stop hblank hstop
    refine ⟨⟨hindent.symm ▸ hshallow, ?_⟩, ?_⟩
    · rw [List.head?_append, hhead]
      cases hfirst : indent.head? with
      | none =>
        intro heq
        rw [Option.none_or, Option.some.injEq] at heq
        rw [heq] at hmark
        exact absurd hmark (by decide)
      | some c =>
        rw [Option.some_or, ← hfirst]
        exact htab
    · rw [trimStart_append hblank hstop, opening?_eq_some_iff]
      exact ⟨hmark, hlong, rest, rfl, hwhole⟩
  · rintro ⟨⟨hshallow, htab⟩, hopening⟩
    obtain ⟨hmark, hlong, rest, hrest, hwhole⟩ := opening?_eq_some_iff.1 hopening
    have hline : line.takeWhile Text.isBlank ++ (List.replicate fence.length fence.mark ++ rest)
        = line := by
      rw [← hrest]
      exact List.takeWhile_append_dropWhile
    rw [← hline]
    refine .mk List.all_takeWhile hshallow (fun hhead => htab ?_) hmark hlong hwhole
    rw [← hline, List.head?_append, hhead, Option.some_or]

/-- A fence closes on the lines that have the shape for it. -/
theorem closer_iff {fence : Fence} (hmark : isMark fence.mark = true) (hlong : 0 < fence.length)
    (line : Text) : Closer fence line ↔ closes fence (Text.trimStart line) = true := by
  unfold closes
  rw [Bool.and_eq_true, Bool.and_eq_true, decide_eq_true_eq, decide_eq_true_eq]
  constructor
  · rintro ⟨hblank, hlength, hend⟩
    next indent rest length =>
    have hhead := head?_replicate_append (by omega : 0 < length) fence.mark rest
    have hstop : (List.replicate length fence.mark ++ rest).head?.any Text.isBlank = false := by
      rw [hhead]
      exact not_isBlank_of_isMark hmark
    have hrest : rest.head? ≠ some fence.mark := by
      intro hfirst
      have hb := List.all_eq_true.1 hend _ (List.mem_of_mem_head? hfirst)
      rw [not_isBlank_of_isMark hmark] at hb
      simp at hb
    rw [trimStart_append hblank hstop,
      Text.takeWhile_append_stop (all_replicate_beq ..) (head?_any_beq hrest),
      Text.dropWhile_append_stop (all_replicate_beq ..) (head?_any_beq hrest),
      List.length_replicate]
    exact ⟨⟨by omega, hlength⟩, hend⟩
  · rintro ⟨⟨-, hlength⟩, hend⟩
    have hline : line.takeWhile Text.isBlank ++ Text.trimStart line = line :=
      List.takeWhile_append_dropWhile
    rw [← hline, ← replicate_append_dropWhile fence.mark (Text.trimStart line)]
    exact .mk List.all_takeWhile hlength hend

theorem snd_classify_none {line : Text} {fence : Fence} :
    (classify none line).2 = some fence ↔ Opener fence line := by
  rw [opener_iff]
  unfold classify
  dsimp only
  cases hindent : isIndented line with
  | true =>
    have hmay : mayOpen line = false := by
      rw [← Bool.not_eq_true]
      intro hmay
      rw [isIndented_of_mayOpen hmay] at hindent
      simp at hindent
    simp [hmay]
  | false =>
    cases mayOpen line with
    | false => simp
    | true => cases opening? (Text.trimStart line) <;> simp

theorem classify_some {fence : Fence} {line : Text} : classify (some fence) line
    = if closes fence (Text.trimStart line) then (.fence, none) else (.fenced, some fence) := rfl

/-- Outside fences no line is of the kind of those inside. -/
theorem fst_classify_none_ne (line : Text) : (classify none line).1 ≠ .fenced := by
  unfold classify
  dsimp only
  split
  · simp
  · split <;> simp

/-! ## Line by line -/

theorem fenceAfter_take_succ {lines : List Text} {n : Nat} {line : Text}
    (h : lines[n]? = some line) (fence? : Option Fence) :
    fenceAfter fence? (lines.take (n + 1))
      = (classify (fenceAfter fence? (lines.take n)) line).2 := by
  rw [List.take_add_one, h, fenceAfter_append]
  rfl

/-- The first lines of a text have the kinds that they have in it. -/
theorem take_classifyFrom (fence? : Option Fence) (lines : List Text) (n : Nat) :
    (classifyFrom fence? lines).take n = classifyFrom fence? (lines.take n) := by
  induction lines generalizing fence? n with
  | nil => simp [classifyFrom]
  | cons line rest ih =>
    cases n with
    | zero => rfl
    | succ n => rw [classifyFrom_cons, List.take_succ_cons, ih, List.take_succ_cons,
        classifyFrom_cons]

/-- The lines that follow have the kinds that the fence open before them makes
of them. -/
theorem drop_classifyFrom (fence? : Option Fence) (lines : List Text) (n : Nat) :
    (classifyFrom fence? lines).drop n
      = classifyFrom (fenceAfter fence? (lines.take n)) (lines.drop n) := by
  induction lines generalizing fence? n with
  | nil => simp [classifyFrom]
  | cons line rest ih =>
    cases n with
    | zero => rfl
    | succ n =>
      rw [classifyFrom_cons, List.drop_succ_cons, ih]
      rfl

/-- A line of kind `fence` opens or closes a fence, and no other line does. -/
theorem isSome_snd_classify (fence? : Option Fence) (line : Text) :
    (classify fence? line).2.isSome = (fence?.isSome ^^ (classify fence? line).1 == .fence) := by
  cases fence? with
  | some fence =>
    rw [classify_some]
    split <;> rfl
  | none =>
    unfold classify
    dsimp only
    split
    · rfl
    · split <;> rfl

theorem isSome_fenceAfter (fence? : Option Fence) (lines : List Text) :
    (fenceAfter fence? lines).isSome
      = (fence?.isSome ^^ (classifyFrom fence? lines).count .fence % 2 == 1) := by
  induction lines generalizing fence? with
  | nil => simp [fenceAfter, classifyFrom]
  | cons line rest ih =>
    rw [fenceAfter, ih, isSome_snd_classify, classifyFrom_cons, List.count_cons]
    cases (classify fence? line).1 == .fence with
    | false => simp
    | true =>
      rw [Nat.add_mod]
      rcases Nat.mod_two_eq_zero_or_one
        ((classifyFrom (classify fence? line).2 rest).count .fence) with hcount | hcount
      · simp [hcount]
      · simp [hcount]

/-! ## The fence that a line stands in -/

/-- Line `n` stands in a fence: an earlier line opened it, and no line in
between closed it. A line opens a fence if it has the shape for it, and stands
in none itself. -/
def Inside (lines : List Text) (n : Nat) (fence : Fence) : Prop :=
  ∃ i, ∃ _ : i < n,
    ((∃ line ∈ lines[i]?, Opener fence line) ∧ ∀ other, ¬ Inside lines i other)
      ∧ ∀ m, i < m → m < n → ∀ line ∈ lines[m]?, ¬ Closer fence line
termination_by n

/-- Line `n` opens a fence. -/
def Opens (lines : List Text) (n : Nat) (fence : Fence) : Prop :=
  (∃ line ∈ lines[n]?, Opener fence line) ∧ ∀ other, ¬ Inside lines n other

section

variable {lines : List Text} {n : Nat} {fence : Fence}

theorem inside_iff : Inside lines n fence ↔ ∃ i < n, Opens lines i fence
    ∧ ∀ m, i < m → m < n → ∀ line ∈ lines[m]?, ¬ Closer fence line := by
  rw [Inside]
  simp only [Opens, exists_prop]

theorem inside_zero : ¬ Inside lines 0 fence := by
  rw [inside_iff]
  rintro ⟨i, hi, -⟩
  omega

/-- A line stands in the fence of the line before it, unless that closed it, or
in the one that it opened. -/
theorem inside_succ_iff {line : Text} (h : lines[n]? = some line) :
    Inside lines (n + 1) fence
      ↔ Inside lines n fence ∧ ¬ Closer fence line ∨ Opens lines n fence := by
  rw [inside_iff, inside_iff]
  constructor
  · rintro ⟨i, hi, hopens, hopen⟩
    rcases Nat.lt_succ_iff_lt_or_eq.1 hi with hlt | rfl
    · exact .inl ⟨⟨i, hlt, hopens, fun m him hmn => hopen m him (by omega)⟩,
        hopen n hlt (by omega) line h⟩
    · exact .inr hopens
  · rintro (⟨⟨i, hi, hopens, hopen⟩, hclose⟩ | hopens)
    · refine ⟨i, by omega, hopens, fun m him hmn => ?_⟩
      rcases Nat.lt_succ_iff_lt_or_eq.1 hmn with hlt | rfl
      · exact hopen m him hlt
      · rintro other hother
        obtain rfl := Option.some.inj (h.symm.trans hother)
        exact hclose
    · exact ⟨n, by omega, hopens, fun m _ _ => by omega⟩

/-- The fence of an opening line has a mark, and is long enough to be closed. -/
theorem Inside.regular (h : Inside lines n fence) :
    isMark fence.mark = true ∧ 3 ≤ fence.length := by
  obtain ⟨i, -, ⟨⟨line, -, hopener⟩, -⟩, -⟩ := inside_iff.1 h
  cases hopener with
  | mk blank shallow no_tab mark long whole => exact ⟨mark, long⟩

end

/-- **The fence that is open behind some lines is the one that the next line
stands in.** -/
theorem fenceAfter_eq_some_iff {lines : List Text} {n : Nat} (hn : n ≤ lines.length)
    {fence : Fence} : fenceAfter none (lines.take n) = some fence ↔ Inside lines n fence := by
  induction n generalizing fence with
  | zero => exact iff_of_false (by simp [fenceAfter]) inside_zero
  | succ n ih =>
    have ih : ∀ other, fenceAfter none (lines.take n) = some other ↔ Inside lines n other :=
      fun other => ih (by omega)
    have hline : lines[n]? = some lines[n] := List.getElem?_eq_getElem hn
    rw [fenceAfter_take_succ hline, inside_succ_iff hline, Opens]
    cases hbefore : fenceAfter none (lines.take n) with
    | none =>
      simp only [hbefore, reduceCtorEq, false_iff] at ih
      rw [snd_classify_none]
      simp [ih, hline]
    | some open' =>
      simp only [hbefore, Option.some.injEq] at ih
      have hregular := ((ih open').1 rfl).regular
      have hcloser := closer_iff hregular.1 (by omega) lines[n]
      have hinside : ¬ ∀ other, ¬ Inside lines n other := fun h => h open' ((ih open').1 rfl)
      rw [classify_some, ← ih]
      simp only [hinside, and_false, or_false]
      split
      · next hclosed =>
        refine iff_of_false (by simp) ?_
        rintro ⟨rfl, hopen⟩
        exact hopen (hcloser.2 hclosed)
      · next hopen =>
        rw [Option.some.injEq, iff_self_and]
        rintro rfl
        rwa [hcloser]

/-- A line is of the kind of those inside a fence if it stands in one that it
does not close. -/
theorem getElem?_eq_fenced_iff {lines : List Text} {n : Nat} {line : Text}
    (h : lines[n]? = some line) : (classifyLines lines)[n]? = some .fenced
      ↔ ∃ fence, Inside lines n fence ∧ ¬ Closer fence line := by
  have hn : n ≤ lines.length := Nat.le_of_lt (List.getElem?_eq_some_iff.1 h).1
  rw [classifyLines, getElem?_classifyFrom, h, Option.map_some, Option.some.injEq]
  cases hbefore : fenceAfter none (lines.take n) with
  | none =>
    refine iff_of_false (fst_classify_none_ne line) ?_
    rintro ⟨fence, hinside, -⟩
    rw [← fenceAfter_eq_some_iff hn, hbefore] at hinside
    cases hinside
  | some fence =>
    have hinside := (fenceAfter_eq_some_iff hn).1 hbefore
    have hregular := hinside.regular
    have hcloser := closer_iff hregular.1 (by omega) line
    rw [classify_some]
    constructor
    · intro hkind
      refine ⟨fence, hinside, fun hclose => ?_⟩
      rw [if_pos (hcloser.1 hclose)] at hkind
      cases hkind
    · rintro ⟨other, hother, hopen⟩
      rw [← fenceAfter_eq_some_iff hn, hbefore, Option.some.injEq] at hother
      subst hother
      rw [hcloser] at hopen
      rw [if_neg hopen]

/-! ## Lines inside a fence -/

/-- A line inside a fence leaves it open. -/
theorem snd_classify_of_fenced {fence? : Option Fence} {line : Text}
    (h : (classify fence? line).1 = .fenced) : (classify fence? line).2 = fence? := by
  cases fence? with
  | none => exact absurd h (fst_classify_none_ne line)
  | some fence =>
    rw [classify_some] at h ⊢
    split at h
    · cases h
    · next hopen => rw [if_neg hopen]

/-- Behind a line inside a fence the lines are what they would be without it. -/
theorem classifyLines_of_fenced {before : List Text} {line : Text}
    (h : (classify (fenceAfter none before) line).1 = .fenced) (after : List Text) :
    classifyLines (before ++ line :: after)
      = classifyLines before ++ .fenced :: classifyFrom (fenceAfter none before) after := by
  rw [classifyLines, classifyFrom_append, classifyFrom_cons, h, snd_classify_of_fenced h]
  rfl

/-- A line of that kind, with the lines around it. -/
theorem exists_of_fenced {lines : List Text} {n : Nat}
    (h : (classifyLines lines)[n]? = some .fenced) :
    ∃ before line after, lines = before ++ line :: after ∧ before.length = n
      ∧ (classify (fenceAfter none before) line).1 = .fenced := by
  rw [classifyLines, getElem?_classifyFrom, Option.map_eq_some_iff] at h
  obtain ⟨line, hline, hkind⟩ := h
  obtain ⟨hn, rfl⟩ := List.getElem?_eq_some_iff.1 hline
  exact ⟨lines.take n, lines[n], lines.drop (n + 1), by simp,
    List.length_take_of_le (Nat.le_of_lt hn), hkind⟩

/-- A line inside a fence may be left out: every other line keeps its kind. -/
theorem classifyLines_eraseIdx {lines : List Text} {n : Nat}
    (h : (classifyLines lines)[n]? = some .fenced) :
    classifyLines (lines.eraseIdx n) = (classifyLines lines).eraseIdx n := by
  obtain ⟨before, line, after, rfl, rfl, hkind⟩ := exists_of_fenced h
  have hlength : (classifyLines before).length = before.length := length_classifyLines before
  rw [classifyLines_of_fenced hkind, List.eraseIdx_append_of_length_le (Nat.le_refl _),
    List.eraseIdx_append_of_length_le (Nat.le_of_eq hlength), hlength, Nat.sub_self]
  exact classifyFrom_append none before after

/-- It may be replaced by another one. -/
theorem classifyLines_set {lines : List Text} {n : Nat} {line : Text}
    (h : (classifyLines lines)[n]? = some .fenced)
    (hline : (classifyLines (lines.set n line))[n]? = some .fenced) :
    classifyLines (lines.set n line) = classifyLines lines := by
  obtain ⟨before, old, after, rfl, rfl, hkind⟩ := exists_of_fenced h
  have hset : (before ++ old :: after).set before.length line = before ++ line :: after := by simp
  rw [hset, classifyLines, getElem?_classifyFrom] at hline
  have hnew : (classify (fenceAfter none before) line).1 = .fenced := by simpa using hline
  rw [hset, classifyLines_of_fenced hkind, classifyLines_of_fenced hnew]

/-- Whether a line without its indent closes a fence, where what follows its
marks is cut off at a byte offset, the number of the marks. Nothing is decided
if that is no end of a character. -/
def closesAt? (fence : Fence) (trimmed : Text) : Option Bool :=
  let length := (trimmed.takeWhile (· == fence.mark)).length
  if 0 < length && fence.length ≤ length then
    (Text.splitBytes? length trimmed).map fun (_, rest) => Text.isBlankText rest
  else some false

/-- Marks take one byte each. -/
theorem bytes_replicate_mark {c : Char} (h : isMark c = true) (n : Nat) :
    Text.bytes (List.replicate n c) = n := by
  have hsize : c.utf8Size = 1 := by
    unfold isMark at h
    rw [Bool.or_eq_true, beq_iff_eq, beq_iff_eq] at h
    rcases h with rfl | rfl <;> rfl
  induction n with
  | zero => rfl
  | succ n ih => rw [List.replicate_succ, Text.bytes_cons, hsize, ih, Nat.add_comm]

/-- What follows the marks of a fence begins at the end of a character. -/
theorem closesAt?_eq {fence : Fence} (h : isMark fence.mark = true) (trimmed : Text) :
    closesAt? fence trimmed = some (closes fence trimmed) := by
  have hcut : Text.splitBytes? (trimmed.takeWhile (· == fence.mark)).length trimmed
      = some (List.replicate (trimmed.takeWhile (· == fence.mark)).length fence.mark,
        trimmed.dropWhile (· == fence.mark)) := by
    have happend := Text.splitBytes?_append
      (List.replicate (trimmed.takeWhile (· == fence.mark)).length fence.mark)
      (trimmed.dropWhile (· == fence.mark))
    rwa [bytes_replicate_mark h, replicate_append_dropWhile] at happend
  unfold closesAt? closes
  dsimp only
  rw [hcut]
  split
  · next hlong => rw [hlong, Option.map_some, Bool.true_and]
  · next hshort => rw [Bool.eq_false_iff.2 hshort, Bool.false_and]

/-- **Fences are tracked over all lines.** A fence is open behind some lines if
an odd number of them are of kind `fence`. A line is of kind `fenced` if an
earlier line opened a fence that no line since has closed, itself included.
Such a line decides the kind of no other line. The offset at which the marks of
a line are cut off is the end of a character. -/
theorem fences_tracked (lines : List Text) :
    (∀ n, (fenceAfter none (lines.take n)).isSome = true
      ↔ Odd (((classifyLines lines).take n).count .fence))
    ∧ (∀ n, (classifyLines lines)[n]? = some .fenced ↔ n < lines.length
      ∧ ∃ i < n, ∃ fence, Opens lines i fence
        ∧ ∀ m, i < m → m ≤ n → ∀ line ∈ lines[m]?, ¬ Closer fence line)
    ∧ (∀ n, (classifyLines lines)[n]? = some .fenced →
      classifyLines (lines.eraseIdx n) = (classifyLines lines).eraseIdx n
        ∧ ∀ line, (classifyLines (lines.set n line))[n]? = some .fenced →
          classifyLines (lines.set n line) = classifyLines lines)
    ∧ ∀ n, ∀ fence ∈ fenceAfter none (lines.take n), ∀ line,
      closesAt? fence (Text.trimStart line) = some (closes fence (Text.trimStart line)) := by
  refine ⟨fun n => ?_, fun n => ?_, fun n hkind => ?_, fun n fence hfence line => ?_⟩
  · rw [isSome_fenceAfter, classifyLines, take_classifyFrom, Nat.odd_iff]
    simp
  · cases hline : lines[n]? with
    | none =>
      have hn := List.getElem?_eq_none_iff.1 hline
      rw [classifyLines, getElem?_classifyFrom, hline]
      exact iff_of_false (by simp) fun h => by omega
    | some line =>
      obtain ⟨hn, -⟩ := List.getElem?_eq_some_iff.1 hline
      rw [getElem?_eq_fenced_iff hline]
      simp only [hn, true_and, inside_iff]
      constructor
      · rintro ⟨fence, ⟨i, hi, hopens, hopen⟩, hlast⟩
        refine ⟨i, hi, fence, hopens, fun m him hmn other hother => ?_⟩
        rcases Nat.lt_or_eq_of_le hmn with hlt | rfl
        · exact hopen m him hlt other hother
        · rwa [Option.some.inj (hother.symm.trans hline)]
      · rintro ⟨i, hi, fence, hopens, hopen⟩
        exact ⟨fence, ⟨i, hi, hopens, fun m him hmn => hopen m him (Nat.le_of_lt hmn)⟩,
          hopen n hi (Nat.le_refl n) line hline⟩
  · exact ⟨classifyLines_eraseIdx hkind, fun line => classifyLines_set hkind⟩
  · exact closesAt?_eq (marked_fenceAfter marked_none _ fence hfence) _

/-- A fence of three backticks, which one of tildes does not close and one of
four backticks does. -/
theorem fences_tracked_mixed :
    let lines : List Text := ["  ```rust", "~~~", "\u3000é", "\u3000````  ", "y"]
    let fence : Fence := ⟨'\x60', 3⟩
    (fenceAfter none (lines.take 3)).isSome = true
    ∧ (classifyLines lines)[2]? = some .fenced
    ∧ (∃ i < 2, ∃ fence, Opens lines i fence
      ∧ ∀ m, i < m → m ≤ 2 → ∀ line ∈ lines[m]?, ¬ Closer fence line)
    ∧ classifyLines (lines.eraseIdx 2) = (classifyLines lines).eraseIdx 2
    ∧ classifyLines (lines.set 2 "~~~~") = classifyLines lines
    ∧ fence ∈ fenceAfter none (lines.take 3)
    ∧ closesAt? fence (Text.trimStart "\u3000````  ") = some true := by
  intro lines fence
  have hkind : (classifyLines lines)[2]? = some .fenced := by decide
  have hother : (classifyLines (lines.set 2 "~~~~"))[2]? = some .fenced := by decide
  have hfence : fence ∈ fenceAfter none (lines.take 3) := by decide
  obtain ⟨hodd, hfenced, hinside, hcut⟩ := fences_tracked lines
  refine ⟨(hodd 3).2 (by decide), hkind, ((hfenced 2).1 hkind).2, (hinside 2 hkind).1,
    (hinside 2 hkind).2 _ hother, hfence, ?_⟩
  exact (hcut 3 fence hfence _).trans (by decide)

end InlineSearch.CodeBlock
