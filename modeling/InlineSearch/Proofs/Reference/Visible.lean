/-
InlineSearch.Proofs.Reference.Visible — the definitions that a reader of a
text sees.

A line defines a marker for a URL (`defines`) when it has the marker in
brackets, a colon, the URL and at most a title. It is seen (`seen`) when it
is not part of a code block. The definitions that a run writes are such
lines whatever the title (`defines_line`), and text that is put behind other
text is seen from the fence that is open there (`seenFrom_append`).
-/
import InlineSearch.Proofs.CodeBlock
import InlineSearch.Proofs.Reference.Spelling
import InlineSearch.Proofs.Text.Chars
import InlineSearch.Proofs.Text.Lines
import InlineSearch.Reference.Link

namespace InlineSearch.Reference

/-! ## Lines that define a marker -/

/-- Whether a text is blank, or holds a title in double quotes behind
blanks. -/
def isTitle (t : Text) : Bool :=
  match Text.trimStart t with
  | [] => true
  | quote :: title => t.head?.any Text.isBlank && quote == '\x22'
    && (Text.cut "\x22" title).any fun (_, rest) => Text.isBlankText rest

/-- Whether a line defines a marker for a URL, with or without a title. -/
def defines (line marker url : Text) : Bool := Option.isSome do
  let (_, opened) ← opened? line
  let rest ← Text.dropPrefix? marker opened
  let rest ← Text.dropPrefix? "]:" rest
  let (_, rest) ← run? Text.isBlank rest
  let rest ← Text.dropPrefix? url rest
  guard (isTitle rest)

theorem defines_nil (marker url : Text) : defines [] marker url = false := rfl

theorem defines_iff {line marker url : Text} :
    defines line marker url = true ↔ ∃ indent gap rest blanks, Indent indent
      ∧ run? Text.isBlank gap = some (blanks, url ++ rest) ∧ isTitle rest = true
      ∧ line = indent ++ '[' :: (marker ++ (']' :: ':' :: gap)) := by
  simp only [defines, Option.isSome_iff_exists, Option.bind_eq_bind, Option.bind_eq_some_iff,
    Text.dropPrefix?_eq_some_iff, Option.guard_eq_some', Prod.exists, opened?_eq_some_iff]
  constructor
  · rintro ⟨-, _, _, ⟨indent, hindent, rfl, -⟩, _, rfl, gap, rfl, blanks, _, hrun, rest, rfl,
      htitle⟩
    exact ⟨indent, gap, rest, blanks, hindent, hrun, htitle, rfl⟩
  · rintro ⟨indent, gap, rest, blanks, hindent, hrun, htitle, rfl⟩
    exact ⟨(), _, _, ⟨indent, hindent, rfl, rfl⟩, _, rfl, gap, rfl, blanks, _, hrun, rest, rfl,
      htitle⟩

/-! ## Titles -/

theorem quote_not_mem_titleText (title : Text) : '\x22' ∉ titleText title := by
  intro h
  unfold titleText at h
  rcases Text.mem_replaceAll (Text.mem_trim h) with h | h
  · exact Text.not_mem_replaceAll (by decide) _ h
  · exact absurd h (by decide)

/-- A title is written on one line. -/
theorem feed_not_mem_titleText (title : Text) : '\n' ∉ titleText title := by
  have hbreak : '\n' ∉ Text.substitute lineBreak (fun _ => " ") (Text.trim title) := by
    refine Text.not_mem_substitute ?_ (fun _ => by decide) _
    intro before t
    have hblank : Text.isBlank '\n' = true := by decide
    refine ⟨(t.takeWhile Text.isBlank).length, (), ?_⟩
    simp [lineBreak, hblank]
  intro h
  unfold titleText at h
  rcases Text.mem_replaceAll (Text.mem_trim h) with h | h
  · rcases Text.mem_replaceAll h with h | h
    · rcases Text.mem_substitute (Text.mem_remove h) with h | ⟨-, -, h⟩
      · exact hbreak (Text.mem_remove h)
      · exact absurd h (by decide)
    · exact absurd h (by decide)
  · exact absurd h (by decide)

theorem feed_not_mem_titlePart (title : Option Text) : '\n' ∉ titlePart title := by
  unfold titlePart
  split
  · next written htitle =>
    obtain ⟨title, -, rfl⟩ := Option.map_eq_some_iff.1 (Option.eq_some_of_filter_eq_some htitle)
    simp [feed_not_mem_titleText]
  · simp

/-- What is written behind a URL is a title or nothing. -/
theorem isTitle_titlePart (title : Option Text) : isTitle (titlePart title) = true := by
  unfold titlePart
  split
  · next written htitle =>
    obtain ⟨title, -, rfl⟩ := Option.map_eq_some_iff.1 (Option.eq_some_of_filter_eq_some htitle)
    have hcut : Text.cut ['\x22'] (titleText title ++ ['\x22']) = some (titleText title, []) :=
      Text.cut_singleton (quote_not_mem_titleText title) []
    have hspace : Text.isBlank ' ' = true := by decide
    have hquote : Text.isBlank '\x22' = false := by decide
    have htrim : Text.trimStart (" \x22" ++ titleText title ++ "\x22")
        = '\x22' :: (titleText title ++ ['\x22']) := by
      simp [Text.trimStart, hspace, hquote]
    unfold isTitle
    rw [htrim]
    simp [hspace, hcut, Text.isBlankText]
  · rfl

/-- A URL ends where its title begins. -/
theorem head?_of_isTitle {t : Text} (h : isTitle t = true) :
    t.head?.any (!Text.isBlank ·) = false := by
  cases t with
  | nil => rfl
  | cons c t =>
    cases hc : Text.isBlank c with
    | true => simp [hc]
    | false =>
      simp [isTitle, Text.trimStart, hc] at h

/-! ## Definitions as they are written -/

/-- A URL as results give them: a word. -/
structure IsWord (url : Text) : Prop where
  ne_nil : url ≠ []
  unbroken : url.all (!Text.isBlank ·) = true

instance (url : Text) : Decidable (IsWord url) :=
  decidable_of_iff (url ≠ [] ∧ url.all (!Text.isBlank ·) = true)
    ⟨fun ⟨hne, hunbroken⟩ => ⟨hne, hunbroken⟩, fun h => ⟨h.ne_nil, h.unbroken⟩⟩

/-- What a document defines: a label without brackets, and a word. -/
theorem shape_of_mem_definitions {document label target : Text}
    (h : (label, target) ∈ definitions document) :
    label.all isLabelChar = true ∧ label.head? ≠ some '^' ∧ IsWord target := by
  rw [definitions_eq] at h
  obtain ⟨d, hd, hpair⟩ := List.mem_map.1 h
  obtain ⟨rfl, rfl⟩ := Prod.mk.inj hpair
  obtain ⟨_, suf, taken, -, hmatch⟩ := Text.exists_of_mem_hits hd
  simp only [spacedDefinition, Option.bind_eq_bind, Option.bind_eq_some_iff,
    Option.guard_eq_some', Option.pure_def, Option.some.injEq, Prod.mk.injEq, Prod.exists,
    run?_eq_some_iff] at hmatch
  obtain ⟨_, -, _, _, -, label, _, ⟨-, -, hlabel, -⟩, _, hhead, _, -, gap, _, -, target, _,
    ⟨-, hne, htarget, -⟩, -, rfl⟩ := hmatch
  exact ⟨hlabel, by simpa using hhead, hne, htarget⟩

theorem head?_of_isWord {url : Text} (h : IsWord url) (rest : Text) :
    (url ++ rest).head?.any Text.isBlank = false := by
  obtain ⟨c, later, rfl⟩ := List.exists_cons_of_ne_nil h.ne_nil
  have hall := h.unbroken
  rw [List.all_cons, Bool.and_eq_true, Bool.not_eq_true'] at hall
  simp [hall.1]

theorem definitionLine_eq (marker url : Text) (title : Option Text) :
    definitionLine marker url title
      = '[' :: (marker ++ (']' :: ':' :: ' ' :: (url ++ titlePart title))) := by
  simp [definitionLine]

theorem run?_space {t : Text} (h : t.head?.any Text.isBlank = false) :
    run? Text.isBlank (' ' :: t) = some ([' '], t) :=
  run?_eq_some_iff.2 ⟨rfl, by decide, by decide, h⟩

/-- A definition that is written defines its marker. -/
theorem defines_definitionLine {url : Text} (h : IsWord url) (marker : Text)
    (title : Option Text) : defines (definitionLine marker url title) marker url = true := by
  rw [defines_iff, definitionLine_eq]
  exact ⟨[], _, titlePart title, [' '], ⟨rfl, by simp⟩,
    run?_space (head?_of_isWord h _), isTitle_titlePart title, rfl⟩

/-- A line that begins with a bracket defines what stands behind it. -/
theorem defines_bracket {opened marker url : Text} (h : defines ('[' :: opened) marker url = true) :
    ∃ gap rest blanks, run? Text.isBlank gap = some (blanks, url ++ rest) ∧ isTitle rest = true
      ∧ opened = marker ++ (']' :: ':' :: gap) := by
  obtain ⟨indent, gap, rest, blanks, hindent, hrun, htitle, hline⟩ := defines_iff.1 h
  cases indent with
  | nil => exact ⟨gap, rest, blanks, hrun, htitle, (List.cons.inj hline).2⟩
  | cons c indent =>
    have hblank := hindent.blank
    rw [← (List.cons.inj hline).1] at hblank
    simp only [List.all_cons, Bool.and_eq_true] at hblank
    exact absurd hblank.1 (by decide)

theorem isLabelChar_bracket (t : Text) : (']' :: t).head?.any isLabelChar = false := by
  simp [isLabelChar]

/-- A definition that is written defines its own label only. -/
theorem label_eq_of_defines_definitionLine {label url marker target : Text} {title : Option Text}
    (hlabel : label.all isLabelChar = true) (hmarker : marker.all isLabelChar = true)
    (h : defines (definitionLine label url title) marker target = true) : marker = label := by
  rw [definitionLine_eq] at h
  obtain ⟨gap, rest, blanks, -, -, hopened⟩ := defines_bracket h
  have hbefore := congrArg (List.takeWhile isLabelChar) hopened
  rw [Text.takeWhile_append_stop hlabel (isLabelChar_bracket _),
    Text.takeWhile_append_stop hmarker (isLabelChar_bracket _)] at hbefore
  exact hbefore.symm

/-- A definition that is written defines its own URL only. -/
theorem eq_of_defines_definitionLine {label url marker target : Text} {title : Option Text}
    (hlabel : label.all isLabelChar = true) (hurl : IsWord url)
    (hmarker : marker.all isLabelChar = true) (htarget : IsWord target)
    (h : defines (definitionLine label url title) marker target = true) : target = url := by
  rw [definitionLine_eq] at h
  obtain ⟨gap, rest, blanks, hrun, htitle, hopened⟩ := defines_bracket h
  have hgap : ' ' :: (url ++ titlePart title) = gap := by
    have hbehind := congrArg (List.dropWhile isLabelChar) hopened
    rw [Text.dropWhile_append_stop hlabel (isLabelChar_bracket _),
      Text.dropWhile_append_stop hmarker (isLabelChar_bracket _)] at hbehind
    simpa using hbehind
  rw [← hgap, run?_space (head?_of_isWord hurl _)] at hrun
  have hsame : url ++ titlePart title = target ++ rest := (Prod.mk.inj (Option.some.inj hrun)).2
  calc target = (target ++ rest).takeWhile (!Text.isBlank ·) :=
        (Text.takeWhile_append_stop htarget.unbroken (head?_of_isTitle htitle)).symm
    _ = (url ++ titlePart title).takeWhile (!Text.isBlank ·) := by rw [hsame]
    _ = url := Text.takeWhile_append_stop hurl.unbroken (head?_of_isTitle (isTitle_titlePart _))

/-- A footnote defines no marker but one that looks like its own. -/
theorem head?_of_defines_footnote {opened marker url : Text}
    (h : defines ('[' :: '^' :: opened) marker url = true) : marker.head? = some '^' := by
  obtain ⟨gap, rest, blanks, -, -, hopened⟩ := defines_bracket h
  cases marker with
  | nil => simp at hopened
  | cons c marker =>
    rw [List.cons_append] at hopened
    rw [List.head?_cons, (List.cons.inj hopened).1]

/-! ## What is seen -/

/-- Whether one of some lines, when `fence?` is open before them, defines a
marker for a URL and is no code. -/
def seenFrom (fence? : Option Fence) (lines : List Text) (marker url : Text) : Bool :=
  ((CodeBlock.classifyFrom fence? lines).zip lines).any fun (kind, line) =>
    kind == .text && defines line marker url

/-- Whether a text defines a marker for a URL, outside its code blocks. -/
def seen (t marker url : Text) : Bool := seenFrom none (Text.lines t) marker url

theorem seenFrom_cons (fence? : Option Fence) (line : Text) (rest : List Text)
    (marker url : Text) : seenFrom fence? (line :: rest) marker url
      = ((CodeBlock.classify fence? line).1 == .text && defines line marker url
        || seenFrom (CodeBlock.classify fence? line).2 rest marker url) := rfl

/-- What is put behind lines is seen from the fence that is open there. -/
theorem seenFrom_append (fence? : Option Fence) (a b : List Text) (marker url : Text) :
    seenFrom fence? (a ++ b) marker url = (seenFrom fence? a marker url
      || seenFrom (CodeBlock.fenceAfter fence? a) b marker url) := by
  unfold seenFrom
  rw [CodeBlock.zip_classifyFrom_append, List.any_append]

theorem seenFrom_of_forall_not {lines : List Text} {marker url : Text}
    (h : ∀ line ∈ lines, defines line marker url = false) (fence? : Option Fence) :
    seenFrom fence? lines marker url = false := by
  refine List.any_eq_false.2 ?_
  rintro ⟨kind, line⟩ hentry
  simp [h line (List.of_mem_zip hentry).2]

/-- Inside a fence plain lines are not seen. -/
theorem seenFrom_fence {fence : Fence} (hmark : CodeBlock.isMark fence.mark = true)
    {lines : List Text} (h : ∀ line ∈ lines, CodeBlock.Plain line) (marker url : Text) :
    seenFrom (some fence) lines marker url = false := by
  induction lines with
  | nil => rfl
  | cons line rest ih =>
    have hline := CodeBlock.classify_some_of_plain hmark (h line (List.mem_cons_self ..))
    rw [seenFrom_cons, hline, ih fun line hmem => h line (List.mem_cons_of_mem _ hmem)]
    rfl

/-- Outside fences a plain line that is not indented is seen. -/
theorem seenFrom_none {lines : List Text} (h : ∀ line ∈ lines, CodeBlock.Plain line)
    {line marker url : Text} (hmem : line ∈ lines) (hindent : CodeBlock.isIndented line = false)
    (hdefines : defines line marker url = true) : seenFrom none lines marker url = true := by
  induction lines with
  | nil => simp at hmem
  | cons head rest ih =>
    have hhead := CodeBlock.classify_none_of_plain (h head (List.mem_cons_self ..))
    rw [seenFrom_cons, hhead, Bool.or_eq_true]
    rcases List.mem_cons.1 hmem with rfl | hmem
    · refine .inl ?_
      rw [hindent, hdefines]
      rfl
    · exact .inr (ih (fun line hline => h line (List.mem_cons_of_mem _ hline)) hmem)

end InlineSearch.Reference

