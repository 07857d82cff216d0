/-
InlineSearch.Proofs.Document.RandomPrefix — when a run keeps the random prefix
that the markers of its document have.

Markers with a random prefix are defined by lines of two kinds, for links and
for footnotes (`carriedPrefix?`). A run looks for a prefix with a pattern of its
own, which does not know the footnotes and does not ask where on a line it
finds something. So what a run keeps is the prefix of the first place that looks
like the definition of such a link.

* `drawsPrefixed_trace` — whether a run draws markers with a random prefix does
  not depend on its random number.
* `prefix_kept_iff` — so the prefix is the same for every random number exactly
  if it is read off the document, or if none is needed.
-/
import InlineSearch.Proofs.Document.Footnotes
import InlineSearch.Proofs.Reference.Draws

namespace InlineSearch

namespace Reference

/-! ## Prefixes that are carried -/

/-- What stands before the label of a definition, behind its bracket. -/
def MarkerKind.opening : MarkerKind → Text
  | .link => []
  | .footnote => "^"

/-- The random prefix of the marker that a line defines: `[4821-0001]: url` for
a link, and `[^4821-fn0001]: note` for a footnote. -/
def carriedPrefix? (kind : MarkerKind) (line : Text) : Option Text := do
  let (_, opened) ← opened? line
  let label ← Text.dropPrefix? kind.opening opened
  let (start, rest) ← randomPrefix? label
  let rest ← Text.dropPrefix? kind.mark rest
  let (_, rest) ← run? Text.isDecimal rest
  let rest ← Text.dropPrefix? "]: " rest
  guard (kind == .footnote || rest.head?.any (!Text.isBlank ·))
  return start

/-- The random prefixes of the markers that a document defines. -/
def carriedPrefixes (kind : MarkerKind) (document : Text) : List Text :=
  (Text.lines document).filterMap (carriedPrefix? kind)

/-- How a line is written that defines a marker with a random prefix. -/
theorem carriedPrefix?_eq_some {kind : MarkerKind} {line start : Text}
    (h : carriedPrefix? kind line = some start) : IsRandomPrefix start
      ∧ ∃ indent digits rest, digits ≠ [] ∧ digits.all Text.isDecimal = true
        ∧ line = indent ++ '[' :: (kind.opening
          ++ (start ++ (kind.mark ++ (digits ++ ']' :: ':' :: ' ' :: rest))))
        ∧ (kind = .link → rest.head?.any (!Text.isBlank ·) = true) := by
  simp only [carriedPrefix?, Option.bind_eq_bind, Option.bind_eq_some_iff,
    Text.dropPrefix?_eq_some_iff, Option.guard_eq_some', Option.pure_def, Option.some.injEq,
    Prod.exists, opened?_eq_some_iff, randomPrefix?_eq_some_iff, run?_eq_some_iff,
    Bool.or_eq_true] at h
  obtain ⟨_, _, ⟨indent, -, rfl, -⟩, _, rfl, _, _, ⟨hstart, rfl⟩, _, rfl, digits, _,
    ⟨rfl, hne, hdigits, -⟩, rest, rfl, _, htarget, rfl⟩ := h
  refine ⟨hstart, indent, digits, rest, hne, hdigits, rfl, ?_⟩
  rintro rfl
  exact htarget.resolve_left (by decide)

theorem isRandomPrefix_of_carried {kind : MarkerKind} {document start : Text}
    (h : start ∈ carriedPrefixes kind document) : IsRandomPrefix start := by
  obtain ⟨line, -, hcarries⟩ := List.mem_filterMap.1 h
  exact (carriedPrefix?_eq_some hcarries).1

/-- The pattern of a run reads the same at the bracket. -/
theorem prefixed_bracket {start digits rest : Text} (hstart : IsRandomPrefix start)
    (hne : digits ≠ []) (hdigits : digits.all Text.isDecimal = true)
    (hrest : rest.head?.any (!Text.isBlank ·) = true) (before : Option Char) :
    ∃ taken, prefixed before ('[' :: (start ++ (digits ++ ']' :: ':' :: ' ' :: rest)))
      = some (taken + 1, start) := by
  have hfound : randomPrefix? (start ++ (digits ++ ']' :: ':' :: ' ' :: rest))
      = some (start, digits ++ ']' :: ':' :: ' ' :: rest) :=
    randomPrefix?_eq_some_iff.2 ⟨hstart, rfl⟩
  have hrun : run? Text.isDecimal (digits ++ ']' :: ':' :: ' ' :: rest)
      = some (digits, ']' :: ':' :: ' ' :: rest) :=
    run?_eq_some_iff.2 ⟨rfl, hne, hdigits, by simp [isDecimal_bracket]⟩
  refine ⟨(start ++ (digits ++ ']' :: ':' :: ' ' :: rest)).length - rest.length, ?_⟩
  have hopening : ∀ t : Text, Text.dropPrefix? "[" ('[' :: t) = some t := fun t => rfl
  have hclosing : Text.dropPrefix? "]: " (']' :: ':' :: ' ' :: rest) = some rest := rfl
  have htaken : ('[' :: (start ++ (digits ++ ']' :: ':' :: ' ' :: rest))).length - rest.length
      = (start ++ (digits ++ ']' :: ':' :: ' ' :: rest)).length - rest.length + 1 := by
    simp only [List.length_cons, List.length_append]
    omega
  rw [← htaken]
  simp only [prefixed, hopening, hfound, hrun, hclosing, hrest, Option.bind_eq_bind,
    Option.bind_some]
  rfl

/-- Where a link has a random prefix, some prefix is found. -/
theorem prefixes_ne_nil {document start : Text} (h : start ∈ carriedPrefixes .link document) :
    prefixes document ≠ [] := by
  obtain ⟨line, hline, hcarries⟩ := List.mem_filterMap.1 h
  obtain ⟨hstart, indent, digits, rest, hne, hdigits, rfl, htarget⟩ :=
    carriedPrefix?_eq_some hcarries
  obtain ⟨pre, suf, hjoin, -⟩ := Text.exists_of_mem_join hline
  rw [Text.join_lines] at hjoin
  have hbehind : (rest ++ suf).head?.any (!Text.isBlank ·) = true := by
    have htarget := htarget rfl
    cases rest with
    | nil => cases htarget
    | cons c rest => exact htarget
  obtain ⟨taken, hhit⟩ := prefixed_bracket hstart hne hdigits hbehind
    (Text.lastOf none (pre ++ indent))
  have hsplit : document = (pre ++ indent)
      ++ '[' :: (start ++ (digits ++ ']' :: ':' :: ' ' :: (rest ++ suf))) := by
    rw [hjoin]
    simp [MarkerKind.opening, MarkerKind.mark]
  rw [hsplit, prefixes]
  rcases Text.mem_hits_or_covered (by simp) hhit with hmem | ⟨other, hmem, -⟩
  · exact List.ne_nil_of_mem hmem
  · exact List.ne_nil_of_mem hmem

theorem IsRandomPrefix.length {start : Text} (h : IsRandomPrefix start) : start.length = 5 := by
  obtain ⟨digits, hlength, -, rfl⟩ := h
  rw [List.length_append, hlength]
  rfl

/-- A document fixes the prefix of every run over it if it is found there, and
if two random numbers agree on it. -/
theorem Markers.randomPrefix_ofDocument_iff {document p : Text} :
    (∀ random < 10000, (ofDocument random document).randomPrefix = p)
      ↔ (prefixes document).head? = some p := by
  have hfound : ∀ random, (ofDocument random document).randomPrefix
      = ((prefixes document).head?).getD (fourDigits random ++ "-") := fun _ => rfl
  constructor
  · intro h
    have hzero := h 0 (by decide)
    have hone := h 1 (by decide)
    rw [hfound] at hzero hone
    cases hhead : (prefixes document).head? with
    | some start => rw [← hzero, hhead, Option.getD_some]
    | none =>
      rw [hhead, Option.getD_none] at hzero hone
      exact absurd (hzero.trans hone.symm) (by decide)
  · intro h random _
    rw [hfound, h, Option.getD_some]

theorem Markers.isRandomPrefix_randomPrefix {random : Nat} (hrandom : random < 10000)
    (document : Text) : IsRandomPrefix (ofDocument random document).randomPrefix := by
  refine (start_ofDocument hrandom document true).resolve_left fun hnil => ?_
  have hdash := dash_mem_randomPrefix random document
  rw [show (ofDocument random document).randomPrefix = [] from hnil] at hdash
  cases hdash

end Reference

namespace Document

open Reference (Markers MarkerKind IsRandomPrefix)

/-! ## Markers that a step draws -/

namespace Step

/-- The marker that is drawn for the span, be it a link or a footnote. -/
def drawn? (t : Step) : Option Text := t.generated?.or t.drawnId?

/-- Whether a marker is drawn that begins with the random prefix. -/
def drawsPrefixed (t : Step) : Bool := t.planned.config.prefixRandom && t.drawn?.isSome

theorem exists_label_of_drawn? {t : Step} {marker : Text} (h : t.drawn? = some marker) :
    ∃ (kind : MarkerKind) (n : Nat),
      marker = kind.label (t.before.markers.start t.planned.config.prefixRandom) n := by
  rcases Option.or_eq_some_iff.1 h with hlink | ⟨-, hnote⟩
  · refine ⟨.link, Markers.next t.before.markers.links, ?_⟩
    rw [generated?_eq hlink, MarkerKind.label, MarkerKind.mark, List.append_nil]
  · rw [drawnId?_eq] at hnote
    obtain ⟨n, -, hid⟩ := Option.map_eq_some_iff.1 hnote
    exact ⟨.footnote, n, hid.symm⟩

theorem isSome_drawnId? (t : Step) : t.drawnId?.isSome = t.drawsId := by
  unfold drawnId?
  cases t.drawsId with
  | true => rfl
  | false => rfl

/-- What a step draws, and the URLs that it comes to know, depend on the draft
before it only by the URLs that are known there. -/
theorem drawsPrefixed_of_urls {t u : Step} (hplanned : t.planned = u.planned)
    (houtcome : t.outcome = u.outcome)
    (hurls : t.before.links.map Prod.fst = u.before.links.map Prod.fst) :
    t.drawsPrefixed = u.drawsPrefixed
      ∧ t.after.links.map Prod.fst = u.after.links.map Prod.fst := by
  have hfound : t.found? = u.found? := by simp only [found?, hplanned, houtcome]
  have hids : t.drawnId?.isSome = u.drawnId?.isSome := by
    simp only [isSome_drawnId?, drawsId, hplanned]
  have hcontains : ∀ url, t.before.links.contains url = u.before.links.contains url := by
    intro url
    rw [Bool.eq_iff_iff, Reference.Table.contains_iff_mem, Reference.Table.contains_iff_mem, hurls]
  have hgenerated : t.generated?.isSome = u.generated?.isSome := by
    unfold generated?
    rw [hfound]
    split
    · rw [hcontains]
      split
      · rfl
      · rfl
    · rfl
  have hdefined : t.definition?.map NewDefinition.url = u.definition?.map NewDefinition.url := by
    unfold definition? label?
    rw [hfound]
    cases u.found? with
    | none => rfl
    | some found =>
      obtain ⟨style, f⟩ := found
      cases style <;> simp only [hcontains] <;> split <;> rfl
  constructor
  · rw [drawsPrefixed, drawsPrefixed, drawn?, drawn?, Option.isSome_or, Option.isSome_or,
      hgenerated, hids, hplanned]
  · have hadded : ∀ v : Step, (v.definition?.map fun n => (n.url, n.label)).toList.map Prod.fst
        = (v.definition?.map NewDefinition.url).toList := by
      intro v
      cases v.definition? <;> rfl
    rw [links_after, links_after, List.map_append, List.map_append, hadded, hadded, hurls, hdefined]

end Step

/-- Runs from drafts that know the same URLs draw for the same spans. -/
theorem drawsPrefixed_trace {d e : Draft} (h : d.links.map Prod.fst = e.links.map Prod.fst)
    (spans : List (PlannedSpan × Option Search.Outcome)) :
    (trace d spans).map Step.drawsPrefixed = (trace e spans).map Step.drawsPrefixed := by
  induction spans generalizing d e with
  | nil => rfl
  | cons span rest ih =>
    obtain ⟨hdraws, hurls⟩ := Step.drawsPrefixed_of_urls
      (t := ⟨d, span.1, span.2⟩) (u := ⟨e, span.1, span.2⟩) rfl rfl h
    exact congrArg₂ List.cons hdraws (ih hurls)

/-! ## Runs -/

section

variable {σ : Type} (l : Linker σ) (input : Text) (s : σ)

/-- The steps of a run with a given random number. -/
def Run.stepsWith (random : Nat) : List Step := Run.steps { l with random } input s

/-- Whether every marker that a run draws with a random prefix begins with `p`,
whatever its random number is. -/
def KeepsPrefix (p : Text) : Prop :=
  ∀ random < 10000, ∀ t ∈ Run.stepsWith l input s random, t.planned.config.prefixRandom = true →
    ∀ marker ∈ t.drawn?, p <+: marker

/-- Whether a run draws a marker with a random prefix. -/
def Run.drawsPrefixed : Bool := (Run.steps l input s).any Step.drawsPrefixed

variable {l input s}

/-- Random markers of a run begin with the prefix that it has from its start. -/
theorem exists_label_of_mem {random : Nat} {t : Step} (ht : t ∈ Run.stepsWith l input s random)
    (hprefixed : t.planned.config.prefixRandom = true) {marker : Text}
    (hmarker : marker ∈ t.drawn?) : ∃ (kind : MarkerKind) (n : Nat),
      marker = kind.label (Markers.ofDocument random (Run.source input)).randomPrefix n := by
  obtain ⟨kind, n, hlabel⟩ := Step.exists_label_of_drawn? hmarker
  have hstart : t.before.markers.start t.planned.config.prefixRandom
      = (Markers.ofDocument random (Run.source input)).randomPrefix := by
    rw [hprefixed]
    exact randomPrefix_eq ht
  exact ⟨kind, n, hstart ▸ hlabel⟩

theorem drawsPrefixed_stepsWith (random : Nat) :
    (Run.stepsWith l input s random).map Step.drawsPrefixed
      = (Run.steps l input s).map Step.drawsPrefixed :=
  drawsPrefixed_trace (d := Run.start { l with random } input) (e := Run.start l input) rfl
    (Run.spans l input s)

/-- A run that draws with one random number draws with every other. -/
theorem exists_prefixed_of_drawsPrefixed (h : Run.drawsPrefixed l input s = true) (random : Nat) :
    ∃ t ∈ Run.stepsWith l input s random, t.planned.config.prefixRandom = true
      ∧ ∃ marker, marker ∈ t.drawn? := by
  have hany : true ∈ (Run.stepsWith l input s random).map Step.drawsPrefixed := by
    obtain ⟨t, ht, hdraws⟩ := List.any_eq_true.1 h
    rw [drawsPrefixed_stepsWith]
    exact List.mem_map.2 ⟨t, ht, hdraws⟩
  obtain ⟨t, ht, hdraws⟩ := List.mem_map.1 hany
  rw [Step.drawsPrefixed, Bool.and_eq_true, Option.isSome_iff_exists] at hdraws
  exact ⟨t, ht, hdraws⟩

/-- The prefix is kept exactly if all random numbers lead to it, or if no marker
needs it. -/
theorem keepsPrefix_iff {p : Text} (hp : IsRandomPrefix p) : KeepsPrefix l input s p
    ↔ (Reference.prefixes (Run.source input)).head? = some p
      ∨ Run.drawsPrefixed l input s = false := by
  rw [← Markers.randomPrefix_ofDocument_iff]
  constructor
  · intro hkeeps
    cases hdraws : Run.drawsPrefixed l input s with
    | false => exact .inr rfl
    | true =>
      refine .inl fun random hrandom => ?_
      obtain ⟨t, ht, hprefixed, marker, hmarker⟩ := exists_prefixed_of_drawsPrefixed hdraws random
      obtain ⟨kind, n, hlabel⟩ := exists_label_of_mem ht hprefixed hmarker
      have hbegins : p <+: marker := hkeeps random hrandom t ht hprefixed marker hmarker
      have hown : (Markers.ofDocument random (Run.source input)).randomPrefix <+: marker := by
        rw [hlabel, MarkerKind.label, List.append_assoc]
        exact List.prefix_append ..
      -- Both are five characters long.
      have hlength : p.length
          = (Markers.ofDocument random (Run.source input)).randomPrefix.length :=
        hp.length.trans (Markers.isRandomPrefix_randomPrefix hrandom _).length.symm
      exact ((List.prefix_of_prefix_length_le hbegins hown hlength.le).eq_of_length hlength).symm
  · rintro (hall | hnone) random hrandom t ht hprefixed marker hmarker
    · obtain ⟨kind, n, hlabel⟩ := exists_label_of_mem ht hprefixed hmarker
      rw [hlabel, hall random hrandom, MarkerKind.label, List.append_assoc]
      exact List.prefix_append ..
    · -- Another random number would not make the run draw.
      have hmem : true ∈ (Run.steps l input s).map Step.drawsPrefixed := by
        rw [← drawsPrefixed_stepsWith random]
        refine List.mem_map.2 ⟨t, ht, ?_⟩
        rw [Step.drawsPrefixed, hprefixed, Bool.true_and, Option.isSome_iff_exists]
        exact ⟨marker, hmarker⟩
      obtain ⟨u, hu, hdraws⟩ := List.mem_map.1 hmem
      rw [Run.drawsPrefixed, List.any_eq_false] at hnone
      exact absurd hdraws (hnone u hu)

/-- **When the random prefix of a document is kept**, where one of its
definitions carries it. It is kept exactly if it is that of the first place that
looks like the definition of a link with a random prefix, or if no such marker is
drawn. If only definitions of links look like one, and all carry this prefix, it
is kept exactly if there is one: the footnotes do not count. -/
theorem prefix_kept_iff {p : Text} (hp : p ∈ Reference.carriedPrefixes .link input
      ∨ p ∈ Reference.carriedPrefixes .footnote input) :
    (KeepsPrefix l input s p ↔ (Reference.prefixes (Run.source input)).head? = some p
      ∨ Run.drawsPrefixed l input s = false)
    ∧ ((∀ start ∈ Reference.carriedPrefixes .link (Run.source input), start = p) →
      (∀ start ∈ Reference.prefixes (Run.source input),
        start ∈ Reference.carriedPrefixes .link (Run.source input)) →
      (KeepsPrefix l input s p ↔ Reference.carriedPrefixes .link (Run.source input) ≠ []
        ∨ Run.drawsPrefixed l input s = false)) := by
  have hshape : IsRandomPrefix p := by
    rcases hp with hmem | hmem
    · exact Reference.isRandomPrefix_of_carried hmem
    · exact Reference.isRandomPrefix_of_carried hmem
  refine ⟨keepsPrefix_iff hshape, fun hall honly =>
    (keepsPrefix_iff hshape).trans (or_congr_left ?_)⟩
  constructor
  · intro hhead
    exact List.ne_nil_of_mem (honly p (List.mem_of_head? hhead))
  · intro hne
    obtain ⟨start, hstart⟩ := List.exists_mem_of_ne_nil _ hne
    cases hhead : (Reference.prefixes (Run.source input)).head? with
    | none => exact absurd (List.head?_eq_none_iff.1 hhead) (Reference.prefixes_ne_nil hstart)
    | some first => rw [hall first (honly first (List.mem_of_head? hhead))]

end

/-- The linker to try runs with, where markers begin with a random prefix. -/
def prefixLinker : Linker Unit := { pageLinker with config := { prefixRandom := true } }

/-- A document with a link and a footnote, whose prefix both new markers get. -/
theorem prefix_kept_behind_link :
    let input : Text :=
      "[4821-0007]: https://old.example\n[^4821-fn0002]: old\n\n[x](!g rust) [](^new)"
    (Run.steps prefixLinker input ()).map Step.drawn? =
      [some ("4821-0008" : Text), some ("4821-fn0003" : Text)]
      ∧ KeepsPrefix prefixLinker input () "4821-" := by
  intro input
  refine ⟨by decide +kernel, ?_⟩
  obtain ⟨-, honly⟩ :=
    @prefix_kept_iff Unit prefixLinker input () "4821-" (.inl (by decide +kernel))
  exact (honly (by decide +kernel) (by decide +kernel)).2 (.inl (by decide +kernel))

/-- The only definition is that of a footnote: the next one gets another
prefix. -/
theorem prefix_lost_behind_footnote :
    let input : Text := "[^4821-fn0001]: old\n\n[](^new)"
    Reference.carriedPrefixes .footnote input = ["4821-"]
      ∧ Reference.carriedPrefixes .link input = []
      ∧ (Run.stepsWith prefixLinker input () 7).map Step.drawn?
        = [some ("0007-fn0002" : Text)] := by
  decide +kernel

end Document

end InlineSearch
