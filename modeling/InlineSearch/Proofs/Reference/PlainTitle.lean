/-
InlineSearch.Proofs.Reference.PlainTitle — what cleaning takes out of a title
in which there is nothing to clean.

A plain title (`PlainTitle`) holds nothing that cleaning is for. It is safe as
it stands, so five of the six passes leave it alone. The one that tidies up
behind tracking parameters does not ask whether there were any: it takes the
question marks of every title that stand before a blank or at the end
(`withoutDangling`), and then blanks may be left at the ends.
-/
import InlineSearch.Proofs.Reference.Title

namespace InlineSearch.Reference

/-- A title that holds nothing that cleaning replaces or drops. -/
structure PlainTitle (t : Text) : Prop where
  no_quote : '\x22' ∉ t
  no_bar : '|' ∉ t
  no_feed : '\n' ∉ t
  head : t.head?.any Text.isBlank = false
  last : t.getLast?.any Text.isBlank = false
  no_tracking : ¬ ("utm_" : Text) <:+: t

/-- A text without the question marks that stand before a blank or at its
end. -/
def withoutDangling : Text → Text
  | [] => []
  | c :: t =>
    if c == '?' && t.head?.all Text.isBlank then withoutDangling t else c :: withoutDangling t

theorem infix_of_tracks {mark : Char} {t : Text} (h : Tracks mark t) : ("utm_" : Text) <:+: t := by
  obtain ⟨name, -, hinfix⟩ := h
  have hname : ("utm_" : Text) <:+: mark :: parameter name :=
    ⟨[mark], name ++ "=", by simp [parameter]⟩
  exact hname.trans hinfix

theorem PlainTitle.safe {t : Text} (h : PlainTitle t) : SafeTitle t where
  no_quote := h.no_quote
  no_bar := h.no_bar
  no_feed := h.no_feed
  head := h.head
  last := h.last
  no_first := fun htracks => h.no_tracking (infix_of_tracks htracks)
  no_later := fun htracks => h.no_tracking (infix_of_tracks htracks)

/-! ## Question marks that dangle -/

theorem dangles_cons {c : Char} {t : Text} :
    Dangles (c :: t) ↔ (c = '?' ∧ t.head?.all Text.isBlank = true) ∨ Dangles t := by
  constructor
  · rintro ⟨pre, rest, hsplit, hrest⟩
    rcases List.cons_eq_append_iff.1 hsplit with ⟨-, hcons⟩ | ⟨pre, -, ht⟩
    · obtain ⟨rfl, rfl⟩ := List.cons.inj hcons
      exact .inl ⟨rfl, hrest⟩
    · exact .inr ⟨pre, rest, ht, hrest⟩
  · rintro (⟨rfl, hrest⟩ | ⟨pre, rest, rfl, hrest⟩)
    · exact ⟨[], t, rfl, hrest⟩
    · exact ⟨c :: pre, rest, rfl, hrest⟩

theorem withoutDangling_sublist (t : Text) : (withoutDangling t).Sublist t := by
  induction t with
  | nil => exact List.Sublist.refl []
  | cons c t ih =>
    rw [withoutDangling]
    split
    · exact ih.cons c
    · exact ih.cons_cons c

theorem withoutDangling_eq_self_iff {t : Text} : withoutDangling t = t ↔ ¬ Dangles t := by
  induction t with
  | nil => simp [withoutDangling, Dangles]
  | cons c t ih =>
    rw [withoutDangling, dangles_cons, not_or, ← ih]
    split
    · next hdangles =>
      -- A shorter text is not the whole one.
      have hlength := (withoutDangling_sublist t).length_le
      refine iff_of_false (fun hself => ?_) fun hstays => hstays.1 (by simpa using hdangles)
      rw [hself, List.length_cons] at hlength
      omega
    · next hstays =>
      rw [List.cons.injEq, and_iff_right rfl]
      exact (and_iff_right (by simpa using hstays)).symm

/-- The pass that tidies up takes out just these. -/
theorem remove_danglingMark (t : Text) : Text.remove danglingMark t = withoutDangling t := by
  have hfrom : ∀ (t : Text) (before : Option Char),
      Text.substituteFrom danglingMark (fun _ => []) 0 before t = withoutDangling t := by
    intro t
    induction t with
    | nil => exact fun _ => rfl
    | cons c t ih =>
      intro before
      rw [withoutDangling]
      split
      · next hdangles =>
        have hc : c = '?' ∧ t.head?.all Text.isBlank = true := by simpa using hdangles
        have hhit : danglingMark before (c :: t) = some (0 + 1, ()) :=
          danglingMark_eq_some_iff.2 ⟨rfl, t, by rw [hc.1], hc.2⟩
        rw [Text.substituteFrom_hit hhit, ih, List.nil_append]
      · next hstays =>
        have hmiss : ∀ taken u, danglingMark before (c :: t) ≠ some (taken + 1, u) := by
          intro taken u hhit
          obtain ⟨-, rest, hcons, hrest⟩ := danglingMark_eq_some_iff.1 hhit
          obtain ⟨rfl, rfl⟩ := List.cons.inj hcons
          exact hstays (by simpa using hrest)
        rw [Text.substituteFrom_miss hmiss, ih]
  exact hfrom t none

/-- **What cleaning does to a plain title**: it takes out the question marks
that stand before a blank or at the end, and the blanks that are then at the
ends. So the title stays as it is exactly if it has no such mark. -/
theorem plain_title_kept_iff {title : Text} (h : PlainTitle title) :
    titleText title = Text.trim (withoutDangling title)
      ∧ (titleText title = title ↔ ¬ Dangles title) := by
  have hclean : titleText title = Text.trim (withoutDangling title) := by
    rw [h.safe.titleText_eq, remove_danglingMark]
  refine ⟨hclean, ?_⟩
  rw [hclean, ← withoutDangling_eq_self_iff]
  constructor
  · intro hself
    have htrim := (Text.isInfix_trim (withoutDangling title)).length_le
    rw [hself] at htrim
    exact (withoutDangling_sublist title).eq_of_length_le htrim
  · intro hself
    rw [hself, Text.trim_eq_self h.head h.last]

/-- A title with two question marks, neither of which dangles. -/
theorem plain_title_kept_with_marks :
    let title : Text := "C&A: ?q=1 [2/3] (*really*?!)"
    PlainTitle title ∧ titleText title = Text.trim (withoutDangling title)
      ∧ (titleText title = title ↔ ¬ Dangles title) ∧ titleText title = title := by
  intro title
  have hplain : PlainTitle title :=
    ⟨by decide, by decide, by decide, by decide, by decide, by decide⟩
  obtain ⟨hclean, hkept⟩ := plain_title_kept_iff hplain
  exact ⟨hplain, hclean, hkept, hkept.2 (withoutDangling_eq_self_iff.1 (by decide))⟩

/-- An ordinary question loses its mark. -/
theorem plain_title_loses_mark :
    PlainTitle "What is Rust? A book"
      ∧ titleText "What is Rust? A book" = "What is Rust A book".toList :=
  ⟨⟨by decide, by decide, by decide, by decide, by decide, by decide⟩, by decide⟩

end InlineSearch.Reference
