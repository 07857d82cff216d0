/-
InlineSearch.Proofs.Json.Record — records with one known member, and objects in
any order.

What a record with one known member says depends on the value of that member, and
not on the place at which it stands (`record_fill`); where such a record has the
member, it has it at some place (`exists_slot`), and what is read from the member is
read from its value (`exists_of_optional`, `exists_of_withDefault`). The members of
an object are read one by one, so permuted members make for permuted entries, or for
none (`entries_perm`, `exists_perm_of_entries`).
-/
import InlineSearch.Json.Decode
import Mathlib.Data.List.Perm.Basic
import Mathlib.Data.Option.Basic

namespace InlineSearch.Json

/-- A list is read item by item. -/
theorem mapM_eq_some_iff {α β : Type} {f : α → Option β} {l : List α} {r : List β} :
    l.mapM f = some r ↔ List.Forall₂ (fun a b => f a = some b) l r := by
  induction l generalizing r with
  | nil => cases r <;> simp
  | cons a l ih =>
    rw [List.mapM_cons]
    cases ha : f a with
    | none => cases r <;> simp [ha]
    | some b =>
      cases hl : l.mapM f with
      | none => cases r <;> simp [ha, ← ih, hl]
      | some bs => cases r <;> simp [ha, ← ih, hl]

/-! ## One member -/

variable {name : Text} {v : Json}

/-- A record less the value of a member. -/
inductive Slot where
  /-- An object, with the members in front of the value and behind it. -/
  | member (front back : List (Str × Json))
  /-- An array of the value alone. -/
  | item

/-- The record with a value for the member. -/
def Slot.fill (name : Text) : Slot → Json → Json
  | member front back, v => obj (front ++ (some name, v) :: back)
  | item, v => arr [v]

theorem named?_append_cons (front back : List (Str × Json)) (name : Text) (v : Json) :
    named? (front ++ (some name, v) :: back)
      = (named? front).bind fun f => (named? back).map fun b => f ++ (name, v) :: b := by
  unfold named?
  rw [List.mapM_append, List.mapM_cons]
  cases front.mapM fun (m : Str × Json) => m.1.map (·, m.2) with
  | none => rfl
  | some f => cases back.mapM fun (m : Str × Json) => m.1.map (·, m.2) <;> rfl

theorem mem_of_named? {members : List (Str × Json)} {all : List (Text × Json)}
    (hall : named? members = some all) (h : (name, v) ∈ all) : (some name, v) ∈ members := by
  have hread := mapM_eq_some_iff.1 hall
  clear hall
  induction hread with
  | nil => cases h
  | @cons m _ members _ hm _ ih =>
    obtain ⟨found, hfound, rfl⟩ := Option.map_eq_some_iff.1 hm
    rcases List.mem_cons.1 h with heq | h
    · obtain ⟨rfl, rfl⟩ := Prod.mk.inj heq
      rw [← hfound]
      exact List.mem_cons_self ..
    · exact List.mem_cons_of_mem _ (ih h)

/-- An object has the member at most once. -/
theorem record_obj (name : Text) (members : List (Str × Json)) : record [name] (obj members)
    = (named? members).bind fun all =>
      match all.filter (·.1 = name) with
      | [] => some ⟨false, []⟩
      | [m] => some ⟨false, [m]⟩
      | _ => none := by
  cases hall : named? members with
  | none => simp [record, hall]
  | some all =>
    have hname : ∀ m ∈ all.filter (·.1 = name), m.1 = name := by simp
    cases hknown : all.filter (·.1 = name) with
    | nil => simp [record, hall, hknown]
    | cons m known =>
      cases known with
      | nil => simp [record, hall, hknown]
      | cons m' known =>
        rw [hknown] at hname
        have htwice : m.1 = m'.1 := by rw [hname m (by simp), hname m' (by simp)]
        simp [record, hall, hknown, htwice]

/-- Either what stands around the member is no record with it, or the record has the
member alone. -/
theorem record_fill (name : Text) (slot : Slot) :
    (∀ v, record [name] (slot.fill name v) = none)
      ∨ ∃ positional, ∀ v, record [name] (slot.fill name v) = some ⟨positional, [(name, v)]⟩ := by
  cases slot with
  | item => exact .inr ⟨true, fun v => rfl⟩
  | member front back =>
    simp only [Slot.fill, record_obj, named?_append_cons]
    cases named? front with
    | none => exact .inl fun v => rfl
    | some f =>
      cases named? back with
      | none => exact .inl fun v => rfl
      | some b =>
        rcases hf : f.filter (·.1 = name) with _ | ⟨m, f'⟩
        · rcases hb : b.filter (·.1 = name) with _ | ⟨m, b'⟩
          · exact .inr ⟨false, fun v => by simp [hf, hb]⟩
          · exact .inl fun v => by simp [hf, hb]
        · refine .inl fun v => ?_
          cases f' <;> simp [hf]

/-- A record with the member has it at some place. -/
theorem exists_slot {doc : Json} {r : Record} (hr : record [name] doc = some r)
    (hv : r.get? name = some v) : ∃ slot : Slot, doc = slot.fill name v := by
  cases doc with
  | obj members =>
    rw [record_obj] at hr
    obtain ⟨all, hall, hknown⟩ := Option.bind_eq_some_iff.1 hr
    split at hknown
    · cases hknown
      cases hv
    · next m hm =>
      cases hknown
      obtain ⟨written, value⟩ := m
      have hmem : (written, value) ∈ all.filter (·.1 = name) := by simp [hm]
      obtain ⟨hin, hname⟩ := List.mem_filter.1 hmem
      obtain rfl : written = name := by simpa using hname
      obtain rfl : value = v := by simpa [Record.get?] using hv
      obtain ⟨front, back, rfl⟩ := List.append_of_mem (mem_of_named? hall hin)
      exact ⟨.member front back, rfl⟩
    · cases hknown
  | arr items =>
    rcases items with _ | ⟨x, _ | ⟨y, items⟩⟩
    · cases hr
      cases hv
    · cases hr
      have hvalue : x = v := by simpa [Record.get?] using hv
      exact ⟨.item, by rw [hvalue]; rfl⟩
    · cases hr
  | _ => cases hr

variable {α : Type} {d : Decoder α}

theorem optional_alone (positional : Bool) (name : Text) (v : Json) (d : Decoder α) :
    (⟨positional, [(name, v)]⟩ : Record).optional name d = nullable d v := by
  simp [Record.optional, Record.get?]

theorem withDefault_alone (positional : Bool) (name : Text) (v : Json) (byDefault : α)
    (d : Decoder α) :
    (⟨positional, [(name, v)]⟩ : Record).withDefault name byDefault d = d v := by
  simp [Record.withDefault, Record.get?]

/-- A record is not null. -/
theorem nullable_fill (d : Decoder α) (name : Text) (slot : Slot) (v : Json) :
    nullable d (slot.fill name v) = (d (slot.fill name v)).map some := by
  cases slot <;> rfl

theorem of_nullable {a : α} (h : nullable d v = some (some a)) : d v = some a := by
  cases v with
  | null => cases h
  | _ => simpa [nullable] using h

/-- What is read from an optional member is read from its value. -/
theorem exists_of_optional {r : Record} {a : α} (h : r.optional name d = some (some a)) :
    ∃ v, r.get? name = some v ∧ d v = some a := by
  rw [Record.optional] at h
  split at h
  · next v hv => exact ⟨v, hv, of_nullable h⟩
  · split at h <;> cases h

/-- What is read from a member with a default is the default, or read from its value. -/
theorem exists_of_withDefault {r : Record} {a byDefault : α}
    (h : r.withDefault name byDefault d = some a) (ha : a ≠ byDefault) :
    ∃ v, r.get? name = some v ∧ d v = some a := by
  rw [Record.withDefault] at h
  split at h
  · next v hv => exact ⟨v, hv, h⟩
  · exact absurd (Option.some.inj h).symm ha

/-! ## Objects in any order -/

variable {members members' : List (Str × Json)} {es es' : List (Text × α)}

/-- Entries are read from an object. -/
theorem exists_of_entries {v : Json} (h : entries d v = some es) : ∃ members, v = obj members := by
  cases v with
  | obj members => exact ⟨members, rfl⟩
  | _ => cases h

/-- Permuted members make for permuted entries. -/
theorem entries_perm (h : members.Perm members') (hes : entries d (obj members) = some es) :
    ∃ es', entries d (obj members') = some es' ∧ es.Perm es' := by
  obtain ⟨es', hes', hperm⟩ := List.perm_comp_forall₂ h.symm (mapM_eq_some_iff.1 hes)
  exact ⟨es', mapM_eq_some_iff.2 hes', hperm.symm⟩

/-- Every order of the entries is that of the members in some order. -/
theorem exists_perm_of_entries (hes : entries d (obj members) = some es) (h : es.Perm es') :
    ∃ members', members.Perm members' ∧ entries d (obj members') = some es' := by
  obtain ⟨members', hmembers', hperm⟩ :=
    List.perm_comp_forall₂ h.symm (mapM_eq_some_iff.1 hes).flip
  exact ⟨members', hperm.symm, mapM_eq_some_iff.2 hmembers'.flip⟩

end InlineSearch.Json
