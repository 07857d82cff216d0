/-
InlineSearch.Proofs.Reference.Table — each URL has one marker.

A table only grows at its end and only by URLs that it did not have, so
its URLs are distinct (`nodup_insert`, `nodup_ofDocument`) and a marker,
once recorded, stays (`get?_of_prefix`).
-/
import InlineSearch.Reference.Table

namespace InlineSearch.Reference.Table

theorem contains_iff_mem {table : Table} {url : Text} :
    table.contains url = true ↔ url ∈ table.map Prod.fst := by
  unfold contains get?
  rw [List.lookup_isSome_iff]
  constructor
  · rintro ⟨entry, hmem, hkey⟩
    exact List.mem_map.2 ⟨entry, hmem, (beq_iff_eq.1 hkey).symm⟩
  · intro h
    obtain ⟨entry, hmem, hkey⟩ := List.mem_map.1 h
    exact ⟨entry, hmem, beq_iff_eq.2 hkey.symm⟩

theorem contains_eq_false_iff {table : Table} {url : Text} :
    table.contains url = false ↔ url ∉ table.map Prod.fst := by
  rw [← contains_iff_mem, Bool.not_eq_true]

/-- A new URL at the end of a table leaves its URLs distinct. -/
theorem nodup_snoc {table : Table} {url : Text} (h : (table.map Prod.fst).Nodup)
    (hnew : table.contains url = false) (marker : Text) :
    ((table ++ [(url, marker)]).map Prod.fst).Nodup := by
  rw [List.map_append, List.nodup_append]
  refine ⟨h, by simp, ?_⟩
  intro a ha b hb hab
  have hb : b = url := by simpa using hb
  exact contains_eq_false_iff.1 hnew (hb ▸ hab ▸ ha)

theorem nodup_insert {table : Table} (h : (table.map Prod.fst).Nodup) (url marker : Text) :
    ((table.insert url marker).map Prod.fst).Nodup := by
  unfold insert
  cases hc : table.contains url with
  | true => exact h
  | false => exact nodup_snoc h hc marker

theorem mem_insert {table : Table} {url marker : Text} {entry : Text × Text}
    (h : entry ∈ table.insert url marker) : entry ∈ table ∨ entry = (url, marker) := by
  unfold insert at h
  split at h
  · exact .inl h
  · rcases List.mem_append.1 h with h | h
    · exact .inl h
    · exact .inr (List.mem_singleton.1 h)

theorem ofDocument_eq (document : Text) :
    ofDocument document
      = (definitions document).foldl (fun (t : Table) entry => t.insert entry.2 entry.1) [] := rfl

/-- The table of a document has its definitions and no others. -/
theorem mem_definitions {document url marker : Text} (h : (url, marker) ∈ ofDocument document) :
    (marker, url) ∈ definitions document := by
  have hfold : ∀ (found : List (Text × Text)) (table : Table),
      (url, marker) ∈ found.foldl (fun (t : Table) entry => t.insert entry.2 entry.1) table →
        (url, marker) ∈ table ∨ (marker, url) ∈ found := by
    intro found
    induction found with
    | nil => exact fun _ h => .inl h
    | cons entry rest ih =>
      intro table h
      rcases ih _ h with h | h
      · rcases mem_insert h with h | h
        · exact .inl h
        · obtain ⟨hurl, hmarker⟩ := Prod.mk.inj h
          rw [hurl, hmarker]
          exact .inr (List.mem_cons_self ..)
      · exact .inr (List.mem_cons_of_mem _ h)
  rw [ofDocument_eq] at h
  rcases hfold (definitions document) [] h with h | h
  · simp at h
  · exact h

/-- The definitions of a document, taken in one after the other. -/
theorem nodup_ofDocument (document : Text) : ((ofDocument document).map Prod.fst).Nodup := by
  have hfold : ∀ (found : List (Text × Text)) (table : Table), (table.map Prod.fst).Nodup →
      ((found.foldl (fun (t : Table) entry => t.insert entry.2 entry.1) table).map
        Prod.fst).Nodup := by
    intro found
    induction found with
    | nil => exact fun _ h => h
    | cons entry rest ih => exact fun table h => ih _ (nodup_insert h entry.2 entry.1)
  rw [ofDocument_eq]
  exact hfold (definitions document) [] (by simp)

/-- A table that goes on knows what it knew. -/
theorem get?_of_prefix {table later : Table} (h : table <+: later) {url marker : Text}
    (hget : table.get? url = some marker) : later.get? url = some marker :=
  h.lookup_eq_some hget

end InlineSearch.Reference.Table
