/-
InlineSearch.Proofs.Reference.IndexedTable — a table, its index, and what was recorded.

Two things are kept by every recording, and so they hold after any number of them.

* `Table.FirstRecorded` — the first recording of a URL is the one that counts: a table
  has the URLs that were recorded in the order of their first recordings, each with the
  marker that it had there.
* `IndexedTable.InStep` — the index leads from each URL to the place of its entry. So a
  search never comes to a place without one (`InStep.get_eq`), and the table with the
  index takes in what the table of its entries takes in (`InStep.toTable_insertAll`).
-/
import InlineSearch.Proofs.Reference.Table
import InlineSearch.Reference.IndexedTable
import Mathlib.Data.List.Basic

namespace InlineSearch.Reference

/-! ## First recordings -/

namespace Table

/-- A table has what was recorded, one after the other: each URL with the marker of its
first recording, in the order of the first recordings. -/
structure FirstRecorded (table : Table) (recorded : List (Text × Text)) : Prop where
  get?_eq : ∀ url, table.get? url = recorded.lookup url
  ordered : (table.map Prod.fst).Pairwise fun a b =>
    (recorded.map Prod.fst).idxOf a < (recorded.map Prod.fst).idxOf b

theorem get?_insert (table : Table) (url marker other : Text) :
    (table.insert url marker).get? other
      = (table.get? other).or (List.lookup other [(url, marker)]) := by
  unfold insert
  split
  · next hknown =>
    cases hother : table.get? other with
    | some => rfl
    | none =>
      have hne : other ≠ url := by
        rintro rfl
        rw [contains, hother] at hknown
        cases hknown
      rw [Option.none_or, List.lookup_cons, beq_false_of_ne hne]
      rfl
  · exact List.lookup_append

namespace FirstRecorded

variable {table : Table} {recorded : List (Text × Text)}

theorem mem_iff (h : FirstRecorded table recorded) {url : Text} :
    url ∈ table.map Prod.fst ↔ url ∈ recorded.map Prod.fst := by
  rw [← contains_iff_mem, contains, h.get?_eq]
  exact contains_iff_mem

theorem empty : FirstRecorded [] [] := ⟨fun _ => rfl, .nil⟩

/-- A recording counts unless its URL was recorded before. -/
theorem insert (h : FirstRecorded table recorded) (url marker : Text) :
    FirstRecorded (table.insert url marker) (recorded ++ [(url, marker)]) where
  get?_eq other := by rw [get?_insert, h.get?_eq, List.lookup_append]
  ordered := by
    have hmem : ∀ {a : Text}, a ∈ table.map Prod.fst → a ∈ recorded.map Prod.fst := h.mem_iff.1
    -- The URLs that are known keep their first places.
    have hknown : (table.map Prod.fst).Pairwise fun a b =>
        ((recorded ++ [(url, marker)]).map Prod.fst).idxOf a
          < ((recorded ++ [(url, marker)]).map Prod.fst).idxOf b := by
      refine h.ordered.imp_of_mem fun {a b} ha hb hab => ?_
      rwa [List.map_append, List.idxOf_append_of_mem (hmem ha), List.idxOf_append_of_mem (hmem hb)]
    unfold Table.insert
    split
    · exact hknown
    · next hnew =>
      have hurl : url ∉ recorded.map Prod.fst := by rwa [← h.mem_iff, ← contains_iff_mem]
      have hurls : (table ++ [(url, marker)]).map Prod.fst = table.map Prod.fst ++ [url] :=
        List.map_append
      rw [hurls, List.pairwise_append]
      refine ⟨hknown, List.pairwise_singleton .., fun a ha b hb => ?_⟩
      obtain rfl := List.mem_singleton.1 hb
      rw [List.map_append, List.idxOf_append_of_mem (hmem ha), List.idxOf_append_of_notMem hurl]
      exact Nat.lt_of_lt_of_le (List.idxOf_lt_length_of_mem (hmem ha)) (Nat.le_add_right ..)

/-- Recordings count one after the other. -/
theorem foldl (h : FirstRecorded table recorded) (more : List (Text × Text)) :
    FirstRecorded (more.foldl (fun (t : Table) entry => t.insert entry.1 entry.2) table)
      (recorded ++ more) := by
  induction more generalizing table recorded with
  | nil => rwa [List.append_nil]
  | cons entry more ih =>
    have hlater := ih (h.insert entry.1 entry.2)
    rwa [List.append_assoc] at hlater

theorem nodup (h : FirstRecorded table recorded) : (table.map Prod.fst).Nodup :=
  List.nodup_iff_pairwise_ne.2 <| h.ordered.imp fun hlt heq => by
    rw [heq] at hlt
    exact Nat.lt_irrefl _ hlt

/-- An entry has its marker from the first recording of its URL. -/
theorem mem_entry_iff (h : FirstRecorded table recorded) {url marker : Text} :
    (url, marker) ∈ table ↔ recorded.lookup url = some marker := by
  rw [← h.get?_eq, get?, List.lookup_eq_some_iff]
  constructor
  · intro hmem
    obtain ⟨before, after, rfl⟩ := List.append_of_mem hmem
    refine ⟨before, after, rfl, fun entry hentry => bne_iff_ne.2 fun hurl => ?_⟩
    have hnodup := h.nodup
    rw [List.map_append, List.nodup_append] at hnodup
    exact hnodup.2.2 _ (List.mem_map_of_mem hentry) url (List.mem_cons_self ..) hurl.symm
  · rintro ⟨before, after, rfl, -⟩
    exact List.mem_append_right _ (List.mem_cons_self ..)

end FirstRecorded

/-- Searching the entries is reading the one at the first place of the URL. -/
theorem exists_entry_of_idxOf? {table : Table} {url : Text} {place : Nat}
    (h : (table.map Prod.fst).idxOf? url = some place) :
    ∃ marker, table[place]? = some (url, marker) ∧ table.get? url = some marker := by
  induction table generalizing place with
  | nil => cases h
  | cons entry table ih =>
    obtain ⟨first, marker⟩ := entry
    rw [List.map_cons, List.idxOf?_cons] at h
    split at h
    · next hfirst =>
      obtain rfl := Option.some.inj h
      obtain rfl := beq_iff_eq.1 hfirst
      exact ⟨marker, rfl, List.lookup_cons_self⟩
    · next hfirst =>
      obtain ⟨later, hlater, rfl⟩ := Option.map_eq_some_iff.1 h
      obtain ⟨found, hentry, hget⟩ := ih hlater
      refine ⟨found, hentry, ?_⟩
      have hne : (url == first) = false := by
        rw [beq_eq_false_iff_ne]
        rintro rfl
        exact hfirst (beq_self_eq_true _)
      rw [get?, List.lookup_cons, hne]
      exact hget

end Table

/-! ## The index -/

/-- A new URL at the end has the place behind all others. -/
theorem idxOf?_concat {urls : List Text} {url : Text} (h : url ∉ urls) (other : Text) :
    (urls ++ [url]).idxOf? other = if other = url then some urls.length else urls.idxOf? other := by
  rw [List.idxOf?, List.findIdx?_append]
  split
  · next hother =>
    subst hother
    have hnone : urls.findIdx? (· == other) = none := List.idxOf?_eq_none_iff.2 h
    simp [hnone]
  · next hother => simp [Ne.symm hother]

namespace IndexedTable

/-- The index leads from each URL to the place of its entry, and from no other text. -/
def InStep (table : IndexedTable) : Prop :=
  ∀ url, table.places.lookup url = (table.toTable.map Prod.fst).idxOf? url

namespace InStep

variable {table : IndexedTable}

theorem empty : InStep {} := fun _ => rfl

theorem contains_eq (h : InStep table) (url : Text) :
    table.contains url = table.toTable.contains url := by
  rw [Bool.eq_iff_iff, Table.contains_iff_mem, contains, h, List.isSome_idxOf?]

/-- A search reads an entry of the row, and that of its URL. -/
theorem get_eq (h : InStep table) (url : Text) :
    table.get url = .ok (table.toTable.get? url) := by
  unfold get
  rw [h]
  cases hplace : (table.toTable.map Prod.fst).idxOf? url with
  | none =>
    have hnew := Table.contains_eq_false_iff.2 (List.idxOf?_eq_none_iff.1 hplace)
    rw [Table.contains, Option.isSome_eq_false_iff, Option.isNone_iff_eq_none] at hnew
    rw [hnew]
  | some place =>
    obtain ⟨marker, hentry, hget⟩ := Table.exists_entry_of_idxOf? hplace
    have hread : table.entries[place]? = some (url, marker) := by
      rwa [toTable, Array.getElem?_toList] at hentry
    simp only [hread, hget]

/-- A recording takes the first free place. -/
theorem insert (h : InStep table) (url marker : Text) :
    InStep (table.insert url marker).2 := by
  unfold IndexedTable.insert
  split
  · exact h
  · next hnew =>
    intro other
    have hurl : url ∉ table.toTable.map Prod.fst := by
      rwa [h.contains_eq, Table.contains_iff_mem] at hnew
    have hurls : (table.entries.push (url, marker)).toList.map Prod.fst
        = table.toTable.map Prod.fst ++ [url] := by
      rw [Array.toList_push, List.map_append]
      rfl
    have hsize : (table.toTable.map Prod.fst).length = table.entries.size := by
      rw [List.length_map, toTable, Array.length_toList]
    rw [toTable, hurls, idxOf?_concat hurl, hsize, ← h other, List.lookup_cons]
    split
    · next hother => rw [if_pos (beq_iff_eq.1 hother)]
    · next hother => rw [if_neg (beq_eq_false_iff_ne.1 hother)]

/-- The index is in step after whatever was recorded. -/
theorem insertAll (h : InStep table) (recorded : List (Text × Text)) :
    InStep (table.insertAll recorded) := by
  induction recorded generalizing table with
  | nil => exact h
  | cons entry recorded ih => exact ih (h.insert entry.1 entry.2)

/-- A table with an index takes in what the table of its entries takes in. -/
theorem toTable_insert (h : InStep table) (url marker : Text) :
    (table.insert url marker).2.toTable = table.toTable.insert url marker := by
  rw [IndexedTable.insert, Table.insert, h.contains_eq]
  split
  · rfl
  · exact Array.toList_push ..

theorem toTable_insertAll (h : InStep table) (recorded : List (Text × Text)) :
    (table.insertAll recorded).toTable
      = recorded.foldl (fun t entry => t.insert entry.1 entry.2) table.toTable := by
  induction recorded generalizing table with
  | nil => rfl
  | cons entry recorded ih =>
    have hlater := ih (h.insert entry.1 entry.2)
    rwa [h.toTable_insert] at hlater

/-- A URL is new if it has no entry. -/
theorem insert_fst_iff (h : InStep table) {url marker : Text} :
    (table.insert url marker).1 = true ↔ url ∉ table.toTable.map Prod.fst := by
  rw [← Table.contains_eq_false_iff, ← h.contains_eq, IndexedTable.insert]
  split
  · next hknown => simp [hknown]
  · next hnew => simpa using hnew

/-- A URL that has an entry changes nothing, and a new one does. -/
theorem insert_snd_iff (h : InStep table) {url marker : Text} :
    (table.insert url marker).2 = table ↔ url ∈ table.toTable.map Prod.fst := by
  rw [← Table.contains_iff_mem, ← h.contains_eq, IndexedTable.insert]
  split
  · next hknown => exact iff_of_true rfl hknown
  · next hnew =>
    refine iff_of_false (fun hsame => ?_) hnew
    have hsize := congrArg size hsame
    simp [size] at hsize

end InStep

/-- What is recorded in a document and then put in, one after the other. -/
def recordings (document : Text) (inserted : List (Text × Text)) : List (Text × Text) :=
  (definitions document).map Prod.swap ++ inserted

theorem insertAll_ofDocument (document : Text) (inserted : List (Text × Text)) :
    (ofDocument document).insertAll inserted = insertAll {} (recordings document inserted) :=
  List.foldl_append.symm

/-- **The first recording of a URL counts**, in a table that was made of a document and
went on from there. Its URLs are distinct and in the order of their first recordings, and
each has the marker of its first recording. A search finds that marker and never leaves
the entries. Putting in a URL succeeds where it is new, and changes nothing otherwise. The
table says what a table without an index would say. -/
theorem first_recordings_kept (document : Text) (inserted : List (Text × Text)) :
    let table := (ofDocument document).insertAll inserted
    let recorded := recordings document inserted
    let urls := table.toTable.map Prod.fst
    urls.Nodup
      ∧ urls.Pairwise (fun a b =>
        (recorded.map Prod.fst).idxOf a < (recorded.map Prod.fst).idxOf b)
      ∧ (∀ url marker, (url, marker) ∈ table.toTable ↔ recorded.lookup url = some marker)
      ∧ (∀ url, table.get url = .ok (recorded.lookup url))
      ∧ (∀ url, table.contains url = true ↔ url ∈ urls)
      ∧ (∀ url marker, ((table.insert url marker).1 = true ↔ url ∉ urls)
        ∧ ((table.insert url marker).2 = table ↔ url ∈ urls))
      ∧ table.size = urls.length
      ∧ table.toTable = inserted.foldl (fun t entry => t.insert entry.1 entry.2)
        (Table.ofDocument document) := by
  intro table recorded urls
  have htable : table = insertAll {} recorded := insertAll_ofDocument document inserted
  have hstep : InStep table := htable ▸ InStep.empty.insertAll recorded
  have hentries : table.toTable
      = recorded.foldl (fun (t : Table) entry => t.insert entry.1 entry.2) [] :=
    htable ▸ InStep.empty.toTable_insertAll recorded
  have hfirst : Table.FirstRecorded table.toTable recorded :=
    hentries ▸ Table.FirstRecorded.empty.foldl recorded
  refine ⟨hfirst.nodup, hfirst.ordered, fun url marker => hfirst.mem_entry_iff, fun url => ?_,
    fun url => ?_, fun url marker => ⟨hstep.insert_fst_iff, hstep.insert_snd_iff⟩, ?_, ?_⟩
  · rw [hstep.get_eq, hfirst.get?_eq]
  · rw [hstep.contains_eq, Table.contains_iff_mem]
  · simp [urls, size, toTable]
  · rw [hentries, Table.ofDocument_eq]
    simp only [recorded, recordings, List.foldl_append, List.foldl_map]
    rfl

/-- Neither a second definition nor a later recording changes the marker of a URL. -/
example : ((ofDocument "[b]: u\n[a]: u\n".toList).insertAll
      [("v".toList, "1".toList), ("u".toList, "2".toList)]).toTable
    = [("u".toList, "b".toList), ("v".toList, "1".toList)] := by
  decide

end IndexedTable

end InlineSearch.Reference
