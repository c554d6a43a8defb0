import Mathlib.Data.List.Nodup
import Mathlib.Data.List.Perm.Subperm
import PrizeDraw.Proofs.Edits
import PrizeDraw.Proofs.History

namespace PrizeDraw

namespace Table

theorem find?_eq_none_of_not_mem {κ ν : Type} [DecidableEq κ] {key : κ} {table : Table κ ν}
    (h : key ∉ table.map Prod.fst) : table.find? key = none := by
  induction table with
  | nil => rfl
  | cons row rest ih =>
      simp only [List.map_cons, List.mem_cons, not_or] at h
      rw [find?, if_neg (Ne.symm h.1), ih h.2]

variable {κ ν : Type} [LT κ]

def Sorted (table : Table κ ν) : Prop := table.Pairwise fun a b => a.1 < b.1

theorem nodup_of_sorted (hirrefl : ∀ a : κ, ¬a < a) {table : Table κ ν} (h : Sorted table) :
    (table.map Prod.fst).Nodup := by
  rw [List.Nodup, List.pairwise_map]
  refine h.imp ?_
  intro a b hlt heq
  rw [heq] at hlt
  exact hirrefl _ hlt

variable [DecidableEq κ]

theorem mem_iff_find? (hirrefl : ∀ a : κ, ¬a < a) {table : Table κ ν} (h : Sorted table) {key : κ}
    {value : ν} : (key, value) ∈ table ↔ find? key table = some value := by
  induction table with
  | nil => exact iff_of_false List.not_mem_nil nofun
  | cons row rest ih =>
      obtain ⟨k, v⟩ := row
      obtain ⟨hfirst, hrest⟩ := List.pairwise_cons.1 h
      rw [List.mem_cons, ih hrest, find?]
      split
      · rename_i hkey
        subst hkey
        have hlater : ¬find? k rest = some value := fun hfound =>
          hirrefl k (hfirst _ ((ih hrest).2 hfound))
        simp [hlater, eq_comm]
      · rename_i hkey
        simp [Ne.symm hkey]

variable [DecidableLT κ]

theorem mem_insert {key : κ} {value : ν} {table : Table κ ν} {row : κ × ν}
    (h : row ∈ insert key value table) : row = (key, value) ∨ row ∈ table := by
  induction table with
  | nil =>
      left
      exact List.mem_singleton.1 h
  | cons first rest ih =>
      obtain ⟨k, v⟩ := first
      simp only [insert] at h
      split at h
      · rcases List.mem_cons.1 h with hrow | hrow
        · exact Or.inl hrow
        · exact Or.inr (List.mem_cons_of_mem _ hrow)
      · split at h
        · exact List.mem_cons.1 h
        · rcases List.mem_cons.1 h with rfl | hrow
          · exact Or.inr List.mem_cons_self
          · rcases ih hrow with hnew | hold
            · exact Or.inl hnew
            · exact Or.inr (List.mem_cons_of_mem _ hold)

theorem sorted_insert (htrans : ∀ a b c : κ, a < b → b < c → a < c)
    (htotal : ∀ a b : κ, a = b ∨ a < b ∨ b < a) {table : Table κ ν} (h : Sorted table)
    (key : κ) (value : ν) : Sorted (insert key value table) := by
  induction table with
  | nil => exact List.pairwise_singleton _ _
  | cons first rest ih =>
      obtain ⟨k, v⟩ := first
      obtain ⟨hfirst, hrest⟩ := List.pairwise_cons.1 h
      simp only [insert]
      by_cases heq : k = key
      · rw [if_pos heq]
        subst heq
        exact List.pairwise_cons.2 ⟨hfirst, hrest⟩
      · rw [if_neg heq]
        by_cases hlt : key < k
        · rw [if_pos hlt]
          refine List.pairwise_cons.2 ⟨?_, h⟩
          intro row hrow
          rcases List.mem_cons.1 hrow with rfl | hrow
          · exact hlt
          · exact htrans key k row.1 hlt (hfirst row hrow)
        · rw [if_neg hlt]
          refine List.pairwise_cons.2 ⟨?_, ih hrest⟩
          intro row hrow
          rcases mem_insert hrow with rfl | hold
          · rcases htotal k key with hk | hk | hk
            · exact absurd hk heq
            · exact hk
            · exact absurd hk hlt
          · exact hfirst row hold

end Table

theorem UInt32.eq_or_lt_or_gt (a b : UInt32) : a = b ∨ a < b ∨ b < a := by
  rcases Nat.lt_trichotomy a.toNat b.toNat with h | h | h
  · exact Or.inr (Or.inl h)
  · exact Or.inl (UInt32.toNat_inj.1 h)
  · exact Or.inr (Or.inr h)

theorem UInt32.length_le_of_nodup {ids : List UInt32} (h : ids.Nodup) :
    ids.length ≤ UInt32.size := by
  have hnodup : (ids.map UInt32.toNat).Nodup := h.map fun _ _ => UInt32.toNat_inj.1
  have hsubset : ids.map UInt32.toNat ⊆ List.range UInt32.size := by
    intro n hn
    obtain ⟨id, -, rfl⟩ := List.mem_map.1 hn
    exact List.mem_range.2 id.toNat_lt_size
  have hlength := (List.subperm_of_subset hnodup hsubset).length_le
  rw [List.length_map, List.length_range] at hlength
  exact hlength

namespace Records

structure Keyed (records : Records) : Prop where
  sorted : records.entries.Sorted
  ids : ∀ row ∈ records.entries, row.2.id = row.1

theorem keyed_empty : ({} : Records).Keyed := ⟨List.Pairwise.nil, fun _ h => absurd h (by simp)⟩

theorem Keyed.of_entries_eq {records changed : Records} (h : records.Keyed)
    (hentries : changed.entries = records.entries) : changed.Keyed := by
  obtain ⟨hsorted, hids⟩ := h
  exact ⟨hentries ▸ hsorted, hentries ▸ hids⟩

theorem Keyed.insert {records : Records} (h : records.Keyed) (entry : Entry) :
    ({ records with entries := records.entries.insert entry.id entry } : Records).Keyed := by
  obtain ⟨hsorted, hids⟩ := h
  refine ⟨?_, ?_⟩
  · exact Table.sorted_insert (fun _ _ _ => UInt32.lt_trans) UInt32.eq_or_lt_or_gt hsorted _ _
  · intro row hrow
    rcases Table.mem_insert hrow with rfl | hold
    · rfl
    · exact hids row hold

theorem Keyed.addCatalog {records : Records} (h : records.Keyed) (catalog : Catalog) :
    (records.addCatalog catalog).Keyed := by
  have hfold (added : List CatalogEntry) {base : Records} (hbase : base.Keyed) :
      ({ base with entries :=
          added.foldl (fun rows e => rows.insert e.entry.id e.entry) base.entries } :
        Records).Keyed := by
    induction added generalizing base with
    | nil => exact hbase
    | cons first rest ih => exact ih (hbase.insert first.entry)
  exact (hfold catalog.entries h).of_entries_eq rfl

theorem Keyed.nodup_ids {records : Records} (h : records.Keyed) :
    (records.entries.values.map Entry.id).Nodup := by
  have hkeys := Table.nodup_of_sorted UInt32.lt_irrefl h.sorted
  have hids : records.entries.values.map Entry.id = records.entries.map Prod.fst := by
    rw [Table.values, List.map_map]
    exact List.map_congr_left fun row hrow => h.ids row hrow
  rw [hids]
  exact hkeys

end Records

namespace Machine

theorem keyed_turn {machine next : Machine Memory} {event : Event}
    (hturn : Turn machine event next) (h : machine.store.records.Keyed) :
    next.store.records.Keyed := by
  cases hturn with
  | done operation answer worked hworked =>
      have hframe := operation.spoken_body.frame machine.plain
      rw [hworked] at hframe
      exact h.of_entries_eq hframe.entries
  | stopped operation halt worked hworked => exact h
  | stocked catalog => exact h.addCatalog catalog

end Machine

end PrizeDraw
