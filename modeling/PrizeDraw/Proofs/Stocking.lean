import PrizeDraw.Proofs.Endings

namespace PrizeDraw

open scoped List

namespace Table

section Writing

variable {κ ν : Type} [DecidableEq κ] [LT κ] [DecidableLT κ]

theorem insert_insert (key : κ) (value old : ν) (table : Table κ ν) :
    insert key value (insert key old table) = insert key value table := by
  induction table with
  | nil => simp [insert]
  | cons row rest ih =>
      obtain ⟨k, v⟩ := row
      simp only [insert]
      by_cases heq : k = key
      · simp [heq, insert]
      · by_cases hlt : key < k
        · simp [heq, hlt, insert]
        · simp [heq, hlt, insert, ih]

end Writing

variable {ν α : Type}

theorem insert_cons_self (key : UInt32) (value old : ν) (rest : Table UInt32 ν) :
    insert key value ((key, old) :: rest) = (key, value) :: rest := by
  simp [insert]

theorem insert_cons_of_lt {key k : UInt32} (h : key < k) (value old : ν) (rest : Table UInt32 ν) :
    insert key value ((k, old) :: rest) = (key, value) :: (k, old) :: rest := by
  rw [insert, if_neg (UInt32.ne_of_lt h).symm, if_pos h]

theorem insert_cons_of_gt {key k : UInt32} (h : k < key) (value old : ν) (rest : Table UInt32 ν) :
    insert key value ((k, old) :: rest) = (k, old) :: insert key value rest := by
  rw [insert, if_neg (UInt32.ne_of_lt h), if_neg (UInt32.lt_asymm h)]

theorem insert_comm_of_lt {low high : UInt32} (h : low < high) (value other : ν)
    (table : Table UInt32 ν) :
    insert low value (insert high other table) = insert high other (insert low value table) := by
  induction table with
  | nil =>
      simp only [insert]
      rw [if_neg (UInt32.ne_of_lt h).symm, if_pos h, if_neg (UInt32.ne_of_lt h),
        if_neg (UInt32.lt_asymm h)]
  | cons row rest ih =>
      obtain ⟨k, v⟩ := row
      obtain rfl | hlow | hlow := UInt32.eq_or_lt_or_gt low k
      · rw [insert_cons_of_gt h, insert_cons_self, insert_cons_self, insert_cons_of_gt h]
      · -- The lower key goes in front, whatever the other one does behind it.
        rw [insert_cons_of_lt hlow, insert_cons_of_gt h]
        obtain rfl | hhigh | hhigh := UInt32.eq_or_lt_or_gt high k
        · rw [insert_cons_self, insert_cons_of_lt hlow]
        · rw [insert_cons_of_lt hhigh, insert_cons_of_lt h]
        · rw [insert_cons_of_gt hhigh, insert_cons_of_lt hlow]
      · have hhigh := UInt32.lt_trans hlow h
        rw [insert_cons_of_gt hhigh, insert_cons_of_gt hlow, insert_cons_of_gt hlow,
          insert_cons_of_gt hhigh, ih]

theorem insert_comm {first second : UInt32} (h : first ≠ second) (value other : ν)
    (table : Table UInt32 ν) :
    insert first value (insert second other table) =
      insert second other (insert first value table) := by
  obtain heq | hlt | hlt := UInt32.eq_or_lt_or_gt first second
  · exact absurd heq h
  · exact insert_comm_of_lt hlt value other table
  · exact (insert_comm_of_lt hlt other value table).symm

variable (key : α → UInt32) (value : α → ν) {rows others : List α}

def write (table : Table UInt32 ν) (rows : List α) : Table UInt32 ν :=
  rows.foldl (fun table row => table.insert (key row) (value row)) table

theorem write_cons (table : Table UInt32 ν) (row : α) (rest : List α) :
    write key value table (row :: rest) =
      write key value (table.insert (key row) (value row)) rest := rfl

theorem write_perm (h : rows ~ others) (hkeys : (rows.map key).Nodup) (table : Table UInt32 ν) :
    write key value table rows = write key value table others := by
  refine h.foldl_eq' (fun row hrow other hother table => ?_) table
  by_cases hkey : key row = key other
  · rw [List.inj_on_of_nodup_map hkeys hrow hother hkey]
  · exact insert_comm (Ne.symm hkey) _ _ _

theorem write_insert_of_mem {k : UInt32} (h : k ∈ rows.map key) (v : ν) (table : Table UInt32 ν) :
    write key value (table.insert k v) rows = write key value table rows := by
  induction rows generalizing table with
  | nil => cases h
  | cons row rest ih =>
      rw [write_cons, write_cons]
      by_cases hkey : key row = k
      · rw [hkey, insert_insert]
      · rw [List.map_cons, List.mem_cons, or_iff_right (Ne.symm hkey)] at h
        rw [insert_comm hkey, ih h]

theorem write_insert_of_not_mem {k : UInt32} (h : k ∉ rows.map key) (v : ν)
    (table : Table UInt32 ν) :
    write key value (table.insert k v) rows = (write key value table rows).insert k v := by
  induction rows generalizing table with
  | nil => rfl
  | cons row rest ih =>
      rw [List.map_cons, List.mem_cons, not_or] at h
      rw [write_cons, write_cons, insert_comm (Ne.symm h.1), ih h.2]

theorem write_write (table : Table UInt32 ν) (rows : List α) :
    write key value (write key value table rows) rows = write key value table rows := by
  induction rows generalizing table with
  | nil => rfl
  | cons row rest ih =>
      rw [write_cons, write_cons]
      by_cases hmem : key row ∈ rest.map key
      · rw [write_insert_of_mem key value hmem, write_insert_of_mem key value hmem, ih]
      · simp only [write_insert_of_not_mem key value hmem, insert_insert, ih]

theorem find?_write (table : Table UInt32 ν) (rows : List α) (k : UInt32) :
    (write key value table rows).find? k =
      ((rows.findRev? fun row => key row == k).map value).or (table.find? k) := by
  induction rows generalizing table with
  | nil => rfl
  | cons row rest ih =>
      rw [write_cons, ih, List.findRev?]
      cases rest.findRev? fun row => key row == k with
      | some last => rfl
      | none =>
          by_cases hkey : key row = k
          · simp [hkey]
          · simp [hkey, find?_insert_of_ne (Ne.symm hkey)]

end Table

structure Catalog.Rearranges (first second : Catalog) : Prop where
  gachas : first.gachas ~ second.gachas
  entries : first.entries ~ second.entries
  trades : first.trades ~ second.trades
  gachaIds : (first.gachas.map Gacha.id).Nodup
  entryIds : (first.entries.map fun row => row.entry.id).Nodup
  tradeIds : (first.trades.map Trade.id).Nodup

namespace Records

variable {records : Records} {catalog first second : Catalog}

theorem addCatalog_eq (records : Records) (catalog : Catalog) :
    records.addCatalog catalog = { records with
      gachas := Table.write Gacha.id id records.gachas catalog.gachas
      entries := Table.write (fun row => row.entry.id) CatalogEntry.entry records.entries
        catalog.entries
      rewards := Table.write (fun row => row.entry.id) CatalogEntry.items records.rewards
        catalog.entries
      trades := Table.write Trade.id id records.trades catalog.trades } := rfl

theorem addCatalog_rearranged (records : Records) (h : first.Rearranges second) :
    records.addCatalog first = records.addCatalog second := by
  rw [addCatalog_eq, addCatalog_eq, Table.write_perm _ _ h.gachas h.gachaIds,
    Table.write_perm _ _ h.entries h.entryIds, Table.write_perm _ _ h.entries h.entryIds,
    Table.write_perm _ _ h.trades h.tradeIds]

theorem addCatalog_again (records : Records) (catalog : Catalog) :
    (records.addCatalog catalog).addCatalog catalog = records.addCatalog catalog := by
  rw [addCatalog_eq, addCatalog_eq]
  simp only [Table.write_write]

structure Restocks (catalog : Catalog) (before after : Records) : Prop where
  gachas : ∀ id, after.gachas.find? id =
    (catalog.gachas.findRev? fun row => row.id == id).or (before.gachas.find? id)
  replaced : ∀ id row, (catalog.entries.findRev? fun row => row.entry.id == id) = some row →
    after.entries.find? id = some row.entry ∧ after.prizes id = row.items
  kept : ∀ id, (catalog.entries.findRev? fun row => row.entry.id == id) = none →
    after.entries.find? id = before.entries.find? id ∧ after.prizes id = before.prizes id
  trades : ∀ id, after.trades.find? id =
    (catalog.trades.findRev? fun row => row.id == id).or (before.trades.find? id)

theorem restocks_addCatalog (records : Records) (catalog : Catalog) :
    Restocks catalog records (records.addCatalog catalog) := by
  rw [addCatalog_eq]
  constructor
  · intro id
    simp [Table.find?_write]
  · intro id row hlast
    simp only [prizes, Table.find?_write, hlast, Option.map_some, Option.some_or,
      Option.getD_some, and_self]
  · intro id hnone
    simp only [prizes, Table.find?_write, hnone, Option.map_none, Option.none_or, and_self]
  · intro id
    simp [Table.find?_write]

theorem Keyed.mem_values_iff (h : records.Keyed) (entry : Entry) :
    entry ∈ records.entries.values ↔ records.entries.find? entry.id = some entry := by
  rw [← Table.mem_iff_find? UInt32.lt_irrefl h.sorted, Table.values, List.mem_map]
  constructor
  · rintro ⟨⟨id, row⟩, hrow, rfl⟩
    rwa [h.ids _ hrow]
  · exact fun hrow => ⟨_, hrow, rfl⟩

end Records

namespace Machine

theorem keyed_serve {machine : Machine Memory} (h : machine.store.records.Keyed)
    (calls : List Call) : (machine.serve calls).2.store.records.Keyed :=
  serve_keeps (P := fun _ reached => reached.store.records.Keyed)
    (fun _ _ _ _ hturn hkeyed => keyed_turn hturn hkeyed) calls h

theorem serve_stock_any_order (machine : Machine Memory) :
    (∀ first second : Catalog, first.Rearranges second → ∀ calls,
      (machine.call (.stock first)).2.serve calls =
        (machine.call (.stock second)).2.serve calls) ∧
    (∀ catalog : Catalog, ((machine.call (.stock catalog)).2.call (.stock catalog)).2 =
      (machine.call (.stock catalog)).2) ∧
    (∀ catalog : Catalog, Records.Restocks catalog machine.store.records
      (machine.call (.stock catalog)).2.store.records) ∧
    (machine.store.records.Keyed → ∀ calls,
      let reached := (machine.serve calls).2
      (∀ entry, entry ∈ reached.store.records.entries.values ↔
        reached.store.records.entries.find? entry.id = some entry) ∧
      ∀ gacha, ∃ pool, (∀ other, reached.store.records.Arranged gacha other ↔ other = pool) ∧
        ∀ {α : Type} (operation : Operation α) (player : Player) (selector : UInt8),
          operation.play? = some (player, gacha, selector) →
          operation.Draws reached.store.records pool reached.generator
            (Action.run operation.perform reached).1
            (Action.run operation.perform reached).2.generator) := by
  refine ⟨fun first second h calls => ?_, fun catalog => ?_,
    fun catalog => machine.store.records.restocks_addCatalog catalog, fun h calls => ?_⟩
  · simp only [call, Memory.addCatalog, Records.addCatalog_rearranged _ h]
  · simp only [call, Memory.addCatalog, Records.addCatalog_again]
  · have hkeyed := keyed_serve h calls
    exact ⟨hkeyed.mem_values_iff, fun gacha => ⟨_, fun _ => hkeyed.arranged_iff,
      fun operation player selector hplay =>
        operation.draws_from_pool hplay _ hkeyed (hkeyed.arranged gacha)⟩⟩

end Machine

namespace Sample

def bag : Gacha := { id := 1, name := "bag" }

def bagRow (id : EntryId) (weight : UInt64) : CatalogEntry where
  entry := { id, gacha := 1, entryType := 100, weight := ⟨weight⟩ }
  items := [⟨7, 1, 1⟩]

def bagRows : List CatalogEntry := [
  { entry := { id := 1, gacha := 1, entryType := 0, rolls := 2 } },
  bagRow 2 0x3ff0000000000000, bagRow 3 0x7ff8000000000000, bagRow 4 0x8000000000000000,
  bagRow 5 0x3ff0000000000000]

end Sample

namespace Machine

theorem serve_stock_any_order_bag :
    let first : Catalog := { gachas := [Sample.bag], entries := Sample.bagRows }
    let second : Catalog := { gachas := [Sample.bag], entries := Sample.bagRows.reverse }
    let machine := Sample.machine (({} : Records).addPlayer Sample.player)
    let play := Operation.playNormal Sample.player 1 0
    let reached := (machine.serve [.stock first]).2
    first.Rearranges second ∧ machine.store.records.Keyed ∧
      (machine.call (.stock first)).2.serve [.ask play] =
        (machine.call (.stock second)).2.serve [.ask play] ∧
      play.play? = some (Sample.player, 1, 0) ∧
      ∃ pool, pool.map Entry.id = [3, 2, 5, 4] ∧ reached.store.records.Arranged 1 pool ∧
        play.Draws reached.store.records pool reached.generator
          (Action.run play.perform reached).1 (Action.run play.perform reached).2.generator := by
  intro first second machine play reached
  have hrearranges : first.Rearranges second :=
    ⟨.refl _, (List.reverse_perm _).symm, .refl _, by decide, by decide, by decide⟩
  have hkeyed : machine.store.records.Keyed := Records.keyed_empty.of_entries_eq rfl
  obtain ⟨hruns, -, -, hdraws⟩ := serve_stock_any_order machine
  obtain ⟨-, hpools⟩ := hdraws hkeyed [.stock first]
  obtain ⟨pool, hpool, hplays⟩ := hpools 1
  have harranged : reached.store.records.Arranged 1 (reached.store.records.pool 1) :=
    (keyed_serve hkeyed [.stock first]).arranged 1
  have hids : (reached.store.records.pool 1).map Entry.id = [3, 2, 5, 4] := by decide +kernel
  obtain rfl := (hpool _).1 harranged
  exact ⟨hrearranges, hkeyed, hruns first second hrearranges [.ask play], rfl, _, hids,
    (hpool _).2 rfl, hplays play Sample.player 0 rfl⟩

end Machine

end PrizeDraw
