import PrizeDraw.Proofs.Cells
import PrizeDraw.Proofs.Sending

namespace PrizeDraw

def CatalogEntry.statements (seeded : CatalogEntry) : List Statement :=
  .upsertEntry seeded.entry :: .deleteRewards seeded.entry.id ::
    seeded.items.map (.insertReward seeded.entry.id)

def Gacha.limited (gacha : Gacha) : List (String × UInt32) :=
  [("min_gr", gacha.minGr), ("min_hr", gacha.minHr)]

def Trade.limited (trade : Trade) : List (String × UInt32) := [("fpoints", trade.fpoints)]

namespace Catalog

def exceeds (number : String × UInt32) : Bool := Narrow.intMax < number.2

def outOfRange (number : String × UInt32) : StoreFault :=
  .outOfRange number.1 (Int64.ofNat number.2.toNat)

def checked (numbers : List (String × UInt32)) (statement : Statement) :
    Except StoreFault Statement :=
  match numbers.find? exceeds with
  | none => .ok statement
  | some number => .error (outOfRange number)

def plan (catalog : Catalog) : Plan :=
  (catalog.gachas.map fun gacha => checked gacha.limited gacha.insert) ++
    ((catalog.entries.flatMap CatalogEntry.statements).map .ok ++
      catalog.trades.map fun trade => checked trade.limited trade.insert)

def statements (catalog : Catalog) : List Statement :=
  catalog.gachas.map Gacha.insert ++
    (catalog.entries.flatMap CatalogEntry.statements ++ catalog.trades.map Trade.insert)

def limited (catalog : Catalog) : List (String × UInt32) :=
  catalog.gachas.flatMap Gacha.limited ++ catalog.trades.flatMap Trade.limited

def oversized? (catalog : Catalog) : Option (String × UInt32) := catalog.limited.find? exceeds

structure Fits (catalog : Catalog) : Prop where
  gachas : ∀ gacha ∈ catalog.gachas, gacha.minGr ≤ Narrow.intMax ∧ gacha.minHr ≤ Narrow.intMax
  trades : ∀ trade ∈ catalog.trades, trade.fpoints ≤ Narrow.intMax

section Checked

variable {α : Type} {numbers : List (String × UInt32)} {statement sent : Statement}

theorem find?_exceeds_eq_none_iff :
    numbers.find? exceeds = none ↔ ∀ number ∈ numbers, number.2 ≤ Narrow.intMax := by
  simp [List.find?_eq_none, exceeds]

theorem checked_of_le (h : ∀ number ∈ numbers, number.2 ≤ Narrow.intMax) :
    checked numbers statement = .ok statement := by
  rw [checked, find?_exceeds_eq_none_iff.2 h]

theorem eq_of_checked_ok (h : checked numbers statement = .ok sent) : sent = statement := by
  unfold checked at h
  split at h
  · exact (Except.ok.inj h).symm
  · cases h

theorem fault?_map_checked (numbers : α → List (String × UInt32)) (statement : α → Statement)
    (items : List α) : Plan.fault? (items.map fun a => checked (numbers a) (statement a)) =
      ((items.flatMap numbers).find? exceeds).map outOfRange := by
  induction items with
  | nil => rfl
  | cons item rest ih =>
      rw [List.flatMap_cons, List.find?_append, List.map_cons, checked]
      cases (numbers item).find? exceeds with
      | none => exact ih
      | some number => rfl

end Checked

variable {catalog : Catalog}

theorem Fits.gacha_le (h : catalog.Fits) {gacha : Gacha} (hgacha : gacha ∈ catalog.gachas) :
    ∀ number ∈ gacha.limited, number.2 ≤ Narrow.intMax := by
  obtain ⟨hgr, hhr⟩ := h.gachas gacha hgacha
  exact List.forall_mem_cons.2 ⟨hgr, List.forall_mem_singleton.2 hhr⟩

theorem Fits.trade_le (h : catalog.Fits) {trade : Trade} (htrade : trade ∈ catalog.trades) :
    ∀ number ∈ trade.limited, number.2 ≤ Narrow.intMax :=
  List.forall_mem_singleton.2 (h.trades trade htrade)

theorem fits_iff : catalog.Fits ↔ ∀ number ∈ catalog.limited, number.2 ≤ Narrow.intMax := by
  constructor
  · intro h number hnumber
    obtain hnumber | hnumber := List.mem_append.1 hnumber
    · obtain ⟨gacha, hgacha, hmem⟩ := List.mem_flatMap.1 hnumber
      exact h.gacha_le hgacha number hmem
    · obtain ⟨trade, htrade, hmem⟩ := List.mem_flatMap.1 hnumber
      exact h.trade_le htrade number hmem
  · intro h
    have hgacha {gacha : Gacha} (hmem : gacha ∈ catalog.gachas)
        (number : String × UInt32) (hnumber : number ∈ gacha.limited) :
        number.2 ≤ Narrow.intMax :=
      h number (List.mem_append_left _ (List.mem_flatMap.2 ⟨gacha, hmem, hnumber⟩))
    refine ⟨fun gacha hmem => ⟨?_, ?_⟩, fun trade htrade => ?_⟩
    · exact hgacha hmem ("min_gr", gacha.minGr) (by simp [Gacha.limited])
    · exact hgacha hmem ("min_hr", gacha.minHr) (by simp [Gacha.limited])
    · exact h ("fpoints", trade.fpoints)
        (List.mem_append_right _ (List.mem_flatMap.2 ⟨trade, htrade, List.mem_cons_self⟩))

theorem oversized?_of_not_fits (h : ¬catalog.Fits) :
    ∃ column n, catalog.oversized? = some (column, n) := by
  cases hfound : catalog.oversized? with
  | some number => exact ⟨_, _, rfl⟩
  | none => exact absurd (fits_iff.2 (find?_exceeds_eq_none_iff.1 hfound)) h

theorem fault?_plan (catalog : Catalog) :
    catalog.plan.fault? = catalog.oversized?.map outOfRange := by
  rw [plan, Plan.fault?_append, Plan.fault?_append, Plan.fault?_ok, fault?_map_checked,
    fault?_map_checked, oversized?, limited, List.find?_append]
  cases (catalog.gachas.flatMap Gacha.limited).find? exceeds <;> rfl

theorem Fits.plan_eq (h : catalog.Fits) : catalog.plan = catalog.statements.map .ok := by
  rw [plan, statements, List.map_append, List.map_append, List.map_map, List.map_map]
  congr 1
  · exact List.map_congr_left fun gacha hgacha => checked_of_le (h.gacha_le hgacha)
  · congr 1
    exact List.map_congr_left fun trade htrade => checked_of_le (h.trade_le htrade)

theorem mem_statements_of_plan {statement : Statement} (h : .ok statement ∈ catalog.plan) :
    statement ∈ catalog.statements := by
  obtain hgacha | hrest := List.mem_append.1 h
  · obtain ⟨gacha, hmem, hchecked⟩ := List.mem_map.1 hgacha
    obtain rfl := eq_of_checked_ok hchecked
    exact List.mem_append_left _ (List.mem_map_of_mem hmem)
  · obtain hentry | htrade := List.mem_append.1 hrest
    · obtain ⟨written, hmem, hsame⟩ := List.mem_map.1 hentry
      obtain rfl := Except.ok.inj hsame
      exact List.mem_append_right _ (List.mem_append_left _ hmem)
    · obtain ⟨trade, hmem, hchecked⟩ := List.mem_map.1 htrade
      obtain rfl := eq_of_checked_ok hchecked
      exact List.mem_append_right _ (List.mem_append_right _ (List.mem_map_of_mem hmem))

theorem isControl_statements {statement : Statement} (h : statement ∈ catalog.statements) :
    statement.isControl = false := by
  simp only [statements, CatalogEntry.statements, List.mem_append, List.mem_map,
    List.mem_flatMap, List.mem_cons] at h
  obtain ⟨gacha, -, rfl⟩ | ⟨seeded, -, rfl | rfl | ⟨item, -, rfl⟩⟩ | ⟨trade, -, rfl⟩ := h <;> rfl

end Catalog

namespace Client

variable {δ : Type} [Database δ]

open Catalog (checked exceeds)

theorem importGacha_eq (gacha : Gacha) : (importGacha gacha : Action (Client δ) Unit) =
    send [checked gacha.limited gacha.insert] := by
  simp only [importGacha, Narrow.narrow_signed, checked, Gacha.limited, List.find?_cons, exceeds]
  by_cases hgr : gacha.minGr ≤ Narrow.intMax
  · rw [if_pos hgr, decide_eq_false (UInt32.not_lt.2 hgr)]
    by_cases hhr : gacha.minHr ≤ Narrow.intMax
    · rw [if_pos hhr, decide_eq_false (UInt32.not_lt.2 hhr)]
      exact (send_ok _).symm
    · rw [if_neg hhr, decide_eq_true (UInt32.not_le.1 hhr)]
      rfl
  · rw [if_neg hgr, decide_eq_true (UInt32.not_le.1 hgr)]
    rfl

theorem importTrade_eq (trade : Trade) : (importTrade trade : Action (Client δ) Unit) =
    send [checked trade.limited trade.insert] := by
  simp only [importTrade, Narrow.narrow_signed, checked, Trade.limited, List.find?_cons, exceeds]
  by_cases h : trade.fpoints ≤ Narrow.intMax
  · rw [if_pos h, decide_eq_false (UInt32.not_lt.2 h)]
    exact (send_ok _).symm
  · rw [if_neg h, decide_eq_true (UInt32.not_le.1 h)]
    rfl

theorem importRewards_eq (entry : EntryId) (items : List RewardItem) :
    (importRewards entry items : Action (Client δ) Unit) =
      send ((items.map (.insertReward entry)).map .ok) := by
  induction items with
  | nil => rfl
  | cons item rest ih => rw [importRewards, ih]; rfl

theorem importEntry_eq (seeded : CatalogEntry) :
    (importEntry seeded : Action (Client δ) Unit) = send (seeded.statements.map .ok) := by
  rw [importEntry, importRewards_eq]
  rfl

theorem importCatalog_eq (catalog : Catalog) :
    (importCatalog catalog : Action (Client δ) Unit) = inTransaction (send catalog.plan) := by
  rw [importCatalog, Catalog.plan, send_append, send_append, List.map_flatMap,
    List.map_eq_flatMap, List.map_eq_flatMap, ← forM_eq_send importGacha_eq,
    ← forM_eq_send importEntry_eq, ← forM_eq_send importTrade_eq]

structure Imported (before : Client δ) (catalog : Catalog) (rounds : List Round)
    (result : Except Halt Unit × Client δ) : Prop where
  talks : before.Talks rounds result.2
  sent : ∀ round ∈ rounds,
    round.statement.isControl = true ∨ round.statement ∈ catalog.statements
  kept : catalog.Fits → (∀ round ∈ rounds, round.Answered) →
    result.1 = .ok () ∧ rounds.map Round.statement = .start :: catalog.statements ++ [.commit]
  refused : ¬catalog.Fits → ∃ column n, catalog.oversized? = some (column, n) ∧
    (∀ round ∈ rounds, round.statement ≠ .commit) ∧
    ((∀ round ∈ rounds, round.Answered) →
      result.1 = .error (.refused (.store (.outOfRange column (Int64.ofNat n.toNat)))))

theorem imported (catalog : Catalog) {client : Client δ} (hidle : client.link = .idle) :
    ∃ rounds, client.Imported catalog rounds (Action.run (importCatalog catalog) client) := by
  have hplain (statement : Statement) (h : .ok statement ∈ catalog.plan) :
      statement.isControl = false :=
    Catalog.isControl_statements (Catalog.mem_statements_of_plan h)
  obtain ⟨rounds, htransacted⟩ := transacted_send catalog.plan hplain hidle
  rw [importCatalog_eq]
  refine ⟨rounds, htransacted.talks, fun round hround => ?_, fun hfits => ?_, fun hfits => ?_⟩
  · exact (htransacted.sent round hround).imp_right Catalog.mem_statements_of_plan
  · exact htransacted.kept _ hfits.plan_eq
  · obtain ⟨column, n, hfound⟩ := Catalog.oversized?_of_not_fits hfits
    refine ⟨column, n, hfound, htransacted.refused _ ?_⟩
    rw [Catalog.fault?_plan, hfound]
    rfl

end Client

namespace Catalog

structure ReadsBack (catalog : Catalog) : Prop where
  gachas : ∀ gacha ∈ catalog.gachas,
    gacha.insert.ReadsBack Statement.gachaColumns Gacha.ofRow gacha
  entries : ∀ seeded ∈ catalog.entries,
    (Statement.upsertEntry seeded.entry).ReadsBack Statement.entryColumns Entry.ofRow seeded.entry
  rewards : ∀ seeded ∈ catalog.entries, ∀ item ∈ seeded.items,
    (Statement.insertReward seeded.entry.id item).ReadsBack ("entry_id" :: Statement.rewardColumns)
      RewardItem.ofRow item
  trades : ∀ trade ∈ catalog.trades,
    trade.insert.ReadsBack Statement.tradeColumns Trade.ofRow trade

theorem Fits.readsBack {catalog : Catalog} (h : catalog.Fits) : catalog.ReadsBack where
  gachas gacha hgacha := gacha.reads_back (h.gachas gacha hgacha).1 (h.gachas gacha hgacha).2
  entries seeded _ := seeded.entry.reads_back
  rewards seeded _ item _ := item.reads_back seeded.entry.id
  trades trade htrade := trade.reads_back (h.trades trade htrade)

theorem imports_and_reads_back {δ : Type} [Database δ] (catalog : Catalog) (client : Client δ)
    (hidle : client.link = .idle) :
    (∃ rounds, client.Imported catalog rounds
      (Action.run (Client.importCatalog catalog) client)) ∧
    (catalog.Fits → catalog.ReadsBack) ∧
    ∀ row : Row, row.Decodes Gacha.slots (Gacha.ofRow row) ∧
      row.Decodes Entry.slots (Entry.ofRow row) ∧
      row.Decodes RewardItem.slots (RewardItem.ofRow row) ∧
      row.Decodes Trade.slots (Trade.ofRow row) :=
  ⟨Client.imported catalog hidle, Fits.readsBack, fun row =>
    ⟨row.decodes_gacha, row.decodes_entry, row.decodes_reward, row.decodes_trade⟩⟩

end Catalog

namespace Sample

def obliged : Client Script where
  database := { rules := [] }

theorem answered_obliged {rounds : List Round} {after : Client Script}
    (h : obliged.Talks rounds after) : ∀ round ∈ rounds, round.Answered := by
  have hanswered (statements : List Statement) :
      ∀ round ∈ (Database.converse obliged.database statements).1, round.Answered := by
    induction statements with
    | nil => exact nofun
    | cons statement rest ih => exact List.forall_mem_cons.2 ⟨⟨{}, rfl⟩, ih⟩
  have hrounds := hanswered (rounds.map Round.statement)
  rwa [h.2] at hrounds

def brimful : Catalog where
  gachas := [{ id := 4294967295, name := "brim", minGr := 2147483647, minHr := 2147483647 }]
  entries := [{
    entry := { id := 3, gacha := 4294967295, entryType := 100, weight := ⟨0x7ff8000000000001⟩ }
    items := [⟨255, 65535, 65535⟩] }]
  trades := [{ id := 8, itemType := 7, itemId := 1, quantity := 1, fpoints := 2147483647 }]

def overfull : Catalog :=
  { brimful with
    trades := [{ id := 8, itemType := 7, itemId := 1, quantity := 1, fpoints := 2147483648 }] }

def negativeRow : Row :=
  [("id", .int8 8), ("item_type", .int4 7), ("item_id", .int4 (-1)), ("quantity", .int4 1),
    ("fpoints", .int4 (-1)), ("buyable", .bool false)]

end Sample

namespace Catalog

theorem imports_and_reads_back_brimful :
    (Action.run (Client.importCatalog Sample.brimful) Sample.obliged).1 = .ok () ∧
      Sample.brimful.ReadsBack ∧
      (Action.run (Client.importCatalog Sample.overfull) Sample.obliged).1 =
        .error (.refused (.store (.outOfRange "fpoints" 2147483648))) ∧
      Trade.ofRow Sample.negativeRow = .error (.outOfRange "item_id" (-1)) := by
  obtain ⟨⟨rounds, hbrimful⟩, hreads, hdecodes⟩ :=
    imports_and_reads_back Sample.brimful Sample.obliged rfl
  obtain ⟨⟨more, hoverfull⟩, -⟩ := imports_and_reads_back Sample.overfull Sample.obliged rfl
  have hfits : Sample.brimful.Fits := fits_iff.2 (by decide)
  have hexceeds : ¬Sample.overfull.Fits := fun h =>
    absurd (h.trades _ List.mem_cons_self) (by decide)
  obtain ⟨column, n, hfound, -, hrefused⟩ := hoverfull.refused hexceeds
  obtain ⟨rfl, rfl⟩ : "fpoints" = column ∧ (2147483648 : UInt32) = n := by
    have hfirst : Sample.overfull.oversized? = some ("fpoints", 2147483648) := by decide
    rw [hfirst] at hfound
    cases hfound
    exact ⟨rfl, rfl⟩
  have hfills : Sample.negativeRow.Fills Trade.slots := by
    simp only [Row.Fills, Trade.slots, List.forall_mem_cons]
    exact ⟨⟨_, rfl, rfl⟩, ⟨_, rfl, rfl⟩, ⟨_, rfl, rfl⟩, ⟨_, rfl, rfl⟩, ⟨_, rfl, rfl⟩,
      ⟨_, rfl, rfl⟩, nofun⟩
  have hmisfit : Trade.slots.findSome? (fun slot => slot.misfit? Sample.negativeRow) =
      some ("item_id", -1) := by decide
  have hdecoded := (hdecodes Sample.negativeRow).2.2.2 hfills
  rw [hmisfit] at hdecoded
  exact ⟨(hbrimful.kept hfits (Sample.answered_obliged hbrimful.talks)).1, hreads hfits,
    hrefused (Sample.answered_obliged hoverfull.talks), hdecoded⟩

end Catalog

end PrizeDraw
