import PrizeDraw.Proofs.Books
import PrizeDraw.Proofs.Stocking

namespace PrizeDraw

open scoped List

namespace Table

variable {ν α : Type} {table : Table UInt32 ν}

theorem pairwise_values {id : ν → UInt32} (h : table.Sorted)
    (hids : ∀ row ∈ table, id row.2 = row.1) :
    table.values.Pairwise fun a b => id a < id b := by
  rw [values, List.pairwise_map]
  refine h.imp_of_mem ?_
  intro a b ha hb hlt
  rw [hids a ha, hids b hb]
  exact hlt

theorem sorted_write (h : table.Sorted) (key : α → UInt32) (value : α → ν) (rows : List α) :
    (write key value table rows).Sorted := by
  induction rows generalizing table with
  | nil => exact h
  | cons row rest ih =>
      exact ih (sorted_insert (fun _ _ _ => UInt32.lt_trans) UInt32.eq_or_lt_or_gt h _ _)

theorem ids_write {id : ν → UInt32} (hids : ∀ row ∈ table, id row.2 = row.1) {key : α → UInt32}
    {value : α → ν} (hvalue : ∀ row, id (value row) = key row) (rows : List α) :
    ∀ row ∈ write key value table rows, id row.2 = row.1 := by
  induction rows generalizing table with
  | nil => exact hids
  | cons first rest ih =>
      refine ih fun row hrow => ?_
      obtain rfl | hold := mem_insert hrow
      · exact hvalue first
      · exact hids row hold

end Table

namespace Records

structure Shelved (records : Records) : Prop where
  keyed : records.Keyed
  sorted : records.gachas.Sorted
  ids : ∀ row ∈ records.gachas, row.2.id = row.1

theorem shelved_empty : ({} : Records).Shelved := ⟨keyed_empty, List.Pairwise.nil, nofun⟩

theorem Shelved.of_eq {records changed : Records} (h : records.Shelved)
    (hgachas : changed.gachas = records.gachas) (hentries : changed.entries = records.entries) :
    changed.Shelved :=
  ⟨h.keyed.of_entries_eq hentries, hgachas ▸ h.sorted, hgachas ▸ h.ids⟩

theorem Shelved.addCatalog {records : Records} (h : records.Shelved) (catalog : Catalog) :
    (records.addCatalog catalog).Shelved :=
  ⟨h.keyed.addCatalog catalog, Table.sorted_write h.sorted Gacha.id id catalog.gachas,
    Table.ids_write h.ids (fun _ => rfl) catalog.gachas⟩

variable {records : Records} {gacha : GachaId}

theorem byTypeThenId_iff (a b : Entry) : byTypeThenId a b = true ↔
    a.entryType < b.entryType ∨ a.entryType = b.entryType ∧ a.id ≤ b.id := by
  simp [byTypeThenId]

theorem byTypeThenId_total (a b : Entry) : byTypeThenId a b || byTypeThenId b a := by
  simp only [Bool.or_eq_true, byTypeThenId_iff, UInt8.lt_iff_toNat_lt, ← UInt8.toNat_inj,
    UInt32.le_iff_toNat_le]
  omega

theorem byTypeThenId_trans (a b c : Entry) (hab : byTypeThenId a b)
    (hbc : byTypeThenId b c) : byTypeThenId a c := by
  simp only [byTypeThenId_iff, UInt8.lt_iff_toNat_lt, ← UInt8.toNat_inj,
    UInt32.le_iff_toNat_le] at hab hbc ⊢
  omega

def arrangedRows (records : Records) (gacha : GachaId) : List Entry :=
  Arrangement.arrange byTypeThenId (records.entriesOf gacha)

theorem Keyed.pairwise_arrangedRows (h : records.Keyed) (gacha : GachaId) :
    (records.arrangedRows gacha).Pairwise fun a b =>
      a.entryType < b.entryType ∨ a.entryType = b.entryType ∧ a.id < b.id := by
  have hordered := Arrangement.pairwise_arrange byTypeThenId_total byTypeThenId_trans
    (records.entriesOf gacha)
  have hnodup : ((records.entriesOf gacha).map Entry.id).Nodup :=
    h.nodup_ids.sublist (List.filter_sublist.map Entry.id)
  have hdistinct := ((Arrangement.arrange_perm byTypeThenId
    (records.entriesOf gacha)).map Entry.id).nodup_iff.2 hnodup
  rw [List.Nodup, List.pairwise_map] at hdistinct
  refine (hordered.and hdistinct).imp ?_
  rintro a b ⟨hle, hne⟩
  obtain htype | ⟨htype, hid⟩ := (byTypeThenId_iff a b).1 hle
  · exact .inl htype
  · exact .inr ⟨htype, UInt32.lt_of_le_of_ne hid hne⟩

theorem Keyed.filter_arrangedRows (h : records.Keyed) (gacha : GachaId) (selector : UInt8) :
    (records.arrangedRows gacha).filter (fun entry => entry.entryType == selector) =
      (records.entriesOf gacha).filter fun entry => entry.entryType == selector := by
  have harranged : ((records.arrangedRows gacha).filter fun entry =>
      entry.entryType == selector).Pairwise fun a b => a.id < b.id := by
    rw [List.pairwise_filter]
    refine (h.pairwise_arrangedRows gacha).imp ?_
    intro a b hab ha hb
    obtain hlt | ⟨-, hid⟩ := hab
    · rw [eq_of_beq ha, eq_of_beq hb] at hlt
      exact absurd hlt (UInt8.lt_irrefl _)
    · exact hid
  have hstored : ((records.entriesOf gacha).filter fun entry =>
      entry.entryType == selector).Pairwise fun a b => a.id < b.id :=
    (h.pairwise_values.filter _).filter _
  exact List.Perm.eq_of_pairwise
    (fun a b _ _ hab hba => absurd (UInt32.lt_trans hab hba) (UInt32.lt_irrefl _))
    harranged hstored ((Arrangement.arrange_perm byTypeThenId _).filter _)

theorem Keyed.find?_arrangedRows (h : records.Keyed) (gacha : GachaId) (selector : UInt8) :
    (records.arrangedRows gacha).find? (fun entry => entry.entryType == selector) =
      records.costRow? gacha selector := by
  rw [costRow?, ← List.head?_filter, ← List.head?_filter, h.filter_arrangedRows]

structure Shows (records : Records) (row : Entry) (shown : ListedEntry) : Prop where
  entryType : shown.entryType = row.entryType
  itemType : shown.itemType = row.itemType
  itemNumber : shown.itemNumber = row.itemNumber
  itemQuantity : shown.itemQuantity = row.itemQuantity
  rolls : shown.rolls = row.rolls
  frontierPoints : shown.frontierPoints = row.frontierPoints
  dailyLimit : shown.dailyLimit = row.dailyLimit
  name : shown.name = if row.entryType < 10 then row.name else none
  items : shown.items = records.prizes row.id

structure Lists (records : Records) (hr gr : UInt32) (listings : List GachaListing) : Prop where
  listed : ∀ gacha, gacha ∈ listings.map GachaListing.gacha ↔
    gacha ∈ records.gachas.values ∧ gacha.hidden = false ∧ gacha.minHr ≤ hr ∧ gacha.minGr ≤ gr
  ascending : listings.Pairwise fun a b => a.gacha.id < b.gacha.id
  rows : ∀ listing ∈ listings, ∃ rows,
    rows ~ records.entries.values.filter (fun entry =>
      entry.gacha == listing.gacha.id && entry.entryType != 100) ∧
    rows.Pairwise (fun a b =>
      a.entryType < b.entryType ∨ a.entryType = b.entryType ∧ a.id < b.id) ∧
    List.Forall₂ records.Shows rows listing.entries

theorem shows_ofEntry (records : Records) (row : Entry) :
    records.Shows row (ListedEntry.ofEntry row (records.prizes row.id)) where
  entryType := rfl
  itemType := rfl
  itemNumber := rfl
  itemQuantity := rfl
  rolls := rfl
  frontierPoints := rfl
  dailyLimit := rfl
  name := rfl
  items := rfl

def shownRows (records : Records) (rows : List Entry) : List ListedEntry :=
  (rows.filter fun entry => !entry.inPool).map fun entry =>
    ListedEntry.ofEntry entry (records.prizes entry.id)

def priceList (records : Records) (hr gr : UInt32) : List GachaListing :=
  (records.gachas.values.filter fun gacha => gacha.isVisibleTo hr gr).map fun gacha =>
    { gacha, entries := records.shownRows (records.arrangedRows gacha.id) }

theorem run_listEntries (records : Records) (rows : List Entry) :
    Action.run (Catalog.listEntries rows) records = (.ok (records.shownRows rows), records) := by
  induction rows with
  | nil => rfl
  | cons entry rest ih =>
      unfold Catalog.listEntries
      by_cases hpool : entry.inPool = true
      · rw [if_pos hpool, ih]
        simp [shownRows, hpool]
      · have hitems : Action.run (Store.perform (.rewardItems entry.id)) records =
            (.ok (records.prizes entry.id), records) := rfl
        rw [if_neg hpool, Action.run_bind_of_ok hitems, Action.run_bind_of_ok ih]
        simp [shownRows, hpool]

theorem run_listGachas (records : Records) (hr gr : UInt32) (gachas : List Gacha) :
    Action.run (Catalog.listGachas hr gr gachas) records =
      (.ok ((gachas.filter fun gacha => gacha.isVisibleTo hr gr).map fun gacha =>
        { gacha, entries := records.shownRows (records.arrangedRows gacha.id) }), records) := by
  induction gachas with
  | nil => rfl
  | cons gacha rest ih =>
      unfold Catalog.listGachas
      by_cases hvisible : gacha.isVisibleTo hr gr = true
      · have hrows : Action.run (Store.perform (.entries gacha.id)) records =
            (.ok (records.arrangedRows gacha.id), records) := rfl
        rw [if_pos hvisible, Action.run_bind_of_ok hrows,
          Action.run_bind_of_ok (records.run_listEntries _), Action.run_bind_of_ok ih]
        simp [hvisible]
      · rw [if_neg hvisible, ih]
        simp [hvisible]

theorem run_listing (records : Records) (hr gr : UInt32) :
    Action.run (Catalog.listing hr gr) records = (.ok (records.priceList hr gr), records) :=
  run_listGachas records hr gr records.gachas.values

theorem isVisibleTo_iff (gacha : Gacha) (hr gr : UInt32) : gacha.isVisibleTo hr gr = true ↔
    gacha.hidden = false ∧ gacha.minHr ≤ hr ∧ gacha.minGr ≤ gr := by
  simp [Gacha.isVisibleTo, and_assoc]

theorem forall₂_shownRows (records : Records) (rows : List Entry) :
    List.Forall₂ records.Shows (rows.filter fun entry => !entry.inPool)
      (records.shownRows rows) := by
  rw [shownRows, List.forall₂_map_right_iff]
  exact List.forall₂_same.2 fun entry _ => records.shows_ofEntry entry

theorem Shelved.lists (h : records.Shelved) (hr gr : UInt32) :
    records.Lists hr gr (records.priceList hr gr) := by
  constructor
  · intro gacha
    simp [priceList, List.map_map, Function.comp_def, isVisibleTo_iff]
  · rw [priceList, List.pairwise_map]
    exact (Table.pairwise_values h.sorted h.ids).filter _
  · intro listing hlisting
    obtain ⟨gacha, -, rfl⟩ := List.mem_map.1 hlisting
    refine ⟨_, ?_, (h.keyed.pairwise_arrangedRows gacha.id).filter _,
      records.forall₂_shownRows _⟩
    refine ((Arrangement.arrange_perm byTypeThenId _).filter _).trans (.of_eq ?_)
    rw [entriesOf, List.filter_filter]
    simp only [Bool.and_comm]
    rfl

theorem Keyed.exists_costRow (h : records.Keyed) {selector : UInt8} {shown : ListedEntry}
    (hfirst : (records.shownRows (records.arrangedRows gacha)).find?
      (fun entry => entry.entryType == selector) = some shown) :
    ∃ cost, records.Shows cost shown ∧ records.costRow? gacha selector = some cost := by
  rw [shownRows, List.find?_map, Option.map_eq_some_iff] at hfirst
  obtain ⟨cost, hcost, rfl⟩ := hfirst
  refine ⟨cost, records.shows_ofEntry cost, ?_⟩
  have hselects : cost.entryType = selector := by
    have hfound := List.find?_some hcost
    exact eq_of_beq hfound
  have hshown := List.mem_filter.1 (List.mem_of_find?_eq_some hcost)
  -- A type that is shown at all is not that of the pool, so no row of it is left out.
  have hall (entry : Entry) :
      (!entry.inPool && entry.entryType == selector) = (entry.entryType == selector) := by
    by_cases htype : entry.entryType = selector
    · have hpool : entry.inPool = cost.inPool := by rw [Entry.inPool, Entry.inPool, htype, hselects]
      rw [hpool, hshown.2, Bool.true_and]
    · simp [htype]
  rw [List.find?_filter] at hcost
  rw [← h.find?_arrangedRows, ← hcost]
  congr 1
  funext entry
  rw [← hall entry, Bool.decide_and, Bool.decide_eq_true, Bool.decide_eq_true]
  rfl

end Records

namespace Operation

variable {α : Type}

def bonus (player : Player) (shown : ListedEntry) : Operation α → List Posting
  | .playStepup _ _ _ =>
      [{ player, balance := .frontierPoints, amount := shown.frontierPoints.toInt }]
  | _ => []

def Guarantees (shown : ListedEntry) : Operation α → α → Prop
  | .playStepup _ _ _, play =>
      play.guaranteed = shown.items.map fun item => { item, rarity := 0 }
  | _, _ => True

structure Honours (operation : Operation α) (player : Player) (gacha : GachaId) (selector : UInt8)
    (cost : Entry) (shown : ListedEntry) (machine next : Machine Memory) (answer : α) : Prop where
  charges : Play.Charges player gacha selector machine.store.records cost
  booked : Records.Booked machine.store.records
    (machine.store.records.price player cost ++ operation.bonus player shown) next.store.records
  draws : ∃ drawn, drawn.length = shown.rolls.toNat ∧
    operation.sample machine.store.records (machine.store.records.pool gacha) shown.rolls
      machine.generator = (.ok drawn, next.generator)
  guarantees : operation.Guarantees shown answer

variable {operation : Operation α} {player : Player} {gacha : GachaId} {selector : UInt8}
  {machine next : Machine Memory} {answer : α} {cost : Entry} {shown : ListedEntry}

theorem postings_of_costRow (hplay : operation.play? = some (player, gacha, selector))
    {records : Records} (hcost : records.costRow? gacha selector = some cost)
    (hshows : records.Shows cost shown) :
    operation.postings records = records.price player cost ++ operation.bonus player shown := by
  cases operation with
  | playNormal player gacha selector | playBox player gacha selector =>
      cases hplay
      simp [postings, bonus, hcost]
  | playStepup player gacha step =>
      cases hplay
      simp [postings, bonus, hcost, hshows.frontierPoints]
  | _ => cases hplay

theorem guarantees_of_handsOut {records : Records} {drawn : List Entry}
    (hshows : records.Shows cost shown) (h : operation.HandsOut records cost drawn answer) :
    operation.Guarantees shown answer := by
  cases operation with
  | playStepup player gacha step =>
      obtain ⟨-, hfixed⟩ := h
      rw [Guarantees, hfixed, hshows.items]
  | _ => trivial

theorem honours_of_ok (hkeyed : machine.store.records.Keyed)
    (hplay : operation.play? = some (player, gacha, selector))
    (hcost : machine.store.records.costRow? gacha selector = some cost)
    (hshows : machine.store.records.Shows cost shown)
    (h : Action.run operation.perform machine = (.ok answer, next)) :
    operation.Honours player gacha selector cost shown machine next answer := by
  obtain ⟨worked, hworked, rfl⟩ := run_memory_of_ok h
  obtain ⟨row, hcharges⟩ := charges_body hplay hworked
  obtain rfl : row = cost := Option.some.inj (hcharges.found.symm.trans hcost)
  obtain ⟨charged, drawn, hdrew, hhands⟩ := handed_body hplay hworked
  obtain rfl : charged = row := Option.some.inj (hdrew.found.symm.trans hcost)
  refine ⟨hcharges, ?_, ⟨drawn, ?_, ?_⟩, guarantees_of_handsOut hshows hhands⟩
  · have hbooked := operation.booked_body hworked
    rw [show machine.plain.store = machine.store.records from rfl,
      postings_of_costRow hplay hcost hshows] at hbooked
    exact hbooked
  · rw [hshows.rolls]
    exact hdrew.length_eq hkeyed hplay
  · rw [hshows.rolls]
    exact hdrew.sampled

end Operation

namespace Machine

theorem shelved_turn {machine next : Machine Memory} {event : Event}
    (hturn : Turn machine event next) (h : machine.store.records.Shelved) :
    next.store.records.Shelved := by
  cases hturn with
  | done operation answer worked hworked =>
      have hframe := operation.spoken_body.frame machine.plain
      rw [hworked] at hframe
      exact h.of_eq hframe.gachas hframe.entries
  | stopped operation halt worked hworked => exact h
  | stocked catalog => exact h.addCatalog catalog

theorem shelved_serve {machine : Machine Memory} (h : machine.store.records.Shelved)
    (calls : List Call) : (machine.serve calls).2.store.records.Shelved :=
  serve_keeps (P := fun _ reached => reached.store.records.Shelved)
    (fun _ _ _ _ hturn hshelved => shelved_turn hturn hshelved) calls h

theorem run_guaranteedItems {records : Records} {gacha : GachaId} {selector : UInt8} {cost : Entry}
    (hcost : records.costRow? gacha selector = some cost) :
    Action.run (Catalog.guaranteedItems gacha selector) records =
      (.ok (records.prizes cost.id), records) := by
  have hlook : Action.run (Store.perform (.entryByType gacha selector)) records =
      (.ok (some cost), records) := congrArg (fun row => (Except.ok row, records)) hcost
  unfold Catalog.guaranteedItems
  rw [Action.run_bind_of_ok hlook]
  rfl

theorem run_listing (machine : Machine Memory) (hr gr : UInt32) :
    Action.run (Operation.listing hr gr).perform machine =
      (.ok (machine.store.records.priceList hr gr), machine.plain.stored) := by
  have hrun : Action.run (Operation.listing hr gr).body machine.plain =
      (.ok (machine.store.records.priceList hr gr), machine.plain) := by
    rw [Operation.body, run_onStore, Records.run_listing]
    rfl
  exact Operation.run_memory_of_body_ok hrun

theorem listing_agrees (machine : Machine Memory) (hr gr : UInt32)
    (h : machine.store.records.Shelved) :
    ∃ listings, Action.run (Operation.listing hr gr).perform machine =
        (.ok listings, machine.plain.stored) ∧
      machine.store.records.Lists hr gr listings ∧
      ∀ listing ∈ listings, ∀ selector shown,
        listing.entries.find? (fun entry => entry.entryType == selector) = some shown →
        ∃ cost, machine.store.records.Shows cost shown ∧
          Action.run (Catalog.costEntry listing.gacha.id selector) machine.store.records =
            (.ok cost, machine.store.records) ∧
          Action.run (Catalog.guaranteedItems listing.gacha.id selector) machine.store.records =
            (.ok shown.items, machine.store.records) ∧
          ∀ {α : Type} (operation : Operation α) (player : Player) (answer : α)
            (next : Machine Memory),
            operation.play? = some (player, listing.gacha.id, selector) →
            Action.run operation.perform machine = (.ok answer, next) →
            operation.Honours player listing.gacha.id selector cost shown machine next answer := by
  refine ⟨_, machine.run_listing hr gr, h.lists hr gr,
    fun listing hlisting selector shown hfirst => ?_⟩
  obtain ⟨gacha, -, rfl⟩ := List.mem_map.1 hlisting
  obtain ⟨cost, hshows, hcost⟩ := h.keyed.exists_costRow hfirst
  refine ⟨cost, hshows, ?_, ?_, fun operation player answer next hplay hrun =>
    Operation.honours_of_ok h.keyed hplay hcost hshows hrun⟩
  · rw [Catalog.run_costEntry, hcost]
    rfl
  · rw [run_guaranteedItems hcost, hshows.items]

end Machine

namespace Sample

def firstRow : Entry where
  id := 8
  gacha := 2
  entryType := 1
  itemType := 7
  itemNumber := 3
  rolls := 1
  frontierPoints := 4

def stairsCatalog : Catalog where
  gachas := [
    { id := 2, name := "stairs", gachaType := 2 }, { id := 1, name := "kept", hidden := true }]
  entries := [
    { entry := { id := 9, gacha := 2, entryType := 1, rolls := 5, frontierPoints := 9 } },
    { entry := firstRow, items := [⟨7, 2, 1⟩] },
    { entry := { id := 5, gacha := 2, entryType := 2, rolls := 3 } },
    { entry := { id := 4, gacha := 2, entryType := 100, weight := ⟨0x3ff0000000000000⟩ } }]

def stairs : Machine Memory :=
  machine ((({} : Records).addCatalog stairsCatalog).addPlayer player)

theorem shelved_stairs : stairs.store.records.Shelved :=
  (Records.shelved_empty.addCatalog stairsCatalog).of_eq rfl rfl

end Sample

namespace Machine

theorem listing_agrees_stairs :
    let play := Operation.playStepup Sample.player 2 1
    let shown := ListedEntry.ofEntry Sample.firstRow [⟨7, 2, 1⟩]
    Sample.stairs.store.records.Shelved ∧
      ∃ listing, (Action.run (Operation.listing 0 0).perform Sample.stairs).1 = .ok [listing] ∧
        listing.entries.map (fun entry => (entry.entryType, entry.rolls)) =
          [(1, 1), (1, 5), (2, 3)] ∧
        listing.entries.find? (fun entry => entry.entryType == 1) = some shown ∧
        ∃ answer next, Action.run play.perform Sample.stairs = (.ok answer, next) ∧
          play.Honours Sample.player 2 1 Sample.firstRow shown Sample.stairs next answer := by
  intro play shown
  let listing : GachaListing := {
    gacha := { id := 2, name := "stairs", gachaType := 2 }
    entries := Sample.stairs.store.records.shownRows
      (Sample.stairs.store.records.arrangedRows 2) }
  let answer : StepupPlay := {
    guaranteed := [{ item := ⟨7, 2, 1⟩, rarity := 0 }]
    random := []
    nextStep := 2 }
  have hlisted : (Action.run (Operation.listing 0 0).perform Sample.stairs).1 = .ok [listing] := by
    decide +kernel
  have hrows : listing.entries.map (fun entry => (entry.entryType, entry.rolls)) =
      [(1, 1), (1, 5), (2, 3)] := by
    decide +kernel
  have hshown : listing.entries.find? (fun entry => entry.entryType == 1) = some shown := by
    decide +kernel
  have hplayed : (Action.run play.perform Sample.stairs).1 = .ok answer := by decide +kernel
  have hrow : (Action.run (Catalog.costEntry 2 1) Sample.stairs.store.records).1 =
      .ok Sample.firstRow := by
    decide +kernel
  obtain ⟨listings, hrun, -, hagrees⟩ := listing_agrees Sample.stairs 0 0 Sample.shelved_stairs
  rw [hrun] at hlisted
  cases hlisted
  obtain ⟨cost, -, hcost, -, hplays⟩ := hagrees listing List.mem_cons_self 1 shown hshown
  rw [hcost] at hrow
  cases hrow
  have htill : Action.run play.perform Sample.stairs =
      (.ok answer, (Action.run play.perform Sample.stairs).2) := Prod.ext hplayed rfl
  exact ⟨Sample.shelved_stairs, listing, congrArg Prod.fst hrun, hrows, hshown, answer, _, htill,
    hplays play Sample.player answer _ rfl htill⟩

end Machine

end PrizeDraw
