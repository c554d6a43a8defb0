import PrizeDraw.Proofs.Boxes
import PrizeDraw.Proofs.Questions

namespace PrizeDraw

namespace Desk

theorem run_boxInfo (handle : UInt32) (machine : Machine Memory) (player : Player)
    (gacha : GachaId) :
    ∃ next, Action.run (Desk.handle player handle (.boxInfo gacha)) machine =
      (.ok [{ handle, ack := .ofQuestion [0] (Reply.boxStatus
        ((machine.store.records.dealtTo gacha player.character).map fun entry =>
          { entry, exhausted := true })) }], next) := by
  have hhandled := run_handle player handle (.boxInfo gacha) machine
  have hrun : Action.run (Operation.boxStatus player gacha).perform machine =
      (.ok ((machine.store.records.dealtTo gacha player.character).map fun entry =>
        { entry, exhausted := true }), machine.plain.stored) := by
    rw [Operation.run_memory, Operation.run_boxStatus]
    rfl
  dsimp only [Request.errand, Errand.question] at hhandled
  rw [hrun] at hhandled
  exact ⟨_, hhandled⟩

theorem run_boxInfo_of_le (handle : UInt32) (machine : Machine Memory) (player : Player)
    (gacha : GachaId)
    (h : (machine.store.records.dealtTo gacha player.character).length ≤ 255) :
    ∃ payload next, Action.run (Desk.handle player handle (.boxInfo gacha)) machine =
        (.ok [{ handle, ack := .succeed payload }], next) ∧
      Reply.readBoxStatus payload =
        some ((machine.store.records.dealtTo gacha player.character).map fun entry =>
          { entry, exhausted := true }) := by
  obtain ⟨next, hhandled⟩ := run_boxInfo handle machine player gacha
  obtain ⟨payload, hencoded, hread⟩ := Reply.boxStatus_of_le
    ((machine.store.records.dealtTo gacha player.character).map fun entry =>
      { entry, exhausted := true }) (by rwa [List.length_map])
  rw [hencoded] at hhandled
  exact ⟨payload, next, hhandled, hread⟩

theorem run_boxInfo_of_gt (handle : UInt32) (machine : Machine Memory) (player : Player)
    (gacha : GachaId)
    (h : 255 < (machine.store.records.dealtTo gacha player.character).length) :
    ∃ next, Action.run (Desk.handle player handle (.boxInfo gacha)) machine =
      (.ok [{ handle, ack := .succeed [0] }], next) := by
  obtain ⟨next, hhandled⟩ := run_boxInfo handle machine player gacha
  rw [Reply.boxStatus_of_gt (by rwa [List.length_map])] at hhandled
  exact ⟨next, hhandled⟩

theorem box_reported (machine : Machine Memory) (gacha : GachaId) (character : CharacterId)
    (hstart : machine.store.records.dealtTo gacha character = []) (calls : List Call)
    (player : Player) (hplayer : player.character = character) (handle : UInt32) :
    let dealt := Event.dealtSince gacha character (machine.serve calls).1
    ∃ payload next,
      Action.run (Desk.handle player handle (.boxInfo gacha)) (machine.serve calls).2 =
        (.ok [{ handle, ack := .succeed payload }], next) ∧
      (dealt.length ≤ 255 → Reply.readBoxStatus payload =
        some (dealt.map fun entry => { entry, exhausted := true })) ∧
      (255 < dealt.length → payload = [0]) := by
  intro dealt
  subst hplayer
  have hrows : (machine.serve calls).2.store.records.dealtTo gacha player.character = dealt :=
    Machine.dealtTo_serve hstart calls
  by_cases hfits : dealt.length ≤ 255
  · obtain ⟨payload, next, hhandled, hread⟩ :=
      run_boxInfo_of_le handle (machine.serve calls).2 player gacha (by rwa [hrows])
    rw [hrows] at hread
    exact ⟨payload, next, hhandled, fun _ => hread, fun hmany => absurd hfits (by omega)⟩
  · obtain ⟨next, hhandled⟩ := run_boxInfo_of_gt handle (machine.serve calls).2 player gacha
      (by rw [hrows]; exact Nat.lt_of_not_le hfits)
    exact ⟨[0], next, hhandled, fun hfew => absurd hfew hfits, fun _ => rfl⟩

theorem box_reported_two :
    (Sample.machine Sample.records).store.records.dealtTo 1 1 = [] ∧
      Sample.player.character = 1 ∧
      ∃ payload next, Action.run (Desk.handle Sample.player 7 (.boxInfo 1))
          ((Sample.machine Sample.records).serve [.ask (.playBox Sample.player 1 0),
            .ask (.playBox Sample.player 1 0)]).2 =
              (.ok [{ handle := 7, ack := .succeed payload }], next) ∧
        Reply.readBoxStatus payload = some [⟨2, true⟩, ⟨3, true⟩] := by
  have hdealt : Event.dealtSince 1 1 ((Sample.machine Sample.records).serve
      [.ask (.playBox Sample.player 1 0), .ask (.playBox Sample.player 1 0)]).1 = [2, 3] := by
    decide +kernel
  obtain ⟨payload, next, hhandled, hread, -⟩ := box_reported (Sample.machine Sample.records) 1 1
    rfl [.ask (.playBox Sample.player 1 0), .ask (.playBox Sample.player 1 0)] Sample.player rfl 7
  rw [hdealt] at hread
  exact ⟨rfl, rfl, payload, next, hhandled, hread (by decide)⟩

end Desk

namespace Play

theorem run_openBox_of_free {records : Records} {player : Player} {gacha : GachaId}
    {selector : UInt8} {found : Gacha} {cost : Entry}
    (hgacha : records.gachas.find? gacha = some found)
    (hcost : records.costRow? gacha selector = some cost)
    (hfree : Currency.ofItemType cost.itemType = none) :
    Action.run (openBox player gacha selector) records =
      (.ok (cost, records.boxPool gacha player.character), records) := by
  have hfound := Catalog.run_gacha records gacha
  have hrow := Catalog.run_costEntry records gacha selector
  rw [hgacha] at hfound
  rw [hcost] at hrow
  have hpaid : Action.run (Ledger.payEntryCost player cost) records = (.ok none, records) := by
    rw [Ledger.payEntryCost, hfree]
    rfl
  have hcharge : Action.run (charge player gacha selector) records =
      (.ok (cost, none), records) := by
    rw [charge, Action.run_bind_of_ok hfound, Action.run_bind_of_ok hrow,
      Action.run_bind_of_ok hpaid]
    rfl
  rw [openBox, Action.run_bind_of_ok (run_lock records player gacha),
    Action.run_bind_of_ok hcharge]
  rfl

end Play

namespace Sample

def box (entries : Table EntryId Entry) (rows : List DealtRow) : Records where
  gachas := [(1, { id := 1, name := "box", gachaType := 4 })]
  entries
  accounts := [(1, {})]
  characters := [(1, {})]
  dealt := rows

theorem run_playBox_box {entries : Table EntryId Entry} {rows : List DealtRow} {selector : UInt8}
    {cost : Entry} {machine : Machine Records} (hmachine : machine.store = box entries rows)
    (hcost : (box entries rows).costRow? 1 selector = some cost)
    (hfree : Currency.ofItemType cost.itemType = none)
    (henough : cost.rolls.toNat ≤ ((box entries rows).boxPool 1 1).length) :
    ∃ play worked later,
      Action.run (Operation.playBox player 1 selector).body machine = (.ok play, worked) ∧
      worked.store = box entries later := by
  obtain ⟨store, generator, clock⟩ := machine
  obtain rfl : store = box entries rows := hmachine
  have hopen : Action.run (Machine.onStore (Play.openBox player 1 selector))
      { store := box entries rows, generator, clock } =
        (.ok (cost, (box entries rows).boxPool 1 1),
          { store := box entries rows, generator, clock }) := by
    rw [Machine.run_onStore, Play.run_openBox_of_free rfl hcost hfree]
    rfl
  obtain ⟨drawn, moved, hdraw⟩ : ∃ drawn moved,
      Action.run (Machine.drawUniform ((box entries rows).boxPool 1 1) cost.rolls)
        { store := box entries rows, generator, clock } =
          (.ok drawn, { store := box entries rows, generator := moved, clock }) := by
    rw [Machine.drawUniform, Machine.run_draw, Sampling.uniform, if_neg (Nat.not_lt.2 henough)]
    exact ⟨_, _, rfl⟩
  obtain ⟨after, hcollect, later, rfl⟩ := Play.run_collect
    (P := fun records => ∃ later, records = box entries later)
    (fun entry => Store.perform (.insertDealt 1 player.character entry.id)) (fun _ => [])
    (by rintro entry _ ⟨later, rfl⟩; exact ⟨_, rfl, later ++ [_], rfl⟩)
    (by rintro _ ⟨later, rfl⟩ id; rfl) (fun _ => 0) [] (fun id items h => by cases h) drawn
    ⟨rows, rfl⟩
  have hnothing : (drawn.flatMap fun entry =>
      (([] : List RewardItem).map fun item => ({ item, rarity := 0 } : DrawnItem))) = [] :=
    List.flatMap_eq_nil_iff.2 fun _ _ => rfl
  rw [hnothing] at hcollect
  have hclose : Action.run (Play.closeBox player 1 drawn) (box entries rows) =
      (.ok { items := [], dealt := drawn.map Entry.id }, box entries later) := by
    rw [Play.closeBox, Play.collectDealt, Action.run_bind_of_ok hcollect]
    rfl
  have hclosed : Action.run (Machine.onStore (Play.closeBox player 1 drawn))
      { store := box entries rows, generator := moved, clock } =
        (.ok { items := [], dealt := drawn.map Entry.id },
          { store := box entries later, generator := moved, clock }) := by
    rw [Machine.run_onStore, hclose]
  exact ⟨_, _, later, (Action.run_bind_of_ok hopen).trans
    ((Action.run_bind_of_ok hdraw).trans hclosed), rfl⟩

theorem call_box {entries : Table EntryId Entry} {rows : List DealtRow} {selector : UInt8}
    {cost : Entry} (machine : Machine Memory) (hmachine : machine.store.records = box entries rows)
    (hkeyed : (box entries rows).Keyed)
    (hcost : (box entries rows).costRow? 1 selector = some cost)
    (hfree : Currency.ofItemType cost.itemType = none)
    (henough : ((box entries rows).dealtTo 1 1).length + cost.rolls.toNat ≤
      (((box entries rows).entriesOf 1).filter Entry.inPool).length) :
    ∃ later,
      (machine.call (.ask (.playBox player 1 selector))).2.store.records = box entries later ∧
      ((box entries later).dealtTo 1 1).length =
        ((box entries rows).dealtTo 1 1).length + cost.rolls.toNat := by
  have hplain : machine.plain.store = box entries rows := hmachine
  have hleft := hkeyed.length_pool_le 1 1
  have hpool := ((box entries rows).boxPool_perm 1 1).length_eq
  obtain ⟨play, worked, later, hworked, hlater⟩ :=
    run_playBox_box hplain hcost hfree (by omega)
  have hdeals := Operation.deals_playBox (by rw [hplain]; exact hkeyed) hworked
  rw [hplain, hlater] at hdeals
  obtain ⟨charged, hcharged, hcount, -, -, hrows⟩ := hdeals
  obtain rfl : cost = charged := Option.some.inj (hcost.symm.trans hcharged)
  refine ⟨later, ?_, ?_⟩
  · simp only [Machine.call]
    rw [Operation.run_memory, hworked]
    exact hlater
  · have hlength := congrArg List.length hrows
    rw [List.length_append, hcount] at hlength
    exact hlength

theorem entriesOf_box (entries : Table EntryId Entry) (rows : List DealtRow) (gacha : GachaId) :
    (box entries rows).entriesOf gacha =
      entries.values.filter fun entry => entry.gacha == gacha := rfl

theorem dealtTo_box_nil (entries : Table EntryId Entry) :
    (machine (box entries [])).store.records.dealtTo 1 1 = [] := rfl

theorem serve_box {entries : Table EntryId Entry} (most last : Entry)
    (hkeyed : ∀ rows, (box entries rows).Keyed)
    (hmost : ∀ rows, (box entries rows).costRow? 1 0 = some most)
    (hlast : ∀ rows, (box entries rows).costRow? 1 1 = some last)
    (hfree : Currency.ofItemType most.itemType = none ∧ Currency.ofItemType last.itemType = none)
    (henough : most.rolls.toNat + last.rolls.toNat ≤
      ((entries.values.filter fun entry => entry.gacha == 1).filter Entry.inPool).length) :
    ((((machine (box entries [])).serve [.ask (.playBox player 1 0),
        .ask (.playBox player 1 1)]).2.store.records).dealtTo 1 1).length =
      most.rolls.toNat + last.rolls.toNat := by
  have hnone : ((box entries []).dealtTo 1 1).length = 0 :=
    congrArg List.length (dealtTo_box_nil entries)
  obtain ⟨first, hfirst, hmany⟩ := call_box (machine (box entries [])) rfl
    (hkeyed []) (hmost []) hfree.1 (by rw [entriesOf_box, hnone]; omega)
  rw [hnone, Nat.zero_add] at hmany
  obtain ⟨second, hsecond, hall⟩ := call_box _ hfirst (hkeyed first) (hlast first) hfree.2
    (by rw [entriesOf_box, hmany]; exact henough)
  have hserved : ((machine (box entries [])).serve
      [.ask (.playBox player 1 0), .ask (.playBox player 1 1)]).2.store.records =
        box entries second := hsecond
  rw [hserved, hall, hmany]

def chestCatalog : Catalog where
  entries :=
    ((List.range 256).map fun n =>
      { entry := { id := UInt32.ofNat (257 - n), gacha := 1, entryType := 100 } }) ++
    [{ entry := { id := 1, gacha := 1, entryType := 1, rolls := 1 } },
      { entry := { id := 0, gacha := 1, entryType := 0, rolls := 255 } }]

def chestEntries : Table EntryId Entry := (({} : Records).addCatalog chestCatalog).entries

theorem keyed_chest (rows : List DealtRow) : (box chestEntries rows).Keyed :=
  (Records.keyed_empty.addCatalog chestCatalog).of_entries_eq (by rw [box, chestEntries])

theorem dealt_chest :
    ((((machine (box chestEntries [])).serve [.ask (.playBox player 1 0),
      .ask (.playBox player 1 1)]).2.store.records).dealtTo 1 1).length = 256 := by
  refine serve_box { id := 0, gacha := 1, entryType := 0, rolls := 255 }
    { id := 1, gacha := 1, entryType := 1, rolls := 1 } keyed_chest ?_ ?_ ⟨rfl, rfl⟩ ?_
  · intro rows
    rw [Records.costRow?, entriesOf_box]
    decide +kernel
  · intro rows
    rw [Records.costRow?, entriesOf_box]
    decide +kernel
  · decide +kernel

end Sample

namespace Desk

theorem not_always_reported :
    ¬∀ (machine : Machine Memory) (gacha : GachaId) (character : CharacterId),
      machine.store.records.dealtTo gacha character = [] →
      ∀ (calls : List Call) (player : Player) (handle : UInt32), player.character = character →
      ∃ payload next,
        Action.run (Desk.handle player handle (.boxInfo gacha)) (machine.serve calls).2 =
          (.ok [{ handle, ack := .succeed payload }], next) ∧
        Reply.readBoxStatus payload =
          some ((Event.dealtSince gacha character (machine.serve calls).1).map fun entry =>
            { entry, exhausted := true }) := by
  intro h
  have hmany := Sample.dealt_chest
  have hstart := Sample.dealtTo_box_nil Sample.chestEntries
  generalize Sample.machine (Sample.box Sample.chestEntries []) = machine at hmany hstart
  obtain ⟨payload, next, hhandled, hread⟩ := h machine 1 1 hstart
    [.ask (.playBox Sample.player 1 0), .ask (.playBox Sample.player 1 1)] Sample.player 7 rfl
  obtain ⟨reached, hreached⟩ := run_boxInfo_of_gt 7 _ Sample.player 1
    (Nat.lt_of_lt_of_eq (by decide) hmany.symm)
  cases hhandled.symm.trans hreached
  rw [← Machine.dealtTo_serve hstart] at hread
  have hnone : Reply.readBoxStatus [0] = some [] := rfl
  rw [hnone, Option.some.injEq] at hread
  have hlength := congrArg List.length hread
  rw [List.length_map, hmany] at hlength
  cases hlength

end Desk

end PrizeDraw
