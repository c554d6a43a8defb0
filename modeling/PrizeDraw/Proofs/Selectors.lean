import PrizeDraw.Proofs.Plays

namespace PrizeDraw

namespace Play

def Charges (player : Player) (gacha : GachaId) (selector : UInt8) (records : Records)
    (cost : Entry) : Prop :=
  ∃ debit charged, Action.run (charge player gacha selector) records = (.ok (cost, debit), charged)

variable {player : Player} {gacha : GachaId} {selector : UInt8} {records opened : Records}
  {cost : Entry}

theorem Charges.found (h : Charges player gacha selector records cost) :
    (records.entriesOf gacha).find? (fun entry => entry.entryType == selector) = some cost := by
  obtain ⟨debit, charged, hcharge⟩ := h
  exact (charge_ok hcharge).1

theorem Charges.mem (h : Charges player gacha selector records cost) :
    cost ∈ records.entriesOf gacha := List.mem_of_find?_eq_some h.found

theorem Charges.entryType_eq (h : Charges player gacha selector records cost) :
    cost.entryType = selector := by
  have hnamed := List.find?_some h.found
  exact eq_of_beq hnamed

theorem Charges.isProgression_iff (h : Charges player gacha selector records cost) :
    cost.isProgression = true ↔ selector < Entry.poolType := by
  rw [Entry.isProgression, h.entryType_eq]
  exact decide_eq_true_iff

theorem charges_of_openNormal {debit : Option Debit} {pool : List Entry}
    (h : Action.run (openNormal player gacha selector) records =
      (.ok (cost, debit, pool), opened)) : Charges player gacha selector records cost := by
  obtain ⟨_, locked, hlock, hcharged⟩ := Action.exists_of_bind_ok h
  cases hlock
  obtain ⟨⟨row, paid⟩, charged, hcharge, hpool⟩ := Action.exists_of_bind_ok hcharged
  cases hpool
  exact ⟨_, _, hcharge⟩

theorem charges_of_openStepup {nextStep : UInt8} {pool : List Entry}
    (h : Action.run (openStepup player gacha selector) records =
      (.ok (cost, nextStep, pool), opened)) : Charges player gacha selector records cost := by
  obtain ⟨debit, charged, credited, hcharge, -, -⟩ := openStepup_ok h
  exact ⟨debit, charged, hcharge⟩

theorem charges_of_openBox {pool : List Entry}
    (h : Action.run (openBox player gacha selector) records = (.ok (cost, pool), opened)) :
    Charges player gacha selector records cost := by
  obtain ⟨_, locked, hlock, hcharged⟩ := Action.exists_of_bind_ok h
  cases hlock
  obtain ⟨⟨row, paid⟩, charged, hcharge, hpool⟩ := Action.exists_of_bind_ok hcharged
  cases hpool
  exact ⟨_, _, hcharge⟩

theorem guaranteedItems_of_found {found : Entry} {items : List RewardItem} {after : Records}
    (hfound : (records.entriesOf gacha).find? (fun entry => entry.entryType == selector) =
      some found)
    (h : Action.run (Catalog.guaranteedItems gacha selector) records = (.ok items, after)) :
    items = (records.rewards.find? found.id).getD [] := by
  obtain ⟨answer, looked, hlook, hitems⟩ := Action.exists_of_bind_ok h
  cases hlook
  rw [hfound] at hitems
  cases hitems
  rfl

theorem guaranteed_of_closeStepup {nextStep : UInt8} {drawn : List Entry} {play : StepupPlay}
    {after : Records}
    (hfound : (opened.entriesOf gacha).find? (fun entry => entry.entryType == selector) =
      some cost)
    (h : Action.run (closeStepup player gacha selector nextStep drawn) opened =
      (.ok play, after)) :
    play.guaranteed = ((opened.rewards.find? cost.id).getD []).map fun item =>
      { item, rarity := 0 } := by
  obtain ⟨random, collected, hcollect, hlooked⟩ := Action.exists_of_bind_ok h
  obtain ⟨fixed, looked, hfixed, hawarded⟩ := Action.exists_of_bind_ok hlooked
  obtain ⟨_, awarded, haward, hanswer⟩ := Action.exists_of_bind_ok hawarded
  obtain ⟨rfl, -⟩ := Action.of_pure_ok hanswer
  have hframe := frame_collectDrawn hcollect
  have hrow : (collected.entriesOf gacha).find? (fun entry => entry.entryType == selector) =
      some cost := by
    rw [Records.entriesOf, hframe.entries]
    exact hfound
  rw [guaranteedItems_of_found hrow hfixed, hframe.rewards]

end Play

namespace Operation

variable {α : Type}

def play? : Operation α → Option (Player × GachaId × UInt8)
  | .playNormal player gacha selector => some (player, gacha, selector)
  | .playStepup player gacha step => some (player, gacha, step)
  | .playBox player gacha selector => some (player, gacha, selector)
  | _ => none

theorem charges_body {player : Player} {gacha : GachaId} {selector : UInt8}
    {operation : Operation α} (hplay : operation.play? = some (player, gacha, selector))
    {machine worked : Machine Records} {answer : α}
    (h : Action.run operation.body machine = (.ok answer, worked)) :
    ∃ cost, Play.Charges player gacha selector machine.store cost := by
  cases operation with
  | playNormal player gacha selector =>
      cases hplay
      obtain ⟨cost, debit, pool, drawn, opened, hopen, -⟩ := playNormal_ok h
      exact ⟨cost, Play.charges_of_openNormal hopen⟩
  | playStepup player gacha step =>
      cases hplay
      obtain ⟨cost, nextStep, pool, drawn, opened, hopen, -⟩ := playStepup_ok h
      exact ⟨cost, Play.charges_of_openStepup hopen⟩
  | playBox player gacha selector =>
      cases hplay
      obtain ⟨cost, pool, drawn, opened, hopen, -⟩ := playBox_ok h
      exact ⟨cost, Play.charges_of_openBox hopen⟩
  | _ => cases hplay

theorem charged_selector_iff (operation : Operation α) (player : Player) (gacha : GachaId)
    (selector : UInt8) (hplay : operation.play? = some (player, gacha, selector))
    (machine next : Machine Memory) (answer : α)
    (h : Action.run operation.perform machine = (.ok answer, next)) :
    ∃ cost, Play.Charges player gacha selector machine.store.records cost ∧
      cost ∈ machine.store.records.entriesOf gacha ∧ cost.entryType = selector ∧
      (cost.isProgression = true ↔ selector < 100) := by
  obtain ⟨worked, hworked, -⟩ := run_memory_of_ok h
  obtain ⟨cost, hcost⟩ := charges_body hplay hworked
  exact ⟨cost, hcost, hcost.mem, hcost.entryType_eq, hcost.isProgression_iff⟩

theorem charged_selector_iff_box :
    (playBox Sample.player 1 0).play? = some (Sample.player, 1, 0) ∧
      ∃ play, (Action.run (playBox Sample.player 1 0).perform
          (Sample.machine Sample.records)).1 = .ok play ∧
        ∃ cost, Play.Charges Sample.player 1 0 Sample.records cost ∧
          cost.isProgression = true := by
  obtain ⟨cost, hcharges, -, -, hiff⟩ := charged_selector_iff (playBox Sample.player 1 0)
    Sample.player 1 0 rfl (Sample.machine Sample.records) _ _ rfl
  exact ⟨rfl, _, rfl, cost, hcharges, hiff.2 (by decide)⟩

theorem playStepup_charges_pool_row :
    (Action.run (playStepup Sample.player 1 100).perform (Sample.machine Sample.records)).1 =
        .ok { guaranteed := [{ item := ⟨7, 1, 1⟩, rarity := 0 }], random := [],
              nextStep := 101 } ∧
      ∃ cost, Play.Charges Sample.player 1 100 Sample.records cost ∧
        cost.inPool = true ∧ cost.isProgression = false :=
  ⟨rfl, _, ⟨_, _, rfl⟩, rfl, rfl⟩

end Operation

end PrizeDraw
