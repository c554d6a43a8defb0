import PrizeDraw.Proofs.Edits

namespace PrizeDraw

namespace Machine

variable {σ : Type}

theorem of_drawUniform_ok {pool drawn : List Entry} {rolls : UInt8} {machine next : Machine σ}
    (h : Action.run (drawUniform pool rolls) machine = (.ok drawn, next)) :
    (Sampling.uniform pool rolls.toNat machine.generator).1 = .ok drawn := by
  rw [drawUniform, run_draw, Prod.mk.injEq] at h
  obtain ⟨houtcome, -⟩ := h
  cases hsample : (Sampling.uniform pool rolls.toNat machine.generator).1 with
  | ok found => rw [hsample] at houtcome; cases houtcome; rfl
  | error fault => rw [hsample] at houtcome; cases houtcome

end Machine

namespace Catalog

variable {records after : Records} {gacha : GachaId}

theorem gacha_ok {found : Gacha}
    (h : Action.run (Catalog.gacha gacha) records = (.ok found, after)) :
    records.gachas.find? gacha = some found ∧ after = records := by
  obtain ⟨answer, looked, hlook, hrest⟩ := Action.exists_of_bind_ok h
  cases hlook
  cases hfound : records.gachas.find? gacha with
  | none => rw [hfound] at hrest; cases hrest
  | some row =>
      rw [hfound] at hrest
      cases hrest
      exact ⟨rfl, rfl⟩

theorem costEntry_ok {entryType : UInt8} {cost : Entry}
    (h : Action.run (costEntry gacha entryType) records = (.ok cost, after)) :
    (records.entriesOf gacha).find? (fun entry => entry.entryType == entryType) = some cost ∧
      after = records := by
  obtain ⟨answer, looked, hlook, hrest⟩ := Action.exists_of_bind_ok h
  cases hlook
  cases hfound : (records.entriesOf gacha).find? fun entry => entry.entryType == entryType with
  | none => rw [hfound] at hrest; cases hrest
  | some row =>
      rw [hfound] at hrest
      cases hrest
      exact ⟨rfl, rfl⟩

end Catalog

def Records.pool (records : Records) (gacha : GachaId) : List Entry :=
  Arrangement.arrange byWeightThenId ((records.entriesOf gacha).filter Entry.inPool)

namespace Play

variable {player : Player} {gacha : GachaId} {records after : Records}

theorem charge_ok {selector : UInt8} {cost : Entry} {debit : Option Debit}
    (h : Action.run (charge player gacha selector) records = (.ok (cost, debit), after)) :
    (records.entriesOf gacha).find? (fun entry => entry.entryType == selector) = some cost ∧
      Action.run (Ledger.payEntryCost player cost) records = (.ok debit, after) := by
  obtain ⟨found, looked, hgacha, hpriced⟩ := Action.exists_of_bind_ok h
  obtain ⟨-, rfl⟩ := Catalog.gacha_ok hgacha
  obtain ⟨row, priced, hcost, hcharged⟩ := Action.exists_of_bind_ok hpriced
  obtain ⟨hrow, rfl⟩ := Catalog.costEntry_ok hcost
  obtain ⟨paid, charged, hpay, hanswer⟩ := Action.exists_of_bind_ok hcharged
  obtain ⟨hpair, rfl⟩ := Action.of_pure_ok hanswer
  cases hpair
  exact ⟨hrow, hpay⟩

theorem openStepup_ok {step nextStep : UInt8} {cost : Entry} {pool : List Entry}
    (h : Action.run (openStepup player gacha step) records =
      (.ok (cost, nextStep, pool), after)) :
    ∃ debit charged credited,
      Action.run (charge player gacha step) records = (.ok (cost, debit), charged) ∧
      ((cost.frontierPoints = 0 ∧ credited = charged) ∨
        ∃ sum, Action.run (Ledger.credit player .frontierPoints cost.frontierPoints) charged =
          (.ok sum, credited)) ∧
      Action.run (Steps.advance gacha player.character step) credited = (.ok nextStep, after) ∧
      pool = after.pool gacha := by
  obtain ⟨_, locked, hlock, hcharged⟩ := Action.exists_of_bind_ok h
  cases hlock
  obtain ⟨⟨row, debit⟩, charged, hcharge, hrest⟩ := Action.exists_of_bind_ok hcharged
  have hmoved {middle : Records} (hadvance : Action.run (do
      let next ← Steps.advance gacha player.character step
      let found ← Store.perform (.randomPool gacha)
      return (row, next, found)) middle = (.ok (cost, nextStep, pool), after)) :
      row = cost ∧
        Action.run (Steps.advance gacha player.character step) middle = (.ok nextStep, after) ∧
        pool = after.pool gacha := by
    obtain ⟨next, advanced, hnext, hpool⟩ := Action.exists_of_bind_ok hadvance
    cases hpool
    exact ⟨rfl, hnext, rfl⟩
  dsimp only at hrest
  split at hrest
  · obtain ⟨sum, credited, hcredit, hadvance⟩ := Action.exists_of_bind_ok hrest
    obtain ⟨rfl, hmove⟩ := hmoved hadvance
    exact ⟨debit, charged, credited, hcharge, .inr ⟨sum, hcredit⟩, hmove⟩
  · rename_i hbonus
    obtain ⟨rfl, hmove⟩ := hmoved hrest
    exact ⟨debit, charged, charged, hcharge, .inl ⟨not_not.1 hbonus, rfl⟩, hmove⟩

theorem frame_charge {selector : UInt8} {outcome : Except Halt (Entry × Option Debit)}
    (h : Action.run (charge player gacha selector) records = (outcome, after)) :
    Records.Frame { player, tables := [.balances] } records after :=
  (Spoken.charge gacha selector List.mem_cons_self).frame_of_run h

theorem frame_openNormal {selector : UInt8}
    {outcome : Except Halt (Entry × Option Debit × List Entry)}
    (h : Action.run (openNormal player gacha selector) records = (outcome, after)) :
    Records.Frame { player, tables := [.balances] } records after :=
  (Spoken.openNormal gacha selector List.mem_cons_self).frame_of_run h

theorem frame_openStepup {step : UInt8} {outcome : Except Halt (Entry × UInt8 × List Entry)}
    (h : Action.run (openStepup player gacha step) records = (outcome, after)) :
    Records.Frame { player, gacha, tables := [.balances, .stepup] } records after :=
  (Spoken.openStepup step (by simp) (by simp)).frame_of_run h

theorem frame_openBox {selector : UInt8} {outcome : Except Halt (Entry × List Entry)}
    (h : Action.run (openBox player gacha selector) records = (outcome, after)) :
    Records.Frame { player, tables := [.balances] } records after :=
  (Spoken.openBox gacha selector List.mem_cons_self).frame_of_run h

theorem frame_rewards {fetched : Fetched} {entry : EntryId}
    {outcome : Except Halt (List RewardItem × Fetched)}
    (h : Action.run (rewards fetched entry) records = (outcome, after)) :
    Records.Frame {} records after :=
  (Spoken.rewards fetched entry).frame_of_run h

theorem frame_collectDrawn {drawn : List Entry} {outcome : Except Halt (List DrawnItem)}
    (h : Action.run (collectDrawn drawn) records = (outcome, after)) :
    Records.Frame {} records after :=
  (Spoken.collectDrawn drawn).frame_of_run h

theorem frame_collectDealt {drawn : List Entry} {outcome : Except Halt (List DrawnItem)}
    (h : Action.run (collectDealt player gacha drawn) records = (outcome, after)) :
    Records.Frame { player, gacha, tables := [.box] } records after :=
  (Spoken.collectDealt drawn List.mem_cons_self).frame_of_run h

theorem frame_guaranteedItems {step : UInt8} {outcome : Except Halt (List RewardItem)}
    (h : Action.run (Catalog.guaranteedItems gacha step) records = (outcome, after)) :
    Records.Frame {} records after :=
  (Spoken.guaranteedItems gacha step).frame_of_run h

theorem frame_award {won : List DrawnItem} {outcome : Except Halt Unit}
    (h : Action.run (award player won) records = (outcome, after)) :
    Records.Frame { player, tables := [.inventory] } records after :=
  (Spoken.award won List.mem_cons_self).frame_of_run h

end Play

namespace Operation

variable {σ : Type} [Store σ] {player : Player} {gacha : GachaId} {machine worked : Machine σ}

theorem playNormal_ok {selector : UInt8} {play : NormalPlay}
    (h : Action.run (playNormal player gacha selector).body machine = (.ok play, worked)) :
    ∃ cost debit pool drawn opened,
      Action.run (Play.openNormal player gacha selector) machine.store =
        (.ok (cost, debit, pool), opened) ∧
      Action.run (Play.closeNormal player debit drawn) opened = (.ok play, worked.store) := by
  obtain ⟨⟨cost, debit, pool⟩, opened, hopen, hrest⟩ := Action.exists_of_bind_ok h
  obtain ⟨drawn, sampled, hdraw, hclose⟩ := Action.exists_of_bind_ok hrest
  have hsampled := Machine.store_drawWeighted pool cost.rolls opened
  rw [hdraw] at hsampled
  refine ⟨cost, debit, pool, drawn, opened.store, (Machine.of_onStore_ok hopen).1, ?_⟩
  rw [← hsampled]
  exact (Machine.of_onStore_ok hclose).1

theorem playStepup_ok {step : UInt8} {play : StepupPlay}
    (h : Action.run (playStepup player gacha step).body machine = (.ok play, worked)) :
    ∃ cost nextStep pool drawn opened,
      Action.run (Play.openStepup player gacha step) machine.store =
        (.ok (cost, nextStep, pool), opened) ∧
      Action.run (Play.closeStepup player gacha step nextStep drawn) opened =
        (.ok play, worked.store) := by
  obtain ⟨⟨cost, nextStep, pool⟩, opened, hopen, hrest⟩ := Action.exists_of_bind_ok h
  obtain ⟨drawn, sampled, hdraw, hclose⟩ := Action.exists_of_bind_ok hrest
  have hsampled := Machine.store_drawWeighted pool cost.rolls opened
  rw [hdraw] at hsampled
  refine ⟨cost, nextStep, pool, drawn, opened.store, (Machine.of_onStore_ok hopen).1, ?_⟩
  rw [← hsampled]
  exact (Machine.of_onStore_ok hclose).1

theorem playBox_ok {selector : UInt8} {play : BoxPlay}
    (h : Action.run (playBox player gacha selector).body machine = (.ok play, worked)) :
    ∃ cost pool drawn opened,
      Action.run (Play.openBox player gacha selector) machine.store =
        (.ok (cost, pool), opened) ∧
      (Sampling.uniform pool cost.rolls.toNat machine.generator).1 = .ok drawn ∧
      Action.run (Play.closeBox player gacha drawn) opened = (.ok play, worked.store) := by
  obtain ⟨⟨cost, pool⟩, opened, hopen, hrest⟩ := Action.exists_of_bind_ok h
  obtain ⟨drawn, sampled, hdraw, hclose⟩ := Action.exists_of_bind_ok hrest
  obtain ⟨hopened, hsame⟩ := Machine.of_onStore_ok hopen
  have hsampled := Machine.store_drawUniform pool cost.rolls opened
  have hsample := Machine.of_drawUniform_ok hdraw
  rw [hsame] at hsample
  rw [hdraw] at hsampled
  refine ⟨cost, pool, drawn, opened.store, hopened, hsample, ?_⟩
  rw [← hsampled]
  exact (Machine.of_onStore_ok hclose).1

end Operation

end PrizeDraw
