import PrizeDraw.Proofs.Inventory
import PrizeDraw.Proofs.Plays

namespace PrizeDraw

namespace Records

def Gains (before after : Records) (character : CharacterId) (won : List RewardItem) : Prop :=
  ∃ pending merged : Pending, Pending.ofStored (before.held character) = .ok pending ∧
    merged.items = won ++ pending.items ∧ after.held character = merged.stored

theorem Gains.of_held_eq {earlier before after : Records} {character : CharacterId}
    {won : List RewardItem} (h : before.Gains after character won)
    (hheld : before.held character = earlier.held character) :
    earlier.Gains after character won := by
  obtain ⟨pending, merged, hpending, hmerged, hafter⟩ := h
  exact ⟨pending, merged, hheld ▸ hpending, hmerged, hafter⟩

end Records

namespace Play

variable {player : Player} {records after : Records}

theorem award_ok {won : List DrawnItem}
    (h : Action.run (award player won) records = (.ok (), after)) :
    records.Gains after player.character (won.map DrawnItem.item) := by
  obtain ⟨merged, stored, happend, hanswer⟩ := Action.exists_of_bind_ok h
  obtain ⟨-, rfl⟩ := Action.of_pure_ok hanswer
  obtain ⟨pending, hpending, hmerged, hafter⟩ := Inventory.append_ok happend
  exact ⟨pending, merged, hpending, hmerged, hafter⟩

theorem closeNormal_ok {debit : Option Debit} {drawn : List Entry} {play : NormalPlay}
    (h : Action.run (closeNormal player debit drawn) records = (.ok play, after)) :
    records.Gains after player.character (play.items.map DrawnItem.item) := by
  obtain ⟨items, collected, hcollect, hrest⟩ := Action.exists_of_bind_ok h
  obtain ⟨_, awarded, haward, hanswer⟩ := Action.exists_of_bind_ok hrest
  obtain ⟨rfl, rfl⟩ := Action.of_pure_ok hanswer
  have hheld := (frame_collectDrawn hcollect).held player.character (by simp)
  exact (award_ok haward).of_held_eq hheld

theorem closeStepup_ok {gacha : GachaId} {step nextStep : UInt8} {drawn : List Entry}
    {play : StepupPlay}
    (h : Action.run (closeStepup player gacha step nextStep drawn) records = (.ok play, after)) :
    records.Gains after player.character (play.items.map DrawnItem.item) := by
  obtain ⟨random, collected, hcollect, hrest⟩ := Action.exists_of_bind_ok h
  obtain ⟨fixed, looked, hfixed, hrest⟩ := Action.exists_of_bind_ok hrest
  obtain ⟨_, awarded, haward, hanswer⟩ := Action.exists_of_bind_ok hrest
  obtain ⟨rfl, rfl⟩ := Action.of_pure_ok hanswer
  have hcollected := (frame_collectDrawn hcollect).held player.character (by simp)
  have hlooked := (frame_guaranteedItems hfixed).held player.character (by simp)
  exact (award_ok haward).of_held_eq (hlooked.trans hcollected)

theorem closeBox_ok {gacha : GachaId} {drawn : List Entry} {play : BoxPlay}
    (h : Action.run (closeBox player gacha drawn) records = (.ok play, after)) :
    records.Gains after player.character (play.items.map DrawnItem.item) := by
  obtain ⟨items, collected, hcollect, hrest⟩ := Action.exists_of_bind_ok h
  obtain ⟨_, awarded, haward, hanswer⟩ := Action.exists_of_bind_ok hrest
  obtain ⟨rfl, rfl⟩ := Action.of_pure_ok hanswer
  have hheld := (frame_collectDealt hcollect).held player.character (by simp)
  exact (award_ok haward).of_held_eq hheld

end Play

namespace Operation

variable {player : Player} {gacha : GachaId} {machine worked : Machine Records}

theorem gains_playNormal {selector : UInt8} {play : NormalPlay}
    (h : Action.run (playNormal player gacha selector).body machine = (.ok play, worked)) :
    machine.store.Gains worked.store player.character (play.items.map DrawnItem.item) := by
  obtain ⟨cost, debit, pool, drawn, opened, hopen, hclose⟩ := playNormal_ok h
  have hheld := (Play.frame_openNormal hopen).held player.character (by simp)
  exact (Play.closeNormal_ok hclose).of_held_eq hheld

theorem gains_playStepup {step : UInt8} {play : StepupPlay}
    (h : Action.run (playStepup player gacha step).body machine = (.ok play, worked)) :
    machine.store.Gains worked.store player.character (play.items.map DrawnItem.item) := by
  obtain ⟨cost, nextStep, pool, drawn, opened, hopen, hclose⟩ := playStepup_ok h
  have hheld := (Play.frame_openStepup hopen).held player.character (by simp)
  exact (Play.closeStepup_ok hclose).of_held_eq hheld

theorem gains_playBox {selector : UInt8} {play : BoxPlay}
    (h : Action.run (playBox player gacha selector).body machine = (.ok play, worked)) :
    machine.store.Gains worked.store player.character (play.items.map DrawnItem.item) := by
  obtain ⟨cost, pool, drawn, opened, hopen, -, hclose⟩ := playBox_ok h
  have hheld := (Play.frame_openBox hopen).held player.character (by simp)
  exact (Play.closeBox_ok hclose).of_held_eq hheld

end Operation

end PrizeDraw
