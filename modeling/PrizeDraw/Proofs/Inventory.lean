import PrizeDraw.Proofs.Codec
import PrizeDraw.Proofs.Edits

namespace PrizeDraw

namespace Records

variable {records after : Records} {character : CharacterId} {buffer : Option Bytes}

theorem perform_pendingBuffer_ok
    (h : Action.run (Store.perform (.pendingBuffer character)) records = (.ok buffer, after)) :
    records.held character = buffer ∧ after = records := by
  rw [run_perform] at h
  cases hrow : records.character character with
  | error fault =>
      simp only [step, pendingBuffer, hrow] at h
      cases h
  | ok row =>
      simp only [step, pendingBuffer, hrow] at h
      cases h
      rw [held, character_ok hrow, Option.bind_some]
      exact ⟨rfl, rfl⟩

theorem perform_setPendingBuffer_ok
    (h : Action.run (Store.perform (.setPendingBuffer character buffer)) records = (.ok (), after)) :
    after.held character = buffer := by
  rw [run_perform] at h
  cases hrow : records.character character with
  | error fault =>
      simp only [step, setPendingBuffer, hrow] at h
      cases hwrite : records.checkWrite .inventory with
      | error fault => rw [hwrite] at h; cases h
      | ok _ => rw [hwrite] at h; cases h
  | ok row =>
      simp only [step, setPendingBuffer, hrow] at h
      cases hwrite : records.checkWrite .inventory with
      | error fault => rw [hwrite] at h; cases h
      | ok _ =>
          rw [hwrite] at h
          cases h
          rw [held_insert, if_pos rfl]

end Records

namespace Inventory

variable {records after : Records} {character : CharacterId}

theorem load_ok {pending : Pending}
    (h : Action.run (load character) records = (.ok pending, after)) :
    Pending.ofStored (records.held character) = .ok pending ∧ after = records := by
  obtain ⟨buffer, middle, hread, hparse⟩ := Action.exists_of_bind_ok h
  obtain ⟨hheld, rfl⟩ := Records.perform_pendingBuffer_ok hread
  obtain ⟨hpending, rfl⟩ := Action.of_ofExcept_ok hparse
  rw [hheld]
  exact ⟨hpending, rfl⟩

theorem append_ok {items : List RewardItem} {merged : Pending}
    (h : Action.run (append character items) records = (.ok merged, after)) :
    ∃ pending, Pending.ofStored (records.held character) = .ok pending ∧
      merged.items = items ++ pending.items ∧ after.held character = merged.stored := by
  obtain ⟨pending, loaded, hload, hjoined⟩ := Action.exists_of_bind_ok h
  obtain ⟨hpending, rfl⟩ := load_ok hload
  obtain ⟨joined, checked, hjoin, hsaved⟩ := Action.exists_of_bind_ok hjoined
  obtain ⟨hprepend, rfl⟩ := Action.of_ofExcept_ok hjoin
  obtain ⟨_, saved, hsave, hanswer⟩ := Action.exists_of_bind_ok hsaved
  obtain ⟨rfl, rfl⟩ := Action.of_pure_ok hanswer
  exact ⟨pending, hpending, Pending.items_of_prepend_ok hprepend,
    Records.perform_setPendingBuffer_ok hsave⟩

theorem drain_ok {freeze : Bool} {drained : Drained}
    (h : Action.run (drain character freeze) records = (.ok drained, after)) :
    ∃ pending, Pending.ofStored (records.held character) = .ok pending ∧
      drained.emitted.items = pending.items.take Pending.maxEmitted ∧
      drained.remaining.items = pending.items.drop Pending.maxEmitted ∧
      after.held character =
        if freeze then records.held character else drained.remaining.stored := by
  obtain ⟨pending, loaded, hload, hrest⟩ := Action.exists_of_bind_ok h
  obtain ⟨hpending, rfl⟩ := load_ok hload
  refine ⟨pending, hpending, ?_⟩
  cases freeze with
  | true =>
      obtain ⟨rfl, rfl⟩ := Action.of_pure_ok hrest
      exact ⟨rfl, rfl, rfl⟩
  | false =>
      obtain ⟨_, saved, hsave, hanswer⟩ := Action.exists_of_bind_ok hrest
      obtain ⟨rfl, rfl⟩ := Action.of_pure_ok hanswer
      exact ⟨rfl, rfl, Records.perform_setPendingBuffer_ok hsave⟩

end Inventory

end PrizeDraw
