import PrizeDraw.Proofs.Books
import PrizeDraw.Proofs.Codec
import PrizeDraw.Proofs.Inventory
import PrizeDraw.Sandbox.Simulation

namespace PrizeDraw

theorem Pending.eq_empty {pending : Pending} (h : pending.items = []) : pending = .empty := by
  obtain ⟨items, fits⟩ := pending
  cases h
  rfl

structure Records.Ready (records : Records) (player : Player) (pending : Pending) : Prop where
  failing : records.failing = []
  known : ∀ balance, (records.amount? player balance).isSome
  loads : Pending.ofStored (records.held player.character) = .ok pending

namespace Records.Ready

variable {records : Records} {player : Player} {pending : Pending}

theorem exists_row (h : records.Ready player pending) :
    ∃ row, records.characters.find? player.character = some row := by
  have hknown := h.known .bondPoints
  simpa [amount?, Balance.scope, ownPurse?, Option.isSome_iff_exists] using hknown

theorem checkWrite (h : records.Ready player pending) (table : WriteTable) :
    records.checkWrite table = .ok () := by
  simp [Records.checkWrite, h.failing]

theorem pendingBuffer (h : records.Ready player pending) :
    records.pendingBuffer player.character = .ok (records.held player.character) := by
  obtain ⟨row, hrow⟩ := h.exists_row
  simp only [Records.pendingBuffer, character, held, hrow]
  rfl

theorem of_perform {α : Type} {operation : Operation α} {answer : α}
    {machine next : Machine Memory} {rest : Pending}
    (h : machine.store.records.Ready player pending)
    (hrun : Action.run operation.perform machine = (.ok answer, next))
    (hloads : Pending.ofStored (next.store.records.held player.character) = .ok rest) :
    next.store.records.Ready player rest where
  failing := by
    have hframe := operation.frame_perform machine
    rw [hrun] at hframe
    rw [hframe.failing, h.failing]
  known balance := by
    obtain ⟨worked, hbody, rfl⟩ := Operation.run_memory_of_ok hrun
    obtain ⟨value, hvalue⟩ := Option.isSome_iff_exists.1 (h.known balance)
    obtain ⟨now, hnow, -⟩ := (operation.booked_body hbody).amount?_of_some hvalue
    exact Option.isSome_iff_exists.2 ⟨now, hnow⟩
  loads := hloads

end Records.Ready

namespace Inventory

variable {records : Records} {player : Player} {pending : Pending}

theorem run_load (h : records.Ready player pending) :
    Action.run (load player.character) records = (.ok pending, records) := by
  have hread : Action.run (Store.perform (.pendingBuffer player.character)) records =
      (.ok (records.held player.character), records) := by
    rw [Records.run_perform]
    simp only [Records.step, h.pendingBuffer, Records.step.read]
  unfold load
  rw [Action.run_bind_of_ok hread, h.loads]
  rfl

theorem exists_save (h : records.Ready player pending) (left : Pending) :
    ∃ after, Action.run (save player.character left) records = (.ok (), after) := by
  obtain ⟨row, hrow⟩ := h.exists_row
  refine ⟨{ records with
    characters := records.characters.insert player.character { row with pending := left.stored } },
    ?_⟩
  rw [save, Records.run_perform]
  simp only [Records.step, h.checkWrite, Records.setPendingBuffer, Records.character, hrow]
  rfl

theorem exists_drain (h : records.Ready player pending) :
    ∃ drained after, Action.run (drain player.character false) records = (.ok drained, after) := by
  obtain ⟨after, hsave⟩ := exists_save h pending.split.2
  refine ⟨{ emitted := pending.split.1, remaining := pending.split.2 }, after, ?_⟩
  unfold drain
  rw [Action.run_bind_of_ok (run_load h)]
  exact Action.run_bind_of_ok hsave

end Inventory

namespace Simulation

variable {player : Player} {machine : Machine Memory} {pending : Pending}

theorem exists_receive (h : machine.store.records.Ready player pending) :
    ∃ drained next, Action.run (Machine.receive player false) machine = (.ok drained, next) ∧
      drained.emitted.items = pending.items.take Pending.maxEmitted ∧
      drained.remaining.items = pending.items.drop Pending.maxEmitted ∧
      next.store.records.held player.character = drained.remaining.stored ∧
      next.store.records.Ready player drained.remaining ∧ next.plain.stored = next := by
  obtain ⟨drained, after, hdrain⟩ := Inventory.exists_drain h
  obtain ⟨loaded, hloaded, hemitted, hremaining, hheld⟩ := Inventory.drain_ok hdrain
  obtain rfl : loaded = pending := Except.ok.inj (hloaded.symm.trans h.loads)
  let worked : Machine Records := { machine.plain with store := after }
  have hbody : Action.run (Operation.receive player false).body machine.plain =
      (.ok drained, worked) := by
    rw [Operation.body, Machine.run_onStore]
    simp only [Machine.plain, hdrain]
    rfl
  have hrun := Operation.run_memory_of_body_ok hbody
  have hleft : worked.stored.store.records.held player.character = drained.remaining.stored :=
    hheld
  refine ⟨drained, worked.stored, hrun, hemitted, hremaining, hleft, h.of_perform hrun ?_, rfl⟩
  rw [hleft, Pending.ofStored_stored]

inductive Collects (player : Player) :
    Machine Memory → List RewardItem → Machine Memory → Prop where
  | last {machine final : Machine Memory} {drained : Drained}
      (h : Action.run (Machine.receive player false) machine = (.ok drained, final))
      (hnone : drained.remaining.items = []) :
      Collects player machine drained.emitted.items final
  | more {machine next final : Machine Memory} {drained : Drained} {others : List RewardItem}
      (h : Action.run (Machine.receive player false) machine = (.ok drained, next))
      (hsome : drained.remaining.items ≠ []) (hothers : Collects player next others final) :
      Collects player machine (drained.emitted.items ++ others) final

theorem exists_collectAll (h : machine.store.records.Ready player pending) :
    ∃ final, final.store.records.Ready player .empty ∧
      final.store.records.held player.character = none ∧ final.plain.stored = final ∧
      Collects player machine pending.items final ∧
      ∀ limit, 0 < limit → pending.size ≤ Pending.maxEmitted * limit →
        Action.run (collectAll player limit) machine = (.ok pending.size, final) := by
  induction hsize : pending.size using Nat.strong_induction_on generalizing machine pending with
  | _ size ih =>
    obtain ⟨drained, next, hrun, hemitted, hremaining, hheld, hnext, hstored⟩ := exists_receive h
    have hleft : drained.remaining.size = size - Pending.maxEmitted := by
      rw [← hsize, Pending.size, hremaining, List.length_drop]
      rfl
    have hgone : drained.emitted.size = min Pending.maxEmitted size := by
      rw [← hsize, Pending.size, hemitted, List.length_take]
      rfl
    have hall : drained.emitted.items ++ drained.remaining.items = pending.items := by
      rw [hemitted, hremaining, List.take_append_drop]
    cases hempty : drained.remaining.isEmpty with
    | true =>
        have hitems : drained.remaining.items = [] := List.isEmpty_iff.1 hempty
        rw [Pending.eq_empty hitems] at hnext
        refine ⟨next, hnext, ?_, hstored, ?_, fun limit hlimit _ => ?_⟩
        · rw [hheld, Pending.stored_eq_none_iff.2 hitems]
        · rw [← hall, hitems, List.append_nil]
          exact .last hrun hitems
        · obtain ⟨fuel, rfl⟩ := Nat.exists_eq_succ_of_ne_zero hlimit.ne'
          have hnone : drained.remaining.size = 0 := by rw [Pending.size, hitems]; rfl
          rw [collectAll, Action.run_bind_of_ok hrun, if_pos hempty, Action.run_pure]
          have hwhole : drained.emitted.size = size := by omega
          rw [hwhole]
    | false =>
        have hmore : drained.remaining.size ≠ 0 := by
          intro hnone
          rw [Pending.isEmpty, List.isEmpty_iff.2 (List.eq_nil_of_length_eq_zero hnone)] at hempty
          cases hempty
        obtain ⟨final, hready, habsent, hfinal, hothers, hcollect⟩ :=
          ih drained.remaining.size (by unfold Pending.maxEmitted at hleft; omega) hnext rfl
        have hsome : drained.remaining.items ≠ [] := fun hnone =>
          hmore (congrArg List.length hnone)
        refine ⟨final, hready, habsent, hfinal, hall ▸ .more hrun hsome hothers,
          fun limit hlimit hfits => ?_⟩
        obtain ⟨fuel, rfl⟩ := Nat.exists_eq_succ_of_ne_zero hlimit.ne'
        unfold Pending.maxEmitted at hleft hgone hfits hcollect
        have hrest := hcollect fuel (by omega) (by omega)
        rw [collectAll, Action.run_bind_of_ok hrun, if_neg (by simp [hempty]),
          Action.run_bind_of_ok hrest, Action.run_pure]
        have hwhole : drained.emitted.size + drained.remaining.size = size := by omega
        rw [hwhole]

end Simulation

end PrizeDraw
