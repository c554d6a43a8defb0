import PrizeDraw.Memory
import PrizeDraw.Proofs.Operation

namespace PrizeDraw

namespace Records

instance : Store Records where
  start := pure ()
  perform asked := fun records =>
    match records.step asked with
    | .ok (answer, changed) => (.ok answer, changed)
    | .error halt => (.error halt, records)
  abandon := id

variable {α : Type}

theorem run_perform (asked : Command α) (records : Records) :
    Action.run (Store.perform asked) records =
      match records.step asked with
      | .ok (answer, changed) => (.ok answer, changed)
      | .error halt => (.error halt, records) := rfl

end Records

namespace Memory

variable {α : Type}

theorem run_perform_staged {asked : Command α} (h : asked.endsUnit = false)
    (records staged : Records) :
    Action.run (Store.perform asked) ({ records, staged := some staged } : Memory) =
      ((Action.run (Store.perform asked) staged).1,
        { records, staged := some (Action.run (Store.perform asked) staged).2 }) := by
  rw [Records.run_perform]
  cases asked with
  | commit => cases h
  | rollback => cases h
  | _ =>
      simp only [Action.run, ExceptT.run, Store.perform, Memory.perform]
      split <;> simp_all

end Memory

namespace Machine

def plain (machine : Machine Memory) : Machine Records where
  store := machine.store.records
  generator := machine.generator
  clock := machine.clock

def staging (kept : Records) (machine : Machine Records) : Machine Memory where
  store := { records := kept, staged := some machine.store }
  generator := machine.generator
  clock := machine.clock

def stored (machine : Machine Records) : Machine Memory where
  store := { records := machine.store }
  generator := machine.generator
  clock := machine.clock

theorem run_start (machine : Machine Memory) :
    Action.run (onStore Store.start) machine =
      (.ok (), machine.plain.staging machine.store.records) := rfl

end Machine

variable {α : Type} {reach : Reach}

theorem Query.run_staged (query : Query α) (h : reach.Allows α query) (kept : Records)
    (machine : Machine Records) :
    Action.run query.put (machine.staging kept) =
      ((Action.run query.put machine).1, (Action.run query.put machine).2.staging kept) := by
  cases query with
  | command asked =>
      simp only [Query.put, Machine.run_onStore]
      rw [Machine.staging, Memory.run_perform_staged (Reach.endsUnit_of_allows h)]
      rfl
  | weighted pool rolls =>
      simp only [Query.put, Machine.drawWeighted]
      split <;> rfl
  | uniform pool rolls => rfl
  | clock => rfl

theorem Dialogue.run_staged {d : Dialogue α} (hd : d.Within reach.Allows) (kept : Records)
    (machine : Machine Records) :
    Action.run d.carry (machine.staging kept) =
      ((Action.run d.carry machine).1, (Action.run d.carry machine).2.staging kept) := by
  induction d generalizing machine with
  | done answer => rfl
  | stop halt => rfl
  | ask query next ih =>
      simp only [Dialogue.carry, Action.run_bind]
      rw [Query.run_staged query hd.1 kept machine]
      cases Action.run query.put machine with
      | mk outcome asked =>
          cases outcome with
          | ok b => exact ih b (hd.2 b) asked
          | error halt => rfl

theorem Spoken.run_staged {body : ∀ (σ : Type) [Store σ], Action (Machine σ) α}
    (h : Spoken reach.Allows body) (kept : Records) (machine : Machine Records) :
    Action.run (body Memory) (machine.staging kept) =
      ((Action.run (body Records) machine).1,
        (Action.run (body Records) machine).2.staging kept) := by
  obtain ⟨d, hd, hcarry⟩ := h
  rw [hcarry Memory, hcarry Records]
  exact d.run_staged hd kept machine

theorem Spoken.run_transaction {body : ∀ (σ : Type) [Store σ], Action (Machine σ) α}
    (h : Spoken reach.Allows body) (machine : Machine Memory) :
    Action.run (Machine.transaction (body Memory)) machine =
      match Action.run (body Records) machine.plain with
      | (.ok answer, worked) => (.ok answer, worked.stored)
      | (.error halt, worked) =>
          (.error halt, { worked with store := machine.plain.store }.stored) := by
  rw [Machine.run_transaction, Action.run_bind_of_ok (Machine.run_start machine), Action.run_bind,
    h.run_staged]
  cases Action.run (body Records) machine.plain with
  | mk outcome worked => cases outcome <;> rfl

namespace Sample

def player : Player := { account := 1, character := 1 }

def catalog : Catalog where
  gachas := [{ id := 1, name := "box", gachaType := 4 }]
  entries := [
    { entry :=
        { id := 1, gacha := 1, entryType := 0, itemType := 21, itemNumber := 10, rolls := 1 } },
    { entry := { id := 2, gacha := 1, entryType := 100 }, items := [⟨7, 1, 1⟩] },
    { entry := { id := 3, gacha := 1, entryType := 100 }, items := [⟨7, 2, 1⟩] }]

def records : Records := (({} : Records).addCatalog catalog).addPlayer player

def machine (records : Records) : Machine Memory where
  store := { records }
  generator := { stream := fun _ => 0 }

end Sample

namespace Operation

theorem run_memory (operation : Operation α) (machine : Machine Memory) :
    Action.run operation.perform machine =
      match Action.run (operation.body (σ := Records)) machine.plain with
      | (.ok answer, worked) => (.ok answer, worked.stored)
      | (.error halt, worked) =>
          (.error halt, { worked with store := machine.plain.store }.stored) := by
  rw [operation.perform_eq]
  exact operation.spoken_body.run_transaction machine

theorem run_memory_of_body_ok {operation : Operation α} {machine : Machine Memory}
    {worked : Machine Records} {answer : α}
    (h : Action.run operation.body machine.plain = (.ok answer, worked)) :
    Action.run operation.perform machine = (.ok answer, worked.stored) := by
  rw [run_memory, h]

theorem run_memory_of_ok {operation : Operation α} {machine next : Machine Memory} {answer : α}
    (h : Action.run operation.perform machine = (.ok answer, next)) :
    ∃ worked, Action.run operation.body machine.plain = (.ok answer, worked) ∧
      next = worked.stored := by
  rw [run_memory] at h
  split at h
  · rename_i heq
    cases h
    exact ⟨_, heq, rfl⟩
  · cases h

theorem run_memory_of_error {operation : Operation α} {machine next : Machine Memory}
    {halt : Halt} (h : Action.run operation.perform machine = (.error halt, next)) :
    ∃ worked, Action.run operation.body machine.plain = (.error halt, worked) ∧
      next = { worked with store := machine.plain.store }.stored := by
  rw [run_memory] at h
  split at h
  · cases h
  · rename_i heq
    cases h
    exact ⟨_, heq, rfl⟩

theorem store_of_error {operation : Operation α} {machine : Machine Memory} {halt : Halt}
    (h : (Action.run operation.perform machine).1 = .error halt) :
    (Action.run operation.perform machine).2.store = { records := machine.store.records } := by
  rw [run_memory] at h ⊢
  split at h
  · cases h
  · rfl

theorem records_of_error (operation : Operation α) (machine : Machine Memory) (halt : Halt)
    (h : (Action.run operation.perform machine).1 = .error halt) :
    (Action.run operation.perform machine).2.store = { records := machine.store.records } ∧
      machine.Follows (Action.run operation.perform machine).2 := by
  cases hrun : Action.run operation.perform machine with
  | mk outcome next =>
      rw [hrun] at h
      obtain rfl : outcome = .error halt := h
      obtain ⟨worked, hworked, rfl⟩ := run_memory_of_error hrun
      have hfollows := operation.spoken_body.follows machine.plain
      rw [hworked] at hfollows
      exact ⟨rfl, hfollows⟩

theorem records_of_error_refused_write :
    let machine := Sample.machine (Sample.records.setFailing .inventory true)
    let played := Action.run (playBox Sample.player 1 0).perform machine
    played.1 = .error (.refused (.store (.injected "inventory"))) ∧
      played.2.store = { records := machine.store.records } ∧ machine.Follows played.2 :=
  ⟨rfl, records_of_error (playBox Sample.player 1 0)
    (Sample.machine (Sample.records.setFailing .inventory true)) _ rfl⟩

end Operation

end PrizeDraw
