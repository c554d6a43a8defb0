import PrizeDraw.Proofs.Staging

namespace PrizeDraw

inductive Call : Type 1 where
  | ask {α : Type} (operation : Operation α)
  | stock (catalog : Catalog)

inductive Event : Type 1 where
  | answered {α : Type} (operation : Operation α) (outcome : Except Halt α)
  | stocked (catalog : Catalog)

namespace Machine

def call (machine : Machine Memory) : Call → Event × Machine Memory
  | .ask operation =>
      let (outcome, next) := Action.run operation.perform machine
      (.answered operation outcome, next)
  | .stock catalog =>
      (.stocked catalog, { machine with store := machine.store.addCatalog catalog })

def serve (machine : Machine Memory) : List Call → List Event × Machine Memory
  | [] => ([], machine)
  | call :: rest =>
      let (event, next) := machine.call call
      let (events, last) := next.serve rest
      (event :: events, last)

inductive Turn (machine : Machine Memory) : Event → Machine Memory → Prop where
  | done {α : Type} (operation : Operation α) (answer : α) (worked : Machine Records)
      (h : Action.run operation.body machine.plain = (.ok answer, worked)) :
      Turn machine (.answered operation (.ok answer)) worked.stored
  | stopped {α : Type} (operation : Operation α) (halt : Halt) (worked : Machine Records)
      (h : Action.run operation.body machine.plain = (.error halt, worked)) :
      Turn machine (.answered operation (.error halt))
        { worked with store := machine.plain.store }.stored
  | stocked (catalog : Catalog) :
      Turn machine (.stocked catalog) { machine with store := machine.store.addCatalog catalog }

theorem turn_call (machine : Machine Memory) (call : Call) :
    Turn machine (machine.call call).1 (machine.call call).2 := by
  cases call with
  | stock catalog => exact .stocked catalog
  | ask operation =>
      simp only [Machine.call]
      cases hrun : Action.run operation.perform machine with
      | mk outcome next =>
          cases outcome with
          | ok answer =>
              obtain ⟨worked, hworked, rfl⟩ := Operation.run_memory_of_ok hrun
              exact .done operation answer worked hworked
          | error halt =>
              obtain ⟨worked, hworked, rfl⟩ := Operation.run_memory_of_error hrun
              exact .stopped operation halt worked hworked

theorem serve_cons (machine : Machine Memory) (call : Call) (rest : List Call) :
    machine.serve (call :: rest) =
      ((machine.call call).1 :: ((machine.call call).2.serve rest).1,
        ((machine.call call).2.serve rest).2) := rfl

theorem serve_keeps_after {P : List Event → Machine Memory → Prop}
    (hturn : ∀ past machine event next, Turn machine event next → P past machine →
      P (past ++ [event]) next)
    (calls : List Call) {past : List Event} {machine : Machine Memory} (h : P past machine) :
    P (past ++ (machine.serve calls).1) (machine.serve calls).2 := by
  induction calls generalizing past machine with
  | nil =>
      simp only [serve, List.append_nil]
      exact h
  | cons call rest ih =>
      have hnext := hturn past machine _ _ (machine.turn_call call) h
      have hrest := ih hnext
      rw [List.append_assoc] at hrest
      exact hrest

theorem serve_keeps {P : List Event → Machine Memory → Prop}
    (hturn : ∀ past machine event next, Turn machine event next → P past machine →
      P (past ++ [event]) next)
    (calls : List Call) {machine : Machine Memory} (h : P [] machine) :
    P (machine.serve calls).1 (machine.serve calls).2 :=
  serve_keeps_after hturn calls h

theorem exists_of_serve_eq {calls : List Call} {machine : Machine Memory} {before rest : List Event}
    {event : Event} (h : (machine.serve calls).1 = before ++ event :: rest) :
    ∃ earlier next, (machine.serve earlier).1 = before ∧
      Turn (machine.serve earlier).2 event next := by
  induction before generalizing calls machine with
  | nil =>
      cases calls with
      | nil => cases h
      | cons call later =>
          rw [serve_cons] at h
          cases h
          exact ⟨[], _, rfl, machine.turn_call call⟩
  | cons first others ih =>
      cases calls with
      | nil => cases h
      | cons call later =>
          rw [serve_cons, List.cons_append, List.cons.injEq] at h
          obtain ⟨rfl, hothers⟩ := h
          obtain ⟨earlier, next, rfl, hturn⟩ := ih hothers
          exact ⟨call :: earlier, next, rfl, hturn⟩

end Machine

end PrizeDraw
