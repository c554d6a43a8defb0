import PrizeDraw.Proofs.Edits
import PrizeDraw.Proofs.History

namespace PrizeDraw

namespace Marks

variable {α : Type*}

def chosen : List Bool → List α → List α
  | true :: marks, a :: rest => a :: chosen marks rest
  | false :: marks, _ :: rest => chosen marks rest
  | _, _ => []

def others : List Bool → List α → List α
  | [], rest => rest
  | _ :: _, [] => []
  | true :: marks, _ :: rest => others marks rest
  | false :: marks, a :: rest => a :: others marks rest

@[simp] theorem others_nil (marks : List Bool) : others marks ([] : List α) = [] := by
  cases marks <;> rfl

@[simp] theorem others_no_marks (rest : List α) : others [] rest = rest := by
  cases rest <;> rfl

end Marks

namespace Records

theorem Edit.eq_of_no_tables {reach : Reach} {records changed : Records}
    (h : Edit reach records changed) (htables : reach.tables = []) : changed = records := by
  cases h with
  | none => rfl
  | _ => simp_all

end Records

namespace Spoken

variable {α : Type} {reach : Reach}

theorem unchanged {body : ∀ (σ : Type) [Store σ], Action (Machine σ) α}
    (h : Spoken reach.Allows body) (htables : reach.tables = []) (hdraws : reach.draws = false)
    (machine : Machine Records) : (Action.run (body Records) machine).2 = machine := by
  apply h.keeps (P := fun reached => reached = machine) _ rfl
  rintro β query hallowed reached rfl
  cases query with
  | command asked =>
      have hsame := (Records.edit_perform hallowed reached.store).eq_of_no_tables htables
      rw [Query.put, Machine.run_onStore, hsame]
  | weighted pool rolls => simp [Reach.Allows, hdraws] at hallowed
  | uniform pool rolls => simp [Reach.Allows, hdraws] at hallowed
  | clock => rfl

end Spoken

namespace Operation

variable {α : Type}

def isRead : Operation α → Bool
  | .boxStatus _ _ | .points _ | .purchaseCount _ _ | .listing _ _ => true
  | .receive _ freeze => freeze
  | _ => false

theorem reach_of_isRead {operation : Operation α} (h : operation.isRead = true) :
    operation.reach.tables = [] ∧ operation.reach.draws = false := by
  cases operation with
  | receive player freeze =>
      obtain rfl : freeze = true := h
      exact ⟨rfl, rfl⟩
  | boxStatus player gacha => exact ⟨rfl, rfl⟩
  | points player => exact ⟨rfl, rfl⟩
  | purchaseCount player item => exact ⟨rfl, rfl⟩
  | listing hr gr => exact ⟨rfl, rfl⟩
  | _ => cases h

theorem run_read {operation : Operation α} (h : operation.isRead = true)
    (machine : Machine Memory) :
    (Action.run operation.perform machine).2 =
      { machine with store := { records := machine.store.records } } := by
  obtain ⟨htables, hdraws⟩ := reach_of_isRead h
  have hbody := operation.spoken_body.unchanged htables hdraws machine.plain
  rw [run_memory]
  split
  · rename_i answer worked heq
    obtain rfl : worked = machine.plain := by simpa [heq] using hbody
    rfl
  · rename_i halt worked heq
    obtain rfl : worked = machine.plain := by simpa [heq] using hbody
    rfl

end Operation

def Call.isRead : Call → Bool
  | .ask operation => operation.isRead
  | .stock _ => false

namespace Machine

open Marks (chosen others)

theorem serve_others {R : Machine Memory → Machine Memory → Prop} {S : Event → Event → Prop}
    (marks : List Bool) (calls : List Call)
    (hchosen : ∀ call ∈ chosen marks calls, ∀ left right, R left right →
      R (left.call call).2 right)
    (hothers : ∀ call ∈ others marks calls, ∀ left right, R left right →
      S (left.call call).1 (right.call call).1 ∧ R (left.call call).2 (right.call call).2)
    {left right : Machine Memory} (h : R left right) :
    List.Forall₂ S (others marks (left.serve calls).1) (right.serve (others marks calls)).1 ∧
      R (left.serve calls).2 (right.serve (others marks calls)).2 := by
  induction calls generalizing marks left right with
  | nil => simpa [serve] using h
  | cons call rest ih =>
      rcases marks with _ | ⟨_ | _, marks⟩
      · have hcall := hothers call (by simp) left right h
        have hrest := ih [] (by simp [chosen])
          (fun next hnext => hothers next (by simp_all)) hcall.2
        simp only [Marks.others_no_marks, serve_cons] at hrest ⊢
        exact ⟨.cons hcall.1 hrest.1, hrest.2⟩
      · have hcall := hothers call List.mem_cons_self left right h
        have hrest := ih marks hchosen
          (fun next hnext => hothers next (List.mem_cons_of_mem _ hnext)) hcall.2
        exact ⟨.cons hcall.1 hrest.1, hrest.2⟩
      · have hcall := hchosen call List.mem_cons_self left right h
        exact ih marks (fun next hnext => hchosen next (List.mem_cons_of_mem _ hnext)) hothers
          hcall

theorem call_eq_of_plain_eq {left right : Machine Memory} (h : left.plain = right.plain)
    (call : Call) :
    (left.call call).1 = (right.call call).1 ∧
      (left.call call).2.plain = (right.call call).2.plain := by
  cases call with
  | ask operation =>
      have hrun : Action.run operation.perform left = Action.run operation.perform right := by
        rw [Operation.run_memory, Operation.run_memory, h]
      simp only [call, hrun, and_self]
  | stock catalog =>
      obtain ⟨⟨records, staged⟩, generator, clock⟩ := left
      cases h
      exact ⟨rfl, rfl⟩

theorem reads_unnoticed (machine : Machine Memory) :
    (∀ {α : Type} (operation : Operation α), operation.isRead = true →
      (Action.run operation.perform machine).2 =
        { machine with store := { records := machine.store.records } }) ∧
    ∀ (marks : List Bool) (calls : List Call),
      (∀ call ∈ chosen marks calls, call.isRead = true) →
        others marks (machine.serve calls).1 = (machine.serve (others marks calls)).1 ∧
          (machine.serve calls).2.plain = (machine.serve (others marks calls)).2.plain := by
  refine ⟨fun operation hread => Operation.run_read hread machine, fun marks calls hreads => ?_⟩
  have hsame : machine.plain = machine.plain := rfl
  have hboth := serve_others (R := fun left right => left.plain = right.plain) (S := Eq)
    marks calls ?_ (fun call _ left right h => call_eq_of_plain_eq h call) hsame
  · rwa [List.forall₂_eq_eq_eq] at hboth
  · intro call hcall left right h
    have hread := hreads call hcall
    cases call with
    | ask operation =>
        have hleft : (left.call (.ask operation)).2 = _ := Operation.run_read hread left
        rw [hleft, ← h]
        rfl
    | stock catalog => cases hread

theorem reads_unnoticed_box :
    let player := Sample.player
    let first : Call := .ask (.playBox player 1 0)
    let looks : List Call :=
      [.ask (.receive player true), .ask (.points { account := 9, character := 9 })]
    let machine := Sample.machine Sample.records
    (∀ call ∈ chosen [false, true, true, false] (first :: looks ++ [first]),
      call.isRead = true) ∧
      others [false, true, true, false] (machine.serve (first :: looks ++ [first])).1 =
        (machine.serve [first, first]).1 ∧
      (machine.serve (first :: looks ++ [first])).2.plain =
        (machine.serve [first, first]).2.plain := by
  intro player first looks machine
  have hreads : ∀ call ∈ chosen [false, true, true, false] (first :: looks ++ [first]),
      call.isRead = true := by
    simp [chosen, looks, Call.isRead, Operation.isRead]
  exact ⟨hreads, (reads_unnoticed machine).2 _ _ hreads⟩

end Machine

end PrizeDraw
