import PrizeDraw.Proofs.Handouts

namespace PrizeDraw

namespace Machine

variable {α β γ : Type} {machine : Machine Records}

theorem drawWeighted_eq {σ : Type} (pool : List Entry) (rolls : UInt8) :
    (drawWeighted pool rolls : Action (Machine σ) (List Entry)) = draw fun g =>
      if rolls = 0 then (.ok [], g)
      else Sampling.weightedByDouble Entry.weight pool rolls.toNat g := by
  unfold drawWeighted
  split
  · rfl
  · rfl

variable {opening : Action Records α} {sample : α → Generator → Except Fault β × Generator}
  {closing : α → β → Action Records γ} {a : α} {opened : Records}

theorem run_of_open_error {halt : Halt}
    (h : Action.run opening machine.store = (.error halt, opened)) :
    Action.run (onStore opening >>= fun a => draw (sample a) >>= fun b => onStore (closing a b))
      machine = (.error halt, { machine with store := opened }) := by
  apply Action.run_bind_of_error
  rw [run_onStore, h]

theorem ends_of_opened (h : Action.run opening machine.store = (.ok a, opened))
    {outcome : Except Halt γ} {worked : Machine Records}
    (hrun : Action.run (onStore opening >>= fun a => draw (sample a) >>= fun b =>
      onStore (closing a b)) machine = (outcome, worked)) :
    worked.generator = (sample a machine.generator).2 ∧
      ∀ fault, (sample a machine.generator).1 = .error fault →
        outcome = .error (.refused fault) := by
  have hopen : Action.run (onStore opening) machine =
      (.ok a, { machine with store := opened }) := by
    rw [run_onStore, h]
  rw [Action.run_bind_of_ok hopen, Action.run_bind, run_draw] at hrun
  cases hsample : (sample a machine.generator).1 with
  | error fault =>
      rw [hsample] at hrun
      obtain ⟨rfl, rfl⟩ := Prod.mk.inj hrun
      refine ⟨rfl, fun other hother => ?_⟩
      cases hother
      rfl
  | ok drawn =>
      rw [hsample] at hrun
      obtain ⟨-, rfl⟩ := Prod.mk.inj hrun
      exact ⟨rfl, nofun⟩

end Machine

namespace Operation

variable {α : Type}

def charged? (records : Records) : Operation α → Option Entry
  | .playNormal player gacha selector =>
      (Action.run (Play.openNormal player gacha selector) records).1.toOption.map fun opened =>
        opened.1
  | .playStepup player gacha step =>
      (Action.run (Play.openStepup player gacha step) records).1.toOption.map fun opened =>
        opened.1
  | .playBox player gacha selector =>
      (Action.run (Play.openBox player gacha selector) records).1.toOption.map fun opened =>
        opened.1
  | _ => none

inductive Draws (operation : Operation α) (records : Records) (pool : List Entry) (g : Generator) :
    Except Halt α → Generator → Prop where
  | undrawn (h : operation.charged? records = none) (halt : Halt) :
      Draws operation records pool g (.error halt) g
  | refused (cost : Entry) (h : operation.charged? records = some cost) (fault : Fault)
      (next : Generator)
      (hsample : operation.sample records pool cost.rolls g = (.error fault, next)) :
      Draws operation records pool g (.error (.refused fault)) next
  | unfinished (cost : Entry) (h : operation.charged? records = some cost) (drawn : List Entry)
      (next : Generator) (hsample : operation.sample records pool cost.rolls g = (.ok drawn, next))
      (halt : Halt) : Draws operation records pool g (.error halt) next
  | handed (cost : Entry) (h : operation.charged? records = some cost) (drawn : List Entry)
      (next : Generator) (hsample : operation.sample records pool cost.rolls g = (.ok drawn, next))
      (answer : α) (hhands : operation.HandsOut records cost drawn answer) :
      Draws operation records pool g (.ok answer) next

def Ends (operation : Operation α) (machine : Machine Records) (gacha : GachaId)
    (outcome : Except Halt α) (next : Generator) : Prop :=
  match operation.charged? machine.store with
  | none => (∃ halt, outcome = .error halt) ∧ next = machine.generator
  | some cost =>
      let sampled := operation.sample machine.store (machine.store.pool gacha) cost.rolls
        machine.generator
      next = sampled.2 ∧ ∀ fault, sampled.1 = .error fault → outcome = .error (.refused fault)

theorem exists_opened {β : Type} {opening : Action Records β} {row : β → Entry}
    {records : Records} {cost : Entry}
    (h : ((Action.run opening records).1.toOption.map row) = some cost) :
    ∃ found opened, Action.run opening records = (.ok found, opened) ∧ row found = cost := by
  cases hopen : Action.run opening records with
  | mk outcome opened =>
      rw [hopen] at h
      cases outcome with
      | error halt => cases h
      | ok found =>
          cases h
          exact ⟨found, opened, rfl, rfl⟩

variable {operation : Operation α} {player : Player} {gacha : GachaId} {selector : UInt8}
  {machine worked : Machine Records} {outcome : Except Halt α}

theorem found_of_charged? (hplay : operation.play? = some (player, gacha, selector))
    {records : Records} {cost : Entry} (h : operation.charged? records = some cost) :
    (records.entriesOf gacha).find? (fun entry => entry.entryType == selector) = some cost := by
  cases operation with
  | playNormal player gacha selector =>
      cases hplay
      obtain ⟨⟨row, debit, pool⟩, opened, hopen, rfl⟩ := exists_opened h
      exact (Play.charges_of_openNormal hopen).found
  | playStepup player gacha step =>
      cases hplay
      obtain ⟨⟨row, nextStep, pool⟩, opened, hopen, rfl⟩ := exists_opened h
      exact (Play.charges_of_openStepup hopen).found
  | playBox player gacha selector =>
      cases hplay
      obtain ⟨⟨row, pool⟩, opened, hopen, rfl⟩ := exists_opened h
      exact (Play.openBox_ok hopen).1
  | _ => cases hplay

theorem ends_of_opening {β : Type} {opening : Action Records β} {row : β → Entry}
    {sample : β → Generator → Except Fault (List Entry) × Generator}
    {closing : β → List Entry → Action Records α}
    (hcharged : operation.charged? machine.store =
      (Action.run opening machine.store).1.toOption.map row)
    (hsample : ∀ found opened, Action.run opening machine.store = (.ok found, opened) →
      sample found =
        operation.sample machine.store (machine.store.pool gacha) (row found).rolls)
    (h : Action.run (Machine.onStore opening >>= fun found =>
      Machine.draw (sample found) >>= fun drawn => Machine.onStore (closing found drawn)) machine =
        (outcome, worked)) : operation.Ends machine gacha outcome worked.generator := by
  unfold Ends
  rw [hcharged]
  cases hopen : Action.run opening machine.store with
  | mk began opened =>
      cases began with
      | error halt =>
          rw [Machine.run_of_open_error hopen] at h
          cases h
          exact ⟨⟨halt, rfl⟩, rfl⟩
      | ok found =>
          have hends := Machine.ends_of_opened hopen h
          rw [hsample found opened hopen] at hends
          exact hends

theorem ends_body (hplay : operation.play? = some (player, gacha, selector))
    (h : Action.run operation.body machine = (outcome, worked)) :
    operation.Ends machine gacha outcome worked.generator := by
  cases operation with
  | playNormal player gacha selector =>
      cases hplay
      have hbody : (playNormal player gacha selector).body (σ := Records) =
          Machine.onStore (Play.openNormal player gacha selector) >>= fun opened =>
            Machine.drawWeighted opened.2.2 opened.1.rolls >>= fun drawn =>
              Machine.onStore (Play.closeNormal player opened.2.1 drawn) := rfl
      simp only [Machine.drawWeighted_eq] at hbody
      rw [hbody] at h
      refine ends_of_opening rfl ?_ h
      rintro ⟨cost, debit, pool⟩ opened hopen
      obtain rfl := Play.openNormal_pool hopen
      rfl
  | playStepup player gacha step =>
      cases hplay
      have hbody : (playStepup player gacha selector).body (σ := Records) =
          Machine.onStore (Play.openStepup player gacha selector) >>= fun opened =>
            Machine.drawWeighted opened.2.2 opened.1.rolls >>= fun drawn =>
              Machine.onStore (Play.closeStepup player gacha selector opened.2.1 drawn) := rfl
      simp only [Machine.drawWeighted_eq] at hbody
      rw [hbody] at h
      refine ends_of_opening rfl ?_ h
      rintro ⟨cost, nextStep, pool⟩ opened hopen
      obtain rfl := Play.openStepup_pool hopen
      rfl
  | playBox player gacha selector =>
      cases hplay
      have hbody : (playBox player gacha selector).body (σ := Records) =
          Machine.onStore (Play.openBox player gacha selector) >>= fun opened =>
            Machine.draw (Sampling.uniform opened.2 opened.1.rolls.toNat) >>= fun drawn =>
              Machine.onStore (Play.closeBox player gacha drawn) := rfl
      rw [hbody] at h
      refine ends_of_opening rfl ?_ h
      rintro ⟨cost, pool⟩ opened hopen
      obtain ⟨-, rfl, -⟩ := Play.openBox_ok hopen
      rfl
  | _ => cases hplay

theorem draws_body (hplay : operation.play? = some (player, gacha, selector))
    (h : Action.run operation.body machine = (outcome, worked)) :
    operation.Draws machine.store (machine.store.pool gacha) machine.generator outcome
      worked.generator := by
  have hends := ends_body hplay h
  unfold Ends at hends
  cases hcharged : operation.charged? machine.store with
  | none =>
      rw [hcharged] at hends
      obtain ⟨⟨halt, rfl⟩, hgenerator⟩ := hends
      rw [hgenerator]
      exact .undrawn hcharged halt
  | some cost =>
      rw [hcharged] at hends
      obtain ⟨hgenerator, hrefused⟩ := hends
      cases hsample : operation.sample machine.store (machine.store.pool gacha) cost.rolls
          machine.generator with
      | mk sampled next =>
      rw [hsample] at hgenerator hrefused
      obtain rfl : worked.generator = next := hgenerator
      cases sampled with
      | error fault =>
          obtain rfl := hrefused fault rfl
          exact .refused cost hcharged fault _ hsample
      | ok drawn =>
          cases outcome with
          | error halt => exact .unfinished cost hcharged drawn _ hsample halt
          | ok answer =>
              obtain ⟨row, taken, ⟨hfound, htaken⟩, hhands⟩ := handed_body hplay h
              obtain rfl : cost = row :=
                Option.some.inj ((found_of_charged? hplay hcharged).symm.trans hfound)
              rw [hsample] at htaken
              cases htaken
              exact .handed cost hcharged drawn _ hsample answer hhands

theorem draws_from_pool (hplay : operation.play? = some (player, gacha, selector))
    (machine : Machine Memory) {pool : List Entry} (hkeyed : machine.store.records.Keyed)
    (hpool : machine.store.records.Arranged gacha pool) :
    operation.Draws machine.store.records pool machine.generator
      (Action.run operation.perform machine).1
      (Action.run operation.perform machine).2.generator := by
  obtain rfl := hkeyed.arranged_iff.1 hpool
  cases hrun : Action.run operation.body machine.plain with
  | mk outcome worked =>
      have hdraws := draws_body hplay hrun
      rw [run_memory, hrun]
      cases outcome <;> exact hdraws

end Operation

end PrizeDraw
