import PrizeDraw.Proofs.Plays
import PrizeDraw.Proofs.Units

namespace PrizeDraw

def Fault.isDraw : Fault → Bool
  | .emptyPool | .insufficientPool _ _ => true
  | _ => false

namespace Outcome

def DrawFree {α : Type} (outcome : Except Halt α) : Prop :=
  ∀ fault, outcome = .error (.refused fault) → fault.isDraw = false

namespace DrawFree

variable {α β : Type}

theorem ok (a : α) : DrawFree (.ok a) := fun _ h => by cases h

theorem overflow : DrawFree (.error .overflow : Except Halt α) := fun _ h => by cases h

theorem refused {fault : Fault} (h : fault.isDraw = false) :
    DrawFree (.error (.refused fault) : Except Halt α) := by
  intro other hother
  cases hother
  exact h

theorem refusing (outcome : Except StoreFault α) : DrawFree (Records.refusing outcome) := by
  cases outcome with
  | ok a => exact ok a
  | error fault => exact refused rfl

theorem bind {x : Except Halt α} {f : α → Except Halt β} (hx : DrawFree x)
    (hf : ∀ a, DrawFree (f a)) : DrawFree (x >>= f) := by
  cases x with
  | ok a => exact hf a
  | error halt =>
      intro fault hrefused
      cases hrefused
      exact hx fault rfl

theorem answered (records : Records) (writes : List Write) (asked : Command α) :
    DrawFree (records.answered writes asked) := by
  cases asked with
  | balance player balance => exact refusing _
  | adjustBalance player balance delta =>
      refine (refusing _).bind fun _ => (refusing _).bind fun value => ?_
      unfold Records.answered.summed
      split
      · exact ok _
      · exact overflow
  | pendingBuffer character => exact refusing _
  | setPendingBuffer character buffer =>
      exact (refusing _).bind fun _ => (refusing _).bind fun _ => ok ()
  | deleteStep gacha character => exact refusing _
  | insertStep gacha character step => exact refusing _
  | insertDealt gacha character entry => exact refusing _
  | deleteDealt gacha character => exact refusing _
  | addPurchase character item count =>
      refine (refusing _).bind fun _ => ?_
      unfold Records.answered.counted
      split
      · exact ok _
      · exact overflow
  | _ => exact ok _

end DrawFree

end Outcome

namespace Action

variable {σ α β : Type}

def DrawFree (x : Action σ α) : Prop := ∀ s, Outcome.DrawFree (Action.run x s).1

theorem drawFree_pure (a : α) : DrawFree (pure a : Action σ α) := fun _ => .ok a

theorem drawFree_refuse {fault : Fault} (h : fault.isDraw = false) :
    DrawFree (refuse fault : Action σ α) := fun _ => .refused h

theorem drawFree_ofExcept {outcome : Except Fault α}
    (h : ∀ fault, outcome = .error fault → fault.isDraw = false) :
    DrawFree (ofExcept outcome : Action σ α) := by
  cases outcome with
  | ok a => exact drawFree_pure a
  | error fault => exact drawFree_refuse (h fault rfl)

theorem DrawFree.bind {x : Action σ α} {f : α → Action σ β} (hx : DrawFree x)
    (hf : ∀ a, DrawFree (f a)) : DrawFree (x >>= f) := by
  intro s
  rw [run_bind]
  split
  · rename_i a t hrun
    exact hf a t
  · rename_i halt t hrun
    intro fault hrefused
    cases hrefused
    exact hx s fault (by rw [hrun])

theorem drawFree_perform (asked : Command α) :
    DrawFree (Store.perform asked : Action Records α) := by
  intro records fault hrefused
  rw [Records.run_perform, Records.step_eq] at hrefused
  cases hanswer : records.answered [] asked with
  | ok answer => rw [hanswer] at hrefused; cases hrefused
  | error halt =>
      rw [hanswer] at hrefused
      cases hrefused
      exact Outcome.DrawFree.answered records [] asked fault hanswer

end Action

namespace Pending

theorem isDraw_of_ofStored {buffer : Option Bytes} {fault : Fault}
    (h : ofStored buffer = .error fault) : fault.isDraw = false := by
  rcases buffer with _ | _ | ⟨count, body⟩
  · cases h
  · cases h
  · rw [ofStored, decode] at h
    split at h
    · cases h
    · cases h
      rfl

theorem isDraw_of_prepend {pending : Pending} {items : List RewardItem} {fault : Fault}
    (h : pending.prepend items = .error fault) : fault.isDraw = false := by
  rw [prepend, ofItems] at h
  split at h
  · cases h
  · cases h
    rfl

end Pending

namespace Play

open PrizeDraw.Action

variable (player : Player) (gacha : GachaId)

theorem drawFree_lock : DrawFree (lock player gacha : Action Records Unit) :=
  (drawFree_perform _).bind fun _ => drawFree_perform _

theorem drawFree_payEntryCost (cost : Entry) :
    DrawFree (Ledger.payEntryCost player cost : Action Records (Option Debit)) := by
  unfold Ledger.payEntryCost
  split
  · exact drawFree_pure none
  · refine (DrawFree.bind ?_ fun balance => ?_).bind fun paid => drawFree_pure _
    · unfold Ledger.payer
      split
      · exact drawFree_pure _
      · exact (drawFree_perform _).bind fun _ => drawFree_pure _
    · unfold Ledger.debitBalance
      split
      · exact fun _ => .overflow
      · exact (drawFree_perform _).bind fun _ => drawFree_pure _

theorem drawFree_charge (selector : UInt8) :
    DrawFree (charge player gacha selector : Action Records (Entry × Option Debit)) := by
  have hgacha : DrawFree (Catalog.gacha gacha : Action Records Gacha) := by
    refine (drawFree_perform _).bind fun found => ?_
    cases found with
    | some row => exact drawFree_pure row
    | none => exact drawFree_refuse rfl
  have hcost : DrawFree (Catalog.costEntry gacha selector : Action Records Entry) := by
    refine (drawFree_perform _).bind fun found => ?_
    cases found with
    | some row => exact drawFree_pure row
    | none => exact drawFree_refuse rfl
  refine hgacha.bind fun _ => hcost.bind fun cost => ?_
  exact (drawFree_payEntryCost player cost).bind fun _ => drawFree_pure _

theorem drawFree_openNormal (selector : UInt8) :
    DrawFree (openNormal player gacha selector :
      Action Records (Entry × Option Debit × List Entry)) :=
  (drawFree_lock player gacha).bind fun _ => (drawFree_charge player gacha selector).bind
    fun _ => (drawFree_perform _).bind fun _ => drawFree_pure _

theorem drawFree_openStepup (step : UInt8) :
    DrawFree (openStepup player gacha step : Action Records (Entry × UInt8 × List Entry)) := by
  refine (drawFree_lock player gacha).bind fun _ => ?_
  refine (drawFree_charge player gacha step).bind fun ⟨cost, debit⟩ => ?_
  have hmoved : DrawFree (do
      let next ← Steps.advance gacha player.character step
      let pool ← Store.perform (σ := Records) (.randomPool gacha)
      return (cost, next, pool)) := by
    refine DrawFree.bind ?_ fun _ => (drawFree_perform _).bind fun _ => drawFree_pure _
    exact (drawFree_perform _).bind fun _ => (drawFree_perform _).bind fun _ => drawFree_pure _
  dsimp only
  split
  · exact DrawFree.bind (drawFree_perform _) fun _ => hmoved
  · exact hmoved

theorem drawFree_collectDrawn (drawn : List Entry) :
    DrawFree (collectDrawn drawn : Action Records (List DrawnItem)) := by
  have hcollect (fetched : Fetched) : DrawFree
      (collect (fun _ => pure ()) Entry.rarity fetched drawn : Action Records _) := by
    induction drawn generalizing fetched with
    | nil => exact drawFree_pure []
    | cons entry rest ih =>
        refine (drawFree_pure ()).bind fun _ => DrawFree.bind ?_ fun found =>
          (ih found.2).bind fun _ => drawFree_pure _
        unfold rewards
        split
        · exact drawFree_pure _
        · exact (drawFree_perform _).bind fun _ => drawFree_pure _
  exact hcollect []

theorem drawFree_guaranteedItems (step : UInt8) :
    DrawFree (Catalog.guaranteedItems gacha step : Action Records (List RewardItem)) := by
  refine (drawFree_perform _).bind fun found => ?_
  cases found with
  | some row => exact drawFree_perform _
  | none => exact drawFree_pure []

theorem drawFree_award (won : List DrawnItem) :
    DrawFree (award player won : Action Records Unit) := by
  have hload : DrawFree (Inventory.load player.character : Action Records Pending) :=
    (drawFree_perform _).bind fun _ => drawFree_ofExcept fun _ => Pending.isDraw_of_ofStored
  refine DrawFree.bind (hload.bind fun pending => ?_) fun _ => drawFree_pure ()
  refine (drawFree_ofExcept fun _ => Pending.isDraw_of_prepend).bind fun merged => ?_
  exact (drawFree_perform _).bind fun _ => drawFree_pure _

theorem drawFree_closeNormal (debit : Option Debit) (drawn : List Entry) :
    DrawFree (closeNormal player debit drawn : Action Records NormalPlay) :=
  (drawFree_collectDrawn drawn).bind fun items => (drawFree_award player items).bind
    fun _ => drawFree_pure _

theorem drawFree_closeStepup (step nextStep : UInt8) (drawn : List Entry) :
    DrawFree (closeStepup player gacha step nextStep drawn : Action Records StepupPlay) :=
  (drawFree_collectDrawn drawn).bind fun _ => (drawFree_guaranteedItems gacha step).bind
    fun _ => (drawFree_award player _).bind fun _ => drawFree_pure _

end Play

end PrizeDraw
