import PrizeDraw.Database.Client
import PrizeDraw.Proofs.Staging

namespace PrizeDraw

namespace Action

variable {σ α β : Type} {x : Action σ α} {f : α → Action σ β} {s : σ}

def Overflows (x : Action σ α) (s : σ) : Prop := (Action.run x s).1 = .error .overflow

def Calm (x : Action σ α) : Prop := ∀ s, ¬Overflows x s

theorem overflows_bind_iff :
    Overflows (x >>= f) s ↔
      Overflows x s ∨ ∃ a t, Action.run x s = (.ok a, t) ∧ Overflows (f a) t := by
  unfold Overflows
  cases hx : Action.run x s with
  | mk outcome t =>
      cases outcome with
      | ok a => simp [run_bind_of_ok hx]
      | error halt => simp [run_bind_of_error hx]

theorem overflows_bind_of_ok {a : α} {t : σ} (h : Action.run x s = (.ok a, t)) :
    Overflows (x >>= f) s ↔ Overflows (f a) t := by
  unfold Overflows
  rw [run_bind_of_ok h]

theorem not_overflows_bind_of_refused {fault : Fault} {t : σ}
    (h : Action.run x s = (.error (.refused fault), t)) : ¬Overflows (x >>= f) s := by
  simp [Overflows, run_bind_of_error h]

theorem overflows_bind_of_overflow {t : σ} (h : Action.run x s = (.error .overflow, t)) :
    Overflows (x >>= f) s := by
  simp [Overflows, run_bind_of_error h]

def looked (fault : Fault) : Option α → Except Halt α
  | some a => .ok a
  | none => .error (.refused fault)

theorem overflows_lookup_bind_iff {found : Option α} {fault : Fault}
    (h : Action.run x s = (looked fault found, s)) :
    Overflows (x >>= f) s ↔ ∃ a, found = some a ∧ Overflows (f a) s := by
  cases found with
  | none => simp [not_overflows_bind_of_refused h]
  | some a => simp [overflows_bind_of_ok h]

theorem calm_pure (a : α) : Calm (pure a : Action σ α) := by
  intro s h
  cases h

theorem calm_refuse (fault : Fault) : Calm (Action.refuse fault : Action σ α) := by
  intro s h
  cases h

theorem calm_ofExcept (outcome : Except Fault α) : Calm (ofExcept outcome : Action σ α) := by
  cases outcome with
  | ok a => exact calm_pure a
  | error fault => exact calm_refuse fault

theorem calm_bind (hx : Calm x) (hf : ∀ a, Calm (f a)) : Calm (x >>= f) := by
  intro s h
  obtain h | ⟨a, t, -, h⟩ := overflows_bind_iff.1 h
  · exact hx s h
  · exact hf a t h

theorem overflows_bind_iff_of_calm (hf : ∀ a, Calm (f a)) :
    Overflows (x >>= f) s ↔ Overflows x s := by
  rw [overflows_bind_iff, or_iff_left]
  rintro ⟨a, t, -, h⟩
  exact hf a t h

end Action

namespace Machine

variable {σ α : Type}

theorem overflows_onStore_iff {x : Action σ α} {machine : Machine σ} :
    Action.Overflows (onStore x) machine ↔ Action.Overflows x machine.store := Iff.rfl

theorem overflows_onStore_bind_iff {β : Type} {x : Action σ α} {f : α → Action (Machine σ) β}
    {machine : Machine σ} (hf : ∀ a, Action.Calm (f a)) :
    Action.Overflows (onStore x >>= f) machine ↔ Action.Overflows x machine.store :=
  (Action.overflows_bind_iff_of_calm hf).trans overflows_onStore_iff

theorem calm_onStore {x : Action σ α} (h : Action.Calm x) : Action.Calm (onStore x) :=
  fun machine => h machine.store

theorem calm_draw (sample : Generator → Except Fault α × Generator) :
    Action.Calm (draw sample : Action (Machine σ) α) := by
  intro machine h
  unfold Action.Overflows at h
  rw [run_draw] at h
  cases houtcome : (sample machine.generator).1 with
  | ok drawn => rw [houtcome] at h; cases h
  | error fault => rw [houtcome] at h; cases h

theorem calm_serverTime : Action.Calm (serverTime : Action (Machine σ) UInt32) := by
  intro machine h
  cases h

theorem calm_drawWeighted (pool : List Entry) (rolls : UInt8) :
    Action.Calm (drawWeighted pool rolls : Action (Machine σ) (List Entry)) := by
  unfold drawWeighted
  split
  · exact Action.calm_pure []
  · exact calm_draw _

end Machine

namespace Command

def Calm {α : Type} : Command α → Prop
  | .adjustBalance _ _ _ | .addPurchase _ _ _ => False
  | _ => True

end Command

class Store.Calm (σ : Type) [Store σ] : Prop where
  start : Action.Calm (Store.start : Action σ Unit)
  perform {α : Type} (asked : Command α) (h : asked.Calm) :
    Action.Calm (Store.perform asked : Action σ α)

namespace Records

theorem step_ne_overflow {α : Type} {asked : Command α} (h : asked.Calm) (records : Records) :
    records.step asked ≠ .error .overflow := by
  intro hstep
  have hread {β : Type} (outcome : Except StoreFault β) :
      step.read records outcome ≠ .error .overflow := by
    cases outcome <;> simp [step.read, step.stop]
  have hwrite (table : WriteTable) (changed : Records) :
      step.write records table changed ≠ .error .overflow := by
    unfold step.write
    split <;> simp [step.stop]
  cases asked with
  | adjustBalance player balance delta => exact h
  | addPurchase character item count => exact h
  | balance player balance => exact hread _ hstep
  | pendingBuffer character => exact hread _ hstep
  | deleteStep gacha character => exact hwrite _ _ hstep
  | insertStep gacha character step => exact hwrite _ _ hstep
  | insertDealt gacha character entry => exact hwrite _ _ hstep
  | deleteDealt gacha character => exact hwrite _ _ hstep
  | setPendingBuffer character buffer =>
      simp only [step] at hstep
      split at hstep <;> simp [step.stop] at hstep
  | _ => cases hstep

instance : Store.Calm Records where
  start := fun records h => by cases h
  perform asked h records hoverflow := by
    unfold Action.Overflows at hoverflow
    rw [run_perform] at hoverflow
    split at hoverflow
    · cases hoverflow
    · rename_i halt heq
      cases hoverflow
      exact step_ne_overflow h records heq

end Records

namespace Memory

instance : Store.Calm Memory where
  start := fun memory h => by cases h
  perform asked h memory hoverflow := by
    obtain ⟨records, staged⟩ := memory
    cases staged with
    | none => cases hoverflow
    | some staged =>
        have hstep := Records.step_ne_overflow h staged
        unfold Action.Overflows at hoverflow
        cases asked with
        | commit => cases hoverflow
        | rollback => cases hoverflow
        | _ =>
            simp only [Action.run, ExceptT.run, Store.perform, Memory.perform] at hoverflow
            split at hoverflow
            · rename_i halt heq
              cases hoverflow
              exact hstep heq
            · cases hoverflow

end Memory

namespace Client

variable {δ : Type} {α : Type}

theorem calm_lift (run : Client δ → Except StoreFault α × Client δ) :
    Action.Calm (lift run) := by
  intro client h
  have houtcome : (run client).1.mapError (fun fault => Halt.refused (.store fault)) =
      .error .overflow := h
  cases hrun : (run client).1 with
  | ok answer => rw [hrun] at houtcome; cases houtcome
  | error fault => rw [hrun] at houtcome; cases houtcome

variable [Database δ]

theorem calm_execute (statement : Statement) :
    Action.Calm (execute statement : Action (Client δ) Unit) :=
  Action.calm_bind (calm_lift _) fun _ => Action.calm_pure ()

theorem calm_all (decode : Row → Except StoreFault α) (statement : Statement) :
    Action.Calm (all decode statement : Action (Client δ) (List α)) :=
  Action.calm_bind (calm_lift _) fun _ => Action.calm_ofExcept _

theorem calm_firstRow? (decode : Row → Except StoreFault α) (statement : Statement) :
    Action.Calm (firstRow? decode statement : Action (Client δ) (Option α)) := by
  refine Action.calm_bind (calm_lift _) fun answer => ?_
  split
  · exact Action.calm_pure none
  · exact Action.calm_bind (Action.calm_ofExcept _) fun _ => Action.calm_pure _

theorem calm_ownedRow (scope : BalanceScope) (owner : UInt32)
    (decode : Row → Except StoreFault α) (statement : Statement) :
    Action.Calm (ownedRow scope owner decode statement : Action (Client δ) α) := by
  refine Action.calm_bind (calm_firstRow? decode statement) fun found => ?_
  cases found with
  | some value => exact Action.calm_pure value
  | none => exact Action.calm_refuse _

theorem calm_perform (asked : Command α) :
    Action.Calm (Client.perform asked : Action (Client δ) α) := by
  cases asked with
  | lockScope character gacha => exact calm_execute _
  | lockCharacter character => exact calm_execute _
  | commit => exact calm_lift _
  | rollback => exact calm_lift _
  | gacha id => exact calm_firstRow? _ _
  | gachas => exact calm_all _ _
  | entries gacha => exact calm_all _ _
  | entryByType gacha entryType => exact calm_firstRow? _ _
  | randomPool gacha => exact calm_all _ _
  | rewardItems entry => exact calm_all _ _
  | trade id => exact calm_firstRow? _ _
  | balance player balance => exact calm_ownedRow _ _ _ _
  | adjustBalance player balance delta => exact calm_ownedRow _ _ _ _
  | pendingBuffer character => exact calm_ownedRow _ _ _ _
  | setPendingBuffer character buffer =>
      refine Action.calm_bind (calm_lift _) fun answer => ?_
      split
      · exact Action.calm_refuse _
      · exact Action.calm_pure ()
  | step gacha character =>
      refine Action.calm_bind (calm_firstRow? _ _) fun stored => ?_
      cases stored with
      | none => exact Action.calm_pure none
      | some step => exact Action.calm_bind (Action.calm_ofExcept _) fun _ => Action.calm_pure _
  | deleteStep gacha character => exact calm_execute _
  | insertStep gacha character step => exact calm_execute _
  | dealtEntries gacha character =>
      exact Action.calm_bind (calm_all _ _) fun _ => Action.calm_ofExcept _
  | insertDealt gacha character entry => exact calm_execute _
  | deleteDealt gacha character => exact calm_execute _
  | addPurchase character item count => exact calm_execute _
  | purchaseCount character item =>
      exact Action.calm_bind (calm_firstRow? _ _) fun _ => Action.calm_ofExcept _

instance : Store.Calm (Client δ) where
  start := calm_lift _
  perform asked _ := calm_perform asked

end Client

section

variable {σ : Type} [Store σ] [Store.Calm σ]

namespace Play

theorem calm_lock (player : Player) (gacha : GachaId) :
    Action.Calm (lock player gacha : Action σ Unit) :=
  Action.calm_bind (Store.Calm.perform _ trivial) fun _ => Store.Calm.perform _ trivial

theorem calm_rewards (fetched : Fetched) (entry : EntryId) :
    Action.Calm (rewards fetched entry : Action σ _) := by
  unfold rewards
  split
  · exact Action.calm_pure _
  · exact Action.calm_bind (Store.Calm.perform _ trivial) fun _ => Action.calm_pure _

theorem calm_collect {mark : Entry → Action σ Unit}
    (hmark : ∀ entry, Action.Calm (mark entry)) (rarity : Entry → UInt8) (fetched : Fetched)
    (drawn : List Entry) : Action.Calm (collect mark rarity fetched drawn) := by
  induction drawn generalizing fetched with
  | nil => exact Action.calm_pure []
  | cons entry rest ih =>
      exact Action.calm_bind (hmark entry) fun _ =>
        Action.calm_bind (calm_rewards fetched entry.id) fun answer =>
          Action.calm_bind (ih answer.2) fun _ => Action.calm_pure _

end Play

namespace Inventory

theorem calm_load (character : CharacterId) :
    Action.Calm (load character : Action σ Pending) :=
  Action.calm_bind (Store.Calm.perform _ trivial) fun _ => Action.calm_ofExcept _

theorem calm_append (character : CharacterId) (items : List RewardItem) :
    Action.Calm (append character items : Action σ Pending) :=
  Action.calm_bind (calm_load character) fun _ =>
    Action.calm_bind (Action.calm_ofExcept _) fun _ =>
      Action.calm_bind (Store.Calm.perform _ trivial) fun _ => Action.calm_pure _

theorem calm_drain (character : CharacterId) (freeze : Bool) :
    Action.Calm (drain character freeze : Action σ Drained) := by
  refine Action.calm_bind (calm_load character) fun pending => ?_
  cases freeze with
  | true => exact Action.calm_pure _
  | false => exact Action.calm_bind (Store.Calm.perform _ trivial) fun _ => Action.calm_pure _

end Inventory

namespace Catalog

theorem calm_guaranteedItems (gacha : GachaId) (entryType : UInt8) :
    Action.Calm (guaranteedItems gacha entryType : Action σ _) := by
  refine Action.calm_bind (Store.Calm.perform _ trivial) fun found => ?_
  cases found with
  | none => exact Action.calm_pure []
  | some entry => exact Store.Calm.perform _ trivial

theorem calm_listEntries (entries : List Entry) :
    Action.Calm (listEntries entries : Action σ _) := by
  induction entries with
  | nil => exact Action.calm_pure []
  | cons entry rest ih =>
      unfold listEntries
      split
      · exact ih
      · exact Action.calm_bind (Store.Calm.perform _ trivial) fun _ =>
          Action.calm_bind ih fun _ => Action.calm_pure _

theorem calm_listGachas (hr gr : UInt32) (gachas : List Gacha) :
    Action.Calm (listGachas hr gr gachas : Action σ _) := by
  induction gachas with
  | nil => exact Action.calm_pure []
  | cons gacha rest ih =>
      unfold listGachas
      split
      · exact Action.calm_bind (Store.Calm.perform _ trivial) fun entries =>
          Action.calm_bind (calm_listEntries entries) fun _ =>
            Action.calm_bind ih fun _ => Action.calm_pure _
      · exact ih

theorem calm_listing (hr gr : UInt32) : Action.Calm (listing hr gr : Action σ _) :=
  Action.calm_bind (Store.Calm.perform _ trivial) fun gachas => calm_listGachas hr gr gachas

end Catalog

namespace Steps

theorem calm_current (gacha : GachaId) (character : CharacterId) :
    Action.Calm (current gacha character : Action σ UInt8) := by
  refine Action.calm_bind (Store.Calm.perform _ trivial) fun step =>
    Action.calm_bind (Store.Calm.perform _ trivial) fun entry => ?_
  split
  · exact Action.calm_pure _
  · exact Action.calm_bind (Store.Calm.perform _ trivial) fun _ => Action.calm_pure _

theorem calm_advance (gacha : GachaId) (character : CharacterId) (played : UInt8) :
    Action.Calm (advance gacha character played : Action σ UInt8) :=
  Action.calm_bind (Store.Calm.perform _ trivial) fun _ =>
    Action.calm_bind (Store.Calm.perform _ trivial) fun _ => Action.calm_pure _

end Steps

namespace Play

theorem calm_award (player : Player) (won : List DrawnItem) :
    Action.Calm (award player won : Action σ Unit) :=
  Action.calm_bind (Inventory.calm_append _ _) fun _ => Action.calm_pure ()

theorem calm_collectDrawn (drawn : List Entry) :
    Action.Calm (collectDrawn drawn : Action σ _) :=
  calm_collect (fun _ => Action.calm_pure ()) _ _ drawn

theorem calm_collectDealt (player : Player) (gacha : GachaId) (drawn : List Entry) :
    Action.Calm (collectDealt player gacha drawn : Action σ _) :=
  calm_collect (fun entry =>
    Store.Calm.perform (.insertDealt gacha player.character entry.id) trivial) _ _ drawn

theorem calm_closeNormal (player : Player) (debit : Option Debit) (drawn : List Entry) :
    Action.Calm (closeNormal player debit drawn : Action σ NormalPlay) :=
  Action.calm_bind (calm_collectDrawn drawn) fun _ =>
    Action.calm_bind (calm_award _ _) fun _ => Action.calm_pure _

theorem calm_closeStepup (player : Player) (gacha : GachaId) (step nextStep : UInt8)
    (drawn : List Entry) :
    Action.Calm (closeStepup player gacha step nextStep drawn : Action σ StepupPlay) :=
  Action.calm_bind (calm_collectDrawn drawn) fun _ =>
    Action.calm_bind (Catalog.calm_guaranteedItems _ _) fun _ =>
      Action.calm_bind (calm_award _ _) fun _ => Action.calm_pure _

theorem calm_closeBox (player : Player) (gacha : GachaId) (drawn : List Entry) :
    Action.Calm (closeBox player gacha drawn : Action σ BoxPlay) :=
  Action.calm_bind (calm_collectDealt player gacha drawn) fun _ =>
    Action.calm_bind (calm_award _ _) fun _ => Action.calm_pure _

end Play

namespace Ledger

theorem calm_points (player : Player) : Action.Calm (points player : Action σ Points) :=
  Action.calm_bind (Store.Calm.perform _ trivial) fun _ =>
    Action.calm_bind (Store.Calm.perform _ trivial) fun _ =>
      Action.calm_bind (Store.Calm.perform _ trivial) fun _ => Action.calm_pure _

end Ledger

namespace BoxDeal

theorem calm_status (gacha : GachaId) (character : CharacterId) :
    Action.Calm (status gacha character : Action σ (List BoxStatus)) :=
  Action.calm_bind (Store.Calm.perform _ trivial) fun _ => Action.calm_pure _

end BoxDeal

namespace Machine

theorem calm_transaction {α : Type} {body : Action (Machine σ) α} (h : Action.Calm body) :
    Action.Calm (transaction body) := by
  intro machine
  have hwhole : Action.Calm (onStore Store.start >>= fun _ => body >>= fun answer =>
      onStore (Store.perform .commit) >>= fun _ => pure answer) :=
    Action.calm_bind (calm_onStore Store.Calm.start) fun _ =>
      Action.calm_bind h fun _ =>
        Action.calm_bind (calm_onStore (Store.Calm.perform _ trivial)) fun _ => Action.calm_pure _
  unfold Action.Overflows
  rw [run_transaction]
  exact hwhole machine

end Machine

namespace Operation

variable {α : Type}

def Calm : Operation α → Prop
  | .boxStatus _ _ | .resetBox _ _ | .stepStatus _ _ | .receive _ _ | .points _
  | .purchaseCount _ _ | .listing _ _ => True
  | _ => False

theorem calm_body {operation : Operation α} (h : operation.Calm) :
    Action.Calm (operation.body : Action (Machine σ) α) := by
  cases operation with
  | boxStatus player gacha => exact Machine.calm_onStore (BoxDeal.calm_status _ _)
  | resetBox player gacha =>
      refine Action.calm_bind (Machine.calm_onStore (Play.calm_lock player gacha)) fun _ => ?_
      exact Machine.calm_onStore (Store.Calm.perform _ trivial)
  | stepStatus player gacha =>
      refine Action.calm_bind (Machine.calm_onStore (Play.calm_lock player gacha)) fun _ => ?_
      refine Action.calm_bind (Machine.calm_onStore (Steps.calm_current _ _)) fun step => ?_
      exact Action.calm_bind Machine.calm_serverTime fun _ => Action.calm_pure _
  | receive player freeze => exact Machine.calm_onStore (Inventory.calm_drain _ _)
  | points player => exact Machine.calm_onStore (Ledger.calm_points player)
  | purchaseCount player item => exact Machine.calm_onStore (Store.Calm.perform _ trivial)
  | listing hr gr => exact Machine.calm_onStore (Catalog.calm_listing hr gr)
  | _ => exact h.elim

theorem calm_perform {operation : Operation α} (h : operation.Calm) :
    Action.Calm (operation.perform : Action (Machine σ) α) := by
  rw [perform_eq]
  exact Machine.calm_transaction (calm_body h)

end Operation

end

end PrizeDraw
