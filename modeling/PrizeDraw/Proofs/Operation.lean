import PrizeDraw.Proofs.Reach

namespace PrizeDraw

inductive Operation : Type → Type where
  | playNormal (player : Player) (gacha : GachaId) (selector : UInt8) : Operation NormalPlay
  | playStepup (player : Player) (gacha : GachaId) (step : UInt8) : Operation StepupPlay
  | playBox (player : Player) (gacha : GachaId) (selector : UInt8) : Operation BoxPlay
  | boxStatus (player : Player) (gacha : GachaId) : Operation (List BoxStatus)
  | resetBox (player : Player) (gacha : GachaId) : Operation Unit
  | stepStatus (player : Player) (gacha : GachaId) : Operation StepStatus
  | receive (player : Player) (freeze : Bool) : Operation Drained
  | points (player : Player) : Operation Points
  | usePoints (player : Player) (trial premium : UInt32) : Operation Points
  | buy (player : Player) (trade : TradeId) (lots : UInt16) : Operation Int64
  | sell (player : Player) (trade : TradeId) (units : UInt16) : Operation Int64
  | acquire (player : Player) (purchases : List Purchase) : Operation Nat
  | purchaseCount (player : Player) (item : ShopItemId) : Operation UInt64
  | listing (hr gr : UInt32) : Operation (List GachaListing)
  deriving Repr

namespace Machine

variable {σ α β : Type}

variable [Store σ]

theorem run_transaction (body : Action (Machine σ) α) (machine : Machine σ) :
    Action.run (transaction body) machine =
      let ended := Action.run
        (onStore Store.start >>= fun _ => body >>= fun answer =>
          onStore (Store.perform .commit) >>= fun _ => pure answer) machine
      (ended.1, { ended.2 with store := Store.abandon ended.2.store }) := rfl

theorem transaction_then_serverTime (body : Action (Machine σ) α) (f : α → UInt32 → β) :
    (transaction body >>= fun a => serverTime >>= fun time => pure (f a time)) =
      transaction (body >>= fun a => serverTime >>= fun time => pure (f a time)) := by
  apply Action.ext_run
  intro machine
  -- Neither committing nor giving up touches the clock, so it may as well be read before.
  simp only [run_transaction, Action.run_bind]
  cases Action.run (onStore Store.start) machine with
  | mk started opened =>
    cases started with
    | error halt => rfl
    | ok _ =>
      dsimp only
      cases Action.run body opened with
      | mk answered worked =>
        cases answered with
        | error halt => rfl
        | ok answer =>
          simp only [run_onStore, run_serverTime, Action.run_pure]
          cases Action.run (Store.perform .commit) worked.store with
          | mk committed store => cases committed <;> rfl

end Machine

namespace Operation

variable {σ α : Type} [Store σ]

def perform : Operation α → Action (Machine σ) α
  | .playNormal player gacha selector => Machine.playNormal player gacha selector
  | .playStepup player gacha step => Machine.playStepup player gacha step
  | .playBox player gacha selector => Machine.playBox player gacha selector
  | .boxStatus player gacha => Machine.boxStatus player gacha
  | .resetBox player gacha => Machine.resetBox player gacha
  | .stepStatus player gacha => Machine.stepStatus player gacha
  | .receive player freeze => Machine.receive player freeze
  | .points player => Machine.points player
  | .usePoints player trial premium => Machine.usePoints player trial premium
  | .buy player trade lots => Machine.buy player trade lots
  | .sell player trade units => Machine.sell player trade units
  | .acquire player purchases => Machine.acquire player purchases
  | .purchaseCount player item => Machine.purchaseCount player item
  | .listing hr gr => Machine.listing hr gr

def body : Operation α → Action (Machine σ) α
  | .playNormal player gacha selector => do
      let (cost, debit, pool) ← Machine.onStore (Play.openNormal player gacha selector)
      let drawn ← Machine.drawWeighted pool cost.rolls
      Machine.onStore (Play.closeNormal player debit drawn)
  | .playStepup player gacha step => do
      let (cost, nextStep, pool) ← Machine.onStore (Play.openStepup player gacha step)
      let drawn ← Machine.drawWeighted pool cost.rolls
      Machine.onStore (Play.closeStepup player gacha step nextStep drawn)
  | .playBox player gacha selector => do
      let (cost, pool) ← Machine.onStore (Play.openBox player gacha selector)
      let drawn ← Machine.drawUniform pool cost.rolls
      Machine.onStore (Play.closeBox player gacha drawn)
  | .boxStatus player gacha => Machine.onStore (BoxDeal.status gacha player.character)
  | .resetBox player gacha => do
      Machine.onStore (Play.lock player gacha)
      Machine.onStore (BoxDeal.reset gacha player.character)
  | .stepStatus player gacha => do
      Machine.onStore (Play.lock player gacha)
      let step ← Machine.onStore (Steps.current gacha player.character)
      return { step, serverTime := ← Machine.serverTime }
  | .receive player freeze => Machine.onStore (Inventory.drain player.character freeze)
  | .points player => Machine.onStore (Ledger.points player)
  | .usePoints player trial premium => do
      let _ ← Machine.onStore
        (Ledger.debitBalance player .gachaTrial (Int64.ofNat trial.toNat))
      let _ ← Machine.onStore
        (Ledger.debitBalance player .gachaPremium (Int64.ofNat premium.toNat))
      Machine.onStore (Ledger.points player)
  | .buy player trade lots => Machine.onStore (Exchange.buy player trade lots)
  | .sell player trade units => Machine.onStore (Exchange.sell player trade units)
  | .acquire player purchases =>
      Machine.onStore (Exchange.record player.character purchases)
  | .purchaseCount player item =>
      Machine.onStore (Store.perform (.purchaseCount player.character item))
  | .listing hr gr => Machine.onStore (Catalog.listing hr gr)

theorem perform_eq (operation : Operation α) :
    operation.perform (σ := σ) = Machine.transaction operation.body := by
  cases operation with
  | stepStatus player gacha =>
      let found : Action (Machine σ) UInt8 := do
        Machine.onStore (Play.lock player gacha)
        Machine.onStore (Steps.current gacha player.character)
      refine (Machine.transaction_then_serverTime found StepStatus.mk).trans ?_
      simp only [found, body, bind_assoc]
  | _ => rfl

def reach : Operation α → Reach
  | .playNormal player _ _ => { player, tables := [.balances, .inventory], draws := true }
  | .playStepup player gacha _ =>
      { player, gacha, tables := [.balances, .stepup, .inventory], draws := true }
  | .playBox player gacha _ =>
      { player, gacha, tables := [.balances, .box, .inventory], draws := true }
  | .resetBox player gacha => { player, gacha, tables := [.box] }
  | .stepStatus player gacha => { player, gacha, tables := [.stepup], clock := true }
  | .receive player freeze => { player, tables := if freeze then [] else [.inventory] }
  | .usePoints player _ _ | .buy player _ _ | .sell player _ _ =>
      { player, tables := [.balances] }
  | .acquire player _ => { player, tables := [.shopPurchases] }
  | .boxStatus player _ | .points player | .purchaseCount player _ => { player }
  | .listing _ _ => {}

def scope? : Operation α → Option (Player × GachaId)
  | .playNormal player gacha _ | .playStepup player gacha _ | .playBox player gacha _ =>
      some (player, gacha)
  | .resetBox player gacha | .stepStatus player gacha => some (player, gacha)
  | _ => none

theorem holds {operation : Operation α} {player : Player} {gacha : GachaId}
    (h : operation.scope? = some (player, gacha)) :
    operation.reach.player = player ∧
      Holds operation.reach gacha fun σ _ => operation.body (σ := σ) := by
  cases operation with
  | playNormal player gacha selector =>
      cases h
      refine ⟨rfl, (Holds.openNormal gacha selector (by simp [reach])).bind fun opened => ?_⟩
      exact Spoken.bind (Spoken.drawWeighted _ _ rfl) fun drawn =>
        Spoken.closeNormal _ drawn (by simp [reach])
  | playStepup player gacha step =>
      cases h
      refine ⟨rfl, (Holds.openStepup step (by simp [reach]) (by simp [reach])).bind
        fun opened => ?_⟩
      exact Spoken.bind (Spoken.drawWeighted _ _ rfl) fun drawn =>
        Spoken.closeStepup step _ drawn (by simp [reach])
  | playBox player gacha selector =>
      cases h
      refine ⟨rfl, (Holds.openBox gacha selector (by simp [reach])).bind fun opened => ?_⟩
      exact Spoken.bind (Spoken.drawUniform _ _ rfl) fun drawn =>
        Spoken.closeBox drawn (by simp [reach]) (by simp [reach])
  | resetBox player gacha =>
      cases h
      exact ⟨rfl, _, Spoken.boxReset (by simp [reach]), fun _ _ => rfl⟩
  | stepStatus player gacha =>
      cases h
      refine ⟨rfl, _, Spoken.bind (Spoken.current (by simp [reach])) fun step => ?_,
        fun _ _ => rfl⟩
      exact Spoken.bind (Spoken.ask .clock rfl) fun time => Spoken.done _
  | _ => cases h

theorem spoken_body (operation : Operation α) :
    Spoken operation.reach.Allows fun σ _ => operation.body (σ := σ) := by
  cases operation with
  | playNormal player gacha selector => exact (holds rfl).2.spoken
  | playStepup player gacha step => exact (holds rfl).2.spoken
  | playBox player gacha selector => exact (holds rfl).2.spoken
  | resetBox player gacha => exact (holds rfl).2.spoken
  | stepStatus player gacha => exact (holds rfl).2.spoken
  | boxStatus player gacha => exact Spoken.boxStatus gacha
  | receive player freeze =>
      have inventory : freeze = false → .inventory ∈ (receive player freeze).reach.tables := by
        rintro rfl
        simp [reach]
      exact Spoken.drain freeze inventory
  | points player => exact Spoken.points fun _ => rfl
  | usePoints player trial premium =>
      have balances : .balances ∈ (usePoints player trial premium).reach.tables := by
        simp [reach]
      refine Spoken.bind (Spoken.debitBalance _ _ fun _ => ⟨balances, rfl⟩) fun _ => ?_
      refine Spoken.bind (Spoken.debitBalance _ _ fun _ => ⟨balances, rfl⟩) fun _ => ?_
      exact Spoken.points fun _ => rfl
  | buy player trade lots =>
      have balances : .balances ∈ (buy player trade lots).reach.tables := by simp [reach]
      exact Spoken.buy trade lots trivial fun _ => ⟨balances, rfl⟩
  | sell player trade units =>
      have balances : .balances ∈ (sell player trade units).reach.tables := by simp [reach]
      exact Spoken.sell trade units trivial fun _ => ⟨balances, rfl⟩
  | acquire player purchases =>
      have shop : .shopPurchases ∈ (acquire player purchases).reach.tables := by simp [reach]
      exact Spoken.record purchases shop
  | purchaseCount player item => exact Spoken.perform _ rfl
  | listing hr gr => exact Spoken.listing hr gr

end Operation

end PrizeDraw
