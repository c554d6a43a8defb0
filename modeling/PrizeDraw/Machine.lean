import PrizeDraw.BoxDeal
import PrizeDraw.Clock
import PrizeDraw.Exchange
import PrizeDraw.Play
import PrizeDraw.Sampling

namespace PrizeDraw

structure Machine (σ : Type) where
  store : σ
  generator : Generator
  clock : Clock := {}

structure StepStatus where
  step : UInt8
  serverTime : UInt32
  deriving DecidableEq, Repr, Inhabited

namespace Machine

variable {σ α : Type}

def onStore (action : Action σ α) : Action (Machine σ) α := fun machine =>
  let (outcome, store) := action.run machine.store
  (outcome, { machine with store })

def draw (sample : Generator → Except Fault α × Generator) : Action (Machine σ) α :=
  fun machine =>
    let (outcome, generator) := sample machine.generator
    (outcome.mapError Halt.refused, { machine with generator })

def drawWeighted (pool : List Entry) (rolls : UInt8) : Action (Machine σ) (List Entry) :=
  if rolls = 0 then return []
  else draw (Sampling.weightedByDouble Entry.weight pool rolls.toNat)

def drawUniform (pool : List Entry) (rolls : UInt8) : Action (Machine σ) (List Entry) :=
  draw (Sampling.uniform pool rolls.toNat)

variable [Store σ]

def transaction (body : Action (Machine σ) α) : Action (Machine σ) α := fun machine =>
  let whole : Action (Machine σ) α := do
    onStore Store.start
    let answer ← body
    onStore (perform .commit)
    return answer
  let (outcome, machine) := whole.run machine
  (outcome, { machine with store := Store.abandon machine.store })

def playNormal (player : Player) (gacha : GachaId) (selector : UInt8) :
    Action (Machine σ) NormalPlay :=
  transaction do
    let (cost, debit, pool) ← onStore (Play.openNormal player gacha selector)
    let drawn ← drawWeighted pool cost.rolls
    onStore (Play.closeNormal player debit drawn)

def playStepup (player : Player) (gacha : GachaId) (step : UInt8) :
    Action (Machine σ) StepupPlay :=
  transaction do
    let (cost, nextStep, pool) ← onStore (Play.openStepup player gacha step)
    let drawn ← drawWeighted pool cost.rolls
    onStore (Play.closeStepup player gacha step nextStep drawn)

def playBox (player : Player) (gacha : GachaId) (selector : UInt8) :
    Action (Machine σ) BoxPlay :=
  transaction do
    let (cost, pool) ← onStore (Play.openBox player gacha selector)
    let drawn ← drawUniform pool cost.rolls
    onStore (Play.closeBox player gacha drawn)

def boxStatus (player : Player) (gacha : GachaId) : Action (Machine σ) (List BoxStatus) :=
  transaction (onStore (BoxDeal.status gacha player.character))

def resetBox (player : Player) (gacha : GachaId) : Action (Machine σ) Unit :=
  transaction do
    onStore (Play.lock player gacha)
    onStore (BoxDeal.reset gacha player.character)

def serverTime : Action (Machine σ) UInt32 := return (← get).clock.reading

def stepStatus (player : Player) (gacha : GachaId) : Action (Machine σ) StepStatus := do
  let step ← transaction do
    onStore (Play.lock player gacha)
    onStore (Steps.current gacha player.character)
  return { step, serverTime := ← serverTime }

def receive (player : Player) (freeze : Bool) : Action (Machine σ) Drained :=
  transaction (onStore (Inventory.drain player.character freeze))

def points (player : Player) : Action (Machine σ) Points :=
  transaction (onStore (Ledger.points player))

def usePoints (player : Player) (trial premium : UInt32) : Action (Machine σ) Points :=
  transaction do
    let _ ← onStore (Ledger.debitBalance player .gachaTrial (Int64.ofNat trial.toNat))
    let _ ← onStore (Ledger.debitBalance player .gachaPremium (Int64.ofNat premium.toNat))
    onStore (Ledger.points player)

def buy (player : Player) (trade : TradeId) (lots : UInt16) : Action (Machine σ) Int64 :=
  transaction (onStore (Exchange.buy player trade lots))

def sell (player : Player) (trade : TradeId) (units : UInt16) : Action (Machine σ) Int64 :=
  transaction (onStore (Exchange.sell player trade units))

def acquire (player : Player) (purchases : List Purchase) : Action (Machine σ) Nat :=
  transaction (onStore (Exchange.record player.character purchases))

def purchaseCount (player : Player) (item : ShopItemId) : Action (Machine σ) UInt64 :=
  transaction (onStore (perform (.purchaseCount player.character item)))

def listing (hr gr : UInt32) : Action (Machine σ) (List GachaListing) :=
  transaction (onStore (Catalog.listing hr gr))

end Machine

end PrizeDraw
