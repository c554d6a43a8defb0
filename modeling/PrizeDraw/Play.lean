import PrizeDraw.Catalog.Lookup
import PrizeDraw.Ledger
import PrizeDraw.Pending.Inventory
import PrizeDraw.Steps
import PrizeDraw.Table

namespace PrizeDraw

structure NormalPlay where
  items : List DrawnItem
  debit : Option Debit
  deriving DecidableEq, Repr

structure StepupPlay where
  guaranteed : List DrawnItem
  random : List DrawnItem
  nextStep : UInt8
  deriving DecidableEq, Repr

namespace StepupPlay

def items (play : StepupPlay) : List DrawnItem := play.guaranteed ++ play.random

end StepupPlay

structure BoxPlay where
  items : List DrawnItem
  dealt : List EntryId
  deriving DecidableEq, Repr

namespace Play

variable {σ : Type} [Store σ]

def lock (player : Player) (gacha : GachaId) : Action σ Unit := do
  perform (.lockScope player.character gacha)
  perform (.lockCharacter player.character)

def charge (player : Player) (gacha : GachaId) (selector : UInt8) :
    Action σ (Entry × Option Debit) := do
  let _ ← Catalog.gacha gacha
  let cost ← Catalog.costEntry gacha selector
  let debit ← Ledger.payEntryCost player cost
  return (cost, debit)

abbrev Fetched := Table EntryId (List RewardItem)

def rewards (fetched : Fetched) (entry : EntryId) : Action σ (List RewardItem × Fetched) := do
  match fetched.find? entry with
  | some items => return (items, fetched)
  | none =>
      let items ← perform (.rewardItems entry)
      return (items, fetched.insert entry items)

def collect (mark : Entry → Action σ Unit) (rarity : Entry → UInt8) :
    Fetched → List Entry → Action σ (List DrawnItem)
  | _, [] => return []
  | fetched, entry :: rest => do
      mark entry
      let (items, fetched) ← rewards fetched entry.id
      let others ← collect mark rarity fetched rest
      return items.map (fun item => { item, rarity := rarity entry }) ++ others

def collectDrawn (drawn : List Entry) : Action σ (List DrawnItem) :=
  collect (fun _ => pure ()) Entry.rarity [] drawn

def collectDealt (player : Player) (gacha : GachaId) (drawn : List Entry) :
    Action σ (List DrawnItem) :=
  collect (fun entry => perform (.insertDealt gacha player.character entry.id)) (fun _ => 0) []
    drawn

def award (player : Player) (won : List DrawnItem) : Action σ Unit := do
  let _ ← Inventory.append player.character (won.map DrawnItem.item)

def openNormal (player : Player) (gacha : GachaId) (selector : UInt8) :
    Action σ (Entry × Option Debit × List Entry) := do
  lock player gacha
  let (cost, debit) ← charge player gacha selector
  let pool ← perform (.randomPool gacha)
  return (cost, debit, pool)

def closeNormal (player : Player) (debit : Option Debit) (drawn : List Entry) :
    Action σ NormalPlay := do
  let items ← collectDrawn drawn
  award player items
  return { items, debit }

def openStepup (player : Player) (gacha : GachaId) (step : UInt8) :
    Action σ (Entry × UInt8 × List Entry) := do
  lock player gacha
  let (cost, _) ← charge player gacha step
  if cost.frontierPoints ≠ 0 then
    let _ ← Ledger.credit player .frontierPoints cost.frontierPoints
  let nextStep ← Steps.advance gacha player.character step
  let pool ← perform (.randomPool gacha)
  return (cost, nextStep, pool)

def closeStepup (player : Player) (gacha : GachaId) (step nextStep : UInt8)
    (drawn : List Entry) : Action σ StepupPlay := do
  let random ← collectDrawn drawn
  let fixed ← Catalog.guaranteedItems gacha step
  let guaranteed := fixed.map fun item => { item, rarity := 0 }
  award player (guaranteed ++ random)
  return { guaranteed, random, nextStep }

def openBox (player : Player) (gacha : GachaId) (selector : UInt8) :
    Action σ (Entry × List Entry) := do
  lock player gacha
  let (cost, _) ← charge player gacha selector
  let dealt ← perform (.dealtEntries gacha player.character)
  let pool ← perform (.randomPool gacha)
  return (cost, pool.filter fun entry => !dealt.contains entry.id)

def closeBox (player : Player) (gacha : GachaId) (drawn : List Entry) : Action σ BoxPlay := do
  let items ← collectDealt player gacha drawn
  award player items
  return { items, dealt := drawn.map Entry.id }

end Play

end PrizeDraw
