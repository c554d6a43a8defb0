import PrizeDraw.Amount
import PrizeDraw.Arrangement
import PrizeDraw.Store
import PrizeDraw.Table

namespace PrizeDraw

structure Purse where
  frontierPoints : Int64 := 0
  gachaPremium : Int64 := 0
  gachaTrial : Int64 := 0
  netcafePoints : Int64 := 0
  guildPoints : Int64 := 0
  bondPoints : Int64 := 0
  imageChangePoints : Int64 := 0
  deriving DecidableEq, Repr, Inhabited

namespace Purse

def get (purse : Purse) : Balance → Int64
  | .frontierPoints => purse.frontierPoints
  | .gachaPremium => purse.gachaPremium
  | .gachaTrial => purse.gachaTrial
  | .netcafePoints => purse.netcafePoints
  | .guildPoints => purse.guildPoints
  | .bondPoints => purse.bondPoints
  | .imageChangePoints => purse.imageChangePoints

def set (purse : Purse) (balance : Balance) (value : Int64) : Purse :=
  match balance with
  | .frontierPoints => { purse with frontierPoints := value }
  | .gachaPremium => { purse with gachaPremium := value }
  | .gachaTrial => { purse with gachaTrial := value }
  | .netcafePoints => { purse with netcafePoints := value }
  | .guildPoints => { purse with guildPoints := value }
  | .bondPoints => { purse with bondPoints := value }
  | .imageChangePoints => { purse with imageChangePoints := value }

theorem get_set (purse : Purse) (balance other : Balance) (value : Int64) :
    (purse.set balance value).get other = if other = balance then value else purse.get other := by
  cases balance <;> cases other <;> rfl

end Purse

structure CharacterRow where
  purse : Purse := {}
  pending : Option Bytes := none
  deriving DecidableEq, Repr, Inhabited

structure StepRow where
  gacha : GachaId
  character : CharacterId
  step : UInt8
  deriving DecidableEq, Repr, Inhabited

structure DealtRow where
  gacha : GachaId
  character : CharacterId
  entry : EntryId
  deriving DecidableEq, Repr, Inhabited

structure PurchaseKey where
  character : CharacterId
  item : ShopItemId
  deriving DecidableEq, Repr, Inhabited

namespace PurchaseKey

instance : LT PurchaseKey where
  lt a b := a.character < b.character ∨ (a.character = b.character ∧ a.item < b.item)

instance : DecidableLT PurchaseKey := fun a b =>
  inferInstanceAs (Decidable (a.character < b.character ∨ _))

end PurchaseKey

structure Records where
  gachas : Table GachaId Gacha := []
  entries : Table EntryId Entry := []
  rewards : Table EntryId (List RewardItem) := []
  trades : Table TradeId Trade := []
  accounts : Table AccountId Purse := []
  characters : Table CharacterId CharacterRow := []
  steps : List StepRow := []
  dealt : List DealtRow := []
  purchases : Table PurchaseKey UInt64 := []
  failing : List WriteTable := []
  deriving DecidableEq, Repr, Inhabited

namespace Records

def checkWrite (records : Records) (table : WriteTable) : Except StoreFault Unit :=
  if records.failing.contains table then .error (.injected table.name) else .ok ()

def character (records : Records) (id : CharacterId) : Except StoreFault CharacterRow :=
  match records.characters.find? id with
  | some row => .ok row
  | none => .error (.unknownOwner BalanceScope.character.table id)

def account (records : Records) (id : AccountId) : Except StoreFault Purse :=
  match records.accounts.find? id with
  | some purse => .ok purse
  | none => .error (.unknownOwner BalanceScope.account.table id)

def purse (records : Records) (player : Player) : BalanceScope → Except StoreFault Purse
  | .account => records.account player.account
  | .character => return (← records.character player.character).purse

def balance (records : Records) (player : Player) (balance : Balance) :
    Except StoreFault Int64 :=
  return (← records.purse player balance.scope).get balance

def setBalance (records : Records) (player : Player) (balance : Balance) (value : Int64) :
    Except StoreFault Records :=
  match balance.scope with
  | .account => do
      let purse ← records.account player.account
      return { records with
        accounts := records.accounts.insert player.account (purse.set balance value) }
  | .character => do
      let row ← records.character player.character
      let row := { row with purse := row.purse.set balance value }
      return { records with characters := records.characters.insert player.character row }

def pendingBuffer (records : Records) (id : CharacterId) : Except StoreFault (Option Bytes) :=
  return (← records.character id).pending

def setPendingBuffer (records : Records) (id : CharacterId) (buffer : Option Bytes) :
    Except StoreFault Records := do
  let row ← records.character id
  return { records with characters := records.characters.insert id { row with pending := buffer } }

def addPlayer (records : Records) (player : Player) : Records :=
  { records with
    accounts :=
      if (records.accounts.find? player.account).isSome then records.accounts
      else records.accounts.insert player.account {}
    characters :=
      if (records.characters.find? player.character).isSome then records.characters
      else records.characters.insert player.character {} }

def addCatalog (records : Records) (catalog : Catalog) : Records :=
  { records with
    gachas := catalog.gachas.foldl (fun rows gacha => rows.insert gacha.id gacha) records.gachas
    entries :=
      catalog.entries.foldl (fun rows e => rows.insert e.entry.id e.entry) records.entries
    rewards :=
      catalog.entries.foldl (fun rows e => rows.insert e.entry.id e.items) records.rewards
    trades := catalog.trades.foldl (fun rows trade => rows.insert trade.id trade) records.trades }

def setFailing (records : Records) (table : WriteTable) (failing : Bool) : Records :=
  let others := records.failing.filter (· ≠ table)
  { records with failing := if failing then table :: others else others }

def entriesOf (records : Records) (gacha : GachaId) : List Entry :=
  records.entries.values.filter fun entry => entry.gacha == gacha

def byTypeThenId (a b : Entry) : Bool :=
  decide (a.entryType < b.entryType) || (a.entryType == b.entryType && decide (a.id ≤ b.id))

def byWeightThenId (a b : Entry) : Bool :=
  decide (b.weight.rank < a.weight.rank) ||
    (a.weight.rank == b.weight.rank && decide (a.id ≤ b.id))

def steps? (records : Records) (gacha : GachaId) (character : CharacterId) : List UInt8 :=
  (records.steps.filter fun row => row.gacha == gacha && row.character == character).map
    StepRow.step

def dealtTo (records : Records) (gacha : GachaId) (character : CharacterId) : List EntryId :=
  (records.dealt.filter fun row => row.gacha == gacha && row.character == character).map
    DealtRow.entry

def purchaseCount (records : Records) (character : CharacterId) (item : ShopItemId) : UInt64 :=
  (records.purchases.find? { character, item }).getD 0

def step {α : Type} (records : Records) : Command α → Except Halt (α × Records)
  | .lockScope _ _ | .lockCharacter _ | .commit | .rollback => .ok ((), records)
  | .gacha id => .ok (records.gachas.find? id, records)
  | .gachas => .ok (records.gachas.values, records)
  | .entries gacha => .ok (Arrangement.arrange byTypeThenId (records.entriesOf gacha), records)
  | .entryByType gacha entryType =>
      .ok ((records.entriesOf gacha).find? (·.entryType == entryType), records)
  | .randomPool gacha =>
      let pool := (records.entriesOf gacha).filter Entry.inPool
      .ok (Arrangement.arrange byWeightThenId pool, records)
  | .rewardItems entry => .ok ((records.rewards.find? entry).getD [], records)
  | .trade id => .ok (records.trades.find? id, records)
  | .balance player balance => read (records.balance player balance)
  | .adjustBalance player balance delta =>
      match records.checkWrite .balances, records.balance player balance with
      | .error fault, _ | .ok (), .error fault => stop fault
      | .ok (), .ok old =>
          match Amount.add? old delta with
          | none => .error .overflow
          | some sum =>
              match records.setBalance player balance sum with
              | .error fault => stop fault
              | .ok records => .ok (sum, records)
  | .pendingBuffer character => read (records.pendingBuffer character)
  | .setPendingBuffer character buffer =>
      match records.checkWrite .inventory, records.setPendingBuffer character buffer with
      | .error fault, _ | .ok (), .error fault => stop fault
      | .ok (), .ok records => .ok ((), records)
  | .step gacha character => .ok ((records.steps? gacha character).head?, records)
  | .deleteStep gacha character =>
      write .stepup { records with
        steps := records.steps.filter fun row =>
          !(row.gacha == gacha && row.character == character) }
  | .insertStep gacha character step =>
      write .stepup { records with steps := records.steps ++ [{ gacha, character, step }] }
  | .dealtEntries gacha character => .ok (records.dealtTo gacha character, records)
  | .insertDealt gacha character entry =>
      write .box { records with dealt := records.dealt ++ [{ gacha, character, entry }] }
  | .deleteDealt gacha character =>
      write .box { records with
        dealt := records.dealt.filter fun row =>
          !(row.gacha == gacha && row.character == character) }
  | .addPurchase character item count =>
      let sum := (records.purchaseCount character item).toNat + count.toNat
      match records.checkWrite .shopPurchases with
      | .error fault => stop fault
      | .ok () =>
          if sum < UInt64.size then
            .ok ((), { records with
              purchases := records.purchases.insert { character, item } (UInt64.ofNat sum) })
          else .error .overflow
  | .purchaseCount character item => .ok (records.purchaseCount character item, records)
where
  stop {β : Type} (fault : StoreFault) : Except Halt β := .error (.refused (.store fault))
  read {β : Type} : Except StoreFault β → Except Halt (β × Records)
    | .ok answer => .ok (answer, records)
    | .error fault => stop fault
  write (table : WriteTable) (changed : Records) : Except Halt (Unit × Records) :=
    match records.checkWrite table with
    | .ok () => .ok ((), changed)
    | .error fault => stop fault

end Records

structure Memory where
  records : Records := {}
  staged : Option Records := none
  deriving DecidableEq, Repr, Inhabited

namespace Memory

def start : Action Memory Unit := modify fun memory => { memory with staged := some memory.records }

def perform {α : Type} (command : Command α) : Action Memory α := fun memory =>
  match memory.staged with
  | none => (.error (.refused (.store .finished)), memory)
  | some staged =>
      match command with
      | .commit => (.ok (), { records := staged, staged := none })
      | .rollback => (.ok (), { memory with staged := none })
      | command =>
          match staged.step command with
          | .error halt => (.error halt, memory)
          | .ok (answer, changed) => (.ok answer, { memory with staged := some changed })

def abandon (memory : Memory) : Memory := { memory with staged := none }

instance : Store Memory where
  start := start
  perform := perform
  abandon := abandon

def setBalance (player : Player) (balance : Balance) (value : Int64) : Action Memory Unit :=
  fun memory =>
    match memory.records.setBalance player balance value with
    | .ok records => (.ok (), { memory with records })
    | .error fault => (.error (.refused (.store fault)), memory)

def setPendingBuffer (character : CharacterId) (buffer : Option Bytes) : Action Memory Unit :=
  fun memory =>
    match memory.records.setPendingBuffer character buffer with
    | .ok records => (.ok (), { memory with records })
    | .error fault => (.error (.refused (.store fault)), memory)

def addPlayer (player : Player) (memory : Memory) : Memory :=
  { memory with records := memory.records.addPlayer player }

def addCatalog (catalog : Catalog) (memory : Memory) : Memory :=
  { memory with records := memory.records.addCatalog catalog }

def setFailing (table : WriteTable) (failing : Bool) (memory : Memory) : Memory :=
  { memory with records := memory.records.setFailing table failing }

end Memory

end PrizeDraw
