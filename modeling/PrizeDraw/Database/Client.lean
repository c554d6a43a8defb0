import PrizeDraw.Database.Row
import PrizeDraw.Store

namespace PrizeDraw

structure Answer where
  rows : List Row := []
  affected : Nat := 0
  deriving DecidableEq, Repr, Inhabited

inductive Response where
  | answered (answer : Answer)
  | failed (message : String)
  | cut
  deriving DecidableEq, Repr

class Database (δ : Type) where
  accepts : δ → Bool
  answer : Statement → δ → Response × δ

inductive Link where
  | idle
  | active
  | lost
  deriving DecidableEq, Repr

structure Client (δ : Type) where
  database : δ
  link : Link := .idle
  sent : List Statement := []

namespace Client

variable {δ : Type} [Database δ]

def trace (client : Client δ) : List Statement := client.sent.reverse

def exchange (statement : Statement) (client : Client δ) : Except StoreFault Answer × Client δ :=
  let (reply, database) := Database.answer statement client.database
  let client := { client with database, sent := statement :: client.sent }
  match reply with
  | .answered answer => (.ok answer, client)
  | .failed message => (.error (.database message), client)
  | .cut =>
      (.error .connection,
        { client with link := if client.link = .active then .lost else client.link })

def abandon (client : Client δ) : Client δ :=
  match client.link with
  | .idle => client
  | .lost => { client with link := .idle }
  | .active => { (exchange .rollback client).2 with link := .idle }

def within (statement : Statement) (client : Client δ) : Except StoreFault Answer × Client δ :=
  match client.link with
  | .idle => (.error .finished, client)
  | .lost => (.error .connection, client)
  | .active => exchange statement client

def openTransaction (client : Client δ) : Except StoreFault Unit × Client δ :=
  match exchange .start client with
  | (.ok _, client) => (.ok (), { client with link := .active })
  | (.error fault, client) => (.error fault, client)

def endWith (statement : Statement) (client : Client δ) : Except StoreFault Unit × Client δ :=
  match within statement client with
  | (.ok _, client) => (.ok (), { client with link := .idle })
  | (.error fault, client) => (.error fault, client)

def lift {α : Type} (run : Client δ → Except StoreFault α × Client δ) : Action (Client δ) α :=
  fun client =>
    let (outcome, client) := run client
    (outcome.mapError fun fault => .refused (.store fault), client)

def start : Action (Client δ) Unit := lift openTransaction

def finish (statement : Statement) : Action (Client δ) Unit :=
  lift fun client =>
    let (outcome, client) := endWith statement client
    (outcome, abandon client)

def query (statement : Statement) : Action (Client δ) Answer := lift (within statement)

def decoded {α : Type} (outcome : Except StoreFault α) : Action (Client δ) α :=
  Action.ofExcept (outcome.mapError Fault.store)

def execute (statement : Statement) : Action (Client δ) Unit := do
  let _ ← query statement

def all {α : Type} (decode : Row → Except StoreFault α) (statement : Statement) :
    Action (Client δ) (List α) := do
  let answer ← query statement
  decoded (answer.rows.mapM decode)

def firstRow? {α : Type} (decode : Row → Except StoreFault α) (statement : Statement) :
    Action (Client δ) (Option α) := do
  let answer ← query statement
  match answer.rows with
  | [] => return none
  | row :: _ =>
      let value ← decoded (decode row)
      return some value

def ownedRow {α : Type} (scope : BalanceScope) (owner : UInt32)
    (decode : Row → Except StoreFault α) (statement : Statement) : Action (Client δ) α := do
  match ← firstRow? decode statement with
  | some value => return value
  | none => Action.refuse (.store (.unknownOwner scope.table owner))

def perform {α : Type} : Command α → Action (Client δ) α
  | .lockScope character gacha => execute (.lockScope character gacha)
  | .lockCharacter character => execute (.lockCharacter character)
  | .commit => finish .commit
  | .rollback => finish .rollback
  | .gacha id => firstRow? Gacha.ofRow (.selectGacha id)
  | .gachas => all Gacha.ofRow .selectGachas
  | .entries gacha => all Entry.ofRow (.selectEntries gacha)
  | .entryByType gacha entryType => firstRow? Entry.ofRow (.selectEntry gacha entryType)
  | .randomPool gacha => all Entry.ofRow (.selectPool gacha)
  | .rewardItems entry => all RewardItem.ofRow (.selectRewards entry)
  | .trade id => firstRow? Trade.ofRow (.selectTrade id)
  | .balance player balance =>
      ownedRow balance.scope (balance.scope.owner player) Row.first
        (.selectBalance player balance)
  | .adjustBalance player balance delta =>
      ownedRow balance.scope (balance.scope.owner player) Row.first
        (.addBalance player balance delta)
  | .pendingBuffer character =>
      ownedRow .character character Row.first (.selectPending character)
  | .setPendingBuffer character buffer => do
      let answer ← query (.updatePending character buffer)
      if answer.affected = 0 then
        Action.refuse (.store (.unknownOwner BalanceScope.character.table character))
  | .step gacha character => do
      let stored : Option Int32 ← firstRow? Row.first (.selectStep gacha character)
      match stored with
      | none => return none
      | some step =>
          let narrowed ← decoded (Narrow.narrow "step" step.toInt64)
          return some narrowed
  | .deleteStep gacha character => execute (.deleteStep gacha character)
  | .insertStep gacha character step => execute (.insertStep gacha character step)
  | .dealtEntries gacha character => do
      let ids : List Int64 ← all Row.first (.selectDealt gacha character)
      decoded (ids.mapM (Narrow.narrow "entry_id"))
  | .insertDealt gacha character entry => execute (.insertDealt gacha character entry)
  | .deleteDealt gacha character => execute (.deleteDealt gacha character)
  | .addPurchase character item count => execute (.addPurchase character item count)
  | .purchaseCount character item => do
      let stored : Option Int64 ← firstRow? Row.first (.selectPurchase character item)
      decoded (Narrow.narrow "bought" (stored.getD 0))

instance : Store (Client δ) where
  start := start
  perform := perform
  abandon := abandon

end Client

end PrizeDraw
