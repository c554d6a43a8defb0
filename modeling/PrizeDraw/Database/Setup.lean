import PrizeDraw.Database.Client

namespace PrizeDraw

inductive SetupFault where
  | connect
  | createTable (name : String)
  | createIndex (text : String)
  | store (fault : StoreFault)
  deriving DecidableEq, Repr

namespace SetupFault

def message : SetupFault → String
  | .connect => "failed to connect to postgres"
  | .createTable name => "failed to create table '" ++ name ++ "'"
  | .createIndex text => "failed to create index: " ++ text
  | .store fault => fault.message

end SetupFault

abbrev Setup (δ α : Type) := ExceptT SetupFault (StateM (Client δ)) α

namespace Setup

variable {δ : Type} [Database δ]

def ofClient {α : Type} (blame : StoreFault → SetupFault)
    (run : Client δ → Except StoreFault α × Client δ) : Setup δ α :=
  fun client =>
    let (outcome, client) := run client
    (outcome.mapError blame, client)

def createAll : List Relation → List String → Setup δ Unit
  | relation :: relations, indexes => do
      let _ ← ofClient (fun _ => .createTable relation.name)
        (Client.within (.createTable relation))
      createAll relations indexes
  | [], index :: indexes => do
      let _ ← ofClient (fun _ => .createIndex index) (Client.within (.createIndex index))
      createAll [] indexes
  | [], [] => return

def buildTables : Setup δ Unit := do
  ofClient .store Client.openTransaction
  createAll Schema.relations Schema.indexes
  ofClient .store (Client.endWith .commit)

def createTables : Setup δ Unit := fun client =>
  let (outcome, client) := (buildTables.run) client
  (outcome, Client.abandon client)

def dropAll : List Relation → Client δ → Client δ
  | [], client => client
  | relation :: relations, client =>
      dropAll relations (Client.exchange (.dropTable relation) client).2

def dropTables : Setup δ Unit := modify (dropAll Schema.relations.reverse)

def connect (drop create : Bool) : Setup δ Unit := do
  if Database.accepts (← get).database then
    if drop then dropTables
    if create then buildTables
  else throw .connect

end Setup

namespace Client

variable {δ : Type} [Database δ]

def inTransaction (body : Action (Client δ) Unit) : Action (Client δ) Unit := fun client =>
  let whole : Action (Client δ) Unit := do
    start
    body
    finish .commit
  let (outcome, client) := whole.run client
  (outcome, abandon client)

def importGacha (gacha : Gacha) : Action (Client δ) Unit := do
  let minGr ← decoded (Narrow.narrow "min_gr" (Int64.ofNat gacha.minGr.toNat))
  let minHr ← decoded (Narrow.narrow "min_hr" (Int64.ofNat gacha.minHr.toNat))
  execute (.upsertGacha gacha minGr minHr)

def importRewards (entry : EntryId) : List RewardItem → Action (Client δ) Unit
  | [] => return
  | item :: rest => do
      execute (.insertReward entry item)
      importRewards entry rest

def importEntry (seeded : CatalogEntry) : Action (Client δ) Unit := do
  execute (.upsertEntry seeded.entry)
  execute (.deleteRewards seeded.entry.id)
  importRewards seeded.entry.id seeded.items

def importTrade (trade : Trade) : Action (Client δ) Unit := do
  let fpoints ← decoded (Narrow.narrow "fpoints" (Int64.ofNat trade.fpoints.toNat))
  execute (.upsertTrade trade fpoints)

def importCatalog (catalog : Catalog) : Action (Client δ) Unit :=
  inTransaction do
    catalog.gachas.forM importGacha
    catalog.entries.forM importEntry
    catalog.trades.forM importTrade

def addPlayer (player : Player) : Action (Client δ) Unit :=
  inTransaction do
    execute (.insertUser player.account)
    execute (.insertCharacter player)

def setBalance (player : Player) (balance : Balance) (value : Int64) :
    Action (Client δ) Unit := do
  let answer ← lift (exchange (.setBalance player balance value))
  if answer.affected = 0 then
    Action.refuse (.store (.unknownOwner balance.scope.table (balance.scope.owner player)))

end Client

end PrizeDraw
