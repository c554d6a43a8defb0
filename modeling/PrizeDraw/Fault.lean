import PrizeDraw.Catalog

namespace PrizeDraw

inductive CatalogRow where
  | gacha (id : GachaId)
  | costEntry (gacha : GachaId) (entryType : UInt8)
  | entry (id : EntryId)
  | trade (id : TradeId)
  deriving DecidableEq, Repr

namespace CatalogRow

def describe : CatalogRow → String
  | .gacha id => s!"gacha {id}"
  | .costEntry owner entryType => s!"entry type {entryType} of gacha {owner}"
  | .entry id => s!"entry {id}"
  | .trade id => s!"frontier point trade {id}"

end CatalogRow

inductive WriteTable where
  | balances
  | inventory
  | stepup
  | box
  | shopPurchases
  deriving DecidableEq, Repr

namespace WriteTable

def name : WriteTable → String
  | .balances => "balances"
  | .inventory => "inventory"
  | .stepup => "gacha_stepup"
  | .box => "gacha_box"
  | .shopPurchases => "shop_items_bought"

end WriteTable

inductive StoreFault where
  | database (message : String)
  | connection
  | columnNotFound (column : String)
  | columnDecode (column : String)
  | unknownOwner (table : String) (id : UInt32)
  | outOfRange (column : String) (value : Int64)
  | finished
  | injected (table : String)
  deriving DecidableEq, Repr

namespace StoreFault

def message : StoreFault → String
  | .database text => "error returned from database: " ++ text
  | .connection => "error communicating with database"
  | .columnNotFound column => "no column found for name: " ++ column
  | .columnDecode column => "error occurred while decoding column " ++ column
  | .unknownOwner table id => s!"{table} row {id} does not exist"
  | .outOfRange column value => s!"column {column} holds out-of-range value {value}"
  | .finished => "unit of work already finished"
  | .injected table => "injected failure writing " ++ table

end StoreFault

inductive ExchangeFault where
  | notBuyable (trade : TradeId)
  | costOverflows (trade : TradeId)
  | noLotSize (trade : TradeId)
  deriving DecidableEq, Repr

namespace ExchangeFault

def message : ExchangeFault → String
  | .notBuyable trade => s!"trade {trade} cannot be bought"
  | .costOverflows trade => s!"trade {trade} cost overflows"
  | .noLotSize trade => s!"trade {trade} has no lot size"

end ExchangeFault

inductive Fault where
  | emptyPool
  | insufficientPool (requested available : Nat)
  | catalogMissing (row : CatalogRow)
  | inventoryOverflow (count : Nat)
  | inventoryCorrupt (length : Nat)
  | invalidExchange (reason : ExchangeFault)
  | store (fault : StoreFault)
  deriving DecidableEq, Repr

namespace Fault

def exchangeRejected (reason : String) : String := "exchange rejected: " ++ reason

def message : Fault → String
  | .emptyPool => "weighted pool is empty or carries no positive weight"
  | .insufficientPool requested available =>
      s!"box pool has {available} entries left, {requested} requested"
  | .catalogMissing row => s!"{row.describe} not found in catalog"
  | .inventoryOverflow count =>
      s!"pending inventory would hold {count} items, at most 255 fit"
  | .inventoryCorrupt length => s!"pending inventory buffer of {length} bytes is malformed"
  | .invalidExchange reason => exchangeRejected reason.message
  | .store fault => "store failure: " ++ fault.message

end Fault

inductive Halt where
  | refused (fault : Fault)
  | overflow
  deriving DecidableEq, Repr

abbrev Action (σ α : Type) := ExceptT Halt (StateM σ) α

namespace Action

def refuse {σ α : Type} (fault : Fault) : Action σ α := throw (.refused fault)

def ofExcept {σ α : Type} : Except Fault α → Action σ α
  | .ok a => pure a
  | .error fault => refuse fault

def run {σ α : Type} (action : Action σ α) (state : σ) : Except Halt α × σ :=
  (ExceptT.run action) state

end Action

end PrizeDraw
