import PrizeDraw.Currency
import PrizeDraw.Fault

namespace PrizeDraw

inductive Command : Type → Type where
  | lockScope (character : CharacterId) (gacha : GachaId) : Command Unit
  | lockCharacter (character : CharacterId) : Command Unit
  | commit : Command Unit
  | rollback : Command Unit
  | gacha (id : GachaId) : Command (Option Gacha)
  | gachas : Command (List Gacha)
  | entries (gacha : GachaId) : Command (List Entry)
  | entryByType (gacha : GachaId) (entryType : UInt8) : Command (Option Entry)
  | randomPool (gacha : GachaId) : Command (List Entry)
  | rewardItems (entry : EntryId) : Command (List RewardItem)
  | trade (id : TradeId) : Command (Option Trade)
  | balance (player : Player) (balance : Balance) : Command Int64
  | adjustBalance (player : Player) (balance : Balance) (delta : Int64) : Command Int64
  | pendingBuffer (character : CharacterId) : Command (Option Bytes)
  | setPendingBuffer (character : CharacterId) (buffer : Option Bytes) : Command Unit
  | step (gacha : GachaId) (character : CharacterId) : Command (Option UInt8)
  | deleteStep (gacha : GachaId) (character : CharacterId) : Command Unit
  | insertStep (gacha : GachaId) (character : CharacterId) (step : UInt8) : Command Unit
  | dealtEntries (gacha : GachaId) (character : CharacterId) : Command (List EntryId)
  | insertDealt (gacha : GachaId) (character : CharacterId) (entry : EntryId) : Command Unit
  | deleteDealt (gacha : GachaId) (character : CharacterId) : Command Unit
  | addPurchase (character : CharacterId) (item : ShopItemId) (count : UInt32) : Command Unit
  | purchaseCount (character : CharacterId) (item : ShopItemId) : Command UInt64

class Store (σ : Type) where
  start : Action σ Unit
  perform : {α : Type} → Command α → Action σ α
  abandon : σ → σ

export Store (perform)

end PrizeDraw
