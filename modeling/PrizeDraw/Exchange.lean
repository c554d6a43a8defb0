import PrizeDraw.Catalog.Lookup
import PrizeDraw.Ledger

namespace PrizeDraw

structure Purchase where
  item : ShopItemId
  count : UInt32
  deriving DecidableEq, Repr, Inhabited

namespace Exchange

variable {σ : Type} [Store σ]

def cost? (trade : Trade) (lots : UInt16) : Option Int64 :=
  Amount.ofInt? (lots.toNat * trade.quantity.toNat * trade.fpoints.toNat)

def payout (trade : Trade) (units : UInt16) : Int64 :=
  Int64.ofNat (units.toNat / trade.quantity.toNat * trade.fpoints.toNat)

def buy (player : Player) (id : TradeId) (lots : UInt16) : Action σ Int64 := do
  let trade ← Catalog.trade id
  if trade.buyable then
    match cost? trade lots with
    | none => Action.refuse (.invalidExchange (.costOverflows id))
    | some cost =>
        let paid ← Ledger.debit player .frontierPoints cost
        return paid.newBalance
  else Action.refuse (.invalidExchange (.notBuyable id))

def sell (player : Player) (id : TradeId) (units : UInt16) : Action σ Int64 := do
  let trade ← Catalog.trade id
  if trade.quantity = 0 then Action.refuse (.invalidExchange (.noLotSize id))
  else Ledger.credit player .frontierPoints (payout trade units)

def record (character : CharacterId) : List Purchase → Action σ Nat
  | [] => return 0
  | purchase :: rest => do
      if purchase.item = 0 then record character rest
      else
        perform (.addPurchase character purchase.item purchase.count)
        let recorded ← record character rest
        return recorded + 1

end Exchange

end PrizeDraw
