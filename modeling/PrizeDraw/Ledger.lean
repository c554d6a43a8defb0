import PrizeDraw.Amount
import PrizeDraw.Store

namespace PrizeDraw

namespace Ledger

variable {σ : Type} [Store σ]

def debitBalance (player : Player) (balance : Balance) (amount : Int64) : Action σ Debit := do
  match Amount.neg? amount with
  | none => throw .overflow
  | some delta =>
      let newBalance ← perform (.adjustBalance player balance delta)
      return { balance, amount, newBalance }

def payer (player : Player) (currency : Currency) (amount : Int64) : Action σ Balance := do
  match currency.debitRule with
  | .direct balance => return balance
  | .coins =>
      let trial ← perform (.balance player .gachaTrial)
      return if amount ≤ trial then .gachaTrial else .gachaPremium

def debit (player : Player) (currency : Currency) (amount : Int64) : Action σ Debit := do
  let balance ← payer player currency amount
  debitBalance player balance amount

def credit (player : Player) (currency : Currency) (amount : Int64) : Action σ Int64 :=
  perform (.adjustBalance player currency.creditTarget amount)

def payEntryCost (player : Player) (entry : Entry) : Action σ (Option Debit) := do
  match Currency.ofItemType entry.itemType with
  | none => return none
  | some currency =>
      let paid ← debit player currency (Int64.ofNat entry.itemNumber.toNat)
      return some paid

def points (player : Player) : Action σ Points := do
  let frontierPoints ← perform (.balance player .frontierPoints)
  let premium ← perform (.balance player .gachaPremium)
  let trial ← perform (.balance player .gachaTrial)
  return { frontierPoints, premium, trial }

end Ledger

end PrizeDraw
