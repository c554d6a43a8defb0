import PrizeDraw.Store

namespace PrizeDraw

namespace Catalog

variable {σ : Type} [Store σ]

def gacha (id : GachaId) : Action σ Gacha := do
  match ← perform (.gacha id) with
  | some found => return found
  | none => Action.refuse (.catalogMissing (.gacha id))

def costEntry (id : GachaId) (entryType : UInt8) : Action σ Entry := do
  match ← perform (.entryByType id entryType) with
  | some found => return found
  | none => Action.refuse (.catalogMissing (.costEntry id entryType))

def trade (id : TradeId) : Action σ Trade := do
  match ← perform (.trade id) with
  | some found => return found
  | none => Action.refuse (.catalogMissing (.trade id))

def guaranteedItems (id : GachaId) (entryType : UInt8) : Action σ (List RewardItem) := do
  match ← perform (.entryByType id entryType) with
  | some found => perform (.rewardItems found.id)
  | none => return []

def listEntries : List Entry → Action σ (List ListedEntry)
  | [] => return []
  | entry :: rest => do
      if entry.inPool then listEntries rest
      else
        let items ← perform (.rewardItems entry.id)
        let listed ← listEntries rest
        return ListedEntry.ofEntry entry items :: listed

def listGachas (hr gr : UInt32) : List Gacha → Action σ (List GachaListing)
  | [] => return []
  | found :: rest => do
      if found.isVisibleTo hr gr then
        let entries ← listEntries (← perform (.entries found.id))
        let listed ← listGachas hr gr rest
        return { gacha := found, entries } :: listed
      else listGachas hr gr rest

def listing (hr gr : UInt32) : Action σ (List GachaListing) := do
  listGachas hr gr (← perform .gachas)

end Catalog

end PrizeDraw
