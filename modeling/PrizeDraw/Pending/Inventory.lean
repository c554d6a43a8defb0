import PrizeDraw.Pending
import PrizeDraw.Store

namespace PrizeDraw

namespace Inventory

variable {σ : Type} [Store σ]

def load (character : CharacterId) : Action σ Pending := do
  let buffer ← perform (.pendingBuffer character)
  Action.ofExcept (Pending.ofStored buffer)

def save (character : CharacterId) (pending : Pending) : Action σ Unit :=
  perform (.setPendingBuffer character pending.stored)

def append (character : CharacterId) (items : List RewardItem) : Action σ Pending := do
  let pending ← load character
  let merged ← Action.ofExcept (pending.prepend items)
  save character merged
  return merged

def drain (character : CharacterId) (freeze : Bool) : Action σ Drained := do
  let pending ← load character
  let (emitted, remaining) := pending.split
  if !freeze then save character remaining
  return { emitted, remaining }

end Inventory

end PrizeDraw
