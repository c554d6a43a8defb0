import PrizeDraw.Store

namespace PrizeDraw

namespace Steps

variable {σ : Type} [Store σ]

/--
The stored step, or 0. A step without a selector means that the sequence ran out: the row goes
and the character starts over.
-/
def current (gacha : GachaId) (character : CharacterId) : Action σ UInt8 := do
  let step := (← perform (.step gacha character)).getD 0
  let entry ← perform (.entryByType gacha step)
  if entry.any Entry.isProgression then return step
  else
    perform (.deleteStep gacha character)
    return 0

def after (played : UInt8) : UInt8 := if played = 255 then 255 else played + 1

def advance (gacha : GachaId) (character : CharacterId) (played : UInt8) : Action σ UInt8 := do
  let next := after played
  perform (.deleteStep gacha character)
  perform (.insertStep gacha character next)
  return next

end Steps

end PrizeDraw
