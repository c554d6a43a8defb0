import PrizeDraw.Store

namespace PrizeDraw

structure BoxStatus where
  entry : EntryId
  exhausted : Bool
  deriving DecidableEq, Repr, Inhabited

namespace BoxDeal

variable {σ : Type} [Store σ]

def status (gacha : GachaId) (character : CharacterId) : Action σ (List BoxStatus) := do
  let dealt ← perform (.dealtEntries gacha character)
  return dealt.map fun entry => { entry, exhausted := true }

def reset (gacha : GachaId) (character : CharacterId) : Action σ Unit :=
  perform (.deleteDealt gacha character)

end BoxDeal

end PrizeDraw
