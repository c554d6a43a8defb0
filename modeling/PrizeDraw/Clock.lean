import PrizeDraw.Amount

namespace PrizeDraw

structure Clock where
  now : Int64 := 0
  offset : Int64 := 0
  deriving DecidableEq, Repr, Inhabited

namespace Clock

def reading (clock : Clock) : UInt32 := Amount.clampU32 (clock.now.toInt + clock.offset.toInt)

end Clock

end PrizeDraw
