namespace PrizeDraw

structure Weight where
  bits : UInt64
  deriving DecidableEq, Repr

namespace Weight

instance : Inhabited Weight := ⟨⟨0⟩⟩

def ofFloat (x : Float) : Weight := ⟨x.toBits⟩

def signBit : UInt64 := 0x8000000000000000

def infinityBits : UInt64 := 0x7ff0000000000000

/-- Finite and above zero: the positive patterns below infinity are exactly these. -/
def isDrawable (w : Weight) : Bool := decide (0 < w.bits) && decide (w.bits < infinityBits)

/-- Position in the total order of doubles: negative patterns come first, in reverse. -/
def rank (w : Weight) : UInt64 :=
  if w.bits < signBit then w.bits ||| signBit else ~~~w.bits

def toFloat (w : Weight) : Float :=
  if w.isDrawable then Float.ofBits w.bits else 0

end Weight

end PrizeDraw
