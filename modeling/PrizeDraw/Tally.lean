import PrizeDraw.Reward
import PrizeDraw.Table

namespace PrizeDraw

structure Tally where
  plays : Nat := 0
  byRarity : Table UInt8 Nat := []
  deriving DecidableEq, Repr, Inhabited

namespace Tally

def countItem (counts : Table UInt8 Nat) (item : DrawnItem) : Table UInt8 Nat :=
  counts.insert item.rarity ((counts.find? item.rarity).getD 0 + 1)

def record (tally : Tally) (items : List DrawnItem) : Tally :=
  { plays := tally.plays + 1, byRarity := items.foldl countItem tally.byRarity }

def total (tally : Tally) : Nat := tally.byRarity.values.foldl (· + ·) 0

end Tally

end PrizeDraw
