namespace PrizeDraw

abbrev Ranges := List (Nat × Nat)

def Ranges.has (ranges : Ranges) (n : Nat) : Bool :=
  ranges.any fun (low, high) => decide (low ≤ n) && decide (n ≤ high)

end PrizeDraw
