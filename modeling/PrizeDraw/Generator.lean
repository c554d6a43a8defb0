namespace PrizeDraw

structure Generator where
  stream : Nat → UInt32
  position : Nat := 0

namespace Generator

def ofWords (words : List UInt32) : Generator :=
  let table := words.toArray
  { stream := fun n => table.getD (n % table.size) 0 }

def next (g : Generator) : UInt32 × Generator :=
  (g.stream g.position, { g with position := g.position + 1 })

def nextWide (g : Generator) : UInt64 × Generator :=
  let (low, g) := g.next
  let (high, g) := g.next
  (high.toUInt64 <<< 32 ||| low.toUInt64, g)

def wordRange : Nat := UInt32.size

def below (bound : Nat) (g : Generator) : Nat × Generator :=
  let (word, g) := g.next
  let product := word.toNat * bound
  let high := product / wordRange
  let low := product % wordRange
  if wordRange - bound < low then
    let (word, g) := g.next
    let carry := low + word.toNat * bound / wordRange
    (if wordRange ≤ carry then high + 1 else high, g)
  else (high, g)

@[simp] theorem position_nextWide (g : Generator) : g.nextWide.2.position = g.position + 2 := rfl

@[simp] theorem stream_nextWide (g : Generator) : g.nextWide.2.stream = g.stream := rfl

end Generator

end PrizeDraw
