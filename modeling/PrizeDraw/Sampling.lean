import PrizeDraw.Fault
import PrizeDraw.Generator

namespace PrizeDraw

class Scale (ν : Type) where
  zero : ν
  add : ν → ν → ν
  sub : ν → ν → ν
  part : UInt64 → ν → ν
  atMostZero : ν → Bool
  belowZero : ν → Bool
  aboveZero : ν → Bool

namespace Scale

def unitBits : UInt64 := 0x3ca0000000000000

instance : Scale Float where
  zero := 0
  add := (· + ·)
  sub := (· - ·)
  part k total := k.toFloat * Float.ofBits unitBits * total
  atMostZero x := decide (x ≤ 0)
  belowZero x := decide (x < 0)
  aboveZero x := decide (0 < x)

end Scale

namespace Sampling

variable {α ν : Type} [Scale ν]

def total (measure : α → ν) (pool : List α) : ν :=
  pool.foldl (fun sum a => Scale.add sum (measure a)) Scale.zero

def walk (measure : α → ν) : ν → List α → Option α
  | _, [] => none
  | left, a :: rest =>
      let left := Scale.sub left (measure a)
      if Scale.belowZero left then some a else walk measure left rest

/-- Rounding can leave a walk just short of the end; the last entry with weight stands in. -/
def lastWeighted (measure : α → ν) (pool : List α) : Option α :=
  pool.reverse.find? fun a => Scale.aboveZero (measure a)

def pick (measure : α → ν) (pool : List α) (standIn : α) (target : ν) : α :=
  (walk measure target pool).getD standIn

def pickMany (measure : α → ν) (pool : List α) (standIn : α) (sum : ν) :
    Nat → Generator → List α × Generator
  | 0, g => ([], g)
  | n + 1, g =>
      let (word, g) := g.nextWide
      let chosen := pick measure pool standIn (Scale.part (word >>> 11) sum)
      let (rest, g) := pickMany measure pool standIn sum n g
      (chosen :: rest, g)

def weighted (measure : α → ν) (pool : List α) (n : Nat) (g : Generator) :
    Except Fault (List α) × Generator :=
  let sum := total measure pool
  if Scale.atMostZero sum then (.error .emptyPool, g)
  else
    match lastWeighted measure pool with
    | none => (.error .emptyPool, g)
    | some standIn =>
        let (chosen, g) := pickMany measure pool standIn sum n g
        (.ok chosen, g)

def swapRemove (pool : List α) (index : Nat) : Option (α × List α) :=
  match pool[index]?, pool.getLast? with
  | some chosen, some last => some (chosen, (pool.set index last).dropLast)
  | _, _ => none

def dealMany : Nat → List α → Generator → List α × Generator
  | 0, _, g => ([], g)
  | n + 1, pool, g =>
      let (index, g) := g.below pool.length
      match swapRemove pool index with
      | none => ([], g)
      | some (chosen, pool) =>
          let (rest, g) := dealMany n pool g
          (chosen :: rest, g)

def uniform (pool : List α) (n : Nat) (g : Generator) : Except Fault (List α) × Generator :=
  if pool.length < n then (.error (.insufficientPool n pool.length), g)
  else
    let (chosen, g) := dealMany n pool g
    (.ok chosen, g)

def weightedByDouble (weight : α → Weight) (pool : List α) (n : Nat) (g : Generator) :
    Except Fault (List α) × Generator :=
  weighted (fun a => (weight a).toFloat) pool n g

end Sampling

end PrizeDraw
