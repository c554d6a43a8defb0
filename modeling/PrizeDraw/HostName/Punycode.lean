namespace PrizeDraw

namespace HostName

namespace Punycode

def base : Nat := 36

def low : Nat := 1

def high : Nat := 26

def skew : Nat := 38

def damp : Nat := 700

def firstBias : Nat := 72

def firstCharacter : Nat := 128

def largest : Nat := UInt32.size - 1

def digit? (c : Char) : Option Nat :=
  if c.isLower then some (c.toNat - 97)
  else if c.isDigit then some (c.toNat - 48 + 26)
  else none

def shrink : Nat → Nat → Nat → Nat × Nat
  | 0, delta, count => (delta, count)
  | fuel + 1, delta, count =>
      if delta ≤ (base - low) * high / 2 then (delta, count)
      else shrink fuel (delta / (base - low)) (count + 1)

def adapt (delta points : Nat) (first : Bool) : Nat :=
  let delta := if first then delta / damp else delta / 2
  let (rest, count) := shrink base (delta + delta / points) 0
  base * count + (base - low + 1) * rest / (rest + skew)

def threshold (place bias : Nat) : Nat :=
  if place ≤ bias + low then low else if bias + high ≤ place then high else place - bias

structure State where
  output : List Char
  character : Nat := firstCharacter
  bias : Nat := firstBias
  position : Nat := 0
  start : Nat := 0
  weight : Nat := 1
  place : Nat := base
  deriving DecidableEq, Repr

def insertAt (c : Char) : Nat → List Char → List Char
  | 0, cs => c :: cs
  | _, [] => [c]
  | n + 1, d :: cs => d :: insertAt c n cs

def State.insert? (state : State) : Option State :=
  let size := state.output.length + 1
  let character := state.character + state.position / size
  let position := state.position % size
  if h : character.isValidChar then
    some {
      output := insertAt (Char.ofNatAux character h) position state.output
      character
      bias := adapt (state.position - state.start) size (state.start == 0)
      position := position + 1
      start := position + 1 }
  else none

def State.read? (state : State) (d : Nat) : Option State :=
  let position := state.position + d * state.weight
  if largest < position then none
  else
    let state := { state with position }
    let limit := threshold state.place state.bias
    if d < limit then state.insert?
    else
      let weight := state.weight * (base - limit)
      if largest < weight then none
      else some { state with weight, place := state.place + base }

def readDigits? (state : State) : List Char → Option (List Char)
  | [] => if state.weight = 1 then some state.output else none
  | c :: rest => do
      let state ← state.read? (← digit? c)
      readDigits? state rest

def split (cs : List Char) : List Char × List Char :=
  let digits := (cs.reverse.takeWhile (· != '-')).reverse
  let before := cs.take (cs.length - digits.length)
  if before.length ≤ 1 then ([], cs) else (before.dropLast, digits)

def decode? (cs : List Char) : Option (List Char) :=
  let (output, digits) := split cs
  readDigits? { output } digits

end Punycode

end HostName

end PrizeDraw
