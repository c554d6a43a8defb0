import PrizeDraw.Json

namespace PrizeDraw

namespace Numeral

def maxSignificand : Nat := UInt64.size - 1

def maxExponent : Nat := 2147483647

def gather : Nat → List Char → Nat × Nat
  | significand, [] => (significand, 0)
  | significand, c :: rest =>
      let next := significand * 10 + Decimal.digitValue c
      if next ≤ maxSignificand then gather next rest else (significand, rest.length + 1)

def powerOfTen (n : Nat) : Float := Float.ofScientific 1 false n

def stride : Nat := 308

def scale (x : Float) (exponent : Int) : Option Float :=
  if exponent.natAbs ≤ stride then
    if 0 ≤ exponent then
      let y := x * powerOfTen exponent.natAbs
      if y.isInf then none else some y
    else some (x / powerOfTen exponent.natAbs)
  else if x == 0 then some x
  else if 0 ≤ exponent then none
  else scale (x / powerOfTen stride) (exponent + stride)
termination_by exponent.natAbs
decreasing_by
  simp only [stride] at *
  omega

def magnitude? (significand : Nat) (shift : Int) : Option (Bool × List Char) → Option Float
  | none => scale (UInt64.ofNat significand).toFloat shift
  | some (negative, ds) =>
      let size := Decimal.value ds
      if size ≤ maxExponent then
        scale (UInt64.ofNat significand).toFloat
          (if negative then shift - size else shift + size)
      else if negative || significand == 0 then some 0
      else none

def double? (n : Numeral) : Option Float :=
  let (significand, excess) := gather 0 n.whole
  let (significand, dropped) := gather significand n.fraction
  let shift : Int := excess - (n.fraction.length - dropped : Nat)
  (magnitude? significand shift n.exponent).map fun x => if n.negative then -x else x

end Numeral

end PrizeDraw
