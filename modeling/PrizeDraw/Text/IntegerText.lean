import PrizeDraw.Decimal

namespace PrizeDraw

inductive IntegerFault where
  | empty
  | invalidDigit
  | tooLarge
  | tooSmall
  deriving DecidableEq, Repr

namespace IntegerFault

def message : IntegerFault → String
  | .empty => "cannot parse integer from empty string"
  | .invalidDigit => "invalid digit found in string"
  | .tooLarge => "number too large to fit in target type"
  | .tooSmall => "number too small to fit in target type"

end IntegerFault

namespace IntegerText

def magnitude (bound : Nat) (beyond : IntegerFault) : Nat → List Char → Except IntegerFault Nat
  | n, [] => .ok n
  | n, c :: rest =>
      if c.isDigit then
        let next := n * 10 + Decimal.digitValue c
        if next ≤ bound then magnitude bound beyond next rest else .error beyond
      else .error .invalidDigit

structure Range where
  low : Nat
  high : Nat
  deriving DecidableEq, Repr

namespace Range

def i64 : Range := ⟨9223372036854775808, 9223372036854775807⟩

def u64 : Range := ⟨0, UInt64.size - 1⟩

def u32 : Range := ⟨0, UInt32.size - 1⟩

def u8 : Range := ⟨0, UInt8.size - 1⟩

end Range

def positive (range : Range) (cs : List Char) : Except IntegerFault Int :=
  (magnitude range.high .tooLarge 0 cs).map Int.ofNat

def negative (range : Range) (cs : List Char) : Except IntegerFault Int :=
  (magnitude range.low .tooSmall 0 cs).map fun n => -(Int.ofNat n)

def read (range : Range) : List Char → Except IntegerFault Int
  | [] => .error .empty
  | ['+'] | ['-'] => .error .invalidDigit
  | '+' :: rest => positive range rest
  | '-' :: rest => if range.low = 0 then .error .invalidDigit else negative range rest
  | cs => positive range cs

end IntegerText

end PrizeDraw
