import PrizeDraw.Decimal

namespace PrizeDraw

structure Numeral where
  negative : Bool := false
  whole : List Char
  fraction : List Char := []
  exponent : Option (Bool × List Char) := none
  deriving DecidableEq, Repr, Inhabited

inductive Json where
  | null
  | bool (b : Bool)
  | number (n : Numeral)
  | string (s : Option String)
  | array (items : List Json)
  | object (members : List (Option String × Json))
  deriving Inhabited

namespace Numeral

def ofNat (n : Nat) : Numeral := { whole := Decimal.digits n }

def ofInt (n : Int) : Numeral := { negative := decide (n < 0), whole := Decimal.digits n.natAbs }

def integer? (n : Numeral) : Option Int :=
  if n.fraction.isEmpty && n.exponent.isNone then
    let magnitude := Decimal.value n.whole
    if n.negative then
      if magnitude = 0 then none else some (-(magnitude : Int))
    else some magnitude
  else none

end Numeral

namespace Json

def text (s : String) : Json := .string (some s)

def ofNat (n : Nat) : Json := .number (Numeral.ofNat n)

def ofInt (n : Int) : Json := .number (Numeral.ofInt n)

def ofMembers (members : List (String × Json)) : Json :=
  .object (members.map fun (name, value) => (some name, value))

def ofOption {α : Type} (encode : α → Json) : Option α → Json
  | none => .null
  | some a => encode a

end Json

end PrizeDraw
