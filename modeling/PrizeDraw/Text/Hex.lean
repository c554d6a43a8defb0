import PrizeDraw.Wire

namespace PrizeDraw

namespace Hex

def digit (d : Nat) : Char := if d < 10 then Char.ofNat (48 + d) else Char.ofNat (87 + d)

def digitValue? (c : Char) : Option Nat :=
  if c.isDigit then some (c.toNat - 48)
  else if 'a' ≤ c ∧ c ≤ 'f' then some (c.toNat - 87)
  else if 'A' ≤ c ∧ c ≤ 'F' then some (c.toNat - 55)
  else none

def value? (cs : List Char) : Option Nat :=
  (cs.mapM digitValue?).map fun ds => ds.foldl (fun n d => n * 16 + d) 0

def digits : Nat → Nat → List Char
  | 0, _ => []
  | count + 1, n => digits count (n / 16) ++ [digit (n % 16)]

def ofByte (b : UInt8) : List Char := [digit (b.toNat / 16), digit (b.toNat % 16)]

def chars (bs : Bytes) : List Char := bs.flatMap ofByte

def bytes? : List Char → Option Bytes
  | [] => some []
  | a :: b :: rest => do
      let high ← digitValue? a
      let low ← digitValue? b
      return UInt8.ofNat (high * 16 + low) :: (← bytes? rest)
  | [_] => none

def ofString? (s : String) : Option Bytes := bytes? s.toList

def text (bs : Bytes) : String := String.ofList (chars bs)

end Hex

end PrizeDraw
