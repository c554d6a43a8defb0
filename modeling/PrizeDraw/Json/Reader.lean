import PrizeDraw.Json
import PrizeDraw.Text.Hex

namespace PrizeDraw

namespace Json

namespace Reader

def isBlank (c : Char) : Bool := c == ' ' || c == '\n' || c == '\t' || c == '\r'

def skipBlank (cs : List Char) : List Char := cs.dropWhile isBlank

def spanDigits (cs : List Char) : List Char × List Char :=
  (cs.takeWhile Char.isDigit, cs.dropWhile Char.isDigit)

def whole? (cs : List Char) : Option (List Char × List Char) :=
  match spanDigits cs with
  | ([], _) => none
  | (['0'], rest) => some (['0'], rest)
  | ('0' :: _, _) => none
  | (ds, rest) => some (ds, rest)

def digits? (cs : List Char) : Option (List Char × List Char) :=
  match spanDigits cs with
  | ([], _) => none
  | (ds, rest) => some (ds, rest)

def fraction? : List Char → Option (List Char × List Char)
  | '.' :: rest => digits? rest
  | cs => some ([], cs)

def signedDigits? : List Char → Option ((Bool × List Char) × List Char)
  | '-' :: rest => (digits? rest).map fun (ds, rest) => ((true, ds), rest)
  | '+' :: rest => (digits? rest).map fun (ds, rest) => ((false, ds), rest)
  | cs => (digits? cs).map fun (ds, rest) => ((false, ds), rest)

def exponent? : List Char → Option (Option (Bool × List Char) × List Char)
  | c :: rest =>
      if c == 'e' || c == 'E' then
        (signedDigits? rest).map fun (exponent, rest) => (some exponent, rest)
      else some (none, c :: rest)
  | [] => some (none, [])

def unsigned? (negative : Bool) (cs : List Char) : Option (Numeral × List Char) := do
  let (whole, rest) ← whole? cs
  let (fraction, rest) ← fraction? rest
  let (exponent, rest) ← exponent? rest
  return ({ negative, whole, fraction, exponent }, rest)

def numeral? : List Char → Option (Numeral × List Char)
  | '-' :: rest => unsigned? true rest
  | cs => unsigned? false cs

def isHighHalf (unit : Nat) : Bool := decide (0xd800 ≤ unit) && decide (unit < 0xdc00)

def isLowHalf (unit : Nat) : Bool := decide (0xdc00 ≤ unit) && decide (unit < 0xe000)

def joinHalves (high low : Nat) : Char :=
  Char.ofNat (0x10000 + (high - 0xd800) * 0x400 + (low - 0xdc00))

def escaped? (c : Char) : Option Char :=
  if c == '"' || c == '\\' || c == '/' then some c
  else if c == 'b' then some '\x08'
  else if c == 'f' then some '\x0c'
  else if c == 'n' then some '\n'
  else if c == 'r' then some '\r'
  else if c == 't' then some '\t'
  else none

inductive Piece where
  | char (c : Char)
  | unit (n : Nat)
  deriving DecidableEq, Repr

def pieces? : List Char → Option (List Piece × List Char)
  | '"' :: rest => some ([], rest)
  | '\\' :: 'u' :: a :: b :: c :: d :: rest => do
      let unit ← Hex.value? [a, b, c, d]
      let (pieces, rest) ← pieces? rest
      return (.unit unit :: pieces, rest)
  | '\\' :: c :: rest => do
      let c ← escaped? c
      let (pieces, rest) ← pieces? rest
      return (.char c :: pieces, rest)
  | c :: rest =>
      if c < ' ' then none
      else do
        let (pieces, rest) ← pieces? rest
        return (.char c :: pieces, rest)
  | [] => none

def characters? : List Piece → Option (List Char)
  | [] => some []
  | .char c :: rest => (characters? rest).map (c :: ·)
  | .unit high :: .unit low :: rest =>
      if isHighHalf high then
        if isLowHalf low then (characters? rest).map (joinHalves high low :: ·) else none
      else if isLowHalf high then none
      else (characters? (.unit low :: rest)).map (Char.ofNat high :: ·)
  | .unit n :: rest =>
      if isHighHalf n || isLowHalf n then none
      else (characters? rest).map (Char.ofNat n :: ·)

def quoted? (cs : List Char) : Option (Option String × List Char) := do
  let (pieces, rest) ← pieces? cs
  return ((characters? pieces).map String.ofList, rest)

mutual

def value? : Nat → List Char → Option (Json × List Char)
  | 0, _ => none
  | fuel + 1, cs =>
      match skipBlank cs with
      | 'n' :: 'u' :: 'l' :: 'l' :: rest => some (.null, rest)
      | 't' :: 'r' :: 'u' :: 'e' :: rest => some (.bool true, rest)
      | 'f' :: 'a' :: 'l' :: 's' :: 'e' :: rest => some (.bool false, rest)
      | '"' :: rest => do
          let (s, rest) ← quoted? rest
          return (.string s, rest)
      | '[' :: rest =>
          match skipBlank rest with
          | ']' :: rest => some (.array [], rest)
          | rest => do
              let (items, rest) ← items? fuel rest
              return (.array items, rest)
      | '{' :: rest =>
          match skipBlank rest with
          | '}' :: rest => some (.object [], rest)
          | rest => do
              let (members, rest) ← members? fuel rest
              return (.object members, rest)
      | cs => do
          let (n, rest) ← numeral? cs
          return (.number n, rest)

def items? : Nat → List Char → Option (List Json × List Char)
  | 0, _ => none
  | fuel + 1, cs => do
      let (item, rest) ← value? fuel cs
      match skipBlank rest with
      | ']' :: rest => some ([item], rest)
      | ',' :: rest => do
          let (items, rest) ← items? fuel rest
          return (item :: items, rest)
      | _ => none

def members? : Nat → List Char → Option (List (Option String × Json) × List Char)
  | 0, _ => none
  | fuel + 1, cs =>
      match skipBlank cs with
      | '"' :: rest => do
          let (name, rest) ← quoted? rest
          match skipBlank rest with
          | ':' :: rest => do
              let (value, rest) ← value? fuel rest
              match skipBlank rest with
              | '}' :: rest => some ([(name, value)], rest)
              | ',' :: rest => do
                  let (members, rest) ← members? fuel rest
                  return ((name, value) :: members, rest)
              | _ => none
          | _ => none
      | _ => none

end

end Reader

/-- Steps that suffice for a text: none goes by without taking a character or opening a value. -/
def enough (cs : List Char) : Nat := 2 * cs.length + 2

def ofChars? (cs : List Char) : Option Json := do
  let (value, rest) ← Reader.value? (enough cs) cs
  if (Reader.skipBlank rest).isEmpty then return value else none

def parse? (s : String) : Option Json := ofChars? s.toList

end Json

end PrizeDraw
