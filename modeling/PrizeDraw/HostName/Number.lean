import PrizeDraw.Decimal
import PrizeDraw.Text.Hex
import PrizeDraw.Text.Parts

namespace PrizeDraw

namespace HostName

namespace Number

def isByte (cs : List Char) : Bool :=
  !cs.isEmpty && decide (cs.length ≤ 3) && cs.all Char.isDigit &&
    (cs.length == 1 || cs.head? != some '0') &&
    decide (cs.foldl (fun n c => n * 10 + Decimal.digitValue c) 0 ≤ 255)

def isShort (cs : List Char) : Bool :=
  let parts := Parts.split '.' cs
  parts.length == 4 && parts.all isByte

def isGroup (cs : List Char) : Bool :=
  !cs.isEmpty && decide (cs.length ≤ 4) && cs.all fun c => (Hex.digitValue? c).isSome

def groups? (bytesAllowed : Bool) : List (List Char) → Option Nat
  | [] => some 0
  | part :: rest =>
      if isGroup part then (groups? bytesAllowed rest).map (· + 1)
      else if rest.isEmpty && bytesAllowed && isShort part then some 2
      else none

def side? (bytesAllowed : Bool) (cs : List Char) : Option Nat :=
  if cs.isEmpty then some 0 else groups? bytesAllowed (Parts.split ':' cs)

def atGap? : List Char → Option (List Char × List Char)
  | ':' :: ':' :: rest => some ([], rest)
  | c :: rest => (atGap? rest).map fun (left, right) => (c :: left, right)
  | [] => none

def isLong (cs : List Char) : Bool :=
  match atGap? cs with
  | none => side? true cs == some 8
  | some (left, right) =>
      match side? false left, side? true right with
      | some a, some b => decide (a + b ≤ 7)
      | _, _ => false

def inBase? (base : Nat) (cs : List Char) : Option Nat := do
  let digits ← cs.mapM Hex.digitValue?
  if digits.all fun d => decide (d < base) then
    some (digits.foldl (fun n d => n * base + d) 0)
  else none

def part? : List Char → Option Nat
  | [] => none
  | '0' :: 'x' :: rest => inBase? 16 rest
  | '0' :: c :: rest => inBase? 8 (c :: rest)
  | cs => inBase? 10 cs

def largestLast : Nat → Nat
  | 0 => UInt32.size - 1
  | 1 => 16777215
  | 2 => 65535
  | _ => 255

def withoutLastEmpty (labels : List (List Char)) : List (List Char) :=
  if labels.getLast? = some [] then labels.dropLast else labels

def endsInNumber (labels : List (List Char)) : Bool :=
  match (withoutLastEmpty labels).getLast? with
  | some last => (!last.isEmpty && last.all Char.isDigit) || (part? last).isSome
  | none => false

def isNumber (labels : List (List Char)) : Bool :=
  let labels := withoutLastEmpty labels
  match labels.mapM part? with
  | some parts =>
      decide (parts.length ≤ 4) && parts.dropLast.all (fun n => decide (n ≤ 255)) &&
        (parts.getLast?.all fun n => decide (n ≤ largestLast (parts.length - 1)))
  | none => false

end Number

end HostName

end PrizeDraw
