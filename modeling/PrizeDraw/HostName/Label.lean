import PrizeDraw.HostName.Composition
import PrizeDraw.HostName.Direction
import PrizeDraw.HostName.Excluded
import PrizeDraw.HostName.Joining
import PrizeDraw.HostName.Punycode
import PrizeDraw.HostName.Replaced

namespace PrizeDraw

namespace HostName

def isAscii (c : Char) : Bool := decide (c.toNat < 128)

def isDenied (c : Char) : Bool :=
  decide (c.toNat ≤ 32) || c.toNat == 127 ||
    ['%', '#', '/', ':', '<', '>', '?', '@', '[', '\\', ']', '^', '|'].contains c

def plain? (cs : List Char) : Option (List Char) :=
  if cs.any fun c => excluded.has c.toNat then none
  else
    let codes := cs.flatMap fun c => (replacement? c.toNat).getD [c.toNat]
    let text := (composed codes).map Char.ofNat
    if text.any isDenied then none else some text

def codePrefix : List Char := ['x', 'n', '-', '-']

def maxPlain : Nat := 1000

def maxCoded : Nat := 2000

def startsWithMark : List Char → Bool
  | [] => false
  | c :: _ => isMark c.toNat

def isWellFormed (label : List Char) : Bool :=
  !startsWithMark label && areJoined [] (label.map Char.toNat)

def decoded? (coded : List Char) : Option (List Char) := do
  if maxCoded < coded.length then none
  let label ← Punycode.decode? coded
  if label.all isAscii || codePrefix.isPrefixOf label || plain? label != some label then none
  return label

def label? (label : List Char) : Option (List Char) := do
  let label ←
    if codePrefix.isPrefixOf label then
      if label.all isAscii then decoded? (label.drop codePrefix.length) else none
    else if label.all isAscii || decide (label.length ≤ maxPlain) then some label
    else none
  if isWellFormed label then some label else none

def labels? (cs : List Char) : Option (List (List Char)) := do
  let text ← plain? cs
  let labels ← (Parts.split '.' text).mapM label?
  if areDirected labels then some labels else none

end HostName

end PrizeDraw
