import PrizeDraw.Text.Hex
import PrizeDraw.Wire.Text

namespace PrizeDraw

namespace Percent

def escaped? (mark high low : Char) : Option UInt8 := do
  if mark ≠ '%' then none
  let h ← Hex.digitValue? high
  let l ← Hex.digitValue? low
  return UInt8.ofNat (h * 16 + l)

def decode : List Char → Bytes
  | [] => []
  | [c] => String.utf8EncodeChar c
  | [c, d] => String.utf8EncodeChar c ++ String.utf8EncodeChar d
  | c :: d :: e :: rest =>
      match escaped? c d e with
      | some b => b :: decode rest
      | none => String.utf8EncodeChar c ++ decode (d :: e :: rest)

def text? (cs : List Char) : Option String := String.fromUTF8? (ByteArray.mk (decode cs).toArray)

end Percent

end PrizeDraw
