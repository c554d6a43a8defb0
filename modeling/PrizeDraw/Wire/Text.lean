import PrizeDraw.Wire

namespace PrizeDraw

namespace Wire

def maxTextBytes : Nat := 255

/-- The longest run of leading characters whose encoding fits into a number of bytes. -/
def clip : Nat → List Char → List Char
  | _, [] => []
  | room, c :: rest => if c.utf8Size ≤ room then c :: clip (room - c.utf8Size) rest else []

def utf8 (chars : List Char) : Bytes := chars.flatMap String.utf8EncodeChar

def text (s : String) : Bytes :=
  let bytes := utf8 (clip maxTextBytes s.toList)
  UInt8.ofNat bytes.length :: bytes

end Wire

end PrizeDraw
