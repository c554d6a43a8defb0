namespace PrizeDraw

abbrev Bytes := List UInt8

namespace Wire

def u16 (v : UInt16) : Bytes := [(v >>> 8).toUInt8, v.toUInt8]

def u32 (v : UInt32) : Bytes :=
  [(v >>> 24).toUInt8, (v >>> 16).toUInt8, (v >>> 8).toUInt8, v.toUInt8]

def flag (b : Bool) : Bytes := [if b then 1 else 0]

inductive Field where
  | u8 (v : UInt8)
  | u16 (v : UInt16)
  | u32 (v : UInt32)
  | flag (b : Bool)
  | raw (bs : Bytes)
  deriving DecidableEq, Repr

def Field.encode : Field → Bytes
  | .u8 v => [v]
  | .u16 v => Wire.u16 v
  | .u32 v => Wire.u32 v
  | .flag b => Wire.flag b
  | .raw bs => bs

def frame (fields : List Field) : Bytes := fields.flatMap Field.encode

def readU8 : Bytes → Option UInt8 × Bytes
  | a :: rest => (some a, rest)
  | [] => (none, [])

def readU16 : Bytes → Option UInt16 × Bytes
  | a :: b :: rest => (some (a.toUInt16 <<< 8 ||| b.toUInt16), rest)
  | short => (none, short)

def readU32 : Bytes → Option UInt32 × Bytes
  | a :: b :: c :: d :: rest =>
      (some (a.toUInt32 <<< 24 ||| b.toUInt32 <<< 16 ||| c.toUInt32 <<< 8 ||| d.toUInt32), rest)
  | short => (none, short)

end Wire

end PrizeDraw
