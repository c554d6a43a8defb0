import PrizeDraw.Wire

namespace PrizeDraw

structure RewardItem where
  itemType : UInt8
  itemId : UInt16
  quantity : UInt16
  deriving DecidableEq, Repr, Inhabited

namespace RewardItem

def width : Nat := 5

def encode (item : RewardItem) : Bytes :=
  item.itemType :: (Wire.u16 item.itemId ++ Wire.u16 item.quantity)

def read (bytes : Bytes) : Option RewardItem × Bytes :=
  match Wire.readU8 bytes with
  | (none, rest) => (none, rest)
  | (some itemType, rest) =>
      match Wire.readU16 rest with
      | (none, rest) => (none, rest)
      | (some itemId, rest) =>
          match Wire.readU16 rest with
          | (none, rest) => (none, rest)
          | (some quantity, rest) => (some ⟨itemType, itemId, quantity⟩, rest)

end RewardItem

structure DrawnItem where
  item : RewardItem
  rarity : UInt8
  deriving DecidableEq, Repr, Inhabited

namespace DrawnItem

def encode (drawn : DrawnItem) : Bytes := drawn.item.encode ++ [drawn.rarity]

end DrawnItem

end PrizeDraw
