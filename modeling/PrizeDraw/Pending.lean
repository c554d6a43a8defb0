import PrizeDraw.Fault

namespace PrizeDraw

namespace Pending

def maxItems : Nat := 255

def maxEmitted : Nat := 36

def maxEmittedBytes : Nat := 1 + maxEmitted * RewardItem.width

end Pending

structure Pending where
  items : List RewardItem
  fits : items.length ≤ Pending.maxItems
  deriving DecidableEq, Repr

namespace Pending

def empty : Pending := ⟨[], by decide⟩

def ofItems (items : List RewardItem) : Except Fault Pending :=
  if h : items.length ≤ maxItems then .ok ⟨items, h⟩
  else .error (.inventoryOverflow items.length)

def size (pending : Pending) : Nat := pending.items.length

def isEmpty (pending : Pending) : Bool := pending.items.isEmpty

def encodedSize (pending : Pending) : Nat := 1 + pending.size * RewardItem.width

def encode (pending : Pending) : Bytes :=
  UInt8.ofNat pending.size :: pending.items.flatMap RewardItem.encode

def readItems : Nat → Bytes → List RewardItem
  | 0, _ => []
  | count + 1, bytes =>
      match RewardItem.read bytes with
      | (none, _) => []
      | (some item, rest) => item :: readItems count rest

theorem length_readItems_le (count : Nat) (bytes : Bytes) :
    (readItems count bytes).length ≤ count := by
  induction count generalizing bytes with
  | zero => simp [readItems]
  | succ count ih =>
      simp only [readItems]
      split
      · simp
      · simpa using ih _

def decode : Bytes → Except Fault Pending
  | [] => .ok empty
  | count :: body =>
      if body.length = count.toNat * RewardItem.width then
        .ok ⟨readItems count.toNat body,
          Nat.le_trans (length_readItems_le _ _) (Nat.le_of_lt_succ count.toNat_lt)⟩
      else .error (.inventoryCorrupt (count :: body).length)

def prepend (pending : Pending) (items : List RewardItem) : Except Fault Pending :=
  ofItems (items ++ pending.items)

def split (pending : Pending) : Pending × Pending :=
  (⟨pending.items.take maxEmitted,
      Nat.le_trans (List.length_take_le' maxEmitted pending.items) pending.fits⟩,
    ⟨pending.items.drop maxEmitted,
      Nat.le_trans (by simp) pending.fits⟩)

def stored (pending : Pending) : Option Bytes :=
  if pending.isEmpty then none else some pending.encode

def ofStored : Option Bytes → Except Fault Pending
  | none => .ok empty
  | some bytes => decode bytes

end Pending

structure Drained where
  emitted : Pending
  remaining : Pending
  deriving DecidableEq, Repr

end PrizeDraw
