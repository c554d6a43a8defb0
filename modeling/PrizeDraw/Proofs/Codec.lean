import PrizeDraw.Pending

namespace PrizeDraw

namespace Wire

theorem join_halves (v : UInt16) :
    (v >>> 8).toUInt8.toUInt16 <<< 8 ||| v.toUInt8.toUInt16 = v := by
  apply UInt16.toNat_inj.1
  have hv := v.toNat_lt
  have hlow : v.toNat % 256 < 2 ^ 8 := Nat.mod_lt _ (by decide)
  have hhigh : v.toNat / 256 % 256 = v.toNat / 256 := Nat.mod_eq_of_lt (by omega)
  have hshift : v.toNat / 256 * 256 % 65536 = (v.toNat / 256) <<< 8 := by
    rw [Nat.shiftLeft_eq]
    omega
  have hjoin : (v.toNat / 256) <<< 8 ||| v.toNat % 256 = v.toNat := by
    rw [← Nat.shiftLeft_add_eq_or_of_lt hlow, Nat.shiftLeft_eq]
    omega
  simpa [Nat.shiftRight_eq_div_pow, Nat.shiftLeft_eq, hhigh, hshift] using hjoin

theorem readU16_u16 (v : UInt16) (rest : Bytes) : readU16 (u16 v ++ rest) = (some v, rest) := by
  simp only [u16, List.cons_append, List.nil_append, readU16, join_halves]

theorem join_quarters (v : UInt32) :
    (v >>> 24).toUInt8.toUInt32 <<< 24 ||| (v >>> 16).toUInt8.toUInt32 <<< 16 |||
      (v >>> 8).toUInt8.toUInt32 <<< 8 ||| v.toUInt8.toUInt32 = v := by
  apply UInt32.toNat_inj.1
  apply Nat.eq_of_testBit_eq
  intro i
  simp only [UInt32.toNat_or, UInt32.toNat_shiftLeft, UInt8.toNat_toUInt32, UInt32.toNat_toUInt8,
    UInt32.toNat_shiftRight, Nat.testBit_or, Nat.testBit_mod_two_pow, Nat.testBit_shiftLeft,
    Nat.testBit_shiftRight, UInt32.reduceToNat, Nat.reduceMod]
  have hbit (h : 32 ≤ i) : v.toNat.testBit i = false :=
    Nat.testBit_lt_two_pow (Nat.lt_of_lt_of_le v.toNat_lt (Nat.pow_le_pow_right (by decide) h))
  -- Below the 32nd bit, each byte answers for the eight bits that it brought along.
  grind

theorem readU32_u32 (v : UInt32) (rest : Bytes) : readU32 (u32 v ++ rest) = (some v, rest) := by
  simp only [u32, List.cons_append, List.nil_append, readU32, join_quarters]

end Wire

namespace RewardItem

@[simp] theorem length_encode (item : RewardItem) : item.encode.length = width := rfl

theorem read_encode (item : RewardItem) (rest : Bytes) :
    read (item.encode ++ rest) = (some item, rest) := by
  have hbytes : item.encode ++ rest =
      item.itemType :: (Wire.u16 item.itemId ++ (Wire.u16 item.quantity ++ rest)) := by
    simp [encode]
  rw [hbytes]
  simp only [read, Wire.readU8, Wire.readU16_u16]

theorem length_flatMap_encode (items : List RewardItem) :
    (items.flatMap encode).length = items.length * width := by
  induction items with
  | nil => rfl
  | cons item rest ih =>
      rw [List.flatMap_cons, List.length_append, ih, length_encode, List.length_cons,
        Nat.succ_mul, Nat.add_comm]

end RewardItem

namespace Pending

theorem readItems_encode (items : List RewardItem) :
    readItems items.length (items.flatMap RewardItem.encode) = items := by
  induction items with
  | nil => rfl
  | cons item rest ih =>
      rw [List.flatMap_cons, List.length_cons, readItems, RewardItem.read_encode]
      dsimp only
      rw [ih]

theorem toNat_count (pending : Pending) : (UInt8.ofNat pending.size).toNat = pending.size :=
  UInt8.toNat_ofNat_of_lt' (Nat.lt_succ_of_le pending.fits)

theorem length_encode (pending : Pending) : pending.encode.length = 1 + 5 * pending.size := by
  rw [encode, List.length_cons, RewardItem.length_flatMap_encode, RewardItem.width, size]
  omega

theorem decode_encode (pending : Pending) : decode pending.encode = .ok pending := by
  obtain ⟨items, fits⟩ := pending
  have hcount := toNat_count ⟨items, fits⟩
  simp only [size] at hcount
  simp only [encode, decode, size, hcount, RewardItem.length_flatMap_encode, if_true,
    readItems_encode]

theorem ofStored_stored (pending : Pending) : ofStored pending.stored = .ok pending := by
  unfold stored
  split
  · rename_i hempty
    obtain ⟨items, fits⟩ := pending
    obtain rfl : items = [] := List.isEmpty_iff.1 hempty
    rfl
  · exact decode_encode pending

theorem stored_eq_none_iff {pending : Pending} : pending.stored = none ↔ pending.items = [] := by
  unfold stored isEmpty
  rw [← List.isEmpty_iff]
  split <;> simp_all

theorem items_of_prepend_ok {pending merged : Pending} {items : List RewardItem}
    (h : pending.prepend items = .ok merged) : merged.items = items ++ pending.items := by
  unfold prepend ofItems at h
  split at h
  · cases h; rfl
  · cases h

end Pending

end PrizeDraw
