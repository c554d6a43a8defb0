import PrizeDraw.Proofs.Codec

namespace PrizeDraw

namespace Wire

theorem toNat_join (a b : UInt8) :
    (a.toUInt16 <<< 8 ||| b.toUInt16).toNat = a.toNat * 256 + b.toNat := by
  have ha := a.toNat_lt
  have hb := b.toNat_lt
  have hshift : a.toNat <<< 8 % 65536 = a.toNat <<< 8 := by
    rw [Nat.shiftLeft_eq]
    omega
  have hjoin : a.toNat <<< 8 ||| b.toNat = a.toNat * 256 + b.toNat := by
    rw [← Nat.shiftLeft_add_eq_or_of_lt hb, Nat.shiftLeft_eq]
  simpa [hshift] using hjoin

theorem u16_join (a b : UInt8) : u16 (a.toUInt16 <<< 8 ||| b.toUInt16) = [a, b] := by
  have ha := a.toNat_lt
  have hb := b.toNat_lt
  have hword := toNat_join a b
  have hhigh : ((a.toUInt16 <<< 8 ||| b.toUInt16) >>> 8).toUInt8 = a := by
    apply UInt8.toNat_inj.1
    rw [UInt16.toNat_toUInt8, UInt16.toNat_shiftRight, hword, Nat.shiftRight_eq_div_pow]
    simp only [UInt16.reduceToNat, Nat.reduceMod, Nat.reducePow]
    omega
  have hlow : (a.toUInt16 <<< 8 ||| b.toUInt16).toUInt8 = b := by
    apply UInt8.toNat_inj.1
    rw [UInt16.toNat_toUInt8, hword]
    omega
  rw [u16, hhigh, hlow]

end Wire

namespace RewardItem

theorem exists_read (bytes : Bytes) (h : width ≤ bytes.length) :
    ∃ item, read bytes = (some item, bytes.drop width) ∧
      item.encode ++ bytes.drop width = bytes := by
  match bytes with
  | a :: b :: c :: d :: e :: rest =>
      refine ⟨_, rfl, ?_⟩
      simp only [encode, Wire.u16_join]
      rfl
  | [] | [_] | [_, _] | [_, _, _] | [_, _, _, _] => simp [width] at h

end RewardItem

namespace Pending

theorem length_rest {count : Nat} {bytes : Bytes}
    (h : bytes.length = (count + 1) * RewardItem.width) :
    (bytes.drop RewardItem.width).length = count * RewardItem.width := by
  rw [List.length_drop, h, Nat.succ_mul, Nat.add_sub_cancel]

theorem encode_readItems {count : Nat} {bytes : Bytes}
    (h : bytes.length = count * RewardItem.width) :
    (readItems count bytes).length = count ∧
      (readItems count bytes).flatMap RewardItem.encode = bytes := by
  induction count generalizing bytes with
  | zero => exact ⟨rfl, (List.length_eq_zero_iff.1 (by simpa using h)).symm⟩
  | succ count ih =>
      obtain ⟨item, hread, hbytes⟩ := RewardItem.exists_read bytes (by rw [h, Nat.succ_mul]; omega)
      obtain ⟨hcount, hrest⟩ := ih (length_rest h)
      rw [readItems, hread]
      dsimp only
      refine ⟨by rw [List.length_cons, hcount], ?_⟩
      rw [List.flatMap_cons, hrest, hbytes]

theorem read_at {count : Nat} {bytes : Bytes} (h : bytes.length = count * RewardItem.width)
    {k : Nat} (hk : k < count) :
    ∃ item, (readItems count bytes)[k]? = some item ∧
      RewardItem.read (bytes.drop (5 * k)) = (some item, bytes.drop (5 * (k + 1))) := by
  induction count generalizing bytes k with
  | zero => exact absurd hk (Nat.not_lt_zero k)
  | succ count ih =>
      obtain ⟨first, hread, -⟩ := RewardItem.exists_read bytes (by rw [h, Nat.succ_mul]; omega)
      rw [readItems, hread]
      cases k with
      | zero => exact ⟨first, rfl, hread⟩
      | succ k =>
          obtain ⟨item, hitem, hlater⟩ := ih (length_rest h) (Nat.lt_of_succ_lt_succ hk)
          have hnext (j : Nat) : RewardItem.width + 5 * j = 5 * (j + 1) := Nat.add_comm _ _
          rw [List.drop_drop, List.drop_drop, hnext, hnext] at hlater
          exact ⟨item, hitem, hlater⟩

def WellSized : Bytes → Prop
  | [] => True
  | count :: body => (count :: body).length = 1 + 5 * count.toNat

theorem wellSized_cons_iff {count : UInt8} {body : Bytes} :
    WellSized (count :: body) ↔ body.length = count.toNat * RewardItem.width := by
  simp only [WellSized, List.length_cons, RewardItem.width]
  omega

theorem decode_of_wellSized {bytes : Bytes} (h : WellSized bytes) :
    ∃ pending, decode bytes = .ok pending ∧
      pending.items.length = (bytes.head?.elim 0 UInt8.toNat) ∧
      (bytes ≠ [] → pending.encode = bytes) := by
  cases bytes with
  | nil => exact ⟨empty, rfl, rfl, fun hne => absurd rfl hne⟩
  | cons count body =>
      have hbody := wellSized_cons_iff.1 h
      obtain ⟨hcount, hitems⟩ := encode_readItems hbody
      refine ⟨_, if_pos hbody, hcount, fun _ => ?_⟩
      simp only [encode, size, hcount, hitems, UInt8.ofNat_toNat]

theorem decode_of_not_wellSized {bytes : Bytes} (h : ¬ WellSized bytes) :
    decode bytes = .error (.inventoryCorrupt bytes.length) := by
  cases bytes with
  | nil => exact absurd trivial h
  | cons count body => exact if_neg fun hbody => h (wellSized_cons_iff.2 hbody)

theorem wellSized_of_decode_ok {bytes : Bytes} {pending : Pending}
    (h : decode bytes = .ok pending) : WellSized bytes := by
  cases bytes with
  | nil => trivial
  | cons count body =>
      rw [decode] at h
      split at h
      · rename_i hbody
        exact wellSized_cons_iff.2 hbody
      · cases h

theorem exists_decode_iff {bytes : Bytes} :
    (∃ pending, decode bytes = .ok pending) ↔ WellSized bytes := by
  refine ⟨fun ⟨pending, h⟩ => wellSized_of_decode_ok h, fun h => ?_⟩
  obtain ⟨pending, hpending, -⟩ := decode_of_wellSized h
  exact ⟨pending, hpending⟩

theorem decode_eq_error_iff {bytes : Bytes} {fault : Fault} :
    decode bytes = .error fault ↔
      ¬ WellSized bytes ∧ fault = .inventoryCorrupt bytes.length := by
  refine ⟨fun h => ?_, fun ⟨hbad, heq⟩ => heq ▸ decode_of_not_wellSized hbad⟩
  have hbad : ¬ WellSized bytes := by
    intro hgood
    obtain ⟨pending, hpending⟩ := exists_decode_iff.2 hgood
    rw [hpending] at h
    cases h
  rw [decode_of_not_wellSized hbad] at h
  cases h
  exact ⟨hbad, rfl⟩

theorem ofItems_eq_ok_iff {items : List RewardItem} {pending : Pending} :
    ofItems items = .ok pending ↔ items.length ≤ 255 ∧ pending.items = items := by
  obtain ⟨held, fits⟩ := pending
  unfold ofItems
  split
  · rename_i hfits
    simp only [Except.ok.injEq, mk.injEq]
    exact ⟨fun heq => ⟨hfits, heq.symm⟩, fun heq => heq.2.symm⟩
  · rename_i hfull
    constructor
    · intro hok
      cases hok
    · intro heq
      exact absurd heq.1 hfull

theorem ofItems_eq_error_iff {items : List RewardItem} {fault : Fault} :
    ofItems items = .error fault ↔
      255 < items.length ∧ fault = .inventoryOverflow items.length := by
  unfold ofItems
  split
  · rename_i hfits
    constructor
    · intro herror
      cases herror
    · intro heq
      exact absurd heq.1 (Nat.not_lt.2 hfits)
  · rename_i hfull
    simp only [Except.error.injEq]
    exact ⟨fun heq => ⟨Nat.lt_of_not_le hfull, heq.symm⟩, fun heq => heq.2.symm⟩

theorem prepend_eq_ok_iff {old pending : Pending} {items : List RewardItem} :
    old.prepend items = .ok pending ↔
      items.length + old.items.length ≤ 255 ∧ pending.items = items ++ old.items := by
  rw [prepend, ofItems_eq_ok_iff, List.length_append]

theorem prepend_eq_error_iff {old : Pending} {items : List RewardItem} {fault : Fault} :
    old.prepend items = .error fault ↔ 255 < items.length + old.items.length ∧
      fault = .inventoryOverflow (items.length + old.items.length) := by
  rw [prepend, ofItems_eq_error_iff, List.length_append]

theorem stored_form_exact :
    (∀ items : List RewardItem, items.length ≤ 255 →
      ∃ pending, ofItems items = .ok pending ∧ pending.items = items ∧
        pending.encode.length = 1 + 5 * items.length ∧ decode pending.encode = .ok pending) ∧
    (∀ bytes : Bytes, (∃ pending, decode bytes = .ok pending) ↔ WellSized bytes) ∧
    (∀ (bytes : Bytes) (pending : Pending), decode bytes = .ok pending →
      pending.items.length = bytes.head?.elim 0 UInt8.toNat ∧
        (bytes ≠ [] → pending.encode = bytes)) ∧
    (∀ (bytes : Bytes) (fault : Fault), decode bytes = .error fault ↔
      ¬ WellSized bytes ∧ fault = .inventoryCorrupt bytes.length) ∧
    (∀ (count : UInt8) (body : Bytes), WellSized (count :: body) → ∀ k < count.toNat,
      ∃ item, (readItems count.toNat body)[k]? = some item ∧
        RewardItem.read (body.drop (5 * k)) = (some item, body.drop (5 * (k + 1)))) ∧
    (∀ (items : List RewardItem) (pending : Pending), ofItems items = .ok pending ↔
      items.length ≤ 255 ∧ pending.items = items) ∧
    (∀ (items : List RewardItem) (fault : Fault), ofItems items = .error fault ↔
      255 < items.length ∧ fault = .inventoryOverflow items.length) ∧
    (∀ (old pending : Pending) (items : List RewardItem), old.prepend items = .ok pending ↔
      items.length + old.items.length ≤ 255 ∧ pending.items = items ++ old.items) ∧
    (∀ (old : Pending) (items : List RewardItem) (fault : Fault),
      old.prepend items = .error fault ↔ 255 < items.length + old.items.length ∧
        fault = .inventoryOverflow (items.length + old.items.length)) ∧
    (∀ pending : Pending, pending.split.1.items = pending.items.take 36 ∧
      pending.split.2.items = pending.items.drop 36) ∧
    (∀ pending : Pending, ∃ count body, pending.encode = count :: body ∧
      count.toNat = pending.items.length ∧ count.toNat ≤ 255) := by
  refine ⟨?_, fun _ => exists_decode_iff, ?_, fun _ _ => decode_eq_error_iff, ?_,
    fun _ _ => ofItems_eq_ok_iff, fun _ _ => ofItems_eq_error_iff, fun _ _ _ => prepend_eq_ok_iff,
    fun _ _ _ => prepend_eq_error_iff, fun _ => ⟨rfl, rfl⟩, ?_⟩
  · intro items hfits
    exact ⟨⟨items, hfits⟩, ofItems_eq_ok_iff.2 ⟨hfits, rfl⟩, rfl, length_encode _,
      decode_encode _⟩
  · intro bytes pending h
    obtain ⟨read, hread, hrest⟩ := decode_of_wellSized (wellSized_of_decode_ok h)
    rw [h] at hread
    cases hread
    exact hrest
  · intro count body h k hk
    exact read_at (wellSized_cons_iff.1 h) hk
  · intro pending
    exact ⟨_, _, rfl, toNat_count pending, Nat.le_of_lt_succ (UInt8.toNat_lt _)⟩

theorem stored_form_exact_two :
    let items : List RewardItem := [⟨7, 0x1234, 2⟩, ⟨1, 256, 0⟩]
    let bytes : Bytes := [2, 7, 0x12, 0x34, 0, 2, 1, 1, 0, 0, 0]
    (items.length ≤ 255 ∧ WellSized bytes ∧ ¬ WellSized bytes.tail) ∧
      (∃ pending, ofItems items = .ok pending ∧ decode pending.encode = .ok pending) ∧
      (∃ pending, decode bytes = .ok pending ∧ pending.items.length = 2 ∧
        pending.encode = bytes) ∧
      decode bytes.tail = .error (.inventoryCorrupt 10) ∧
      RewardItem.read (bytes.tail.drop 5) = (some ⟨1, 256, 0⟩, []) := by
  intro items bytes
  have hfits : items.length ≤ 255 := by decide
  have hgood : WellSized bytes := rfl
  have hbad : ¬ WellSized bytes.tail := by simp [WellSized, bytes]
  obtain ⟨hround, hread, hback, hcorrupt, heach, -⟩ := stored_form_exact
  obtain ⟨made, hmade, -, -, hdecoded⟩ := hround items hfits
  obtain ⟨pending, hpending⟩ := (hread bytes).2 hgood
  obtain ⟨hlength, hencode⟩ := hback bytes pending hpending
  obtain ⟨item, hitem, hlast⟩ := heach 2 bytes.tail hgood 1 (by decide)
  have hsame : some item = some ⟨1, 256, 0⟩ := hitem.symm.trans (by decide)
  refine ⟨⟨hfits, hgood, hbad⟩, ⟨made, hmade, hdecoded⟩,
    ⟨pending, hpending, hlength, hencode (List.cons_ne_nil _ _)⟩,
    (hcorrupt bytes.tail _).2 ⟨hbad, rfl⟩, ?_⟩
  rw [← hsame]
  exact hlast

end Pending

end PrizeDraw
