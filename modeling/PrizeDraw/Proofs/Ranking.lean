import Mathlib.Algebra.Ring.Nat
import PrizeDraw.Proofs.Dealing

namespace PrizeDraw

open scoped List

namespace Weight

def Negative (w : Weight) : Prop := 2 ^ 63 ≤ w.bits.toNat

def magnitude (w : Weight) : Nat := w.bits.toNat % 2 ^ 63

/-- The total order of doubles, by sign and magnitude. It tells the zeros and the NaNs apart. -/
inductive Precedes (a b : Weight) : Prop where
  | signs (ha : a.Negative) (hb : ¬b.Negative)
  | positive (ha : ¬a.Negative) (hb : ¬b.Negative) (h : a.magnitude < b.magnitude)
  | negative (ha : a.Negative) (hb : b.Negative) (h : b.magnitude < a.magnitude)

variable {a b c : Weight}

theorem toNat_rank (w : Weight) :
    w.rank.toNat =
      if w.bits.toNat < 2 ^ 63 then 2 ^ 63 + w.bits.toNat else 2 ^ 64 - 1 - w.bits.toNat := by
  have hsign : w.bits < signBit ↔ w.bits.toNat < 2 ^ 63 := UInt64.lt_iff_toNat_lt
  unfold rank
  simp only [hsign]
  split
  · rename_i hsmall
    rw [UInt64.toNat_or, Nat.or_comm]
    exact (Nat.shiftLeft_add_eq_or_of_lt hsmall 1).symm
  · exact UInt64.toNat_not w.bits

theorem precedes_iff : a.Precedes b ↔
    a.Negative ∧ ¬b.Negative ∨ ¬a.Negative ∧ ¬b.Negative ∧ a.magnitude < b.magnitude ∨
      a.Negative ∧ b.Negative ∧ b.magnitude < a.magnitude := by
  constructor
  · rintro (⟨ha, hb⟩ | ⟨ha, hb, h⟩ | ⟨ha, hb, h⟩)
    · exact .inl ⟨ha, hb⟩
    · exact .inr (.inl ⟨ha, hb, h⟩)
    · exact .inr (.inr ⟨ha, hb, h⟩)
  · rintro (⟨ha, hb⟩ | ⟨ha, hb, h⟩ | ⟨ha, hb, h⟩)
    · exact .signs ha hb
    · exact .positive ha hb h
    · exact .negative ha hb h

theorem rank_lt_iff : a.rank < b.rank ↔ a.Precedes b := by
  have ha := a.bits.toNat_lt
  have hb := b.bits.toNat_lt
  rw [UInt64.lt_iff_toNat_lt, toNat_rank, toNat_rank, precedes_iff, Negative, Negative, magnitude,
    magnitude]
  split <;> split <;> omega

theorem rank_inj : a.rank = b.rank ↔ a = b := by
  refine ⟨fun h => ?_, fun h => h ▸ rfl⟩
  have ha := a.bits.toNat_lt
  have hb := b.bits.toNat_lt
  have hrank := congrArg UInt64.toNat h
  rw [toNat_rank, toNat_rank] at hrank
  have hbits : a.bits = b.bits := by
    apply UInt64.toNat_inj.1
    split at hrank <;> split at hrank <;> omega
  cases a
  cases b
  exact congrArg Weight.mk hbits

theorem precedes_irrefl (w : Weight) : ¬w.Precedes w := fun h =>
  UInt64.lt_irrefl _ (rank_lt_iff.2 h)

theorem Precedes.trans (hab : a.Precedes b) (hbc : b.Precedes c) : a.Precedes c :=
  rank_lt_iff.1 (UInt64.lt_trans (rank_lt_iff.2 hab) (rank_lt_iff.2 hbc))

end Weight

namespace Records

variable {records : Records} {gacha : GachaId} {pool other : List Entry}

structure Arranged (records : Records) (gacha : GachaId) (pool : List Entry) : Prop where
  perm : pool ~ records.entries.values.filter fun entry =>
    entry.gacha == gacha && entry.entryType == 100
  ordered : pool.Pairwise fun a b => b.weight.Precedes a.weight ∨ a.weight = b.weight ∧ a.id < b.id

theorem Arranged.unique (h : records.Arranged gacha pool) (hother : records.Arranged gacha other) :
    pool = other := by
  refine List.Perm.eq_of_pairwise (fun a b _ _ hab hba => ?_) h.ordered hother.ordered
    (h.perm.trans hother.perm.symm)
  -- No two rows precede each other.
  exfalso
  obtain hab | ⟨hweight, hab⟩ := hab
  · obtain hba | ⟨hweight, -⟩ := hba
    · exact Weight.precedes_irrefl _ (hab.trans hba)
    · rw [hweight] at hab
      exact Weight.precedes_irrefl _ hab
  · obtain hba | ⟨-, hba⟩ := hba
    · rw [hweight] at hba
      exact Weight.precedes_irrefl _ hba
    · exact UInt32.lt_irrefl _ (UInt32.lt_trans hab hba)

theorem byWeightThenId_iff (a b : Entry) : byWeightThenId a b = true ↔
    b.weight.rank < a.weight.rank ∨ a.weight.rank = b.weight.rank ∧ a.id ≤ b.id := by
  simp [byWeightThenId]

theorem byWeightThenId_total (a b : Entry) : byWeightThenId a b || byWeightThenId b a := by
  simp only [Bool.or_eq_true, byWeightThenId_iff, UInt64.lt_iff_toNat_lt, ← UInt64.toNat_inj,
    UInt32.le_iff_toNat_le]
  omega

theorem byWeightThenId_trans (a b c : Entry) (hab : byWeightThenId a b)
    (hbc : byWeightThenId b c) : byWeightThenId a c := by
  simp only [byWeightThenId_iff, UInt64.lt_iff_toNat_lt, ← UInt64.toNat_inj,
    UInt32.le_iff_toNat_le] at hab hbc ⊢
  omega

theorem Keyed.arranged (h : records.Keyed) (gacha : GachaId) :
    records.Arranged gacha (records.pool gacha) := by
  have hperm := Arrangement.arrange_perm byWeightThenId
    ((records.entriesOf gacha).filter Entry.inPool)
  constructor
  · refine hperm.trans (List.Perm.of_eq ?_)
    rw [entriesOf, List.filter_filter]
    simp only [Entry.inPool, Bool.and_comm]
    rfl
  · have hordered := Arrangement.pairwise_arrange byWeightThenId_total byWeightThenId_trans
      ((records.entriesOf gacha).filter Entry.inPool)
    have hnodup : (((records.entriesOf gacha).filter Entry.inPool).map Entry.id).Nodup := by
      refine h.nodup_ids.sublist (List.Sublist.map Entry.id ?_)
      exact List.filter_sublist.trans List.filter_sublist
    have hdistinct := ((hperm.map Entry.id).nodup_iff).2 hnodup
    rw [List.Nodup, List.pairwise_map] at hdistinct
    refine (hordered.and hdistinct).imp ?_
    rintro a b ⟨hle, hne⟩
    rw [← Weight.rank_lt_iff, ← Weight.rank_inj]
    obtain hweight | ⟨hweight, hid⟩ := (byWeightThenId_iff a b).1 hle
    · exact .inl hweight
    · exact .inr ⟨hweight, UInt32.lt_of_le_of_ne hid hne⟩

theorem Keyed.arranged_iff (h : records.Keyed) :
    records.Arranged gacha pool ↔ pool = records.pool gacha :=
  ⟨fun harranged => harranged.unique (h.arranged gacha), fun heq => heq ▸ h.arranged gacha⟩

end Records

end PrizeDraw
