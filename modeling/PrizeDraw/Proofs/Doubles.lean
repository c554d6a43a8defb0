import Mathlib
import PrizeDraw.Proofs.Weighting

namespace PrizeDraw

namespace Double

open Float.Model (UnpackedFloat Format)
open Float.Model.UnpackedFloat (Sign ExtendedMantissa pack unpack packComponents unpackSign
  unpackExponent unpackMantissa shiftToTargetExponent roundWithAccuracy)

def reading (x : Float) : UnpackedFloat := x.toModel.unpack

def stored (u : UnpackedFloat) : UnpackedFloat := unpack .binary64 (pack .binary64 u)

theorem reading_zero : reading 0 = .zero .positive := by rfl

theorem reading_add (x y : Float) :
    reading (x + y) = stored (UnpackedFloat.add .binary64 (reading x) (reading y)) := rfl

theorem reading_sub (x y : Float) :
    reading (x - y) = stored (UnpackedFloat.sub .binary64 (reading x) (reading y)) := rfl

theorem reading_mul (x y : Float) :
    reading (x * y) = stored (UnpackedFloat.mul .binary64 (reading x) (reading y)) := rfl

theorem reading_ofBits (b : UInt64) :
    reading (Float.ofBits b) = stored (unpack .binary64 b.toBitVec) := rfl

theorem reading_toFloat (k : UInt64) :
    reading k.toFloat = stored (UnpackedFloat.normalize .binary64 k.toNat 0 .positive) := rfl

section Fields

def ofFields (s : Sign) (e : BitVec 11) (m : BitVec 52) : UnpackedFloat :=
  if e = -1#11 then if m = 0#52 then .infinity s else .notANumber
  else if e = 0#11 then
    if h : m = 0#52 then .zero s
    else .finite s m.toNat (-1074) (Nat.pos_of_ne_zero fun hm => h (BitVec.eq_of_toNat_eq hm))
  else .finite s (2 ^ 52 + m.toNat) (e.toNat - 1075) (by omega)

theorem exists_fields (b : BitVec Format.binary64.numBits) :
    ∃ s e m, packComponents .binary64 s e m = b := by
  have hsign : ∀ v : BitVec 1, (Sign.ofBitVec v).toBitVec = v := by decide
  refine ⟨Sign.ofBitVec (unpackSign b), unpackExponent b, unpackMantissa b, ?_⟩
  simp only [packComponents, hsign, unpackSign, unpackExponent, unpackMantissa, BitVec.extractLsb]
  ext i hi
  grind

theorem unpackSign_packComponents (s : Sign) (e : BitVec 11) (m : BitVec 52) :
    unpackSign (packComponents .binary64 s e m) = s.toBitVec := by
  simp only [unpackSign, packComponents, BitVec.extractLsb]
  rw [BitVec.extractLsb'_append_eq_of_le (by decide),
    BitVec.extractLsb'_append_eq_of_le (by decide)]
  cases s <;> rfl

theorem toNat_one_append (m : BitVec 52) : (1#1 ++ m).toNat = 2 ^ 52 + m.toNat := by
  have hone : (1#1).toNat <<< 52 = 2 ^ 52 := by decide
  rw [BitVec.toNat_append, ← Nat.shiftLeft_add_eq_or_of_lt m.isLt, hone]

theorem unpack_packComponents (s : Sign) (e : BitVec 11) (m : BitVec 52) :
    unpack .binary64 (packComponents .binary64 s e m) = ofFields s e m := by
  have hsign : Sign.ofBitVec s.toBitVec = s := by cases s <;> rfl
  have hone : (1#1 ++ m).toNat = 2 ^ 52 + m.toNat := toNat_one_append m
  simp only [unpack, UnpackedFloat.unpackExponent_packComponents,
    UnpackedFloat.unpackMantissa_packComponents, unpackSign_packComponents, hsign, ofFields]
  split
  · rfl
  · split
    · rename_i h
      subst h
      rfl
    · congr 1

theorem exists_unpack (b : BitVec Format.binary64.numBits) :
    ∃ s e m, unpack .binary64 b = ofFields s e m := by
  obtain ⟨s, e, m, rfl⟩ := exists_fields b
  exact ⟨s, e, m, unpack_packComponents s e m⟩

theorem pack_finite (s : Sign) {m : Nat} (e : Int) (hm : 0 < m) :
    pack .binary64 (.finite s m e hm) =
      if 972 ≤ e then packComponents .binary64 s (-1#11) 0#52
      else if m.log2 = 52 then
        packComponents .binary64 s (BitVec.ofNat 11 (e + 1075).toNat) (BitVec.ofNat 52 m)
      else packComponents .binary64 s 0#11 (BitVec.ofNat 52 m) := by
  have hbiased : (e + (1023 : Nat) + (52 : Nat)).toNat = (e + 1075).toNat := by omega
  have hlarge : 2 ^ 11 ≤ (e + 1075).toNat + 1 ↔ 972 ≤ e := by omega
  have hnormal : m.log2 + 1 = 53 ↔ m.log2 = 52 := by omega
  simp only [← hlarge, ← hnormal, ← hbiased]
  rfl

theorem stored_finite (s : Sign) {m : Nat} (e : Int) (hm : 0 < m) :
    stored (.finite s m e hm) =
      if 972 ≤ e then .infinity s
      else if m.log2 = 52 then
        ofFields s (BitVec.ofNat 11 (e + 1075).toNat) (BitVec.ofNat 52 m)
      else ofFields s 0#11 (BitVec.ofNat 52 m) := by
  rw [stored, pack_finite]
  split
  · exact unpack_packComponents s _ _
  · split <;> exact unpack_packComponents s _ _

theorem stored_ofFields (s : Sign) (e : BitVec 11) (m : BitVec 52) :
    stored (ofFields s e m) = ofFields s e m := by
  have hm := m.isLt
  have he := e.isLt
  fun_cases ofFields s e m with
  | case1 => cases s <;> rfl
  | case2 => rfl
  | case3 => cases s <;> rfl
  | case4 hinfinity hsmall hzero =>
      subst hsmall
      have hpos : 0 < m.toNat := Nat.pos_of_ne_zero fun h => hzero (BitVec.eq_of_toNat_eq h)
      have hlog : m.toNat.log2 < 52 := (Nat.log2_lt (by omega)).2 hm
      rw [stored_finite, if_neg (by decide), if_neg (by omega), BitVec.ofNat_toNat,
        BitVec.setWidth_eq, ofFields, if_neg (by decide), if_pos rfl, dif_neg hzero]
  | case5 hinfinity hsmall =>
      have hlog : (2 ^ 52 + m.toNat).log2 = 52 := (Nat.log2_eq_iff (by omega)).2 (by omega)
      have hne : e.toNat ≠ 2047 := fun h => hinfinity (BitVec.eq_of_toNat_eq h)
      have hexponent : BitVec.ofNat 11 ((e.toNat : Int) - 1075 + 1075).toNat = e := by
        rw [Int.sub_add_cancel, Int.toNat_natCast, BitVec.ofNat_toNat, BitVec.setWidth_eq]
      have hmantissa : BitVec.ofNat 52 (2 ^ 52 + m.toNat) = m := by
        apply BitVec.eq_of_toNat_eq
        rw [BitVec.toNat_ofNat]
        omega
      rw [stored_finite, if_neg (by omega), if_pos hlog, hexponent, hmantissa, ofFields,
        if_neg hinfinity, if_neg hsmall]

end Fields

section Signs

inductive Above : UnpackedFloat → Prop
  | infinity : Above (.infinity .positive)
  | finite {m : Nat} {e : Int} (hm : 0 < m) (hfits : m < 2 ^ 53) (he : -1074 ≤ e) :
      Above (.finite .positive m e hm)

inductive Below : UnpackedFloat → Prop
  | infinity : Below (.infinity .negative)
  | finite {m : Nat} {e : Int} (hm : 0 < m) : Below (.finite .negative m e hm)

theorem not_below_of_above {u : UnpackedFloat} (h : Above u) : ¬ Below u := by
  cases h <;> rintro ⟨⟩

theorem not_below_ofFields (e : BitVec 11) (m : BitVec 52) : ¬ Below (ofFields .positive e m) := by
  fun_cases ofFields Sign.positive e m <;> rintro ⟨⟩

theorem above_ofFields {e : BitVec 11} {m : BitVec 52} (hnumber : e.toNat < 2047)
    (hzero : 0 < e.toNat ∨ 0 < m.toNat) : Above (ofFields .positive e m) := by
  have hm := m.isLt
  fun_cases ofFields Sign.positive e m with
  | case1 | case2 | case3 =>
      exfalso
      bv_omega
  | case4 => exact .finite _ (by omega) (by omega)
  | case5 =>
      have hpos : 0 < e.toNat := by bv_omega
      exact .finite _ (by omega) (by omega)

theorem room_of_ofFields {s s' : Sign} {e : BitVec 11} {m : BitVec 52} {m' : Nat} {e' : Int}
    {hm' : 0 < m'} (h : ofFields s e m = .finite s' m' e' hm') : m' < 2 ^ 53 ∧ -1074 ≤ e' := by
  have hm := m.isLt
  revert h
  fun_cases ofFields s e m with
  | case1 | case2 | case3 => rintro ⟨⟩
  | case4 =>
      rintro ⟨⟩
      omega
  | case5 =>
      have hpos : 0 < e.toNat := by bv_omega
      rintro ⟨⟩
      omega

theorem above_stored {u : UnpackedFloat} (h : Above u) : Above (stored u) := by
  cases h with
  | infinity => exact .infinity
  | @finite m e hm hfits he =>
      rw [stored_finite]
      split
      · exact .infinity
      · split
        · have hexponent : (BitVec.ofNat 11 (e + 1075).toNat).toNat = (e + 1075).toNat := by
            rw [BitVec.toNat_ofNat]
            omega
          exact above_ofFields (by omega) (.inl (by omega))
        · have hlog : m.log2 < 53 := (Nat.log2_lt (by omega)).2 hfits
          have hsmall : m < 2 ^ 52 := (Nat.log2_lt (by omega)).1 (by omega)
          have hmantissa : (BitVec.ofNat 52 m).toNat = m := by
            rw [BitVec.toNat_ofNat]
            omega
          exact above_ofFields (by decide) (.inr (by omega))

theorem eq_of_not_below {u : UnpackedFloat} (h : ¬ Below u) :
    u = .notANumber ∨ (∃ s, u = .zero s) ∨ u = .infinity .positive ∨
      ∃ m e hm, u = .finite .positive m e hm := by
  cases u with
  | notANumber => exact .inl rfl
  | zero s => exact .inr (.inl ⟨s, rfl⟩)
  | infinity s =>
      cases s with
      | positive => exact .inr (.inr (.inl rfl))
      | negative => exact absurd .infinity h
  | finite s m e hm =>
      cases s with
      | positive => exact .inr (.inr (.inr ⟨m, e, hm, rfl⟩))
      | negative => exact absurd (.finite hm) h

theorem not_below_stored {u : UnpackedFloat} (h : ¬ Below u) : ¬ Below (stored u) := by
  rcases eq_of_not_below h with rfl | ⟨s, rfl⟩ | rfl | ⟨m, e, hm, rfl⟩
  · rintro ⟨⟩
  · cases s <;> rintro ⟨⟩
  · rintro ⟨⟩
  · rw [stored_finite]
    split
    · rintro ⟨⟩
    · split <;> exact not_below_ofFields _ _

theorem lt_iff (x y : Float) : x < y ↔ (reading x).lt (reading y) = true := by
  change Float.lt x y = true ↔ _
  exact decide_eq_true_iff

theorem le_iff (x y : Float) : x ≤ y ↔ (reading x).le (reading y) = true := by
  change Float.le x y = true ↔ _
  exact decide_eq_true_iff

theorem below_iff (u : UnpackedFloat) : Below u ↔ u.lt (.zero .positive) = true := by
  constructor
  · rintro (_ | _) <;> rfl
  · intro h
    cases u with
    | notANumber => cases h
    | zero s => cases s <;> cases h
    | infinity s =>
        cases s with
        | negative => exact .infinity
        | positive => cases h
    | finite s m e hm =>
        cases s with
        | negative => exact .finite hm
        | positive => cases h

theorem lt_zero_iff (x : Float) : x < 0 ↔ Below (reading x) := by
  rw [lt_iff, reading_zero, below_iff]

theorem above_iff {u : UnpackedFloat} (h : ∃ s e m, u = ofFields s e m) :
    Above u ↔ (UnpackedFloat.zero .positive).lt u = true := by
  constructor
  · rintro (_ | _) <;> rfl
  · intro hlt
    obtain ⟨s', e', m', hfields⟩ := h
    cases u with
    | notANumber => cases hlt
    | zero s => cases s <;> cases hlt
    | infinity s =>
        cases s with
        | negative => cases hlt
        | positive => exact .infinity
    | finite s m e hm =>
        have hroom := room_of_ofFields hfields.symm
        cases s with
        | negative => cases hlt
        | positive => exact .finite hm hroom.1 hroom.2

theorem exists_reading (x : Float) : ∃ s e m, reading x = ofFields s e m :=
  exists_unpack x.toModel.toBits.toBitVec

theorem zero_lt_iff (x : Float) : 0 < x ↔ Above (reading x) := by
  rw [lt_iff, reading_zero, above_iff (exists_reading x)]

theorem not_le_zero {x : Float} (h : Above (reading x)) : ¬ x ≤ 0 := by
  rw [le_iff, reading_zero]
  generalize reading x = u at h
  rcases h with _ | _ <;> exact Bool.false_ne_true

end Signs

section Rounding

theorem mantissa_shift (em : ExtendedMantissa) (n : Nat) :
    (em >>> n).mantissa = em.mantissa / 2 ^ n := by
  induction n with
  | zero => exact (Nat.div_one _).symm
  | succ n ih =>
      have hstep : (em >>> (n + 1)).mantissa = (em >>> n).mantissa / 2 := rfl
      rw [hstep, ih, Nat.div_div_eq_div_mul, Nat.pow_succ]

theorem roundedMantissa_bounds (em : ExtendedMantissa) :
    em.mantissa ≤ em.roundedMantissa ∧ em.roundedMantissa ≤ em.mantissa + 1 := by
  obtain ⟨m, round, sticky⟩ := em
  cases round <;> cases sticky <;>
    simp only [ExtendedMantissa.roundedMantissa, ExtendedMantissa.accuracy,
      UnpackedFloat.Accuracy.roundToNearestEven] <;> omega

theorem shift_bounds {m : Nat} {e : Int} (hm : 0 < m) (he : -1074 ≤ e) :
    let shifted := shiftToTargetExponent .binary64 m e .exact
    0 < shifted.1.mantissa ∧ shifted.1.mantissa < 2 ^ 53 ∧ -1074 ≤ shifted.2 := by
  intro shifted
  have hlow : 2 ^ m.log2 ≤ m := Nat.log2_self_le (Nat.ne_of_gt hm)
  have hhigh : m < 2 ^ (m.log2 + 1) := Nat.lt_log2_self
  let n := (max ((m.log2 : Int) + 1 + e - 53) (-1074) - e).toNat
  have hmantissa : shifted.1.mantissa = m / 2 ^ n := mantissa_shift _ n
  have hexponent : shifted.2 = e + n := rfl
  have hn : n ≤ m.log2 := by omega
  have hn' : m.log2 + 1 ≤ 53 + n := by omega
  rw [hmantissa, hexponent]
  refine ⟨Nat.div_pos (Nat.le_trans (Nat.pow_le_pow_right (by decide) hn) hlow)
    (Nat.two_pow_pos n), ?_, by omega⟩
  rw [Nat.div_lt_iff_lt_mul (Nat.two_pow_pos n), ← Nat.pow_add]
  exact Nat.lt_of_lt_of_le hhigh (Nat.pow_le_pow_right (by decide) hn')

theorem above_roundWithAccuracy {m : Nat} {e : Int} (hm : 0 < m) (he : -1074 ≤ e) :
    Above (roundWithAccuracy .binary64 .positive m e .exact) := by
  obtain ⟨hpos, -, he'⟩ := shift_bounds hm he
  have hrounded := (roundedMantissa_bounds (shiftToTargetExponent .binary64 m e .exact).1).1
  obtain ⟨hpos', hfits, hroom⟩ := shift_bounds (Nat.lt_of_lt_of_le hpos hrounded) he'
  simp only [roundWithAccuracy]
  rw [dif_neg (Nat.ne_of_gt hpos')]
  exact .finite hpos' hfits hroom

theorem above_round {m : Nat} {e : Int} (hm : 0 < m) (he : -1074 ≤ e) :
    Above (UnpackedFloat.round .binary64 .positive m e) := by
  have htarget : -1074 ≤ Format.binary64.targetExponent (Float.Model.totalExponent m e) :=
    Int.le_max_right _ _
  apply above_roundWithAccuracy (Nat.shiftLeft_pos_iff.2 hm)
  omega

theorem not_below_roundWithAccuracy (m : Nat) (e : Int) :
    ¬ Below (roundWithAccuracy .binary64 .positive m e .exact) := by
  simp only [roundWithAccuracy]
  split <;> rintro ⟨⟩

theorem normalize_natCast {n : Nat} (h : 0 < n) (e : Int) :
    UnpackedFloat.normalize .binary64 n e .positive =
      UnpackedFloat.round .binary64 .positive n e := by
  have hcompare : compare (n : Int) 0 = .gt := Int.compare_eq_gt.2 (by omega)
  rw [UnpackedFloat.normalize, hcompare]
  rfl

theorem not_below_normalize (n : Nat) (e : Int) :
    ¬ Below (UnpackedFloat.normalize .binary64 n e .positive) := by
  rcases Nat.eq_zero_or_pos n with rfl | hn
  · rintro ⟨⟩
  · rw [normalize_natCast hn]
    exact not_below_roundWithAccuracy _ _

end Rounding

section Operations

theorem above_add {u v : UnpackedFloat} (hu : Above u) (hv : Above v) :
    Above (UnpackedFloat.add .binary64 u v) := by
  cases hu with
  | infinity => cases hv <;> exact .infinity
  | @finite m e hm hfits he =>
      cases hv with
      | infinity => exact .infinity
      | @finite m' e' hm' hfits' he' =>
          -- Both mantissas are taken to the smaller exponent, where neither loses a digit.
          have hsum : UnpackedFloat.add .binary64 (.finite .positive m e hm)
              (.finite .positive m' e' hm') =
              UnpackedFloat.normalize .binary64
                ((m <<< (e - min e e').toNat + m' <<< (e' - min e e').toNat : Nat) : Int)
                (min e e') .positive := by
            rw [Int.natCast_add]
            rfl
          have hpos : 0 < m <<< (e - min e e').toNat + m' <<< (e' - min e e').toNat :=
            Nat.add_pos_left (Nat.shiftLeft_pos_iff.2 hm) _
          rw [hsum, normalize_natCast hpos]
          exact above_round hpos (by omega)

theorem add_zero_of_above {u : UnpackedFloat} (h : Above u) :
    UnpackedFloat.add .binary64 u (.zero .positive) = u := by
  cases h <;> rfl

theorem zero_add_of_above {u : UnpackedFloat} (h : Above u) :
    UnpackedFloat.add .binary64 (.zero .positive) u = u := by
  cases h <;> rfl

theorem not_below_mul {u v : UnpackedFloat} (hu : ¬ Below u) (hv : ¬ Below v) :
    ¬ Below (UnpackedFloat.mul .binary64 u v) := by
  rcases eq_of_not_below hu with rfl | ⟨s, rfl⟩ | rfl | ⟨m, e, hm, rfl⟩
  · rintro ⟨⟩
  · rcases eq_of_not_below hv with rfl | ⟨s', rfl⟩ | rfl | ⟨m', e', hm', rfl⟩ <;> rintro ⟨⟩
  · rcases eq_of_not_below hv with rfl | ⟨s', rfl⟩ | rfl | ⟨m', e', hm', rfl⟩ <;> rintro ⟨⟩
  · rcases eq_of_not_below hv with rfl | ⟨s', rfl⟩ | rfl | ⟨m', e', hm', rfl⟩
    · rintro ⟨⟩
    · rintro ⟨⟩
    · rintro ⟨⟩
    · exact not_below_roundWithAccuracy _ _

theorem not_below_sub_zero {u : UnpackedFloat} (h : ¬ Below u) :
    ¬ Below (UnpackedFloat.sub .binary64 u (.zero .positive)) := by
  cases u with
  | notANumber => exact h
  | infinity s => exact h
  | zero s => cases s <;> rintro ⟨⟩
  | finite s m e hm => exact h

end Operations

theorem aboveZero_iff (x : Float) : Scale.aboveZero x = true ↔ Above (reading x) :=
  decide_eq_true_iff.trans (zero_lt_iff x)

theorem belowZero_eq_false_iff (x : Float) : Scale.belowZero x = false ↔ ¬ Below (reading x) :=
  decide_eq_false_iff_not.trans (not_congr (lt_zero_iff x))

theorem not_below_part (k : UInt64) {x : Float} (h : ¬ Below (reading x)) :
    ¬ Below (reading (Scale.part k x)) := by
  have hk : ¬ Below (reading k.toFloat) := by
    rw [reading_toFloat]
    exact not_below_stored (not_below_normalize _ _)
  have hunit : ¬ Below (reading (Float.ofBits Scale.unitBits)) := by
    rw [← lt_zero_iff]
    decide
  change ¬ Below (reading (k.toFloat * Float.ofBits Scale.unitBits * x))
  rw [reading_mul, reading_mul]
  exact not_below_stored (not_below_mul (not_below_stored (not_below_mul hk hunit)) h)

instance : Scale.Sound Float where
  atMostZero_zero := by rfl
  aboveZero_zero := by rfl
  atMostZero_of_above x h := by
    rw [aboveZero_iff] at h
    exact decide_eq_false (not_le_zero h)
  zero_add_zero := by rfl
  above_zero_add x h := by
    rw [aboveZero_iff] at *
    change Above (reading (0 + x))
    rw [reading_add, reading_zero, zero_add_of_above h]
    exact above_stored h
  above_add_zero x h := by
    rw [aboveZero_iff] at *
    change Above (reading (x + 0))
    rw [reading_add, reading_zero, add_zero_of_above h]
    exact above_stored h
  above_add x y hx hy := by
    rw [aboveZero_iff] at *
    change Above (reading (x + y))
    rw [reading_add]
    exact above_stored (above_add hx hy)
  below_part k x h := by
    rw [aboveZero_iff] at h
    rw [belowZero_eq_false_iff]
    exact not_below_part k (not_below_of_above h)
  below_sub_zero x h := by
    rw [belowZero_eq_false_iff] at *
    change ¬ Below (reading (x - 0))
    rw [reading_sub, reading_zero]
    exact not_below_stored (not_below_sub_zero h)

end Double

end PrizeDraw
