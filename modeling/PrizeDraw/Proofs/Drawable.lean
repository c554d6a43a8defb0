import PrizeDraw.Proofs.Doubles
import PrizeDraw.Weight

namespace PrizeDraw

namespace Double

open Float.Model.UnpackedFloat (Sign packComponents)

theorem toNat_packComponents (s : Sign) (e : BitVec 11) (m : BitVec 52) :
    (packComponents .binary64 s e m).toNat =
      s.toBitVec.toNat * 2 ^ 63 + e.toNat * 2 ^ 52 + m.toNat := by
  rw [packComponents, BitVec.toNat_append, BitVec.toNat_append,
    ← Nat.shiftLeft_add_eq_or_of_lt m.isLt, ← Nat.shiftLeft_add_eq_or_of_lt e.isLt,
    Nat.shiftLeft_eq, Nat.shiftLeft_eq]
  omega

theorem reading_fields {b : UInt64} {s : Sign} {e : BitVec 11} {m : BitVec 52}
    (h : packComponents .binary64 s e m = b.toBitVec) :
    reading (Float.ofBits b) = ofFields s e m := by
  rw [reading_ofBits, ← h, unpack_packComponents, stored_ofFields]

theorem positive_ofFields_iff (s : Sign) (e : BitVec 11) (m : BitVec 52) :
    (ofFields s e m).isFinite = true ∧ Above (ofFields s e m) ↔
      s = .positive ∧ e.toNat < 2047 ∧ (0 < e.toNat ∨ 0 < m.toNat) := by
  have he := e.isLt
  constructor
  · fun_cases ofFields s e m with
    | case1 | case2 => rintro ⟨⟨⟩, -⟩
    | case3 => rintro ⟨-, ⟨⟩⟩
    | case4 hinfinity hsmall hzero =>
        rintro ⟨-, ⟨⟩⟩
        refine ⟨rfl, ?_, ?_⟩ <;> bv_omega
    | case5 hinfinity hsmall =>
        rintro ⟨-, ⟨⟩⟩
        refine ⟨rfl, ?_, ?_⟩ <;> bv_omega
  · rintro ⟨rfl, he, hzero⟩
    refine ⟨?_, above_ofFields he hzero⟩
    fun_cases ofFields Sign.positive e m with
    | case1 | case2 =>
        exfalso
        bv_omega
    | case3 | case4 | case5 => rfl

end Double

namespace Weight

open Float.Model.UnpackedFloat (Sign)

def Positive (w : Weight) : Prop :=
  (Float.ofBits w.bits).isFinite = true ∧ 0 < Float.ofBits w.bits

theorem isDrawable_iff (w : Weight) : w.isDrawable = true ↔ w.Positive := by
  obtain ⟨s, e, m, hfields⟩ := Double.exists_fields w.bits.toBitVec
  have hm : m.toNat < 2 ^ 52 := m.isLt
  have he : e.toNat < 2 ^ 11 := e.isLt
  have hbits : w.bits.toNat = s.toBitVec.toNat * 2 ^ 63 + e.toNat * 2 ^ 52 + m.toNat := by
    rw [← Double.toNat_packComponents, hfields]
    rfl
  have hpositive : w.Positive ↔ s = .positive ∧ e.toNat < 2047 ∧ (0 < e.toNat ∨ 0 < m.toNat) := by
    rw [← Double.positive_ofFields_iff, ← Double.reading_fields hfields, ← Double.zero_lt_iff]
    rfl
  have hdrawable : w.isDrawable = true ↔ 0 < w.bits.toNat ∧ w.bits.toNat < 2047 * 2 ^ 52 := by
    rw [isDrawable, Bool.and_eq_true, decide_eq_true_iff, decide_eq_true_iff]
    rfl
  rw [hpositive, hdrawable, hbits]
  cases s with
  | positive =>
      have hsign : Sign.positive.toBitVec.toNat = 0 := rfl
      simp only [hsign, true_and]
      omega
  | negative =>
      have hsign : Sign.negative.toBitVec.toNat = 1 := rfl
      simp only [hsign, reduceCtorEq, false_and, iff_false]
      omega

instance (w : Weight) : Decidable w.Positive := decidable_of_iff _ w.isDrawable_iff

theorem above_toFloat_iff (w : Weight) : Scale.aboveZero w.toFloat = true ↔ w.Positive := by
  unfold toFloat
  split
  · rename_i h
    have hpositive := w.isDrawable_iff.1 h
    exact iff_of_true (decide_eq_true hpositive.2) hpositive
  · rename_i h
    rw [isDrawable_iff] at h
    exact iff_of_false (by decide) h

end Weight

namespace Sampling

variable {α : Type}

theorem weighs_toFloat (weight : α → Weight) (pool : List α) :
    Weighs (fun a => (weight a).toFloat) pool := by
  intro a ha
  simp only [Weight.above_toFloat_iff]
  by_cases h : (weight a).isDrawable = true
  · exact .inr ((weight a).isDrawable_iff.1 h)
  · exact .inl (if_neg h)

theorem draws_positive_weights (weight : α → Weight) (pool : List α) (n : Nat) (g : Generator) :
    (weightedByDouble weight pool n g = (.error .emptyPool, g) ↔
      ∀ a ∈ pool, ¬ (weight a).Positive) ∧
    ((∃ a ∈ pool, (weight a).Positive) →
      ∃ drawn, weightedByDouble weight pool n g =
          (.ok drawn, { g with position := g.position + 2 * n }) ∧
        drawn.length = n ∧ ∀ a ∈ drawn, a ∈ pool ∧ (weight a).Positive) ∧
    (Scale.atMostZero (total (fun a => (weight a).toFloat) pool) = false →
      (lastWeighted (fun a => (weight a).toFloat) pool).isSome) := by
  have hweighs := weighs_toFloat weight pool
  have hsome : (∃ a ∈ pool, (weight a).Positive) →
      ∃ drawn, weightedByDouble weight pool n g =
          (.ok drawn, { g with position := g.position + 2 * n }) ∧
        drawn.length = n ∧ ∀ a ∈ drawn, a ∈ pool ∧ (weight a).Positive := by
    intro h
    simp only [← Weight.above_toFloat_iff] at h ⊢
    exact weighted_of_mem hweighs h n g
  refine ⟨⟨?_, ?_⟩, hsome, lastWeighted_isSome_of_total hweighs⟩
  · intro hempty a ha hpositive
    obtain ⟨drawn, hdrawn, -⟩ := hsome ⟨a, ha, hpositive⟩
    rw [hempty] at hdrawn
    cases hdrawn
  · intro hnone
    simp only [← Weight.above_toFloat_iff] at hnone
    exact weighted_of_none hweighs hnone n g

theorem draws_positive_weights_overflow :
    let weightless : List Weight :=
      [⟨0x7ff8000000000000⟩, ⟨0x7ff0000000000000⟩, ⟨0xbff0000000000000⟩, ⟨0⟩]
    let largest : Weight := ⟨0x7fefffffffffffff⟩
    let pool := largest :: weightless ++ [largest]
    let g := Generator.ofWords [0, 7]
    weightedByDouble id weightless 3 g = (.error .emptyPool, g) ∧
      (∃ a ∈ pool, a.Positive) ∧
      Scale.atMostZero (total Weight.toFloat pool) = false ∧
      (total Weight.toFloat pool).isInf = true ∧
      weightedByDouble id pool 3 g =
        (.ok [largest, largest, largest], { g with position := g.position + 6 }) ∧
      (lastWeighted Weight.toFloat pool).isSome := by
  intro weightless largest pool g
  have hlargest : ∃ a ∈ pool, a.Positive := ⟨largest, List.mem_cons_self, by decide⟩
  have htotal : Scale.atMostZero (total Weight.toFloat pool) = false := by decide
  obtain ⟨hrefused, -, -⟩ := draws_positive_weights id weightless 3 g
  obtain ⟨-, hdrawn, hfallback⟩ := draws_positive_weights id pool 3 g
  obtain ⟨drawn, hresult, hlength, hmem⟩ := hdrawn hlargest
  refine ⟨hrefused.2 (by decide), hlargest, htotal, by decide, ?_, hfallback htotal⟩
  have honly : ∀ a ∈ pool, a.Positive → a = largest := by decide
  rw [hresult, List.eq_replicate_iff.2 ⟨hlength, fun a ha => honly a (hmem a ha).1 (hmem a ha).2⟩]
  rfl

end Sampling

end PrizeDraw
