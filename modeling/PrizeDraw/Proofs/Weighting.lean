import PrizeDraw.Proofs.Draws

namespace PrizeDraw

class Scale.Sound (ν : Type) [Scale ν] : Prop where
  atMostZero_zero : Scale.atMostZero (Scale.zero : ν) = true
  aboveZero_zero : Scale.aboveZero (Scale.zero : ν) = false
  atMostZero_of_above : ∀ x : ν, Scale.aboveZero x = true → Scale.atMostZero x = false
  zero_add_zero : Scale.add Scale.zero Scale.zero = (Scale.zero : ν)
  above_zero_add : ∀ x : ν, Scale.aboveZero x = true →
    Scale.aboveZero (Scale.add Scale.zero x) = true
  above_add_zero : ∀ x : ν, Scale.aboveZero x = true →
    Scale.aboveZero (Scale.add x Scale.zero) = true
  above_add : ∀ x y : ν, Scale.aboveZero x = true → Scale.aboveZero y = true →
    Scale.aboveZero (Scale.add x y) = true
  below_part : ∀ (k : UInt64) (x : ν), Scale.aboveZero x = true →
    Scale.belowZero (Scale.part k x) = false
  below_sub_zero : ∀ x : ν, Scale.belowZero x = false →
    Scale.belowZero (Scale.sub x Scale.zero) = false

namespace Generator

def wideWords : Nat → Generator → List UInt64
  | 0, _ => []
  | n + 1, g => g.nextWide.1 :: wideWords n g.nextWide.2

theorem length_wideWords (n : Nat) (g : Generator) : (g.wideWords n).length = n := by
  induction n generalizing g with
  | zero => rfl
  | succ n ih => exact congrArg Nat.succ (ih g.nextWide.2)

end Generator

namespace Sampling

variable {α ν : Type} [Scale ν]

theorem pickMany_eq (measure : α → ν) (pool : List α) (standIn : α) (sum : ν) (n : Nat)
    (g : Generator) :
    pickMany measure pool standIn sum n g =
      ((g.wideWords n).map fun word : UInt64 =>
          pick measure pool standIn (Scale.part (word >>> 11) sum),
        { g with position := g.position + 2 * n }) := by
  induction n generalizing g with
  | zero => rfl
  | succ n ih =>
      have hposition : g.nextWide.2.position + 2 * n = g.position + 2 * (n + 1) := by
        rw [Generator.position_nextWide]
        omega
      simp only [pickMany, Generator.wideWords, ih, hposition, Generator.stream_nextWide,
        List.map_cons]

theorem lastWeighted_isSome_iff {measure : α → ν} {pool : List α} :
    (lastWeighted measure pool).isSome ↔ ∃ a ∈ pool, Scale.aboveZero (measure a) = true := by
  rw [lastWeighted, List.find?_isSome]
  simp only [List.mem_reverse]

theorem lastWeighted_mem {measure : α → ν} {pool : List α} {a : α}
    (h : lastWeighted measure pool = some a) : a ∈ pool ∧ Scale.aboveZero (measure a) = true := by
  unfold lastWeighted at h
  exact ⟨List.mem_reverse.1 (List.mem_of_find?_eq_some h), by simpa using List.find?_some h⟩

def Weighs (measure : α → ν) (pool : List α) : Prop :=
  ∀ a ∈ pool, measure a = Scale.zero ∨ Scale.aboveZero (measure a) = true

variable [Scale.Sound ν] {measure : α → ν} {pool : List α}

theorem sum_of_zeros (h : ∀ a ∈ pool, measure a = Scale.zero) :
    total measure pool = Scale.zero := by
  unfold total
  induction pool with
  | nil => rfl
  | cons a rest ih =>
      have ha := h a List.mem_cons_self
      rw [List.foldl_cons, ha, Scale.Sound.zero_add_zero]
      exact ih fun b hb => h b (List.mem_cons_of_mem a hb)

theorem sum_of_above (hpool : Weighs measure pool) {sum : ν} (hsum : Scale.aboveZero sum = true) :
    Scale.aboveZero (pool.foldl (fun sum a => Scale.add sum (measure a)) sum) = true := by
  induction pool generalizing sum with
  | nil => exact hsum
  | cons a rest ih =>
      rw [List.foldl_cons]
      apply ih fun b hb => hpool b (List.mem_cons_of_mem a hb)
      rcases hpool a List.mem_cons_self with hzero | habove
      · rw [hzero]
        exact Scale.Sound.above_add_zero sum hsum
      · exact Scale.Sound.above_add sum _ hsum habove

theorem above_total (hpool : Weighs measure pool)
    (h : ∃ a ∈ pool, Scale.aboveZero (measure a) = true) :
    Scale.aboveZero (total measure pool) = true := by
  unfold total
  induction pool with
  | nil => obtain ⟨a, ha, -⟩ := h; cases ha
  | cons a rest ih =>
      have hrest : Weighs measure rest := fun b hb => hpool b (List.mem_cons_of_mem a hb)
      rw [List.foldl_cons]
      rcases hpool a List.mem_cons_self with hzero | habove
      · -- The first entry leaves the sum at zero, so one of the others has weight.
        rw [hzero, Scale.Sound.zero_add_zero]
        obtain ⟨b, hb, hweight⟩ := h
        rcases List.mem_cons.1 hb with rfl | hb
        · rw [hzero, Scale.Sound.aboveZero_zero] at hweight
          cases hweight
        · exact ih hrest ⟨b, hb, hweight⟩
      · exact sum_of_above hrest (Scale.Sound.above_zero_add _ habove)

theorem atMostZero_total_iff (hpool : Weighs measure pool) :
    Scale.atMostZero (total measure pool) = true ↔
      ∀ a ∈ pool, ¬ Scale.aboveZero (measure a) = true := by
  constructor
  · intro htotal a ha hweight
    rw [Scale.Sound.atMostZero_of_above _ (above_total hpool ⟨a, ha, hweight⟩)] at htotal
    cases htotal
  · intro hnone
    rw [sum_of_zeros fun a ha => (hpool a ha).resolve_right (hnone a ha)]
    exact Scale.Sound.atMostZero_zero

theorem lastWeighted_isSome_of_total (hpool : Weighs measure pool)
    (h : Scale.atMostZero (total measure pool) = false) : (lastWeighted measure pool).isSome := by
  rw [lastWeighted_isSome_iff]
  apply Decidable.byContradiction
  intro hnone
  have hzero := (atMostZero_total_iff hpool).2 fun a ha hweight => hnone ⟨a, ha, hweight⟩
  rw [h] at hzero
  cases hzero

theorem walk_mem (hpool : Weighs measure pool) {left : ν} (hleft : Scale.belowZero left = false)
    {a : α} (h : walk measure left pool = some a) :
    a ∈ pool ∧ Scale.aboveZero (measure a) = true := by
  induction pool generalizing left with
  | nil => cases h
  | cons b rest ih =>
      simp only [walk] at h
      split at h
      · rename_i hbelow
        cases h
        refine ⟨List.mem_cons_self, ?_⟩
        rcases hpool a List.mem_cons_self with hzero | habove
        · rw [hzero, Scale.Sound.below_sub_zero left hleft] at hbelow
          cases hbelow
        · exact habove
      · rename_i hnot
        obtain ⟨hmem, hweight⟩ := ih (fun c hc => hpool c (List.mem_cons_of_mem b hc))
          (Bool.eq_false_iff.2 hnot) h
        exact ⟨List.mem_cons_of_mem b hmem, hweight⟩

theorem pick_mem (hpool : Weighs measure pool) {standIn : α}
    (hstandIn : standIn ∈ pool ∧ Scale.aboveZero (measure standIn) = true) {target : ν}
    (htarget : Scale.belowZero target = false) :
    pick measure pool standIn target ∈ pool ∧
      Scale.aboveZero (measure (pick measure pool standIn target)) = true := by
  unfold pick
  cases hwalk : walk measure target pool with
  | none => exact hstandIn
  | some a => exact walk_mem hpool htarget hwalk

theorem weighted_of_none (hpool : Weighs measure pool)
    (h : ∀ a ∈ pool, ¬ Scale.aboveZero (measure a) = true) (n : Nat) (g : Generator) :
    weighted measure pool n g = (.error .emptyPool, g) := by
  unfold weighted
  rw [if_pos ((atMostZero_total_iff hpool).2 h)]

theorem weighted_eq (hpool : Weighs measure pool) {standIn : α}
    (h : lastWeighted measure pool = some standIn) (n : Nat) (g : Generator) :
    weighted measure pool n g =
      (.ok ((g.wideWords n).map fun word : UInt64 =>
          pick measure pool standIn (Scale.part (word >>> 11) (total measure pool))),
        { g with position := g.position + 2 * n }) := by
  have hpositive : ¬ Scale.atMostZero (total measure pool) = true := by
    rw [atMostZero_total_iff hpool]
    exact fun hnone => hnone standIn (lastWeighted_mem h).1 (lastWeighted_mem h).2
  simp only [weighted, hpositive, h, pickMany_eq]
  rfl

theorem weighted_of_mem (hpool : Weighs measure pool)
    (h : ∃ a ∈ pool, Scale.aboveZero (measure a) = true) (n : Nat) (g : Generator) :
    ∃ drawn, weighted measure pool n g =
        (.ok drawn, { g with position := g.position + 2 * n }) ∧
      drawn.length = n ∧ ∀ a ∈ drawn, a ∈ pool ∧ Scale.aboveZero (measure a) = true := by
  obtain ⟨standIn, hstandIn⟩ := Option.isSome_iff_exists.1 (lastWeighted_isSome_iff.2 h)
  refine ⟨_, weighted_eq hpool hstandIn n g, ?_, ?_⟩
  · rw [List.length_map, Generator.length_wideWords]
  · intro a ha
    obtain ⟨word, -, rfl⟩ := List.mem_map.1 ha
    exact pick_mem hpool (lastWeighted_mem hstandIn)
      (Scale.Sound.below_part _ _ (above_total hpool h))

end Sampling

end PrizeDraw
