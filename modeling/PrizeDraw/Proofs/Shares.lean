import Mathlib
import PrizeDraw.Proofs.Weighting

namespace PrizeDraw

namespace Scale

variable {K : Type} [Field K] [LinearOrder K]

instance exact : Scale K where
  zero := 0
  add := (· + ·)
  sub := (· - ·)
  part k total := (k.toNat : K) / 2 ^ 53 * total
  atMostZero x := decide (x ≤ 0)
  belowZero x := decide (x < 0)
  aboveZero x := decide (0 < x)

variable [IsStrictOrderedRing K]

instance soundExact : Sound K where
  atMostZero_zero := decide_eq_true (le_refl (0 : K))
  aboveZero_zero := decide_eq_false (lt_irrefl (0 : K))
  atMostZero_of_above x hx := decide_eq_false (not_le.2 (of_decide_eq_true hx))
  zero_add_zero := add_zero (0 : K)
  above_zero_add x hx := by
    simp only [aboveZero, decide_eq_true_eq] at hx ⊢
    exact lt_of_lt_of_eq hx (zero_add x).symm
  above_add_zero x hx := by
    simp only [aboveZero, decide_eq_true_eq] at hx ⊢
    exact lt_of_lt_of_eq hx (add_zero x).symm
  above_add x y hx hy := by
    simp only [aboveZero, decide_eq_true_eq] at hx hy ⊢
    exact add_pos hx hy
  below_part k x hx := by
    simp only [aboveZero, belowZero, decide_eq_true_eq, decide_eq_false_iff_not] at hx ⊢
    have hshare : (0 : K) ≤ (k.toNat : K) / 2 ^ 53 := by positivity
    exact not_lt.2 (mul_nonneg hshare hx.le)
  below_sub_zero x hx := by
    simp only [belowZero, decide_eq_false_iff_not] at hx ⊢
    exact fun h => hx (lt_of_eq_of_lt (sub_zero x).symm h)

end Scale

namespace Sampling

variable {α β K : Type}

theorem walk_map [Scale K] (measure : β → K) (f : α → β) (left : K) (pool : List α) :
    walk measure left (pool.map f) = (walk (measure ∘ f) left pool).map f := by
  induction pool generalizing left with
  | nil => rfl
  | cons a rest ih =>
      simp only [List.map_cons, walk, ih, Function.comp_apply]
      split <;> rfl

variable [Field K]

def share (word : UInt64) : K := ((word >>> 11).toNat : K) / 2 ^ 53

def weightUpTo (measure : α → K) (pool : List α) (k : Nat) : K :=
  ((pool.take k).map measure).sum

def shareUpTo (measure : α → K) (pool : List α) (k : Nat) : K :=
  weightUpTo measure pool k / (pool.map measure).sum

theorem weightUpTo_succ (measure : α → K) (pool : List α) (place : Fin pool.length) :
    weightUpTo measure pool (place + 1) =
      weightUpTo measure pool place + measure (pool.get place) := by
  rw [weightUpTo, weightUpTo, List.take_add_one, List.getElem?_eq_getElem place.isLt]
  simp

theorem weightUpTo_add_drop (measure : α → K) (pool : List α) (k : Nat) :
    weightUpTo measure pool k + ((pool.drop k).map measure).sum = (pool.map measure).sum := by
  rw [weightUpTo, ← List.sum_append, ← List.map_append, List.take_append_drop]

theorem weightUpTo_eq (measure : α → K) (pool : List α) (k : Nat) :
    (((List.finRange pool.length).take k).map (measure ∘ pool.get)).sum =
      weightUpTo measure pool k := by
  rw [← List.map_map, List.map_take, List.map_get_finRange, weightUpTo]

variable [LinearOrder K]

/-- The place at which a walk stops that starts with such a part of the total. -/
def placeAt (measure : α → K) (pool : List α) (r : K) : Option (Fin pool.length) :=
  walk (measure ∘ pool.get) (r * (pool.map measure).sum) (List.finRange pool.length)

theorem total_eq_sum (measure : α → K) (pool : List α) :
    total measure pool = (pool.map measure).sum := by
  have hfold (sum : K) : pool.foldl (fun sum a => Scale.add sum (measure a)) sum =
      sum + (pool.map measure).sum := by
    induction pool generalizing sum with
    | nil => simp
    | cons a rest ih =>
        rw [List.foldl_cons, ih, List.map_cons, List.sum_cons, ← add_assoc]
        rfl
  exact (hfold 0).trans (zero_add _)

theorem weighs_of_nonneg {measure : α → K} {pool : List α} (hpool : ∀ a ∈ pool, 0 ≤ measure a) :
    Weighs measure pool := by
  intro a ha
  rcases (hpool a ha).eq_or_lt with hzero | hpositive
  · exact .inl hzero.symm
  · exact .inr (decide_eq_true hpositive)

variable [IsStrictOrderedRing K]

theorem share_mem (word : UInt64) : (share word : K) ∈ Set.Ico 0 1 := by
  have hword : (word >>> 11).toNat < 2 ^ 53 := by
    have hsize := word.toNat_lt
    rw [UInt64.toNat_shiftRight, Nat.shiftRight_eq_div_pow]
    simp only [UInt64.reduceToNat, Nat.reduceMod]
    omega
  have hcast : ((word >>> 11).toNat : K) < 2 ^ 53 := by exact_mod_cast hword
  refine ⟨?_, ?_⟩
  · rw [share]
    positivity
  · rw [share, div_lt_one (by positivity)]
    exact hcast

theorem exists_walk {measure : α → K} {pool : List α} {left : K} (hleft : 0 ≤ left)
    (hsum : left < (pool.map measure).sum) : ∃ a, walk measure left pool = some a := by
  induction pool generalizing left with
  | nil => exact absurd hleft (not_le.2 hsum)
  | cons a rest ih =>
      rw [List.map_cons, List.sum_cons] at hsum
      by_cases hstop : left - measure a < 0
      · exact ⟨a, if_pos (decide_eq_true hstop)⟩
      · have hnext : left - measure a < (rest.map measure).sum := by linarith
        obtain ⟨b, hb⟩ := ih (not_lt.1 hstop) hnext
        refine ⟨b, ?_⟩
        rw [← hb]
        exact if_neg (by simpa [Scale.belowZero, Scale.sub] using hstop)

theorem sum_nonneg_of_subset {measure : α → K} {pool entries : List α}
    (hpool : ∀ a ∈ pool, 0 ≤ measure a) (h : entries ⊆ pool) : 0 ≤ (entries.map measure).sum := by
  apply List.sum_nonneg
  intro w hw
  obtain ⟨a, ha, rfl⟩ := List.mem_map.1 hw
  exact hpool a (h ha)

theorem walk_eq_some_iff {measure : α → K} {pool : List α} (hpool : ∀ a ∈ pool, 0 ≤ measure a)
    {left : K} (hleft : 0 ≤ left) {a : α} :
    walk measure left pool = some a ↔ ∃ before after, pool = before ++ a :: after ∧
      (before.map measure).sum ≤ left ∧ left < (before.map measure).sum + measure a := by
  induction pool generalizing left with
  | nil =>
      constructor
      · intro h
        cases h
      · rintro ⟨before, after, hsplit, -⟩
        cases before <;> cases hsplit
  | cons b rest ih =>
      have hrest : ∀ a ∈ rest, 0 ≤ measure a := fun a ha => hpool a (List.mem_cons_of_mem b ha)
      by_cases hstop : left - measure b < 0
      · have hwalk : walk measure left (b :: rest) = some b := if_pos (decide_eq_true hstop)
        rw [hwalk]
        constructor
        · rintro ⟨⟩
          exact ⟨[], rest, rfl, hleft, by simpa using hstop⟩
        · rintro ⟨before, after, hsplit, hfrom, -⟩
          cases before with
          | nil =>
              cases hsplit
              rfl
          | cons c before =>
              obtain ⟨rfl, rfl⟩ := List.cons.inj hsplit
              have hmore := sum_nonneg_of_subset hrest (List.subset_append_left before (a :: after))
              rw [List.map_cons, List.sum_cons] at hfrom
              linarith
      · have hwalk : walk measure left (b :: rest) = walk measure (left - measure b) rest :=
          if_neg (by simpa [Scale.belowZero, Scale.sub] using hstop)
        rw [hwalk, ih hrest (not_lt.1 hstop)]
        constructor
        · rintro ⟨before, after, rfl, hfrom, hto⟩
          refine ⟨b :: before, after, rfl, ?_, ?_⟩
          · rw [List.map_cons, List.sum_cons]
            linarith
          · rw [List.map_cons, List.sum_cons]
            linarith
        · rintro ⟨before, after, hsplit, hfrom, hto⟩
          cases before with
          | nil =>
              cases hsplit
              simp only [List.map_nil, List.sum_nil] at hto
              linarith
          | cons c before =>
              obtain ⟨rfl, rfl⟩ := List.cons.inj hsplit
              rw [List.map_cons, List.sum_cons] at hfrom hto
              exact ⟨before, after, rfl, by linarith, by linarith⟩

theorem finRange_eq {size : Nat} (place : Fin size) :
    List.finRange size =
      (List.finRange size).take place ++ place :: (List.finRange size).drop (place + 1) := by
  have hplace : (place : Nat) < (List.finRange size).length := by simp
  have hdrop := List.getElem_cons_drop hplace
  rw [List.getElem_finRange] at hdrop
  exact (List.take_append_drop place _).symm.trans (congrArg _ hdrop.symm)

theorem eq_take_of_finRange_eq {size : Nat} {place : Fin size} {before after : List (Fin size)}
    (h : List.finRange size = before ++ place :: after) :
    before = (List.finRange size).take place := by
  have hbefore : before.length < size := by
    have hlength := congrArg List.length h
    rw [List.length_finRange, List.length_append, List.length_cons] at hlength
    omega
  have hplace : before.length = place := by
    have hget : (List.finRange size)[before.length]? = some place := by
      rw [h, List.getElem?_append_right (Nat.le_refl _), Nat.sub_self]
      rfl
    rw [List.getElem?_eq_getElem (by simpa using hbefore)] at hget
    simpa using congrArg Fin.val (Option.some.inj hget)
  rw [← hplace, h, List.take_left]

theorem exists_placeAt {measure : α → K} {pool : List α} (hsum : 0 < (pool.map measure).sum)
    {r : K} (hr : r ∈ Set.Ico 0 1) :
    ∃ place, placeAt measure pool r = some place ∧
      walk measure (r * (pool.map measure).sum) pool = some (pool.get place) := by
  have hall : ((List.finRange pool.length).map (measure ∘ pool.get)).sum =
      (pool.map measure).sum := by
    rw [← List.map_map, List.map_get_finRange]
  have hbelow : r * (pool.map measure).sum <
      ((List.finRange pool.length).map (measure ∘ pool.get)).sum := by
    rw [hall]
    exact (mul_lt_iff_lt_one_left hsum).2 hr.2
  obtain ⟨place, hplace⟩ := exists_walk (mul_nonneg hr.1 hsum.le) hbelow
  refine ⟨place, hplace, ?_⟩
  have hwalk := walk_map measure pool.get (r * (pool.map measure).sum)
    (List.finRange pool.length)
  rw [List.map_get_finRange, hplace] at hwalk
  exact hwalk

section Nonnegative

variable {measure : α → K} {pool : List α} (hpool : ∀ a ∈ pool, 0 ≤ measure a)

include hpool

theorem weightUpTo_mem (k : Nat) :
    weightUpTo measure pool k ∈ Set.Icc 0 (pool.map measure).sum := by
  have hrest := sum_nonneg_of_subset hpool (List.drop_subset k pool)
  have hsplit := weightUpTo_add_drop measure pool k
  exact ⟨sum_nonneg_of_subset hpool (List.take_subset k pool), by linarith⟩

theorem exists_lastWeighted (hsum : 0 < (pool.map measure).sum) :
    ∃ standIn, lastWeighted measure pool = some standIn := by
  apply Option.isSome_iff_exists.1
  apply lastWeighted_isSome_of_total (weighs_of_nonneg hpool)
  rw [total_eq_sum]
  exact decide_eq_false (not_le.2 hsum)

theorem placeAt_eq_some_iff {r : K} (hr : 0 ≤ r) {place : Fin pool.length} :
    placeAt measure pool r = some place ↔
      weightUpTo measure pool place ≤ r * (pool.map measure).sum ∧
        r * (pool.map measure).sum < weightUpTo measure pool (place + 1) := by
  have hsum := sum_nonneg_of_subset hpool (List.Subset.refl pool)
  have hplaces : ∀ place ∈ List.finRange pool.length, 0 ≤ (measure ∘ pool.get) place :=
    fun place _ => hpool _ (List.get_mem pool place)
  rw [placeAt, walk_eq_some_iff hplaces (mul_nonneg hr hsum), weightUpTo_succ]
  constructor
  · rintro ⟨before, after, hsplit, hfrom, hto⟩
    rw [eq_take_of_finRange_eq hsplit, weightUpTo_eq] at hfrom hto
    exact ⟨hfrom, hto⟩
  · rintro ⟨hfrom, hto⟩
    refine ⟨_, _, finRange_eq place, ?_, ?_⟩
    · rwa [weightUpTo_eq]
    · rwa [weightUpTo_eq]

theorem placeAt_interval (hsum : 0 < (pool.map measure).sum) (place : Fin pool.length) :
    {r | r ∈ Set.Ico 0 1 ∧ placeAt measure pool r = some place} =
      Set.Ico (shareUpTo measure pool place) (shareUpTo measure pool (place + 1)) := by
  have hfrom := weightUpTo_mem hpool place
  have hto := weightUpTo_mem hpool (place + 1)
  ext r
  simp only [shareUpTo, Set.mem_ofPred_eq, Set.mem_Ico, div_le_iff₀ hsum, lt_div_iff₀ hsum]
  constructor
  · rintro ⟨hr, hplace⟩
    exact (placeAt_eq_some_iff hpool hr.1).1 hplace
  · rintro ⟨hleast, hmost⟩
    have hr : 0 ≤ r := by
      have hscaled : 0 * (pool.map measure).sum ≤ r * (pool.map measure).sum := by
        rw [zero_mul]
        exact hfrom.1.trans hleast
      exact le_of_mul_le_mul_right hscaled hsum
    have hone : r < 1 := by
      have hscaled : r * (pool.map measure).sum < 1 * (pool.map measure).sum := by
        rw [one_mul]
        exact hmost.trans_le hto.2
      exact lt_of_mul_lt_mul_right hscaled hsum.le
    exact ⟨⟨hr, hone⟩, (placeAt_eq_some_iff hpool hr).2 ⟨hleast, hmost⟩⟩

end Nonnegative

theorem picks_by_cumulative_weight {measure : α → K} {pool : List α}
    (hpool : ∀ a ∈ pool, 0 ≤ measure a) (hsum : 0 < (pool.map measure).sum) :
    (∀ r ∈ Set.Ico (0 : K) 1, ∀ place : Fin pool.length,
      placeAt measure pool r = some place ↔
        weightUpTo measure pool place ≤ r * (pool.map measure).sum ∧
          r * (pool.map measure).sum < weightUpTo measure pool (place + 1)) ∧
    (∀ r ∈ Set.Ico (0 : K) 1, ∃ place, placeAt measure pool r = some place ∧
      walk measure (r * (pool.map measure).sum) pool = some (pool.get place)) ∧
    (∀ place : Fin pool.length,
      {r | r ∈ Set.Ico 0 1 ∧ placeAt measure pool r = some place} =
          Set.Ico (shareUpTo measure pool place) (shareUpTo measure pool (place + 1)) ∧
        shareUpTo measure pool (place + 1) - shareUpTo measure pool place =
          measure (pool.get place) / (pool.map measure).sum) ∧
    Pairwise (Function.onFun Disjoint fun place : Fin pool.length =>
      Set.Ico (shareUpTo measure pool place) (shareUpTo measure pool (place + 1))) ∧
    (⋃ place : Fin pool.length,
      Set.Ico (shareUpTo measure pool place) (shareUpTo measure pool (place + 1))) = Set.Ico 0 1 ∧
    (∀ (n : Nat) (g : Generator), ∃ places : List (Fin pool.length),
      (g.wideWords n).map (fun word => placeAt measure pool (share word)) = places.map some ∧
        weighted measure pool n g =
          (.ok (places.map pool.get), { g with position := g.position + 2 * n })) := by
  have hintervals := placeAt_interval hpool hsum
  refine ⟨fun r hr place => placeAt_eq_some_iff hpool hr.1, fun r hr =>
    exists_placeAt hsum hr, fun place => ⟨hintervals place, ?_⟩, ?_, ?_, ?_⟩
  · rw [shareUpTo, shareUpTo, ← sub_div, weightUpTo_succ, add_sub_cancel_left]
  · intro place other hne
    rw [Function.onFun, Set.disjoint_left]
    intro r hplace hother
    rw [← hintervals] at hplace hother
    exact hne (Option.some.inj (hplace.2.symm.trans hother.2))
  · ext r
    rw [Set.mem_iUnion]
    constructor
    · rintro ⟨place, hplace⟩
      rw [← hintervals] at hplace
      exact hplace.1
    · intro hr
      obtain ⟨place, hplace, -⟩ := exists_placeAt hsum hr
      refine ⟨place, ?_⟩
      rw [← hintervals]
      exact ⟨hr, hplace⟩
  · intro n g
    choose place hplace hwalk using fun (r : K) (hr : r ∈ Set.Ico 0 1) => exists_placeAt hsum hr
    obtain ⟨standIn, hstandIn⟩ := exists_lastWeighted hpool hsum
    refine ⟨(g.wideWords n).map fun word => place (share word) (share_mem word), ?_, ?_⟩
    · rw [List.map_map]
      exact List.map_congr_left fun word _ => hplace _ (share_mem word)
    · rw [weighted_eq (weighs_of_nonneg hpool) hstandIn, total_eq_sum, List.map_map]
      congr 2
      exact List.map_congr_left fun word _ =>
        congrArg (fun stop => stop.getD standIn) (hwalk _ (share_mem word))

theorem picks_by_cumulative_weight_gaps :
    let pool := [("bow", 0), ("sword", 1), ("helm", 0), ("staff", 3)]
    let weight : String × ℚ → ℚ := Prod.snd
    ((∀ a ∈ pool, 0 ≤ weight a) ∧ 0 < (pool.map weight).sum) ∧
      placeAt weight pool 0 = some 1 ∧ placeAt weight pool (1 / 4) = some 3 ∧
      Set.Ico (shareUpTo weight pool 3) (shareUpTo weight pool 4) ⊆ Set.Ico 0 1 := by
  intro pool weight
  have hpool : ∀ a ∈ pool, 0 ≤ weight a := by simp [pool, weight]
  have hfour : (pool.map weight).sum = 4 := by norm_num [pool, weight]
  have hsum : 0 < (pool.map weight).sum := by rw [hfour]; norm_num
  obtain ⟨hpick, -, -, -, hcover, -⟩ := picks_by_cumulative_weight hpool hsum
  refine ⟨⟨hpool, hsum⟩, ?_, ?_, ?_⟩
  · refine (hpick 0 ⟨le_refl _, by norm_num⟩ (1 : Fin 4)).2 ?_
    norm_num [weightUpTo, pool, weight]
  · refine (hpick (1 / 4) ⟨by norm_num, by norm_num⟩ (3 : Fin 4)).2 ?_
    norm_num [weightUpTo, pool, weight]
  · rw [← hcover]
    exact Set.subset_iUnion_of_subset (3 : Fin 4) (Set.Subset.refl _)

end Sampling

end PrizeDraw
