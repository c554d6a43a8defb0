import Mathlib.Data.List.Perm.Basic
import Mathlib.Data.Set.Defs
import PrizeDraw.Sampling

namespace PrizeDraw

open scoped List

namespace Generator

def Leads (g later : Generator) : Prop :=
  later.stream = g.stream ∧ g.position ≤ later.position

theorem Leads.refl (g : Generator) : g.Leads g := ⟨rfl, Nat.le_refl _⟩

theorem Leads.trans {g h k : Generator} (hgh : g.Leads h) (hhk : h.Leads k) : g.Leads k :=
  ⟨hhk.1.trans hgh.1, Nat.le_trans hgh.2 hhk.2⟩

theorem leads_next (g : Generator) : g.Leads g.next.2 := ⟨rfl, Nat.le_succ _⟩

theorem leads_nextWide (g : Generator) : g.Leads g.nextWide.2 :=
  (leads_next g).trans (leads_next g.next.2)

theorem leads_below (bound : Nat) (g : Generator) : g.Leads (g.below bound).2 := by
  simp only [below]
  split
  · exact leads_nextWide g
  · exact leads_next g

theorem below_lt {bound : Nat} (hpos : 0 < bound) (hle : bound ≤ wordRange) (g : Generator) :
    (g.below bound).1 < bound := by
  have hword : g.next.1.toNat < wordRange := g.next.1.toNat_lt_size
  have hrange : 0 < wordRange := Nat.lt_of_lt_of_le hpos hle
  have hsplit := Nat.div_add_mod (g.next.1.toNat * bound) wordRange
  have hprod : (g.next.1.toNat + 1) * bound ≤ wordRange * bound :=
    Nat.mul_le_mul_right bound hword
  have hhigh : g.next.1.toNat * bound / wordRange < bound := by
    rw [Nat.div_lt_iff_lt_mul hrange, Nat.mul_comm bound]
    exact Nat.mul_lt_mul_of_pos_right hword hpos
  simp only [below]
  split
  · rename_i hlow
    -- Were the high half the last index, the low half would leave no room for a carry.
    have hcarry : g.next.1.toNat * bound / wordRange + 1 < bound := by
      by_contra hlast
      have heq : bound = g.next.1.toNat * bound / wordRange + 1 := by omega
      generalize hq : g.next.1.toNat * bound / wordRange = q at *
      have hbound : wordRange * bound = wordRange * q + wordRange := by
        rw [heq, Nat.mul_add, Nat.mul_one]
      rw [Nat.add_mul, Nat.one_mul] at hprod
      omega
    split
    · exact hcarry
    · exact hhigh
  · exact hhigh

end Generator

namespace Sampling

variable {α ν : Type} [Scale ν]

theorem leads_pickMany (measure : α → ν) (pool : List α) (standIn : α) (sum : ν) (n : Nat)
    (g : Generator) : g.Leads (pickMany measure pool standIn sum n g).2 := by
  induction n generalizing g with
  | zero => exact Generator.Leads.refl g
  | succ n ih => exact (Generator.leads_nextWide g).trans (ih g.nextWide.2)

theorem leads_weighted (measure : α → ν) (pool : List α) (n : Nat) (g : Generator) :
    g.Leads (weighted measure pool n g).2 := by
  simp only [weighted]
  split
  · exact Generator.Leads.refl g
  · split
    · exact Generator.Leads.refl g
    · exact leads_pickMany measure pool _ _ n g

theorem leads_dealMany (n : Nat) (pool : List α) (g : Generator) :
    g.Leads (dealMany n pool g).2 := by
  induction n generalizing pool g with
  | zero => exact Generator.Leads.refl g
  | succ n ih =>
      have hbelow := Generator.leads_below pool.length g
      simp only [dealMany]
      split
      · exact hbelow
      · exact hbelow.trans (ih _ _)

theorem leads_uniform (pool : List α) (n : Nat) (g : Generator) :
    g.Leads (uniform pool n g).2 := by
  simp only [uniform]
  split
  · exact Generator.Leads.refl g
  · exact leads_dealMany n pool g

theorem swapRemove_append (front : List α) (last : α) {index : Nat}
    (h : index < (front ++ [last]).length) :
    swapRemove (front ++ [last]) index =
      some ((front ++ [last])[index], ((front ++ [last]).set index last).dropLast) := by
  simp [swapRemove, List.getElem?_eq_getElem h]

theorem swapRemove_perm {pool : List α} {index : Nat} (h : index < pool.length) :
    ∃ left, swapRemove pool index = some (pool[index], left) ∧ pool[index] :: left ~ pool := by
  rcases List.eq_nil_or_concat pool with rfl | ⟨front, last, rfl⟩
  · exact absurd h (Nat.not_lt_zero index)
  · simp only [List.concat_eq_append] at h ⊢
    refine ⟨_, swapRemove_append front last h, ?_⟩
    rw [List.length_append, List.length_singleton] at h
    by_cases hlast : index = front.length
    · subst hlast
      simpa using (List.perm_append_singleton last front).symm
    · have hfront : index < front.length := by omega
      have hset := List.set_perm_cons_eraseIdx hfront last
      have herase := List.getElem_cons_eraseIdx_perm hfront
      rw [List.set_append_left _ _ hfront, List.dropLast_concat, List.getElem_append_left hfront]
      calc front[index] :: front.set index last
          _ ~ front[index] :: last :: front.eraseIdx index := hset.cons _
          _ ~ last :: front[index] :: front.eraseIdx index := List.Perm.swap _ _ _
          _ ~ last :: front := herase.cons _
          _ ~ front ++ [last] := (List.perm_append_singleton last front).symm

def takeAt : List Nat → List α → Option (List α)
  | [], _ => some []
  | index :: rest, pool =>
      match swapRemove pool index with
      | none => none
      | some (chosen, left) => (takeAt rest left).map (chosen :: ·)

def indices : Nat → Nat → Generator → List Nat × Generator
  | 0, _, g => ([], g)
  | n + 1, size, g =>
      let (index, g) := g.below size
      let (rest, g) := indices n (size - 1) g
      (index :: rest, g)

/-- An index for each of `n` draws, below the number of entries that are left for it. -/
def IndexSequences (n size : Nat) : Set (List Nat) :=
  { sequence | sequence.length = n ∧
    ∀ (k : Nat) (h : k < sequence.length), sequence[k] < size - k }

theorem nil_mem_indexSequences (size : Nat) : [] ∈ IndexSequences 0 size :=
  ⟨rfl, fun k h => absurd h (Nat.not_lt_zero k)⟩

theorem cons_mem_indexSequences {n size index : Nat} {rest : List Nat} :
    index :: rest ∈ IndexSequences (n + 1) size ↔
      index < size ∧ rest ∈ IndexSequences n (size - 1) := by
  constructor
  · rintro ⟨hlength, hbelow⟩
    refine ⟨hbelow 0 (Nat.succ_pos _), Nat.succ.inj hlength, fun k hk => ?_⟩
    have hnext := hbelow (k + 1) (Nat.succ_lt_succ hk)
    rw [List.getElem_cons_succ] at hnext
    omega
  · rintro ⟨hindex, hlength, hbelow⟩
    refine ⟨congrArg Nat.succ hlength, fun k hk => ?_⟩
    cases k with
    | zero => exact hindex
    | succ k =>
        have hrest := hbelow k (Nat.lt_of_succ_lt_succ hk)
        rw [List.getElem_cons_succ]
        omega

theorem indices_mem {n size : Nat} (hn : n ≤ size) (hsize : size ≤ Generator.wordRange)
    (g : Generator) : (indices n size g).1 ∈ IndexSequences n size := by
  induction n generalizing size g with
  | zero => exact nil_mem_indexSequences size
  | succ n ih =>
      exact cons_mem_indexSequences.2 ⟨Generator.below_lt (by omega) hsize g,
        ih (by omega) (by omega) (g.below size).2⟩

theorem takeAt_cons {pool : List α} {index : Nat} (h : index < pool.length) (rest : List Nat) :
    ∃ left, swapRemove pool index = some (pool[index], left) ∧ pool[index] :: left ~ pool ∧
      left.length = pool.length - 1 ∧
      takeAt (index :: rest) pool = (takeAt rest left).map (pool[index] :: ·) := by
  obtain ⟨left, htaken, hperm⟩ := swapRemove_perm h
  have hlength : left.length + 1 = pool.length := hperm.length_eq
  refine ⟨left, htaken, hperm, by omega, ?_⟩
  simp only [takeAt, htaken]

theorem takeAt_perm {n : Nat} {pool : List α} {sequence : List Nat}
    (h : sequence ∈ IndexSequences n pool.length) :
    ∃ chosen, takeAt sequence pool = some chosen ∧ chosen.length = n ∧
      ∃ rest, chosen ++ rest ~ pool := by
  induction sequence generalizing n pool with
  | nil => exact ⟨[], rfl, h.1, pool, List.Perm.refl pool⟩
  | cons index rest ih =>
      obtain rfl : rest.length + 1 = n := h.1
      obtain ⟨hindex, hrest⟩ := cons_mem_indexSequences.1 h
      obtain ⟨left, -, hperm, hlength, htaken⟩ := takeAt_cons hindex rest
      rw [← hlength] at hrest
      obtain ⟨others, hothers, hcount, unused, hunused⟩ := ih hrest
      refine ⟨pool[index] :: others, ?_, congrArg Nat.succ hcount, unused, ?_⟩
      · rw [htaken, hothers, Option.map_some]
      · exact (hunused.cons _).trans hperm

theorem dealMany_eq {n : Nat} {pool chosen : List α} {g : Generator}
    (hsequence : (indices n pool.length g).1 ∈ IndexSequences n pool.length)
    (hchosen : takeAt (indices n pool.length g).1 pool = some chosen) :
    dealMany n pool g = (chosen, (indices n pool.length g).2) := by
  induction n generalizing pool chosen g with
  | zero =>
      cases hchosen
      rfl
  | succ n ih =>
      simp only [indices] at hsequence hchosen
      obtain ⟨hindex, hrest⟩ := cons_mem_indexSequences.1 hsequence
      obtain ⟨left, hswap, -, hlength, htaken⟩ :=
        takeAt_cons hindex (indices n (pool.length - 1) (g.below pool.length).2).1
      obtain ⟨others, hothers, rfl⟩ := Option.map_eq_some_iff.1 (htaken.symm.trans hchosen)
      rw [← hlength] at hrest hothers
      simp only [dealMany, hswap, ih hrest hothers, indices, hlength]

theorem exists_deal {n : Nat} {pool : List α} (hn : n ≤ pool.length)
    (hpool : pool.length ≤ Generator.wordRange) (g : Generator) :
    ∃ chosen, takeAt (indices n pool.length g).1 pool = some chosen ∧
      dealMany n pool g = (chosen, (indices n pool.length g).2) ∧
      chosen.length = n ∧ ∃ rest, chosen ++ rest ~ pool := by
  have hsequence := indices_mem hn hpool g
  obtain ⟨chosen, hchosen, hcount, hperm⟩ := takeAt_perm hsequence
  exact ⟨chosen, hchosen, dealMany_eq hsequence hchosen, hcount, hperm⟩

theorem dealMany_perm {n : Nat} {pool : List α} (hn : n ≤ pool.length)
    (hpool : pool.length ≤ Generator.wordRange) (g : Generator) :
    (dealMany n pool g).1.length = n ∧ ∃ rest, (dealMany n pool g).1 ++ rest ~ pool := by
  obtain ⟨chosen, -, hdeal, hcount, hperm⟩ := exists_deal hn hpool g
  rw [hdeal]
  exact ⟨hcount, hperm⟩

theorem uniform_ok {n : Nat} {pool drawn : List α} {g : Generator}
    (h : (uniform pool n g).1 = .ok drawn) (hpool : pool.length ≤ Generator.wordRange) :
    drawn.length = n ∧ ∃ rest, drawn ++ rest ~ pool := by
  unfold uniform at h
  split at h
  · cases h
  · rename_i hshort
    cases h
    exact dealMany_perm (Nat.le_of_not_lt hshort) hpool g

theorem uniform_of_short {n : Nat} {pool : List α} (h : pool.length < n) (g : Generator) :
    uniform pool n g = (.error (.insufficientPool n pool.length), g) := if_pos h

end Sampling

end PrizeDraw
