import Mathlib.Algebra.Ring.Nat
import Mathlib.Data.List.FinRange
import Mathlib.Data.Set.Function
import PrizeDraw.Proofs.Draws

namespace PrizeDraw

open scoped List

namespace Generator

theorem stream_below (bound : Nat) (g : Generator) : (g.below bound).2.stream = g.stream :=
  (leads_below bound g).1

theorem position_below (bound : Nat) (g : Generator) :
    (g.below bound).2.position = g.position + 1 ∨ (g.below bound).2.position = g.position + 2 := by
  simp only [below]
  split
  · exact .inr rfl
  · exact .inl rfl

end Generator

namespace Sampling

variable {α β : Type}

def Selections (n size : Nat) : Set (List (Fin size)) :=
  { places | places.length = n ∧ places.Nodup }

theorem swapRemove_map (f : α → β) (pool : List α) (index : Nat) :
    swapRemove (pool.map f) index =
      (swapRemove pool index).map (Prod.map f (List.map f)) := by
  simp only [swapRemove, List.getElem?_map, List.getLast?_map]
  cases pool[index]? <;> cases pool.getLast? <;> simp [List.map_set, List.map_dropLast]

theorem takeAt_map (f : α → β) (sequence : List Nat) (pool : List α) :
    takeAt sequence (pool.map f) = (takeAt sequence pool).map (List.map f) := by
  induction sequence generalizing pool with
  | nil => rfl
  | cons index rest ih =>
      simp only [takeAt, swapRemove_map]
      cases swapRemove pool index with
      | none => rfl
      | some taken =>
          obtain ⟨chosen, left⟩ := taken
          simp only [Option.map_some, Prod.map_apply, ih, Option.map_map]
          rfl

theorem takeAt_injective {n : Nat} {pool : List α} (hpool : pool.Nodup)
    {sequence other : List Nat} (hsequence : sequence ∈ IndexSequences n pool.length)
    (hother : other ∈ IndexSequences n pool.length)
    (h : takeAt sequence pool = takeAt other pool) : sequence = other := by
  induction sequence generalizing n pool other with
  | nil => exact (List.length_eq_zero_iff.1 (hother.1.trans hsequence.1.symm)).symm
  | cons index rest ih =>
      obtain rfl : rest.length + 1 = n := hsequence.1
      obtain ⟨index', rest', rfl⟩ := List.exists_cons_of_length_eq_add_one hother.1
      obtain ⟨hindex, hrest⟩ := cons_mem_indexSequences.1 hsequence
      obtain ⟨hindex', hrest'⟩ := cons_mem_indexSequences.1 hother
      obtain ⟨left, hswap, hperm, hlength, htaken⟩ := takeAt_cons hindex rest
      obtain ⟨left', hswap', -, hlength', htaken'⟩ := takeAt_cons hindex' rest'
      have hrange := hrest
      rw [← hlength] at hrange
      obtain ⟨others, hothers, -⟩ := takeAt_perm hrange
      rw [htaken, htaken', hothers, Option.map_some] at h
      obtain ⟨others', hothers', hcons⟩ := Option.map_eq_some_iff.1 h.symm
      obtain ⟨hfirst, rfl⟩ := List.cons.inj hcons
      -- The first entries are the same, so they were in the same place.
      obtain rfl : index = index' := ((hpool.getElem_inj_iff).1 hfirst).symm
      obtain rfl : left = left' := by
        rw [hswap] at hswap'
        cases hswap'
        rfl
      have hnodup : left.Nodup := (List.nodup_cons.1 (hperm.nodup_iff.2 hpool)).2
      rw [← hlength] at hrest hrest'
      rw [ih hnodup hrest hrest' (hothers.trans hothers'.symm)]

theorem exists_takeAt {chosen pool : List α} (hchosen : chosen.Nodup) (hmem : chosen ⊆ pool) :
    ∃ sequence ∈ IndexSequences chosen.length pool.length,
      takeAt sequence pool = some chosen := by
  induction chosen generalizing pool with
  | nil => exact ⟨[], nil_mem_indexSequences _, rfl⟩
  | cons first others ih =>
      obtain ⟨hnew, hothers⟩ := List.nodup_cons.1 hchosen
      obtain ⟨index, hindex, rfl⟩ := List.getElem_of_mem (hmem List.mem_cons_self)
      obtain ⟨left, hswap, hperm⟩ := swapRemove_perm hindex
      have hlength : left.length + 1 = pool.length := hperm.length_eq
      have hleft : others ⊆ left := by
        intro entry hentry
        have hpool := hperm.mem_iff.2 (hmem (List.mem_cons_of_mem _ hentry))
        rcases List.mem_cons.1 hpool with rfl | hkept
        · exact absurd hentry hnew
        · exact hkept
      obtain ⟨rest, hrest, hothers⟩ := ih hothers hleft
      refine ⟨index :: rest, cons_mem_indexSequences.2 ⟨hindex, ?_⟩, ?_⟩
      · rwa [← hlength]
      · simp only [takeAt, hswap, hothers, Option.map_some]

theorem takeAt_bijOn (n size : Nat) :
    Set.BijOn (fun sequence => takeAt sequence (List.finRange size)) (IndexSequences n size)
      (some '' Selections n size) := by
  have hlength : (List.finRange size).length = size := List.length_finRange
  have hnodup := List.nodup_finRange size
  refine ⟨?_, ?_, ?_⟩
  · intro sequence hsequence
    rw [← hlength] at hsequence
    obtain ⟨places, hplaces, hcount, rest, hperm⟩ := takeAt_perm hsequence
    have hall : (places ++ rest).Nodup := hperm.nodup_iff.2 hnodup
    exact ⟨places, ⟨hcount, hall.of_append_left⟩, hplaces.symm⟩
  · intro sequence hsequence other hother h
    rw [← hlength] at hsequence hother
    exact takeAt_injective hnodup hsequence hother h
  · rintro _ ⟨places, ⟨hcount, hplaces⟩, rfl⟩
    obtain ⟨sequence, hsequence, htaken⟩ :=
      exists_takeAt hplaces fun place _ => List.mem_finRange place
    rw [hcount, hlength] at hsequence
    exact ⟨sequence, hsequence, htaken⟩

theorem stream_indices (n size : Nat) (g : Generator) : (indices n size g).2.stream = g.stream := by
  induction n generalizing size g with
  | zero => rfl
  | succ n ih => exact (ih _ _).trans (Generator.stream_below size g)

theorem position_indices (n size : Nat) (g : Generator) :
    g.position + n ≤ (indices n size g).2.position ∧
      (indices n size g).2.position ≤ g.position + 2 * n := by
  induction n generalizing size g with
  | zero => exact ⟨Nat.le_refl _, Nat.le_refl _⟩
  | succ n ih =>
      have hrest := ih (size - 1) (g.below size).2
      have hfirst := Generator.position_below size g
      simp only [indices]
      omega

theorem uniform_fair (pool : List α) (n : Nat) (hpool : pool.length < 2 ^ 32) :
    (n ≤ pool.length →
      (∀ g : Generator,
        let drawn := indices n pool.length g
        drawn.1 ∈ IndexSequences n pool.length ∧
        drawn.2.stream = g.stream ∧
        g.position + n ≤ drawn.2.position ∧ drawn.2.position ≤ g.position + 2 * n ∧
        ∃ places ∈ Selections n pool.length,
          takeAt drawn.1 (List.finRange pool.length) = some places ∧
          uniform pool n g = (.ok (places.map pool.get), drawn.2)) ∧
      Set.BijOn (fun sequence => takeAt sequence (List.finRange pool.length))
        (IndexSequences n pool.length) (some '' Selections n pool.length)) ∧
    (pool.length < n → ∀ g : Generator,
      uniform pool n g = (.error (.insufficientPool n pool.length), g)) := by
  have hrange : pool.length ≤ Generator.wordRange := Nat.le_of_lt hpool
  refine ⟨fun hn => ⟨fun g => ?_, takeAt_bijOn n pool.length⟩, fun hshort g =>
    uniform_of_short hshort g⟩
  intro drawn
  have hsequence := indices_mem hn hrange g
  obtain ⟨hleast, hmost⟩ := position_indices n pool.length g
  refine ⟨hsequence, stream_indices n pool.length g, hleast, hmost, ?_⟩
  obtain ⟨places, hplaces, hpicked⟩ := (takeAt_bijOn n pool.length).mapsTo hsequence
  have htaken : takeAt drawn.1 (List.finRange pool.length) = some places := hpicked.symm
  have hentries : takeAt drawn.1 pool = some (places.map pool.get) := by
    have hmap := takeAt_map pool.get drawn.1 (List.finRange pool.length)
    rw [List.map_get_finRange] at hmap
    rw [hmap, htaken, Option.map_some]
  refine ⟨places, hplaces, htaken, ?_⟩
  rw [uniform, if_neg (Nat.not_lt.2 hn), dealMany_eq hsequence hentries]

theorem uniform_fair_carry :
    let pool := ["sword", "bow", "staff"]
    let words : Generator :=
      { stream := fun n => if n = 0 then 0x55555555 else 0xffffffff }
    (pool.length < 2 ^ 32 ∧ 2 ≤ pool.length ∧ pool.length < 4) ∧
      (uniform pool 2 words).1 = .ok ["bow", "staff"] ∧
      (uniform pool 2 words).2.position = 3 ∧
      uniform pool 4 words = (.error (.insufficientPool 4 3), words) := by
  intro pool words
  have hpool : pool.length < 2 ^ 32 := by decide
  obtain ⟨hdraw, -⟩ := uniform_fair pool 2 hpool
  obtain ⟨-, hrefused⟩ := uniform_fair pool 4 hpool
  have henough : 2 ≤ pool.length := by decide
  have hshort : pool.length < 4 := by decide
  obtain ⟨-, -, -, -, places, -, htaken, hrun⟩ := (hdraw henough).1 words
  have hplaces : some places = some [1, 2] := htaken.symm.trans (by decide)
  cases hplaces
  refine ⟨⟨hpool, henough, hshort⟩, ?_, ?_, hrefused hshort words⟩
  · rw [hrun]
    rfl
  · rw [hrun]
    decide

end Sampling

end PrizeDraw
