import Mathlib.Algebra.Ring.Nat
import PrizeDraw.Proofs.Keys
import PrizeDraw.Tally

namespace PrizeDraw

namespace Table

variable {κ : Type} [LT κ] [DecidableEq κ] [DecidableLT κ]

theorem sum_values_insert (hirrefl : ∀ a : κ, ¬a < a) (htrans : ∀ a b c : κ, a < b → b < c → a < c)
    {table : Table κ Nat} (h : table.Sorted) (key : κ) (value : Nat) :
    (insert key value table).values.sum + (find? key table).getD 0 =
      table.values.sum + value := by
  induction table with
  | nil => simp [insert, values]
  | cons row rest ih =>
      obtain ⟨k, v⟩ := row
      obtain ⟨hfirst, hrest⟩ := List.pairwise_cons.1 h
      simp only [insert, find?]
      by_cases heq : k = key
      · simp only [heq, if_true, values, List.map_cons, List.sum_cons, Option.getD_some]
        omega
      · rw [if_neg heq, if_neg heq]
        by_cases hlt : key < k
        · -- All keys from here on are greater, so there is no old row.
          have hmissing : key ∉ rest.map Prod.fst := by
            intro hmem
            obtain ⟨other, hother, rfl⟩ := List.mem_map.1 hmem
            exact hirrefl _ (htrans _ _ _ hlt (hfirst other hother))
          rw [if_pos hlt, find?_eq_none_of_not_mem hmissing]
          simp only [values, List.map_cons, List.sum_cons, Option.getD_none]
          omega
        · have hsum := ih hrest
          rw [if_neg hlt]
          simp only [values, List.map_cons, List.sum_cons] at hsum ⊢
          omega

end Table

namespace Tally

structure CountsItems (counts : Table UInt8 Nat) (items : List DrawnItem) : Prop where
  sorted : counts.Sorted
  total : counts.values.sum = items.length
  rarity : ∀ rarity,
    (counts.find? rarity).getD 0 = items.countP fun item => item.rarity == rarity
  drawn : ∀ rarity count, counts.find? rarity = some count → 0 < count

theorem countsItems_nil : CountsItems [] [] := ⟨List.Pairwise.nil, rfl, fun _ => rfl, nofun⟩

variable {counts : Table UInt8 Nat} {items : List DrawnItem}

theorem countsItems_countItem (h : CountsItems counts items) (item : DrawnItem) :
    CountsItems (countItem counts item) (items ++ [item]) where
  sorted := by
    refine Table.sorted_insert (fun _ _ _ => UInt8.lt_trans) ?_ h.sorted _ _
    intro a b
    rcases Nat.lt_trichotomy a.toNat b.toNat with hlt | heq | hgt
    · exact Or.inr (Or.inl hlt)
    · exact Or.inl (UInt8.toNat_inj.1 heq)
    · exact Or.inr (Or.inr hgt)
  total := by
    have hsum := Table.sum_values_insert (fun a => UInt8.lt_irrefl a)
      (fun _ _ _ => UInt8.lt_trans) h.sorted item.rarity
      ((counts.find? item.rarity).getD 0 + 1)
    have htotal := h.total
    rw [countItem, List.length_append, List.length_singleton]
    omega
  rarity rarity := by
    have hold := h.rarity rarity
    rw [countItem, List.countP_append, ← hold]
    by_cases hsame : rarity = item.rarity
    · subst hsame
      simp
    · rw [Table.find?_insert_of_ne hsame]
      simp [Ne.symm hsame]
  drawn rarity count hfound := by
    rw [countItem] at hfound
    by_cases hsame : rarity = item.rarity
    · rw [hsame, Table.find?_insert_self] at hfound
      obtain rfl := Option.some.inj hfound
      exact Nat.succ_pos _
    · rw [Table.find?_insert_of_ne hsame] at hfound
      exact h.drawn rarity count hfound

theorem CountsItems.mem_iff (h : CountsItems counts items) (rarity : UInt8) (count : Nat) :
    (rarity, count) ∈ counts ↔
      0 < count ∧ count = items.countP fun item => item.rarity == rarity := by
  rw [Table.mem_iff_find? UInt8.lt_irrefl h.sorted, ← h.rarity]
  cases hfound : counts.find? rarity with
  | none =>
      refine iff_of_false nofun fun ⟨hpos, hcount⟩ => ?_
      rw [hcount] at hpos
      exact absurd hpos (Nat.lt_irrefl 0)
  | some found =>
      have hpos := h.drawn rarity found hfound
      rw [Option.some.injEq, Option.getD_some]
      constructor
      · rintro rfl
        exact ⟨hpos, rfl⟩
      · rintro ⟨-, rfl⟩
        rfl

theorem countsItems_foldl (h : CountsItems counts items) (more : List DrawnItem) :
    CountsItems (more.foldl countItem counts) (items ++ more) := by
  induction more generalizing counts items with
  | nil => simpa using h
  | cons item rest ih =>
      have hrest := ih (countsItems_countItem h item)
      rwa [List.append_assoc, List.singleton_append] at hrest

structure Counts (tally : Tally) (won : List (List DrawnItem)) : Prop where
  plays : tally.plays = won.length
  items : CountsItems tally.byRarity won.flatten

theorem counts_nil : Counts {} [] := ⟨rfl, countsItems_nil⟩

theorem counts_record {tally : Tally} {won : List (List DrawnItem)} (h : Counts tally won)
    (items : List DrawnItem) : Counts (tally.record items) (won ++ [items]) where
  plays := by simp [record, h.plays]
  items := by
    rw [List.flatten_append, List.flatten_singleton]
    exact countsItems_foldl h.items items

theorem total_eq_sum (tally : Tally) : tally.total = tally.byRarity.values.sum :=
  List.sum_eq_foldl.symm

theorem Counts.total {tally : Tally} {won : List (List DrawnItem)} (h : Counts tally won) :
    tally.total = won.flatten.length :=
  tally.total_eq_sum.trans h.items.total

end Tally

end PrizeDraw
