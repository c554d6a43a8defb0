import PrizeDraw.Environment

namespace PrizeDraw

namespace Decimal

def IsDigits (ds : List Char) : Prop := ds ≠ [] ∧ ∀ c ∈ ds, c.isDigit = true

theorem not_isDigits_nil : ¬ IsDigits [] := fun h => h.1 rfl

theorem isDigits_digits (n : Nat) : IsDigits (digits n) :=
  ⟨digits_ne_nil n, isDigit_of_mem_digits n⟩

def extend (n : Nat) (ds : List Char) : Nat := ds.foldl (fun n c => n * 10 + digitValue c) n

theorem extend_zero (ds : List Char) : extend 0 ds = value ds := rfl

theorem le_extend (n : Nat) (ds : List Char) : n ≤ extend n ds := by
  induction ds generalizing n with
  | nil => exact Nat.le_refl n
  | cons c ds ih =>
      have hrest : n * 10 + digitValue c ≤ extend n (c :: ds) := ih _
      omega

end Decimal

namespace IntegerText

open Decimal (IsDigits isDigits_digits not_isDigits_nil)

inductive Written (signed : Bool) : List Char → Int → Prop where
  | plain {ds : List Char} (digits : IsDigits ds) : Written signed ds (Decimal.value ds)
  | plus {ds : List Char} (digits : IsDigits ds) : Written signed ('+' :: ds) (Decimal.value ds)
  | minus {ds : List Char} (digits : IsDigits ds) (sign : signed = true) :
      Written signed ('-' :: ds) (-(Decimal.value ds : Int))

theorem written_ofInt {signed : Bool} {n : Int} (h : n < 0 → signed = true) :
    Written signed (Decimal.ofInt n) n := by
  rw [Decimal.ofInt]
  split
  · rename_i hneg
    have hwritten := Written.minus (isDigits_digits n.natAbs) (h hneg)
    rw [Decimal.value_digits] at hwritten
    have hvalue : -(n.natAbs : Int) = n := by omega
    rwa [hvalue] at hwritten
  · rename_i hneg
    have hwritten : Written signed _ _ := Written.plain (isDigits_digits n.natAbs)
    rw [Decimal.value_digits] at hwritten
    have hvalue : (n.natAbs : Int) = n := by omega
    rwa [hvalue] at hwritten

theorem map_eq_ok_iff {ε α β : Type} {x : Except ε α} {f : α → β} {b : β} :
    x.map f = .ok b ↔ ∃ a, x = .ok a ∧ f a = b := by
  cases x with
  | error fault => simp [Except.map]
  | ok a => simp [Except.map]

theorem magnitude_eq_ok_iff {bound n m : Nat} {beyond : IntegerFault} {ds : List Char}
    (hn : n ≤ bound) :
    magnitude bound beyond n ds = .ok m ↔
      (∀ c ∈ ds, c.isDigit = true) ∧ Decimal.extend n ds = m ∧ m ≤ bound := by
  induction ds generalizing n with
  | nil =>
      constructor
      · intro h
        cases h
        exact ⟨fun c hc => absurd hc List.not_mem_nil, rfl, hn⟩
      · rintro ⟨-, rfl, -⟩
        rfl
  | cons c ds ih =>
      rw [magnitude, List.forall_mem_cons]
      by_cases hdigit : c.isDigit = true
      · rw [if_pos hdigit]
        by_cases hnext : n * 10 + Decimal.digitValue c ≤ bound
        · rw [if_pos hnext, ih hnext]
          exact and_congr_left fun _ => (and_iff_right hdigit).symm
        · -- A number that has left the range does not come back into it.
          rw [if_neg hnext]
          constructor
          · intro h
            cases h
          · rintro ⟨-, rfl, hm⟩
            exact absurd (Nat.le_trans (Decimal.le_extend _ ds) hm) hnext
      · rw [if_neg hdigit]
        constructor
        · intro h
          cases h
        · rintro ⟨⟨hc, -⟩, -⟩
          exact absurd hc hdigit

theorem positive_eq_ok_iff {range : Range} {ds : List Char} {n : Int} (hne : ds ≠ []) :
    positive range ds = .ok n ↔
      (IsDigits ds ∧ (Decimal.value ds : Int) = n) ∧ -(range.low : Int) ≤ n ∧ n ≤ range.high := by
  rw [positive, map_eq_ok_iff]
  simp only [magnitude_eq_ok_iff (Nat.zero_le range.high), Decimal.extend_zero]
  constructor
  · rintro ⟨m, ⟨hdigits, rfl, hm⟩, rfl⟩
    refine ⟨⟨⟨hne, hdigits⟩, rfl⟩, ?_, Int.ofNat_le.mpr hm⟩
    rw [Int.ofNat_eq_natCast]
    omega
  · rintro ⟨⟨⟨-, hdigits⟩, rfl⟩, -, hn⟩
    exact ⟨_, ⟨hdigits, rfl, Int.ofNat_le.mp hn⟩, rfl⟩

theorem negative_eq_ok_iff {range : Range} {ds : List Char} {n : Int} (hne : ds ≠ []) :
    negative range ds = .ok n ↔
      (IsDigits ds ∧ -(Decimal.value ds : Int) = n) ∧ -(range.low : Int) ≤ n ∧ n ≤ range.high := by
  rw [negative, map_eq_ok_iff]
  simp only [magnitude_eq_ok_iff (Nat.zero_le range.low), Decimal.extend_zero]
  constructor
  · rintro ⟨m, ⟨hdigits, rfl, hm⟩, rfl⟩
    refine ⟨⟨⟨hne, hdigits⟩, rfl⟩, Int.neg_le_neg (Int.ofNat_le.mpr hm), ?_⟩
    rw [Int.ofNat_eq_natCast]
    omega
  · rintro ⟨⟨⟨-, hdigits⟩, rfl⟩, hn, -⟩
    exact ⟨_, ⟨hdigits, rfl, Int.ofNat_le.mp (Int.neg_le_neg_iff.mp hn)⟩, rfl⟩

theorem written_plus_iff {signed : Bool} {ds : List Char} {n : Int} :
    Written signed ('+' :: ds) n ↔ IsDigits ds ∧ (Decimal.value ds : Int) = n := by
  constructor
  · intro h
    cases h with
    | plain digits => exact absurd (digits.2 '+' List.mem_cons_self) (by decide)
    | plus digits => exact ⟨digits, rfl⟩
  · rintro ⟨digits, rfl⟩
    exact .plus digits

theorem written_minus_iff {signed : Bool} {ds : List Char} {n : Int} :
    Written signed ('-' :: ds) n ↔
      signed = true ∧ IsDigits ds ∧ -(Decimal.value ds : Int) = n := by
  constructor
  · intro h
    cases h with
    | plain digits => exact absurd (digits.2 '-' List.mem_cons_self) (by decide)
    | minus digits sign => exact ⟨sign, digits, rfl⟩
  · rintro ⟨sign, digits, rfl⟩
    exact .minus digits sign

theorem written_iff_of_no_sign {signed : Bool} {ds : List Char} {n : Int}
    (hplus : ∀ rest, ds ≠ '+' :: rest) (hminus : ∀ rest, ds ≠ '-' :: rest) :
    Written signed ds n ↔ IsDigits ds ∧ (Decimal.value ds : Int) = n := by
  constructor
  · intro h
    cases h with
    | plain digits => exact ⟨digits, rfl⟩
    | plus digits => exact absurd rfl (hplus _)
    | minus digits sign => exact absurd rfl (hminus _)
  · rintro ⟨digits, rfl⟩
    exact .plain digits

namespace Range

def isSigned (range : Range) : Bool := decide (range.low ≠ 0)

end Range

theorem read_eq_ok_iff {range : Range} {cs : List Char} {n : Int} :
    read range cs = .ok n ↔
      Written range.isSigned cs n ∧ -(range.low : Int) ≤ n ∧ n ≤ range.high := by
  unfold read
  split
  · rw [written_iff_of_no_sign (by simp) (by simp)]
    simp [not_isDigits_nil]
  · simp [written_plus_iff, not_isDigits_nil]
  · simp [written_minus_iff, not_isDigits_nil]
  · rename_i rest hrest
    rw [positive_eq_ok_iff hrest, written_plus_iff]
  · rename_i rest hrest
    rw [written_minus_iff, Range.isSigned]
    split
    · rename_i hlow
      simp [hlow]
    · rename_i hlow
      rw [negative_eq_ok_iff hrest, and_iff_right (decide_eq_true hlow)]
  · rename_i hnil _ _ hplus hminus
    rw [positive_eq_ok_iff hnil, written_iff_of_no_sign hplus hminus]

end IntegerText

end PrizeDraw
