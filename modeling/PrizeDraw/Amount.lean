namespace PrizeDraw

namespace Amount

def lowest : Int := -9223372036854775808

def highest : Int := 9223372036854775807

def ofInt? (n : Int) : Option Int64 :=
  if lowest ≤ n ∧ n ≤ highest then some (Int64.ofInt n) else none

def add? (a b : Int64) : Option Int64 := ofInt? (a.toInt + b.toInt)

def neg? (a : Int64) : Option Int64 := ofInt? (-a.toInt)

theorem lowest_le_toInt (v : Int64) : lowest ≤ v.toInt := Int64.le_toInt v

theorem toInt_le_highest (v : Int64) : v.toInt ≤ highest := Int64.toInt_le v

theorem ofInt?_eq_some_iff {n : Int} {v : Int64} : ofInt? n = some v ↔ v.toInt = n := by
  constructor
  · intro h
    unfold ofInt? at h
    split at h
    · rename_i inside
      simp only [lowest, highest] at inside
      obtain rfl := Option.some.inj h
      exact Int64.toInt_ofInt_of_le (by omega) (by omega)
    · cases h
  · rintro rfl
    unfold ofInt?
    rw [if_pos ⟨lowest_le_toInt v, toInt_le_highest v⟩, Int64.ofInt_toInt]

theorem ofInt?_eq_none_iff {n : Int} : ofInt? n = none ↔ n < lowest ∨ highest < n := by
  unfold ofInt?
  split <;> simp <;> omega

def clamp (low high n : Int) : Int := max low (min n high)

def clampU32 (n : Int) : UInt32 := UInt32.ofNat (clamp 0 4294967295 n).toNat

end Amount

end PrizeDraw
