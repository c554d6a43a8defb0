namespace PrizeDraw

namespace Decimal

def digit (d : Nat) : Char := Char.ofNat (48 + d)

def digitValue (c : Char) : Nat := c.toNat - 48

def digits (n : Nat) : List Char :=
  if n < 10 then [digit n] else digits (n / 10) ++ [digit (n % 10)]

def ofInt (n : Int) : List Char :=
  if n < 0 then '-' :: digits n.natAbs else digits n.natAbs

def value (ds : List Char) : Nat := ds.foldl (fun n c => n * 10 + digitValue c) 0

theorem digitValue_digit {d : Nat} (h : d < 10) : digitValue (digit d) = d := by
  have all : ∀ d, d < 10 → digitValue (digit d) = d := by decide
  exact all d h

theorem isDigit_digit {d : Nat} (h : d < 10) : (digit d).isDigit = true := by
  have all : ∀ d, d < 10 → (digit d).isDigit = true := by decide
  exact all d h

theorem value_append (ds : List Char) (c : Char) :
    value (ds ++ [c]) = value ds * 10 + digitValue c := by
  simp [value]

theorem value_digits (n : Nat) : value (digits n) = n := by
  rw [digits]
  split
  · rename_i h
    simp [value, digitValue_digit h]
  · rw [value_append, value_digits (n / 10), digitValue_digit (by omega)]
    omega

theorem isDigit_of_mem_digits (n : Nat) : ∀ c ∈ digits n, c.isDigit = true := by
  intro c hc
  rw [digits] at hc
  split at hc
  · rename_i h
    rw [List.mem_singleton.1 hc]
    exact isDigit_digit h
  · rcases List.mem_append.1 hc with hc | hc
    · exact isDigit_of_mem_digits (n / 10) c hc
    · rw [List.mem_singleton.1 hc]
      exact isDigit_digit (by omega)

theorem digits_ne_nil (n : Nat) : digits n ≠ [] := by
  rw [digits]
  split <;> simp

end Decimal

end PrizeDraw
