namespace PrizeDraw

abbrev Table (κ ν : Type) := List (κ × ν)

namespace Table

variable {κ ν : Type} [DecidableEq κ] [LT κ] [DecidableLT κ]

def find? (key : κ) : Table κ ν → Option ν
  | [] => none
  | (k, v) :: rows => if k = key then some v else find? key rows

def insert (key : κ) (value : ν) : Table κ ν → Table κ ν
  | [] => [(key, value)]
  | (k, v) :: rows =>
      if k = key then (key, value) :: rows
      else if key < k then (key, value) :: (k, v) :: rows
      else (k, v) :: insert key value rows

def values (table : Table κ ν) : List ν := table.map Prod.snd

omit [LT κ] [DecidableLT κ] in
@[simp] theorem find?_nil (key : κ) : find? key ([] : Table κ ν) = none := rfl

@[simp] theorem find?_insert_self (key : κ) (value : ν) (table : Table κ ν) :
    find? key (insert key value table) = some value := by
  induction table with
  | nil => simp [insert, find?]
  | cons row rows ih =>
      obtain ⟨k, v⟩ := row
      simp only [insert]
      by_cases h : k = key
      · simp [h, find?]
      · by_cases hlt : key < k
        · simp [h, hlt, find?]
        · simp [h, hlt, find?, ih]

theorem find?_insert_of_ne {key other : κ} (h : other ≠ key) (value : ν) (table : Table κ ν) :
    find? other (insert key value table) = find? other table := by
  induction table with
  | nil => simp [insert, find?, h.symm]
  | cons row rows ih =>
      obtain ⟨k, v⟩ := row
      simp only [insert]
      by_cases hk : k = key
      · subst hk
        simp [find?, h.symm]
      · by_cases hlt : key < k
        · simp [hk, hlt, find?, h.symm]
        · simp [hk, hlt, find?, ih]

end Table

end PrizeDraw
