/-!
# PredicateOracle.Setting.Entries -- keys with values

A table is a list of keys with values, in the order in which the keys were first given. Giving a key
a value changes what is found under that key and nothing else (`find?_put_self`, `find?_put_of_ne`).
-/

namespace PredicateOracle

/-- Keys with values. -/
abbrev Entries (α : Type) := List (String × α)

namespace Entries

variable {α : Type}

/-- The value under a key. -/
def find? (key : String) : Entries α → Option α
  | [] => none
  | (k, v) :: rest => if k = key then some v else find? key rest

/-- Gives a key a value, in the place of the one it had or behind all others. -/
def put (key : String) (value : α) : Entries α → Entries α
  | [] => [(key, value)]
  | (k, v) :: rest => if k = key then (key, value) :: rest else (k, v) :: put key value rest

theorem find?_put_self (key : String) (value : α) (es : Entries α) :
    find? key (put key value es) = some value := by
  induction es with
  | nil => simp [put, find?]
  | cons e rest ih => by_cases h : e.1 = key <;> simp [put, find?, h, ih]

theorem find?_put_of_ne {key other : String} (h : other ≠ key) (value : α) (es : Entries α) :
    find? other (put key value es) = find? other es := by
  induction es with
  | nil => simp [put, find?, h.symm]
  | cons e rest ih =>
    by_cases hk : e.1 = key
    · simp [put, find?, hk, h.symm]
    · simp [put, find?, hk, ih]

end Entries
end PredicateOracle
