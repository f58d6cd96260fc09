/-!
# PredicateOracle.Truth.Basic -- three truth values

The logic of SQL. A predicate on a row holds, fails, or is unknown because a NULL stands in the way.
Ordered as `fails`, `unknown`, `holds`, conjunction is the lesser of two values and disjunction the
greater; negation turns the order around. Unknown is a value of its own everywhere but in a filter,
which keeps the rows on which its predicate holds and no others.
-/

namespace PredicateOracle

/-- What a predicate says about a row. -/
inductive Truth where
  | holds
  | fails
  | unknown
  deriving DecidableEq, Repr, Inhabited

namespace Truth

/-- All values, in their listed order. -/
def all : List Truth := [.holds, .fails, .unknown]

/-- Negation. -/
def not : Truth → Truth
  | .holds => .fails
  | .fails => .holds
  | .unknown => .unknown

/-- Conjunction: a failing side decides, then an unknown one. -/
def and : Truth → Truth → Truth
  | .fails, _ | _, .fails => .fails
  | .holds, .holds => .holds
  | _, _ => .unknown

/-- Disjunction: a holding side decides, then an unknown one. -/
def or : Truth → Truth → Truth
  | .holds, _ | _, .holds => .holds
  | .fails, .fails => .fails
  | _, _ => .unknown

/-- Whether a filter keeps a row with this value. -/
def kept : Truth → Bool
  | .holds => true
  | _ => false

/-- The place of a value in the listed order. -/
def rank : Truth → Nat
  | .holds => 0
  | .fails => 1
  | .unknown => 2

/-- The value of an optional boolean; none is unknown. -/
def ofBool? : Option Bool → Truth
  | some true => .holds
  | some false => .fails
  | none => .unknown

/-- Reads the cell of a predicate in a result row: `true`, `false` or NULL. Any other text is given
back as it is. -/
def ofCell : Option String → Except String Truth
  | none => .ok .unknown
  | some "true" => .ok .holds
  | some "false" => .ok .fails
  | some text => .error text

/-- The cell in which a value is returned. -/
def cell : Truth → Option String
  | .holds => some "true"
  | .fails => some "false"
  | .unknown => none

/-- The name of a value. -/
def name : Truth → String
  | .holds => "True"
  | .fails => "False"
  | .unknown => "Unknown"

/-- The value in SQL. -/
def sql : Truth → String
  | .holds => "TRUE"
  | .fails => "FALSE"
  | .unknown => "UNKNOWN"

@[simp] theorem not_not (a : Truth) : a.not.not = a := by cases a <;> rfl

theorem not_and (a b : Truth) : (a.and b).not = a.not.or b.not := by
  cases a <;> cases b <;> rfl

theorem not_or (a b : Truth) : (a.or b).not = a.not.and b.not := by
  cases a <;> cases b <;> rfl

theorem kept_iff (a : Truth) : a.kept = true ↔ a = .holds := by cases a <;> simp [kept]

/-- Reading a cell undoes writing it. -/
theorem ofCell_cell (a : Truth) : ofCell a.cell = .ok a := by cases a <;> rfl

/-- Only the cells that are written for a value are read as that value. -/
theorem cell_of_ofCell {c : Option String} {a : Truth} (h : ofCell c = .ok a) : a.cell = c := by
  unfold ofCell at h
  split at h <;> cases h <;> rfl

end Truth
end PredicateOracle
