import PredicateOracle.Sql.Expr

/-!
# PredicateOracle.Proofs.Sql.Tree -- what an expression holds

Three readings of an expression tree, beside the number of its connectives: the columns that it
refers to, its literals, and its height. An expression is plain if no name in it needs quotes.
-/

namespace PredicateOracle.Sql

namespace Expr

/-- The columns that an expression refers to, in reading order. -/
def refs : Expr → List ColumnRef
  | .column r => [r]
  | .literal _ => []
  | .prefixed _ e | .postfixed _ e => e.refs
  | .logical _ l r | .comparison _ l r | .arithmetic _ l r | .concat l r | .like _ l r =>
    l.refs ++ r.refs
  | .between _ e l h => e.refs ++ l.refs ++ h.refs

/-- The literals of an expression, in reading order. -/
def literals : Expr → List Literal
  | .column _ => []
  | .literal l => [l]
  | .prefixed _ e | .postfixed _ e => e.literals
  | .logical _ l r | .comparison _ l r | .arithmetic _ l r | .concat l r | .like _ l r =>
    l.literals ++ r.literals
  | .between _ e l h => e.literals ++ l.literals ++ h.literals

/-- How many operators stand on top of each other. -/
def height : Expr → Nat
  | .column _ | .literal _ => 0
  | .prefixed _ e | .postfixed _ e => e.height + 1
  | .logical _ l r | .comparison _ l r | .arithmetic _ l r | .concat l r | .like _ l r =>
    max l.height r.height + 1
  | .between _ e l h => max e.height (max l.height h.height) + 1

end Expr

/-! ## Plain names -/

/-- **`IsPlain name`** -- the name consists of letters, digits and underscores of the ASCII range,
and there is at least one of them. -/
def IsPlain (name : String) : Prop :=
  name ≠ "" ∧ ∀ c ∈ name.toList, c.isAlphanum = true ∨ c = '_'

/-- Whether both names of a reference are plain. -/
def ColumnRef.Plain (r : ColumnRef) : Prop := IsPlain r.table ∧ IsPlain r.column

/-- Whether all names in an expression are plain. -/
def Expr.Plain (e : Expr) : Prop := ∀ r ∈ e.refs, r.Plain

instance (name : String) : Decidable (IsPlain name) :=
  decidable_of_iff (name ≠ "" ∧ name.toList.all (fun c => c.isAlphanum || c == '_') = true)
    (by simp [IsPlain])

instance (r : ColumnRef) : Decidable r.Plain :=
  inferInstanceAs (Decidable (IsPlain r.table ∧ IsPlain r.column))

instance (e : Expr) : Decidable e.Plain :=
  inferInstanceAs (Decidable (∀ r ∈ e.refs, r.Plain))

end PredicateOracle.Sql
