import PredicateOracle.Sql.Expr
import PredicateOracle.Truth.Column

/-!
# PredicateOracle.Predicate.Known -- predicates with their truth

An expression together with its truth on every row of a snapshot. Negation and combination work on
both at once: what they do to the expression and what they do to the truth is the same connective.
-/

namespace PredicateOracle

open Sql

/-- A predicate and its truth on every row. -/
structure Known where
  expression : Expr
  truth : TruthColumn
  deriving DecidableEq, Repr

/-- The meaning of a connective. -/
def Sql.Connective.apply : Connective → Truth → Truth → Truth
  | .and => Truth.and
  | .or => Truth.or

namespace Known

/-- The negated predicate. -/
def negate (p : Known) : Known := ⟨p.expression.negate, p.truth.negate⟩

/-- Two predicates under a connective. -/
def combine (op : Connective) (l r : Known) : Except Fault Known := do
  return ⟨.logical op l.expression r.expression, ← l.truth.zip op.apply r.truth⟩

end Known
end PredicateOracle
