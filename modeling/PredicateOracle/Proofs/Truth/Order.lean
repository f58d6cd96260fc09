import PredicateOracle.Predicate.Known

/-!
# PredicateOracle.Proofs.Truth.Order -- the connectives in the order of truth

SQL explains its connectives by an order: a predicate fails, is unknown or holds. Negation turns the
order around, conjunction is the minimum and disjunction the maximum. The definitions of
`PredicateOracle.Truth.Basic` are tables; here they are shown to be these operations. An
`Interpretation` is stated with the order alone and is then shown to follow the tables.
-/

namespace PredicateOracle

open Sql

/-! ## Degrees -/

/-- How true a value is: failing, then unknown, then holding. -/
def Truth.degree : Truth → Nat
  | .fails => 0
  | .unknown => 1
  | .holds => 2

namespace Truth

theorem degree_injective {a b : Truth} (h : a.degree = b.degree) : a = b := by
  cases a <;> cases b <;> first | rfl | exact absurd h (by decide)

theorem degree_not (a : Truth) : a.not.degree = 2 - a.degree := by cases a <;> rfl

theorem degree_and (a b : Truth) : (a.and b).degree = min a.degree b.degree := by
  cases a <;> cases b <;> rfl

theorem degree_or (a b : Truth) : (a.or b).degree = max a.degree b.degree := by
  cases a <;> cases b <;> rfl

end Truth

/-! ## Interpretations -/

/-- **`Interpretation`** -- a truth value for every expression that respects the connectives: NOT
turns the order of truth around, AND is the minimum and OR the maximum. Nothing is assumed about
expressions of any other kind. -/
structure Interpretation where
  truth : Expr → Truth
  not (e : Expr) : (truth (.prefixed .not e)).degree = 2 - (truth e).degree
  and (l r : Expr) : (truth (.logical .and l r)).degree = min (truth l).degree (truth r).degree
  or (l r : Expr) : (truth (.logical .or l r)).degree = max (truth l).degree (truth r).degree

namespace Interpretation

theorem truth_negate (f : Interpretation) (e : Expr) : f.truth e.negate = (f.truth e).not := by
  apply Truth.degree_injective
  rw [Truth.degree_not]
  exact f.not e

theorem truth_logical (f : Interpretation) (op : Connective) (l r : Expr) :
    f.truth (.logical op l r) = op.apply (f.truth l) (f.truth r) := by
  apply Truth.degree_injective
  cases op with
  | and => exact (f.and l r).trans (Truth.degree_and _ _).symm
  | or => exact (f.or l r).trans (Truth.degree_or _ _).symm

/-- The truth of an expression, given that of the expressions that are no connectives. -/
def evaluate (atom : Expr → Truth) : Expr → Truth
  | .prefixed .not e => (evaluate atom e).not
  | .logical op l r => op.apply (evaluate atom l) (evaluate atom r)
  | e => atom e

/-- The interpretation with given values for the expressions that are no connectives. -/
def ofAtoms (atom : Expr → Truth) : Interpretation where
  truth := evaluate atom
  not _ := Truth.degree_not _
  and _ _ := Truth.degree_and _ _
  or _ _ := Truth.degree_or _ _

end Interpretation
end PredicateOracle
