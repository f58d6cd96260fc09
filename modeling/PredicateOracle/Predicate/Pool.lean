import PredicateOracle.Predicate.Known
import PredicateOracle.Random.Draw

/-!
# PredicateOracle.Predicate.Pool -- the predicates of a check

The known predicates of one check, grouped by their truth column. Groups come in the order in which
their column first appears, so a choice among them depends on nothing but the stream.
-/

namespace PredicateOracle

/-- How a predicate is chosen. -/
inductive Selection where
  /-- First a truth column, then a predicate that has it. -/
  | byPattern
  /-- Any predicate. -/
  | uniform
  deriving DecidableEq, Repr

/-- Known predicates, to choose from. -/
structure Pool where
  predicates : List Known
  deriving DecidableEq, Repr

namespace Pool

/-- The different truth columns, in the order of their first appearance. -/
def patterns (p : Pool) : List TruthColumn := (p.predicates.map (·.truth)).eraseDups

/-- The positions of the predicates with a given truth column. -/
def positionsOf (p : Pool) (pattern : TruthColumn) : List Nat :=
  (List.range p.predicates.length).filter fun i => p.predicates[i]?.any (·.truth = pattern)

/-- The positions of the predicates, one group for each truth column. -/
def groups (p : Pool) : List (List Nat) := p.patterns.map p.positionsOf

/-- A position of a pool that has a predicate. -/
def position (p : Pool) : Selection → Gen Nat
  | .uniform => Gen.index p.predicates.length
  | .byPattern => do Gen.pick (← Gen.pick p.groups)

/-- A predicate of the pool; there is none in an empty pool, and nothing is drawn for it. -/
def select (p : Pool) (how : Selection) : Gen (Option Known) :=
  if p.predicates.isEmpty then pure none
  else do return p.predicates[← p.position how]?

end Pool
end PredicateOracle
