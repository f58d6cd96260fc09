import PredicateOracle.Predicate.Pool

/-!
# PredicateOracle.Predicate.Compound -- random compounds of known predicates

A compound is a tree of AND and OR over predicates of a pool, with negations put on operands at
random. Its truth is worked out together with its expression and never asked of an engine. A number
of levels bounds the tree: with none left, a predicate of the pool is taken as it is.
-/

namespace PredicateOracle

open Sql

/-- What compounds look like. -/
structure CompoundOptions where
  /-- The greatest number of connectives on top of each other. -/
  maxDepth : Nat
  /-- How often a predicate of the pool is taken where a connective could stand. -/
  leafProbability : Float
  selection : Selection

namespace Known

/-- The predicate, negated every other time. -/
def negateMaybe (p : Known) : Gen Known := do
  return if ← Gen.coin then p.negate else p

/-- Two predicates under a random connective, each of them negated every other time. -/
def combineRandomly (l r : Known) : Gen Known := do
  let l ← l.negateMaybe
  let r ← r.negateMaybe
  let op : Connective := if ← Gen.coin then .and else .or
  match combine op l r with
  | .ok p => return p
  | .error f => Gen.fail f

end Known

namespace Pool

/-- A compound with at most `levels` connectives on top of each other. -/
def compoundWithin (p : Pool) (o : CompoundOptions) : Nat → Gen (Option Known)
  | 0 => p.select o.selection
  | levels + 1 => do
    if ← Gen.chance o.leafProbability then p.select o.selection
    else
      let some left ← p.compoundWithin o levels | return none
      let some right ← p.compoundWithin o levels | return none
      return some (← left.combineRandomly right)

/-- A compound of predicates of the pool; there is none if the pool is empty. -/
def compound (p : Pool) (o : CompoundOptions) : Gen (Option Known) := p.compoundWithin o o.maxDepth

end Pool
end PredicateOracle
