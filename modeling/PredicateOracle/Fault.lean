/-!
# PredicateOracle.Fault -- requests that no computation can answer

Most operations of this library are total. A few ask for the impossible: an index below zero, a
number in an empty interval, a position outside of a list, a connective applied to truth columns of
different lengths, a list longer than any memory, a moment that no clock shows. Each such request is
one constructor of `Fault`; nothing else in the library can fail in this way, and the wording of
every case is in `Fault.message`.
-/

namespace PredicateOracle

/-- A request that cannot be met. -/
inductive Fault where
  /-- An index was drawn below zero. -/
  | emptyRange
  /-- A number was drawn from an interval whose ends are in the wrong order. -/
  | emptyInterval
  /-- A coin was tossed whose probability is not a number. -/
  | undefinedProbability
  /-- A maximum was so large that its successor is no machine word. -/
  | wordOverflow
  /-- Truth columns of different lengths were combined. -/
  | lengthMismatch (left right : Nat)
  /-- A position was looked up that the list does not have. -/
  | outOfBounds (index length : Nat)
  /-- A list was to be made for which no memory is large enough. -/
  | capacityOverflow
  /-- A moment was named that lies beyond the last one of the clock. -/
  | clockOverflow
  deriving DecidableEq, Repr

/-- The wording of each fault. -/
def Fault.message : Fault → String
  | .emptyRange => "next_usize requires a non-empty range"
  | .emptyInterval => "cannot sample empty range"
  | .undefinedProbability =>
    "called `Result::unwrap()` on an `Err` value: InvalidProbability"
  | .wordOverflow => "attempt to add with overflow"
  | .lengthMismatch left right =>
    "assertion `left == right` failed: truth vectors from different snapshots cannot be combined\n"
      ++ "  left: " ++ toString left ++ "\n right: " ++ toString right
  | .outOfBounds index length =>
    "index out of bounds: the len is " ++ toString length ++ " but the index is " ++ toString index
  | .capacityOverflow => "capacity overflow"
  | .clockOverflow => "overflow when adding duration to instant"

end PredicateOracle
