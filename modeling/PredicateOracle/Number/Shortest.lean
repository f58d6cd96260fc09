import PredicateOracle.Number.Binary

/-!
# PredicateOracle.Number.Shortest -- the fewest digits that read back

A floating-point number stands for the interval of reals that round to it. Its shortest decimal is
the number with the fewest digits in that interval, and of those the nearest to the value itself.
The search goes through decimal grids from coarse to fine. On each it looks at the two neighbours
of the value only, for if any point of a grid lies in the interval, so does one of these two.
An exact tie between the two is a decision of the format that is written, so it is a parameter.
-/

namespace PredicateOracle.Number

/-- A decimal number `digits * 10 ^ exponent`. -/
structure Decimal where
  digits : Nat
  exponent : Int
  deriving DecidableEq, Repr

/-- Where an exact tie between two equally short decimals goes. -/
inductive Tie where
  | up
  | even
  deriving DecidableEq, Repr

namespace Shortest

/-- A value with the interval around it, in quarters of its last place:
`low`, `value` and `high`, each times `num / den`. -/
structure Interval where
  low : Nat
  value : Nat
  high : Nat
  /-- Whether the ends belong to the interval. -/
  closed : Bool
  num : Nat
  den : Nat

/-- The interval of the reals that round to `significand * 2 ^ exponent`. Below a power of two
the numbers lie twice as close as above it. -/
def Interval.around (f : Format) (significand : Nat) (exponent : Int) : Interval where
  low := 4 * significand
    - (if significand = 2 ^ f.fractionBits ∧ f.minExponent < exponent then 1 else 2)
  value := 4 * significand
  high := 4 * significand + 2
  closed := significand % 2 = 0
  num := 2 ^ (exponent - 2).toNat
  den := 2 ^ (2 - exponent).toNat

/-- The interval in units of `10 ^ grid`. -/
def Interval.onGrid (i : Interval) (grid : Int) : Interval :=
  { i with num := i.num * 10 ^ (-grid).toNat, den := i.den * 10 ^ grid.toNat }

/-- Whether a whole number of units lies in the interval. -/
def Interval.has (i : Interval) (c : Nat) : Bool :=
  if i.closed then i.low * i.num ≤ c * i.den ∧ c * i.den ≤ i.high * i.num
  else i.low * i.num < c * i.den ∧ c * i.den < i.high * i.num

/-- Of the two neighbours of the value, the nearer one. -/
def Interval.nearer (i : Interval) (tie : Tie) : Nat :=
  let below := i.value * i.num / i.den
  let twice := 2 * (i.value * i.num)
  let middle := (2 * below + 1) * i.den
  if twice < middle then below
  else if middle < twice then below + 1
  else match tie with
    | .up => below + 1
    | .even => below + below % 2

/-- The neighbour of the value that the interval has, the nearer one if it has both. -/
def Interval.candidate (i : Interval) (tie : Tie) : Option Nat :=
  let below := i.value * i.num / i.den
  match i.has below, i.has (below + 1) with
  | true, true => some (i.nearer tie)
  | true, false => some below
  | false, true => some (below + 1)
  | false, false => none

/-- The number of digits of a whole number; zero has none. -/
def digitCount (n : Nat) : Nat :=
  if n = 0 then 0 else (Nat.toDigits 10 n).length

/-- The least `k` with `num / den < 10 ^ k`, for a fraction that is not zero. -/
def magnitude (num den : Nat) : Int :=
  if den ≤ num then digitCount (num / den)
  else
    let zeros : Nat := digitCount (den / num)
    if den ≤ num * 10 ^ (zeros - 1) then 2 - (zeros : Int) else 1 - (zeros : Int)

/-- Takes the zeros off the end of the digits. -/
def trim : Nat → Decimal → Decimal
  | 0, d => d
  | n + 1, d =>
    if d.digits % 10 = 0 then trim n ⟨d.digits / 10, d.exponent + 1⟩ else d

/-- Tries the grids from `10 ^ grid` on downwards. -/
def search (i : Interval) (tie : Tie) : Nat → Int → Decimal
  | 0, grid => ⟨(i.onGrid grid).nearer tie, grid⟩
  | n + 1, grid =>
    match (i.onGrid grid).candidate tie with
    | some c => ⟨c, grid⟩
    | none => search i tie n (grid - 1)

/-- The most digits that any number of the formats in use needs. -/
def maxDigits : Nat := 17

/-- The shortest decimal of `significand * 2 ^ exponent`. -/
def ofBinary (f : Format) (tie : Tie) (significand : Nat) (exponent : Int) : Decimal :=
  if significand = 0 then ⟨0, 0⟩
  else
    let i := Interval.around f significand exponent
    trim (maxDigits + 1) (search i tie maxDigits (magnitude (i.value * i.num) i.den - 1))

end Shortest
end PredicateOracle.Number
