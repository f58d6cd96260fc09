import PredicateOracle.Number.Shortest

/-!
# PredicateOracle.Number.Layout -- how a floating-point number is written

Every text of a floating-point number in this library has the digits of its shortest decimal. What
differs from one output to the next is a handful of decisions, gathered in one record `Layout`.
The three layouts in use are at the end: plain text, JSON and TOML.
-/

namespace PredicateOracle.Number

/-- The decisions of a number format. -/
structure Layout where
  /-- Where a tie between two shortest decimals goes. -/
  tie : Tie
  /-- The decimal exponents that are written positionally; `none` for all. -/
  positional : Option (Int × Int)
  /-- Whether a whole number ends in `.0`. -/
  wholeMark : Bool
  nan : String
  infinity : String
  deriving DecidableEq, Repr

namespace Layout

/-- A run of zeros. -/
def zeros (n : Nat) : String := String.ofList (List.replicate n '0')

/-- The digits with a point after the first `point` of them, filled up with zeros on either side. -/
def positionalText (wholeMark : Bool) (digits : String) (point : Int) : String :=
  let mark := if wholeMark then ".0" else ""
  if point ≤ 0 then "0." ++ zeros (-point).toNat ++ digits
  else if digits.length ≤ point.toNat then digits ++ zeros (point.toNat - digits.length) ++ mark
  else String.ofList (digits.toList.take point.toNat) ++ "."
    ++ String.ofList (digits.toList.drop point.toNat)

/-- One digit, the point and the others, then the exponent with its sign. -/
def scientificText (digits : String) (exponent : Int) : String :=
  let mantissa := match digits.toList with
    | [] => "0"
    | [d] => String.ofList [d]
    | d :: rest => String.ofList (d :: '.' :: rest)
  mantissa ++ "e" ++ (if exponent < 0 then "-" else "+") ++ toString exponent.natAbs

/-- The text of a decimal without its sign. -/
def magnitudeText (l : Layout) (d : Decimal) : String :=
  if d.digits = 0 then (if l.wholeMark then "0.0" else "0")
  else
    let digits := toString d.digits
    let point : Int := digits.length + d.exponent
    match l.positional with
    | none => positionalText l.wholeMark digits point
    | some (low, high) =>
      if low ≤ point - 1 ∧ point - 1 < high then positionalText l.wholeMark digits point
      else scientificText digits (point - 1)

/-- The text of a number. -/
def text (l : Layout) (f : Format) : Binary → String
  | .nan => l.nan
  | .infinite negative => (if negative then "-" else "") ++ l.infinity
  | .finite negative significand exponent =>
    (if negative then "-" else "")
      ++ l.magnitudeText (Shortest.ofBinary f l.tie significand exponent)

/-- The text of a 64-bit number. -/
def double (l : Layout) (x : Float) : String := l.text .double (.ofFloat x)

/-- The text of a 32-bit number. -/
def single (l : Layout) (x : Float32) : String := l.text .single (.ofFloat32 x)

/-! ## The layouts in use -/

/-- Plain text: always positional, and a whole number has no point. -/
def plain : Layout := ⟨.up, none, false, "NaN", "inf"⟩

/-- JSON: positional for the exponents from -5 to 15, always a point or an exponent. JSON has no
text for what is not a number. -/
def json : Layout := ⟨.even, some (-5, 16), true, "null", "null"⟩

/-- TOML: always positional, always a point. -/
def toml : Layout := ⟨.up, none, true, "nan", "inf"⟩

end Layout
end PredicateOracle.Number
