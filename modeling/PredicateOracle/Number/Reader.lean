import PredicateOracle.Number.Binary
import PredicateOracle.Text.Blank

/-!
# PredicateOracle.Number.Reader -- reading numbers

Whole numbers are digits with an optional sign. Floating-point numbers are digits with an optional
point among or around them, an optional exponent and an optional sign, or one of the names of what
is not finite, in any case. Blanks are not skipped.
-/

namespace PredicateOracle.Number

/-- The value of a run of decimal digits. -/
def digitsValue (cs : List Char) : Nat :=
  cs.foldl (fun n c => n * 10 + (c.toNat - '0'.toNat)) 0

/-- The value of a hexadecimal digit. -/
def hexDigit? (c : Char) : Option Nat :=
  if '0' ≤ c ∧ c ≤ '9' then some (c.toNat - '0'.toNat)
  else if 'a' ≤ c ∧ c ≤ 'f' then some (c.toNat - 'a'.toNat + 10)
  else if 'A' ≤ c ∧ c ≤ 'F' then some (c.toNat - 'A'.toNat + 10)
  else none

/-- A text without its sign, and whether the sign is a minus. -/
def splitSign : List Char → Bool × List Char
  | '-' :: cs => (true, cs)
  | '+' :: cs => (false, cs)
  | cs => (false, cs)

/-- The value of a text of digits only. -/
def readNat? (cs : List Char) : Option Nat :=
  if cs.isEmpty || !cs.all Char.isDigit then none else some (digitsValue cs)

/-- The value of a text of digits with an optional sign. -/
def readInt? (s : String) : Option Int :=
  let (negative, cs) := splitSign s.toList
  (readNat? cs).map fun n => if negative then -(n : Int) else n

/-- A number in decimal form, or what is not finite. -/
inductive Numeral where
  | decimal (negative : Bool) (digits : Nat) (exponent : Int)
  | infinite (negative : Bool)
  | nan
  deriving DecidableEq, Repr

/-- The exponent at the end of a numeral. -/
def readExponent? : List Char → Option Int
  | [] => some 0
  | c :: cs => if c = 'e' ∨ c = 'E' then readInt? (String.ofList cs) else none

/-- A numeral without sign and without a name. -/
def readDecimal? (negative : Bool) (cs : List Char) : Option Numeral := do
  let (whole, cs) := cs.span Char.isDigit
  let (fraction, cs) := match cs with
    | '.' :: cs => cs.span Char.isDigit
    | cs => ([], cs)
  if whole.isEmpty && fraction.isEmpty then none
  let exponent ← readExponent? cs
  return .decimal negative (digitsValue (whole ++ fraction)) (exponent - fraction.length)

/-- The numeral that a text is. -/
def readNumeral? (s : String) : Option Numeral :=
  let (negative, cs) := splitSign s.toList
  match Text.lower (String.ofList cs) with
  | "nan" => some .nan
  | "inf" | "infinity" => some (.infinite negative)
  | _ => readDecimal? negative cs

namespace Numeral

/-- The word of the number nearest to a numeral. -/
def word (f : Format) : Numeral → Nat
  | .decimal negative digits exponent => f.nearestDecimal negative digits exponent
  | .infinite negative =>
    (if negative then 2 ^ (f.fractionBits + f.exponentBits) else 0)
      + f.topExponent * 2 ^ f.fractionBits
  | .nan => f.topExponent * 2 ^ f.fractionBits + 2 ^ (f.fractionBits - 1)

/-- The 64-bit value of a numeral. -/
def float (n : Numeral) : Float := Float.ofBits (UInt64.ofNat (n.word .double))

/-- The 32-bit value of a numeral. -/
def float32 (n : Numeral) : Float32 := Float32.ofBits (UInt32.ofNat (n.word .single))

end Numeral
end PredicateOracle.Number
