/-!
# PredicateOracle.Number.Binary -- floating-point words as exact numbers

A binary interchange format is given by two widths. `Format.decode` reads a word of such a format
as an exact number `significand * 2 ^ exponent`, and `Format.nearest` goes the other way: the word
whose number is nearest to a given fraction, a tie going to the even significand. Both work in
whole numbers only.
-/

namespace PredicateOracle

/-- Powers are those of the core library, also where an algebra library offers its own. -/
scoped instance (priority := high) corePow {α : Type} [NatPow α] : Pow α Nat := instPowNat

end PredicateOracle

namespace PredicateOracle.Number

/-- What a floating-point word stands for. -/
inductive Binary where
  | nan
  | infinite (negative : Bool)
  /-- The number `significand * 2 ^ exponent`, with a sign that zero has as well. -/
  | finite (negative : Bool) (significand : Nat) (exponent : Int)
  deriving DecidableEq, Repr

/-- The widths of a binary interchange format. -/
structure Format where
  fractionBits : Nat
  exponentBits : Nat
  deriving DecidableEq, Repr

namespace Format

/-- The 64-bit format. -/
def double : Format := ⟨52, 11⟩

/-- The 32-bit format. -/
def single : Format := ⟨23, 8⟩

/-- The exponent of the least significant place of the smallest numbers. -/
def minExponent (f : Format) : Int :=
  2 - (2 ^ (f.exponentBits - 1) : Nat) - f.fractionBits

/-- The exponent field of words that are no finite number. -/
def topExponent (f : Format) : Nat := 2 ^ f.exponentBits - 1

/-- Reads a word. -/
def decode (f : Format) (word : Nat) : Binary :=
  let fraction := word % 2 ^ f.fractionBits
  let field := word / 2 ^ f.fractionBits % 2 ^ f.exponentBits
  let negative := word / 2 ^ (f.fractionBits + f.exponentBits) % 2 = 1
  if field = f.topExponent then
    if fraction = 0 then .infinite negative else .nan
  else if field = 0 then
    .finite negative fraction f.minExponent
  else
    .finite negative (2 ^ f.fractionBits + fraction) (f.minExponent + field - 1)

/-- The quotient rounded to the nearest whole number, a tie to the even one. -/
def roundToEven (num den : Nat) : Nat :=
  let q := num / den
  let twice := 2 * (num % den)
  if twice < den then q
  else if den < twice then q + 1
  else q + q % 2

/-- The fraction `num / den` divided by a power of two, as a fraction. -/
def scaleDown (num den : Nat) (exponent : Int) : Nat × Nat :=
  (num * 2 ^ (-exponent).toNat, den * 2 ^ exponent.toNat)

/-- The exponent at which the fraction `num / den` has a full significand, no lower than the
smallest exponent of the format. -/
def fittingExponent (f : Format) (num den : Nat) : Int :=
  let guess : Int := (num.log2 : Int) - den.log2 - f.fractionBits
  let (n, d) := scaleDown num den guess
  max f.minExponent (if n / d < 2 ^ f.fractionBits then guess - 1 else guess)

/-- The word of the number nearest to `num / den`. -/
def nearest (f : Format) (negative : Bool) (num den : Nat) : Nat :=
  let sign := if negative then 2 ^ (f.fractionBits + f.exponentBits) else 0
  if num = 0 then sign
  else
    let e := f.fittingExponent num den
    let (n, d) := scaleDown num den e
    let magnitude := (e - f.minExponent).toNat * 2 ^ f.fractionBits + roundToEven n d
    sign + min magnitude (f.topExponent * 2 ^ f.fractionBits)

/-- The word of the number nearest to `digits * 10 ^ exponent`. Exponents far outside the range of
every format are cut off first. -/
def nearestDecimal (f : Format) (negative : Bool) (digits : Nat) (exponent : Int) : Nat :=
  let size : Int := (digits.log2 : Int) * 3 / 10 + exponent
  if digits = 0 ∨ size < -500 then f.nearest negative 0 1
  else if size > 500 then f.nearest negative (2 ^ (2000 : Nat)) 1
  else f.nearest negative (digits * 10 ^ exponent.toNat) (10 ^ (-exponent).toNat)

end Format

/-- The number that a 64-bit floating-point value stands for. -/
def Binary.ofFloat (x : Float) : Binary := Format.double.decode x.toBits.toNat

/-- The number that a 32-bit floating-point value stands for. -/
def Binary.ofFloat32 (x : Float32) : Binary := Format.single.decode x.toBits.toNat

/-- Whether a number lies between zero and one, ends included. -/
def Binary.isProbability : Binary → Bool
  | .finite negative significand exponent =>
    significand = 0
      || (!negative && significand * 2 ^ exponent.toNat ≤ 2 ^ (-exponent).toNat)
  | _ => false

/-- The 64-bit value nearest to `digits * 10 ^ exponent`. -/
def floatOfDecimal (negative : Bool) (digits : Nat) (exponent : Int) : Float :=
  Float.ofBits (UInt64.ofNat (Format.double.nearestDecimal negative digits exponent))

/-- The 64-bit value nearest to a whole number. -/
def floatOfInt (n : Int) : Float := floatOfDecimal (n < 0) n.natAbs 0

end PredicateOracle.Number
