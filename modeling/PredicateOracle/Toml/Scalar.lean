import PredicateOracle.Setting.Basic
import PredicateOracle.Toml.Text

/-!
# PredicateOracle.Toml.Scalar -- numbers, flags and dates of TOML

Every scalar other than a string is a word of letters, digits and a few signs; only a date and a time
may have one blank between them. Underscores may stand between digits. Whole numbers have a sign or a
radix and fit 128 bits; floating-point numbers have a fraction or an exponent and do not overflow.
Dates are checked against the calendar and kept as texts in one spelling.
-/

namespace PredicateOracle.Toml

/-! ## Digits -/

/-- A run of digits without the underscores between them. -/
def digits? (isDigit : Char → Bool) : List Char → Option (List Char)
  | [] => none
  | [c] => if isDigit c then some [c] else none
  | c :: '_' :: rest => if isDigit c then (digits? isDigit rest).map (c :: ·) else none
  | c :: rest => if isDigit c then (digits? isDigit rest).map (c :: ·) else none

/-- The value of digits in a radix up to sixteen. -/
def radixValue? (radix : Nat) (cs : List Char) : Option Nat := do
  let cs ← digits? (fun c => (Number.hexDigit? c).any (· < radix)) cs
  return cs.foldl (fun n c => n * radix + (Number.hexDigit? c).getD 0) 0

/-- Decimal digits that do not start with a zero in vain. -/
def decimal? (cs : List Char) : Option (List Char) := do
  let cs ← digits? Char.isDigit cs
  if cs.head? = some '0' ∧ cs.length ≠ 1 then none else return cs

/-! ## Numbers -/

/-- A whole number that fits 128 bits. -/
def word? (n : Int) : Option Setting :=
  if -2 ^ (127 : Nat) ≤ n ∧ n < 2 ^ (128 : Nat) then some (.int n) else none

/-- A whole number. -/
def integer? : List Char → Option Setting
  | '0' :: 'x' :: cs => radixValue? 16 cs >>= fun n => word? n
  | '0' :: 'o' :: cs => radixValue? 8 cs >>= fun n => word? n
  | '0' :: 'b' :: cs => radixValue? 2 cs >>= fun n => word? n
  | cs =>
    let (negative, cs) := Number.splitSign cs
    do
      let n := Number.digitsValue (← decimal? cs)
      word? (if negative then -(n : Int) else n)

/-- An exponent with its sign. -/
def exponent? (cs : List Char) : Option Int :=
  let (negative, cs) := Number.splitSign cs
  (digits? Char.isDigit cs).map fun ds =>
    if negative then -(Number.digitsValue ds : Int) else Number.digitsValue ds

/-- Whether an exponent starts at a character. -/
def isExponentMark (c : Char) : Bool := c = 'e' ∨ c = 'E'

/-- The number of a numeral, if it is not beyond all numbers. -/
def finite? (n : Number.Numeral) : Option Setting :=
  match Number.Binary.ofFloat n.float with
  | .finite _ _ _ => some (.float n.float)
  | _ => none

/-- A floating-point number without its sign. -/
def unsignedFloat? (negative : Bool) (cs : List Char) : Option Setting := do
  let (mantissa, rest) := cs.span fun c => !isExponentMark c
  let (whole, fraction) := mantissa.span (· ≠ '.')
  if fraction.isEmpty && rest.isEmpty then none
  let exponent ← match rest with
    | [] => some 0
    | _ :: cs => exponent? cs
  let whole ← decimal? whole
  let fraction ← match fraction with
    | [] => some []
    | _ :: cs => digits? Char.isDigit cs
  finite? (.decimal negative (Number.digitsValue (whole ++ fraction)) (exponent - fraction.length))

/-- A floating-point number. -/
def float? (cs : List Char) : Option Setting :=
  match Number.splitSign cs with
  | (negative, ['i', 'n', 'f']) => some (.float (Number.Numeral.infinite negative).float)
  | (_, ['n', 'a', 'n']) => some (.float Number.Numeral.nan.float)
  | (negative, cs) => unsignedFloat? negative cs

/-! ## Dates -/

/-- The value of two digits. -/
def pair? (a b : Char) : Option Nat := Number.readNat? [a, b]

/-- The number of days of a month. -/
def daysIn (year month : Nat) : Nat :=
  if month = 2 then
    if year % 4 = 0 ∧ (year % 100 ≠ 0 ∨ year % 400 = 0) then 29 else 28
  else if month = 4 ∨ month = 6 ∨ month = 9 ∨ month = 11 then 30 else 31

/-- A day of the calendar at the start of a word, and what follows it. -/
def day? : List Char → Option (List Char × List Char)
  | y₁ :: y₂ :: y₃ :: y₄ :: '-' :: m₁ :: m₂ :: '-' :: d₁ :: d₂ :: rest => do
    let year ← Number.readNat? [y₁, y₂, y₃, y₄]
    let month ← pair? m₁ m₂
    let day ← pair? d₁ d₂
    if 1 ≤ month ∧ month ≤ 12 ∧ 1 ≤ day ∧ day ≤ daysIn year month then
      return ([y₁, y₂, y₃, y₄, '-', m₁, m₂, '-', d₁, d₂], rest)
    else none
  | _ => none

/-- Hours and minutes at the start of a word, and what follows them. -/
def hours? : List Char → Option (List Char × List Char)
  | h₁ :: h₂ :: ':' :: m₁ :: m₂ :: rest => do
    if (← pair? h₁ h₂) < 24 ∧ (← pair? m₁ m₂) < 60 then return ([h₁, h₂, ':', m₁, m₂], rest)
    else none
  | _ => none

/-- Seconds at the start of a word, if there are any; a leap second is one. -/
def seconds? : List Char → Option (List Char × List Char)
  | ':' :: s₁ :: s₂ :: rest => do
    if (← pair? s₁ s₂) ≤ 60 then return ([':', s₁, s₂], rest) else none
  | ':' :: _ => none
  | rest => some ([], rest)

/-- A fraction of a second at the start of a word, if there is one: nine digits at most, without
zeros at the end. -/
def fraction? : List Char → Option (List Char × List Char)
  | '.' :: cs =>
    let (ds, rest) := cs.span Char.isDigit
    let kept := ((ds.take 9).reverse.dropWhile (· = '0')).reverse
    if ds.isEmpty then none else some ('.' :: (if kept.isEmpty then ['0'] else kept), rest)
  | rest => some ([], rest)

/-- A time of day at the start of a word, and what follows it. -/
def time? (cs : List Char) : Option (List Char × List Char) := do
  let (hours, cs) ← hours? cs
  let (seconds, cs) ← seconds? cs
  let (fraction, cs) ← if seconds.isEmpty then some ([], cs) else fraction? cs
  return (hours ++ seconds ++ fraction, cs)

/-- A distance from universal time that makes up the rest of a word. -/
def offset? : List Char → Option (List Char)
  | [] => some []
  | ['Z'] | ['z'] => some ['Z']
  | sign :: cs => do
    let (hours, rest) ← hours? cs
    if rest = [] ∧ (sign = '+' ∨ sign = '-') then
      return (if hours = ['0', '0', ':', '0', '0'] then '+' else sign) :: hours
    else none

/-- A date, a time, or both with an optional distance from universal time. -/
def date? (cs : List Char) : Option Setting :=
  match day? cs with
  | some (day, []) => some (.date (String.ofList day))
  | some (day, c :: rest) =>
    if c = 'T' ∨ c = 't' ∨ c = ' ' then do
      let (time, rest) ← time? rest
      let offset ← offset? rest
      return .date (String.ofList (day ++ 'T' :: time ++ offset))
    else none
  | none =>
    match time? cs with
    | some (time, []) => some (.date (String.ofList time))
    | _ => none

/-! ## Words -/

/-- Whether a character may be part of a word. -/
def isWordChar (c : Char) : Bool :=
  c.isAlphanum ∨ c = '_' ∨ c = '+' ∨ c = '-' ∨ c = '.' ∨ c = ':'

/-- Whether a date is followed by a blank and a time. -/
def timeFollows (word rest : List Char) : Bool :=
  (match day? word with
    | some (_, []) => true
    | _ => false)
  && (match rest with
    | ' ' :: c :: _ => c.isDigit
    | _ => false)

/-- The word at the start of a text; a date takes the time behind it in. -/
def takeWord (cs : List Char) : List Char × List Char :=
  let (word, rest) := cs.span isWordChar
  if timeFollows word rest then
    let (time, rest) := (rest.drop 1).span isWordChar
    (word ++ ' ' :: time, rest)
  else (word, rest)

/-- What a word stands for. -/
def ofWord? (cs : List Char) : Option Setting :=
  match String.ofList cs with
  | "true" => some (.bool true)
  | "false" => some (.bool false)
  | _ => (integer? cs).orElse fun _ => (float? cs).orElse fun _ => date? cs

/-- The scalar at the start of a text, other than a string. -/
def scalar? (cs : List Char) : Option (Setting × List Char) :=
  let (word, rest) := takeWord cs
  (ofWord? word).map (·, rest)

end PredicateOracle.Toml
