import PredicateOracle.Json.Basic
import PredicateOracle.Number.Reader

/-!
# PredicateOracle.Json.Reader -- reading JSON

`Json.read? s` is the value whose text is `s`, if there is one. A number without a point and
without an exponent is a whole number as long as a 64-bit word can hold it, with or without a sign;
every other number is a floating-point one. The reader of a value takes a bound on the depth of
what it may read; the length of the text is always enough.
-/

namespace PredicateOracle.Json

/-- Blank space between the parts of a text. -/
def isBlank (c : Char) : Bool := c = ' ' ∨ c = '\n' ∨ c = '\r' ∨ c = '\t'

/-- The text after its leading blanks. -/
def skipBlanks (cs : List Char) : List Char := cs.dropWhile isBlank

/-! ## Strings -/

/-- Four hexadecimal digits. -/
def hexWord? (a b c d : Char) : Option Nat := do
  return ((← Number.hexDigit? a) * 16 + (← Number.hexDigit? b)) * 256 + (← Number.hexDigit? c) * 16
    + (← Number.hexDigit? d)

/-- What an escape of one letter stands for. -/
def simpleEscape? : Char → Option Char
  | '"' => some '"'
  | '\\' => some '\\'
  | '/' => some '/'
  | 'b' => some '\x08'
  | 'f' => some '\x0c'
  | 'n' => some '\n'
  | 'r' => some '\r'
  | 't' => some '\t'
  | _ => none

/-- The characters of a string up to its closing quote, behind those already read. Two escapes of
four digits that form a pair stand for one character. -/
def stringTail (acc : List Char) : List Char → Option (String × List Char)
  | '"' :: rest => some (String.ofList acc.reverse, rest)
  | '\\' :: 'u' :: a :: b :: c :: d :: '\\' :: 'u' :: e :: f :: g :: h :: rest =>
    match hexWord? a b c d with
    | none => none
    | some high =>
      if 0xD800 ≤ high ∧ high < 0xDC00 then
        match hexWord? e f g h with
        | none => none
        | some low =>
          if 0xDC00 ≤ low ∧ low < 0xE000 then
            stringTail (Char.ofNat (0x10000 + (high - 0xD800) * 0x400 + (low - 0xDC00)) :: acc) rest
          else none
      else if 0xDC00 ≤ high ∧ high < 0xE000 then none
      else stringTail (Char.ofNat high :: acc) ('\\' :: 'u' :: e :: f :: g :: h :: rest)
  | '\\' :: 'u' :: a :: b :: c :: d :: rest =>
    match hexWord? a b c d with
    | none => none
    | some n =>
      if 0xD800 ≤ n ∧ n < 0xE000 then none else stringTail (Char.ofNat n :: acc) rest
  | '\\' :: c :: rest =>
    match simpleEscape? c with
    | some c => stringTail (c :: acc) rest
    | none => none
  | c :: rest => if c.toNat < 32 ∨ c = '\\' then none else stringTail (c :: acc) rest
  | [] => none
  termination_by cs => cs.length

/-! ## Numbers -/

/-- A run of digits that is not empty. -/
def digits? (cs : List Char) : Option (List Char × List Char) :=
  match cs.span Char.isDigit with
  | ([], _) => none
  | found => some found

/-- An exponent with its sign. -/
def exponent? (cs : List Char) : Option (Int × List Char) :=
  let (negative, cs) := match cs with
    | '-' :: cs => (true, cs)
    | '+' :: cs => (false, cs)
    | cs => (false, cs)
  (digits? cs).map fun (ds, rest) =>
    (if negative then -(Number.digitsValue ds : Int) else Number.digitsValue ds, rest)

/-- The whole number of a text without point and exponent, if a 64-bit word holds it. -/
def wholeNumber? (negative : Bool) (n : Nat) : Option Int :=
  if negative then (if 0 < n ∧ n ≤ 2 ^ (63 : Nat) then some (-(n : Int)) else none)
  else if n < 2 ^ (64 : Nat) then some n else none

/-- A number. -/
def number (cs : List Char) : Option (Json × List Char) := do
  let (negative, cs) := match cs with
    | '-' :: cs => (true, cs)
    | cs => (false, cs)
  let (whole, cs) ← digits? cs
  if whole.head? = some '0' ∧ whole.length ≠ 1 then none
  let (fraction, cs) ← match cs with
    | '.' :: cs => (digits? cs).map fun (ds, cs) => (some ds, cs)
    | cs => some (none, cs)
  let (exponent, cs) ← match cs with
    | 'e' :: cs | 'E' :: cs => (exponent? cs).map fun (e, cs) => (some e, cs)
    | cs => some (none, cs)
  let digits := Number.digitsValue (whole ++ fraction.getD [])
  let float := Json.float
    (Number.floatOfDecimal negative digits (exponent.getD 0 - (fraction.getD []).length))
  match fraction, exponent with
  | none, none => return (((wholeNumber? negative digits).map Json.int).getD float, cs)
  | _, _ => return (float, cs)

/-! ## Values -/

mutual

/-- A value at the start of the text, of a depth below `bound`. -/
def value : Nat → List Char → Option (Json × List Char)
  | 0, _ => none
  | bound + 1, cs =>
    match skipBlanks cs with
    | 'n' :: 'u' :: 'l' :: 'l' :: rest => some (.null, rest)
    | 't' :: 'r' :: 'u' :: 'e' :: rest => some (.bool true, rest)
    | 'f' :: 'a' :: 'l' :: 's' :: 'e' :: rest => some (.bool false, rest)
    | '"' :: rest => (stringTail [] rest).map fun (s, rest) => (.text s, rest)
    | '[' :: rest =>
      match skipBlanks rest with
      | ']' :: rest => some (.list [], rest)
      | rest => (items bound rest).map fun (vs, rest) => (.list vs, rest)
    | '{' :: rest =>
      match skipBlanks rest with
      | '}' :: rest => some (.object [], rest)
      | rest => (fields bound rest).map fun (fs, rest) => (.object fs, rest)
    | rest => number rest

/-- The items of a list up to its closing bracket. -/
def items : Nat → List Char → Option (List Json × List Char)
  | 0, _ => none
  | bound + 1, cs => do
    let (v, rest) ← value bound cs
    match skipBlanks rest with
    | ']' :: rest => return ([v], rest)
    | ',' :: rest =>
      let (vs, rest) ← items bound rest
      return (v :: vs, rest)
    | _ => none

/-- The fields of an object up to its closing brace. -/
def fields : Nat → List Char → Option (List (String × Json) × List Char)
  | 0, _ => none
  | bound + 1, cs => do
    match skipBlanks cs with
    | '"' :: rest =>
      let (name, rest) ← stringTail [] rest
      match skipBlanks rest with
      | ':' :: rest =>
        let (v, rest) ← value bound rest
        match skipBlanks rest with
        | '}' :: rest => return ([(name, v)], rest)
        | ',' :: rest =>
          let (fs, rest) ← fields bound rest
          return ((name, v) :: fs, rest)
        | _ => none
      | _ => none
    | _ => none

end

/-- The value whose text is `s`. -/
def read? (s : String) : Option Json := do
  let (v, rest) ← value (s.length + 1) s.toList
  if (skipBlanks rest).isEmpty then return v else none

end PredicateOracle.Json
