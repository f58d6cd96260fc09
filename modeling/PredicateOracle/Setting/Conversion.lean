import PredicateOracle.Number.Layout
import PredicateOracle.Number.Reader
import PredicateOracle.Setting.Basic

/-!
# PredicateOracle.Setting.Conversion -- how settings are taken

A section of a configuration expects sizes, numbers, flags, texts and names of choices. What counts
as one depends on where a setting comes from, and is gathered in a record `Conversion`. Two strict
conversions take single documents, where a value must be what it is meant for; they differ in the
shapes in which JSON and TOML give a choice or a section. The lenient conversion takes merged layers,
where a flag may be a number and a number may be a text.
-/

namespace PredicateOracle

/-- How settings are taken for what a section expects. -/
structure Conversion where
  /-- A whole number that is not negative and fits a 64-bit word. -/
  size? : Setting → Option Nat
  number? : Setting → Option Float
  flag? : Setting → Option Bool
  text? : Setting → Option String
  /-- The name of a choice. -/
  choice? : Setting → Option String
  /-- The entries of a section that has the given keys. -/
  entries? : List String → Setting → Option (Entries Setting)

namespace Conversion

/-- A whole number as a size. -/
def sizeOf? (n : Int) : Option Nat := if 0 ≤ n ∧ n < 2 ^ (64 : Nat) then some n.toNat else none

/-! ## Strict conversions -/

/-- A size written as one. -/
def exactSize? : Setting → Option Nat
  | .int n => sizeOf? n
  | _ => none

/-- A number; a whole number is one as well, as far as a 64-bit word holds it. -/
def exactNumber? : Setting → Option Float
  | .int n => if -2 ^ (63 : Nat) ≤ n ∧ n < 2 ^ (64 : Nat) then some (Number.floatOfInt n) else none
  | .float x => some x
  | _ => none

/-- A flag written as one. -/
def exactFlag? : Setting → Option Bool
  | .bool b => some b
  | _ => none

/-- A text written as one. -/
def exactText? : Setting → Option String
  | .text s => some s
  | _ => none

/-- A choice in a JSON document: its name, or a table with that name as its only key and nothing
under it. -/
def jsonChoice? : Setting → Option String
  | .text s => some s
  | .table [(name, .null)] => some name
  | _ => none

/-- A section in a JSON document: a table, or a list of the values of its first keys. -/
def jsonEntries? (keys : List String) : Setting → Option (Entries Setting)
  | .table es => some es
  | .list vs => if vs.length ≤ keys.length then some (keys.zip vs) else none
  | _ => none

/-- The conversion for a JSON document. -/
def json : Conversion :=
  ⟨exactSize?, exactNumber?, exactFlag?, exactText?, jsonChoice?, jsonEntries?⟩

/-- A choice in a TOML document: its name, or a table with that name as its only key and an empty
table or list under it. -/
def tomlChoice? : Setting → Option String
  | .text s => some s
  | .table [(name, .table [])] | .table [(name, .list [])] => some name
  | _ => none

/-- A section in a TOML document: a table, or a list that starts with the values of its first keys.
A date counts as a table without any of the keys. -/
def tomlEntries? (keys : List String) : Setting → Option (Entries Setting)
  | .table es => some es
  | .list vs => some (keys.zip vs)
  | .date _ => some []
  | _ => none

/-- The conversion for a TOML document. -/
def toml : Conversion :=
  ⟨exactSize?, exactNumber?, exactFlag?, exactText?, tomlChoice?, tomlEntries?⟩

/-! ## The lenient conversion -/

/-- The flag that a text spells, in any case. -/
def spelledFlag? (s : String) : Option Bool :=
  match Text.lower s with
  | "true" | "on" | "yes" => some true
  | "false" | "off" | "no" => some false
  | _ => none

/-- The whole number nearest to a number, a half going away from zero, within the range of a 64-bit
word. What is not a number counts as zero. -/
def roundToSize : Number.Binary → Nat
  | .nan | .infinite true | .finite true _ _ => 0
  | .infinite false => 2 ^ (64 : Nat) - 1
  | .finite false significand exponent =>
    min (2 ^ (64 : Nat) - 1)
      ((2 * significand * 2 ^ exponent.toNat + 2 ^ (-exponent).toNat) / (2 * 2 ^ (-exponent).toNat))

/-- The size that a text spells in digits, with an optional plus. -/
def spelledSize? (s : String) : Option Nat :=
  match s.toList with
  | '+' :: cs => Number.readNat? cs >>= fun n => sizeOf? n
  | cs => Number.readNat? cs >>= fun n => sizeOf? n

/-- A size: a number that is rounded, a flag that counts as one or zero, or a text that spells a
flag or a size. -/
def looseSize? : Setting → Option Nat
  | .int n => sizeOf? n
  | .float x => some (roundToSize (.ofFloat x))
  | .bool b => some b.toNat
  | .text s => match spelledFlag? s with
    | some b => some b.toNat
    | none => spelledSize? s
  | _ => none

/-- A flag as a number. -/
def flagNumber (b : Bool) : Float := Number.floatOfInt b.toNat

/-- A number, a flag that counts as one or zero, or a text that spells a flag or a number. -/
def looseNumber? : Setting → Option Float
  | .int n => some (Number.floatOfInt n)
  | .float x => some x
  | .bool b => some (flagNumber b)
  | .text s => match spelledFlag? s with
    | some b => some (flagNumber b)
    | none => (Number.readNumeral? s).map Number.Numeral.float
  | _ => none

/-- Whether a number is zero. -/
def isZero : Number.Binary → Bool
  | .finite _ significand _ => significand = 0
  | _ => false

/-- A flag, a number that is zero or not, or a text that spells a flag in words or as a digit. -/
def looseFlag? : Setting → Option Bool
  | .bool b => some b
  | .int n => some (n ≠ 0)
  | .float x => some (!isZero (.ofFloat x))
  | .text "1" => some true
  | .text "0" => some false
  | .text s => spelledFlag? s
  | _ => none

/-- The text of any scalar. -/
def looseText? : Setting → Option String
  | .text s | .date s => some s
  | .bool b => some (toString b)
  | .int n => some (toString n)
  | .float x => some (Number.Layout.plain.double x)
  | _ => none

/-- A choice: its name, or a table with that name as its only key. -/
def looseChoice? : Setting → Option String
  | .text s | .date s => some s
  | .table [(name, _)] => some name
  | _ => none

/-- A section: a table, or a list that starts with the values of its first keys. -/
def looseEntries? (keys : List String) : Setting → Option (Entries Setting)
  | .table es => some es
  | .list vs => some (keys.zip vs)
  | _ => none

/-- The conversion for merged layers. -/
def lenient : Conversion :=
  ⟨looseSize?, looseNumber?, looseFlag?, looseText?, looseChoice?, looseEntries?⟩

end Conversion
end PredicateOracle
