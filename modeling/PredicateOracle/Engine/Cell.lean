import PredicateOracle.Number.Layout
import PredicateOracle.Text.Blank
import PredicateOracle.Text.Utf8

/-!
# PredicateOracle.Engine.Cell -- typed values of a connection

A connection returns typed values. A check sees texts, so every value has one: booleans are `true`
and `false`, numbers stand in plain decimal form, and bytes that are no text are repaired. Only a
text value can be read as a name.
-/

namespace PredicateOracle

/-- A value in a result row of a connection. -/
inductive Cell where
  | null
  | boolean (value : Bool)
  /-- A whole number of any width with a text of its own. -/
  | integer (value : Int)
  | float (value : Float32)
  | double (value : Float)
  | text (value : String)
  /-- A text as the bytes that the engine holds. -/
  | rawText (bytes : List Nat)
  /-- An unsigned number of 128 bits. -/
  | unsignedHuge (value : Nat)
  /-- A day, counted from an epoch. -/
  | date (days : Int)
  | blob (bytes : List Nat)

namespace Cell

/-- The text of a value; NULL has none. -/
def text? : Cell → Option String
  | .null => none
  | .boolean b => some (if b then "true" else "false")
  | .integer n => some (toString n)
  | .float x => some (Number.Layout.plain.single x)
  | .double x => some (Number.Layout.plain.double x)
  | .text s => some s
  | .rawText bytes => some (Text.ofBytes bytes)
  | .unsignedHuge n => some ("UHugeInt(" ++ toString n ++ ")")
  | .date n => some ("Date32(" ++ toString n ++ ")")
  | .blob bytes => some ("Blob([" ++ Text.join ", " (bytes.map toString) ++ "])")

/-- The value of a text cell. -/
def name? : Cell → Option String
  | .text s => some s
  | .rawText bytes => some (Text.ofBytes bytes)
  | _ => none

end Cell
end PredicateOracle
