import PredicateOracle.Text.Blank

/-!
# PredicateOracle.Sql.DataType -- column types and literal values

Three column types. An engine may report each of them under several names; `DataType.ofName` reads
them all, whatever their case and the white space around them, and gives back the normalised text
of a name that it does not know. A NULL literal carries its type, so that no operand of a generated
expression is without one.
-/

namespace PredicateOracle.Sql

/-- The types of columns and expressions. -/
inductive DataType where
  | integer
  | varchar
  | boolean
  deriving DecidableEq, Repr, Inhabited

namespace DataType

/-- All types, in the order in which they are drawn. -/
def all : List DataType := [.integer, .varchar, .boolean]

theorem mem_all (t : DataType) : t ∈ all := by cases t <;> decide

/-- The name of the type in SQL. -/
def name : DataType → String
  | .integer => "INTEGER"
  | .varchar => "VARCHAR"
  | .boolean => "BOOLEAN"

/-- The type that a name in upper case stands for. -/
def ofUpperName? : String → Option DataType
  | "INTEGER" | "INT" | "INT4" | "SIGNED" => some .integer
  | "VARCHAR" | "TEXT" | "STRING" | "CHAR" | "BPCHAR" => some .varchar
  | "BOOLEAN" | "BOOL" | "LOGICAL" => some .boolean
  | _ => none

/-- The form in which type names are compared: no white space around them, ASCII in upper case. -/
def normalName (name : String) : String := Text.upper (Text.trim name)

/-- The type that an engine reports under this name, or the normalised name if it is unknown. -/
def ofName (name : String) : Except String DataType :=
  match ofUpperName? (normalName name) with
  | some t => .ok t
  | none => .error (normalName name)

/-- The complaint about a type name that is not known. -/
def unsupportedMessage (name : String) : String := "unsupported column type: " ++ name

end DataType

/-- A literal value. -/
inductive Literal where
  | null (type : DataType)
  | integer (value : Int)
  | varchar (value : String)
  | boolean (value : Bool)
  deriving DecidableEq, Repr

/-- The type of a literal. -/
def Literal.type : Literal → DataType
  | .null t => t
  | .integer _ => .integer
  | .varchar _ => .varchar
  | .boolean _ => .boolean

end PredicateOracle.Sql
