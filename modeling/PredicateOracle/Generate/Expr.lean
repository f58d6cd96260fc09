import PredicateOracle.Random.Draw
import PredicateOracle.Sql.Expr

/-!
# PredicateOracle.Generate.Expr -- random typed expressions

An expression of a requested type over some columns. A leaf is a column of the type or a literal;
an inner node is an operator whose operands have the types that it takes. How deep operators may
nest is a number of levels: with no level left only a leaf is possible, and even above that one
time in ten a leaf is taken early.
-/

namespace PredicateOracle.Generate

open Sql

/-- What generated expressions look like. -/
structure Options where
  /-- The greatest depth at which an operator may stand. -/
  maxDepth : Nat
  /-- Whether AND and OR may occur inside a predicate. -/
  logic : Bool
  /-- How often a literal is NULL. -/
  nullProbability : Float

/-- Operators one level deep, no connectives, and one literal in twenty NULL. -/
def Options.standard : Options := ⟨1, false, 0.05⟩

/-- A random predicate over some columns. -/
abbrev Predicates := List Column → Gen Expr

/-! ## Leaves -/

/-- The characters of string literals. -/
def alphabet : List Char := ['a', 'b', 'c', 'A', '%', '_']

/-- The length of the longest string literal. -/
def maxTextLength : Nat := 3

/-- The size of the largest integer literal. -/
def maxInteger : Int := 100

/-- A literal that is not NULL. -/
def value : DataType → Gen Literal
  | .integer => return .integer (← Gen.between (-maxInteger) maxInteger)
  | .varchar => return .varchar (← Gen.text alphabet maxTextLength)
  | .boolean => return .boolean (← Gen.coin)

/-- A literal that is NULL with the given probability. -/
def literal (nullProbability : Float) (type : DataType) : Gen Literal := do
  if ← Gen.chance nullProbability then return .null type else value type

/-- A column of the type, if there is one and the coin says so, or else a literal. -/
def leaf (o : Options) (columns : List Column) (type : DataType) : Gen Expr := do
  let candidates := columns.filter (·.type = type)
  if !candidates.isEmpty then
    if ← Gen.coin then
      return .column (← Gen.pick candidates).ref
  return .literal (← literal o.nullProbability type)

/-! ## Nodes -/

/-- The kinds of boolean nodes. -/
inductive Shape where
  | negation
  | postfixed
  | comparison
  | between
  | like
  | logical
  deriving DecidableEq, Repr

/-- The kinds to choose from, in the order in which they are drawn. -/
def shapes (logic : Bool) : List Shape :=
  [.negation, .postfixed, .comparison, .between, .like] ++ (if logic then [.logical] else [])

/-- The type for the operands of a comparison: that of some column, so that data is touched, and
seldom any other. -/
def comparedType (columns : List Column) : Gen DataType := do
  match ← Gen.choose? columns with
  | none => Gen.pick DataType.all
  | some c => if ← Gen.seldom then Gen.pick DataType.all else return c.type

/-- A boolean node whose operands are drawn by `operand`. -/
def booleanNode (o : Options) (columns : List Column) (operand : DataType → Gen Expr) :
    Gen Expr := do
  match ← Gen.pick (shapes o.logic) with
  | .negation => return .prefixed .not (← operand .boolean)
  | .logical =>
    let left ← operand .boolean
    let op ← Gen.pick Connective.all
    return .logical op left (← operand .boolean)
  | .postfixed =>
    let op ← Gen.pick PostfixOp.all
    let type ← Gen.pick (DataType.all.filter op.accepts)
    return .postfixed op (← operand type)
  | .comparison =>
    let type ← comparedType columns
    let left ← operand type
    let op ← Gen.pick ComparisonOp.all
    return .comparison op left (← operand type)
  | .between =>
    let type ← Gen.pick [DataType.integer, .varchar]
    let tested ← operand type
    let low ← operand type
    let high ← operand type
    return .between (← Gen.coin) tested low high
  | .like =>
    let tested ← operand .varchar
    let pattern ← operand .varchar
    return .like (← Gen.coin) tested pattern

/-- An integer node whose operands are drawn by `operand`. -/
def integerNode (operand : DataType → Gen Expr) : Gen Expr := do
  if ← Gen.coin then
    let op ← Gen.pick [PrefixOp.plus, .minus]
    return .prefixed op (← operand .integer)
  else
    let left ← operand .integer
    let op ← Gen.pick ArithmeticOp.all
    return .arithmetic op left (← operand .integer)

/-- A concatenation, or every other time just a leaf. -/
def varcharNode (o : Options) (columns : List Column) (operand : DataType → Gen Expr) :
    Gen Expr := do
  if ← Gen.coin then leaf o columns .varchar
  else
    let left ← operand .varchar
    return .concat left (← operand .varchar)

/-! ## Trees -/

/-- An expression with at most `levels` operators on top of each other. -/
def exprWithin (o : Options) (columns : List Column) : Nat → DataType → Gen Expr
  | 0, type => leaf o columns type
  | levels + 1, type => do
    if ← Gen.rarely then leaf o columns type
    else
      let operand := exprWithin o columns levels
      match type with
      | .boolean => booleanNode o columns operand
      | .integer => integerNode operand
      | .varchar => varcharNode o columns operand

/-- An expression of a type that stands at a given depth. -/
def expr (o : Options) (columns : List Column) (type : DataType) (depth : Nat) : Gen Expr :=
  exprWithin o columns (o.maxDepth + 1 - depth) type

/-- A predicate. -/
def predicate (o : Options) : Predicates := fun columns => expr o columns .boolean 0

end PredicateOracle.Generate
