import PredicateOracle.Sql.Schema

/-!
# PredicateOracle.Sql.Expr -- expression trees

The expressions that queries are made of. Each kind of node is one constructor, so whatever is
defined on expressions says what it does with every kind. Which operand types an operator takes is
part of the language (`PostfixOp.accepts`), not of whoever builds the tree.
-/

namespace PredicateOracle.Sql

/-- A column named with its table. -/
structure ColumnRef where
  table : String
  column : String
  deriving DecidableEq, Repr

/-- The reference to a column. -/
def Column.ref (c : Column) : ColumnRef := ⟨c.table, c.name⟩

/-! ## Operators -/

/-- Operators in front of one operand. -/
inductive PrefixOp where
  | not
  | plus
  | minus
  deriving DecidableEq, Repr

/-- Operators behind one operand. -/
inductive PostfixOp where
  | isNull
  | isNotNull
  | isTrue
  | isFalse
  deriving DecidableEq, Repr

/-- The connectives of two truth values. -/
inductive Connective where
  | and
  | or
  deriving DecidableEq, Repr

/-- Comparisons of two values of one type. -/
inductive ComparisonOp where
  | eq
  | ne
  | lt
  | le
  | gt
  | ge
  deriving DecidableEq, Repr

/-- Arithmetic on two integers. -/
inductive ArithmeticOp where
  | add
  | subtract
  deriving DecidableEq, Repr

namespace PrefixOp

/-- The operator in SQL. -/
def text : PrefixOp → String
  | .not => "NOT"
  | .plus => "+"
  | .minus => "-"

end PrefixOp

namespace PostfixOp

/-- All operators, in the order in which they are drawn. -/
def all : List PostfixOp := [.isNull, .isNotNull, .isTrue, .isFalse]

/-- The operator in SQL. -/
def text : PostfixOp → String
  | .isNull => "IS NULL"
  | .isNotNull => "IS NOT NULL"
  | .isTrue => "IS TRUE"
  | .isFalse => "IS FALSE"

/-- Whether an operand may have this type: anything may be NULL, only a boolean can be true. -/
def accepts : PostfixOp → DataType → Bool
  | .isNull, _ | .isNotNull, _ => true
  | .isTrue, t | .isFalse, t => t = .boolean

end PostfixOp

namespace Connective

/-- Both connectives, in the order in which they are drawn. -/
def all : List Connective := [.and, .or]

/-- The connective in SQL. -/
def text : Connective → String
  | .and => "AND"
  | .or => "OR"

end Connective

namespace ComparisonOp

/-- All comparisons, in the order in which they are drawn. -/
def all : List ComparisonOp := [.eq, .ne, .lt, .le, .gt, .ge]

/-- The comparison in SQL. -/
def text : ComparisonOp → String
  | .eq => "="
  | .ne => "!="
  | .lt => "<"
  | .le => "<="
  | .gt => ">"
  | .ge => ">="

end ComparisonOp

namespace ArithmeticOp

/-- Both operators, in the order in which they are drawn. -/
def all : List ArithmeticOp := [.add, .subtract]

/-- The operator in SQL. -/
def text : ArithmeticOp → String
  | .add => "+"
  | .subtract => "-"

end ArithmeticOp

/-! ## Trees -/

/-- An expression. -/
inductive Expr where
  | column (ref : ColumnRef)
  | literal (value : Literal)
  | prefixed (op : PrefixOp) (operand : Expr)
  | postfixed (op : PostfixOp) (operand : Expr)
  | logical (op : Connective) (left right : Expr)
  | comparison (op : ComparisonOp) (left right : Expr)
  | arithmetic (op : ArithmeticOp) (left right : Expr)
  | concat (left right : Expr)
  | between (negated : Bool) (operand low high : Expr)
  | like (negated : Bool) (operand pattern : Expr)
  deriving DecidableEq, Repr

instance : Inhabited Expr := ⟨.literal (.boolean true)⟩

namespace Expr

/-- The negation of a predicate. -/
def negate (e : Expr) : Expr := .prefixed .not e

/-- How many connectives a tree holds. -/
def connectives : Expr → Nat
  | .column _ | .literal _ => 0
  | .prefixed _ e | .postfixed _ e => e.connectives
  | .logical _ l r => 1 + l.connectives + r.connectives
  | .comparison _ l r | .arithmetic _ l r | .concat l r => l.connectives + r.connectives
  | .between _ e l h => e.connectives + l.connectives + h.connectives
  | .like _ e p => e.connectives + p.connectives

end Expr
end PredicateOracle.Sql
