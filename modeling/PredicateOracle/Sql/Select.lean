import PredicateOracle.Sql.Expr

/-!
# PredicateOracle.Sql.Select -- queries

A query is a projection over a row source, with an optional filter and an optional order. The row
source is a value of its own because the two queries of a check share it.
-/

namespace PredicateOracle.Sql

/-- The kinds of joins. -/
inductive JoinKind where
  | inner
  | left
  | right
  deriving DecidableEq, Repr

namespace JoinKind

/-- All kinds, in the order in which they are drawn. -/
def all : List JoinKind := [.inner, .left, .right]

/-- The kind in SQL. -/
def text : JoinKind → String
  | .inner => "INNER JOIN"
  | .left => "LEFT JOIN"
  | .right => "RIGHT JOIN"

end JoinKind

/-- Two tables joined on a condition. -/
structure Join where
  left : String
  kind : JoinKind
  right : String
  on : Expr
  deriving DecidableEq, Repr

/-- Where the rows of a query come from: single tables, then joins. -/
structure RowSource where
  tables : List String
  joins : List Join
  deriving DecidableEq, Repr, Inhabited

/-- A query. -/
structure Select where
  distinct : Bool
  projection : List Expr
  source : RowSource
  filter : Option Expr
  orderBy : List Expr
  deriving DecidableEq, Repr

end PredicateOracle.Sql
