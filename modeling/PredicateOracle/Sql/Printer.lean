import PredicateOracle.Sql.Select

/-!
# PredicateOracle.Sql.Printer -- the text of expressions and queries

Every node that has operands is put in parentheses, so no rule of precedence is needed to read a
text back. A quote inside a string literal is written twice.
-/

namespace PredicateOracle.Sql

/-- A string in quotes, each quote inside it written twice. -/
def quoted (quote : Char) (s : String) : String :=
  String.ofList
    (quote :: s.toList.flatMap (fun c => if c = quote then [quote, quote] else [c]) ++ [quote])

/-- The text of a literal that is not NULL. -/
def Literal.valueSql : Literal → String
  | .null _ => "NULL"
  | .integer n => toString n
  | .varchar s => quoted '\'' s
  | .boolean b => if b then "TRUE" else "FALSE"

/-- The text of a literal within an expression, where a NULL states its type. -/
def Literal.sql : Literal → String
  | .null t => "CAST(NULL AS " ++ t.name ++ ")"
  | l => l.valueSql

/-- The text of a column reference. -/
def ColumnRef.sql (r : ColumnRef) : String := r.table ++ "." ++ r.column

/-- The text of an expression. -/
def Expr.sql : Expr → String
  | .column r => r.sql
  | .literal l => l.sql
  | .prefixed op e => "(" ++ op.text ++ " " ++ e.sql ++ ")"
  | .postfixed op e => "(" ++ e.sql ++ " " ++ op.text ++ ")"
  | .logical op l r => "(" ++ l.sql ++ " " ++ op.text ++ " " ++ r.sql ++ ")"
  | .comparison op l r => "(" ++ l.sql ++ " " ++ op.text ++ " " ++ r.sql ++ ")"
  | .arithmetic op l r => "(" ++ l.sql ++ " " ++ op.text ++ " " ++ r.sql ++ ")"
  | .concat l r => "(" ++ l.sql ++ " || " ++ r.sql ++ ")"
  | .between negated e l h =>
    "(" ++ e.sql ++ (if negated then " NOT BETWEEN " else " BETWEEN ") ++ l.sql ++ " AND " ++ h.sql
      ++ ")"
  | .like negated e p =>
    "(" ++ e.sql ++ (if negated then " NOT LIKE " else " LIKE ") ++ p.sql ++ ")"

/-- The text of a join. -/
def Join.sql (j : Join) : String :=
  j.left ++ " " ++ j.kind.text ++ " " ++ j.right ++ " ON " ++ j.on.sql

/-- The entries of a FROM clause: the single tables, then the joins. -/
def RowSource.entries (s : RowSource) : List String := s.tables ++ s.joins.map Join.sql

/-- The FROM clause; a source without entries has none. -/
def RowSource.sql (s : RowSource) : String :=
  match s.entries with
  | [] => ""
  | entries => " FROM " ++ Text.join ", " entries

/-- The text of a list of expressions. -/
def Expr.listSql (es : List Expr) : String := Text.join ", " (es.map Expr.sql)

/-- The text of a query. -/
def Select.sql (s : Select) : String :=
  "SELECT " ++ (if s.distinct then "DISTINCT " else "") ++ Expr.listSql s.projection
    ++ s.source.sql
    ++ (match s.filter with | none => "" | some e => " WHERE " ++ e.sql)
    ++ (match s.orderBy with | [] => "" | es => " ORDER BY " ++ Expr.listSql es)

end PredicateOracle.Sql
