import PredicateOracle.Sql.Printer

/-!
# PredicateOracle.Sql.Statement -- statements that change a database

A statement is a value, and its text is a function of the value. So what a statement does to which
columns can be said without reading text. A table definition in particular is the common source of
the `CREATE TABLE` text (`TableDefinition.sql`) and of the table that it creates
(`TableDefinition.table`).
-/

namespace PredicateOracle.Sql

/-! ## Table definitions -/

/-- A key constraint on one column. -/
inductive ColumnKey where
  | primary
  | unique
  deriving DecidableEq, Repr

/-- A column of a table definition. -/
structure ColumnDefinition where
  name : String
  type : DataType
  key : Option ColumnKey
  notNull : Bool
  deriving DecidableEq, Repr

/-- A table definition. The key lists positions of columns; it is empty if there is no key over
several columns. -/
structure TableDefinition where
  name : String
  columns : List ColumnDefinition
  key : List Nat
  deriving DecidableEq, Repr

/-- A name made of a letter and a number. -/
def numbered (letter : String) (n : Nat) : String := letter ++ toString n

namespace ColumnDefinition

/-- Whether the definition of the column itself rules out NULL. -/
def refusesNull (d : ColumnDefinition) : Bool := d.notNull || d.key = some .primary

/-- The text of a column definition. -/
def sql (d : ColumnDefinition) : String :=
  d.name ++ " " ++ d.type.name
    ++ (match d.key with
      | none => ""
      | some .primary => " PRIMARY KEY"
      | some .unique => " UNIQUE")
    ++ (if d.notNull then " NOT NULL" else "")

end ColumnDefinition

namespace TableDefinition

/-- The table that a definition creates. A column can hold NULL unless its own definition or the
key of the table rules that out. -/
def table (d : TableDefinition) : Table :=
  ⟨d.name, d.columns.mapIdx fun i c =>
    ⟨d.name, c.name, c.type, !(c.refusesNull || d.key.contains i)⟩⟩

/-- The names of the columns in the key of the table. -/
def keyNames (d : TableDefinition) : List String :=
  d.key.filterMap fun i => d.columns[i]?.map (·.name)

/-- The parts of the text: the columns, then the key. -/
def parts (d : TableDefinition) : List String :=
  d.columns.map ColumnDefinition.sql
    ++ (match d.key with
      | [] => []
      | _ => ["PRIMARY KEY(" ++ Text.join ", " d.keyNames ++ ")"])

/-- The text of a table definition. -/
def sql (d : TableDefinition) : String :=
  "CREATE TABLE " ++ d.name ++ " (" ++ Text.join ", " d.parts ++ ")"

end TableDefinition

/-! ## Statements -/

/-- A statement that changes a database. -/
inductive Statement where
  | createTable (definition : TableDefinition)
  | insert (table : String) (rows : List (List Literal))
  | update (table column : String) (value : Literal) (filter : Option Expr)
  | delete (table : String) (filter : Option Expr)
  | createIndex (unique : Bool) (name table : String) (columns : List String)
  | createView (view : Table) (body : Select)
  deriving DecidableEq, Repr

namespace Statement

/-- The text of an optional filter. -/
def filterSql : Option Expr → String
  | none => ""
  | some e => " WHERE " ++ e.sql

/-- The text of a row of values. -/
def tupleSql (values : List Literal) : String :=
  "(" ++ Text.join ", " (values.map Literal.valueSql) ++ ")"

/-- The text of a statement. -/
def sql : Statement → String
  | .createTable d => d.sql
  | .insert table rows =>
    "INSERT INTO " ++ table ++ " VALUES " ++ Text.join ", " (rows.map tupleSql)
  | .update table column value filter =>
    "UPDATE " ++ table ++ " SET " ++ column ++ " = " ++ value.valueSql ++ filterSql filter
  | .delete table filter => "DELETE FROM " ++ table ++ filterSql filter
  | .createIndex unique name table columns =>
    "CREATE " ++ (if unique then "UNIQUE " else "") ++ "INDEX " ++ name ++ " ON " ++ table ++ " ("
      ++ Text.join ", " columns ++ ")"
  | .createView view body =>
    "CREATE VIEW " ++ view.name ++ "(" ++ Text.join ", " (view.columns.map (·.name)) ++ ") AS "
      ++ body.sql

end Statement
end PredicateOracle.Sql
