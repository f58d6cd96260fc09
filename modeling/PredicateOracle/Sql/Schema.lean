import PredicateOracle.Sql.DataType

/-!
# PredicateOracle.Sql.Schema -- columns, tables and schemas

What is known about a database: its tables in order, each with its columns in order. A column
carries the name of its table, so that a reference to it needs nothing else.
-/

namespace PredicateOracle.Sql

/-- A column of a table. -/
structure Column where
  table : String
  name : String
  type : DataType
  nullable : Bool
  deriving DecidableEq, Repr

/-- A table with its columns. -/
structure Table where
  name : String
  columns : List Column
  deriving DecidableEq, Repr

/-- The tables of a database. -/
structure Schema where
  tables : List Table
  deriving DecidableEq, Repr

namespace Schema

/-- Whether no table has a column. -/
def isEmpty (s : Schema) : Bool := s.tables.all fun t => t.columns.isEmpty

/-- The first table of a given name. -/
def table? (s : Schema) (name : String) : Option Table := s.tables.find? fun t => t.name = name

/-- The tables that have a column. -/
def usable (s : Schema) : List Table := s.tables.filter fun t => !t.columns.isEmpty

end Schema

/-- The columns of some tables, in table order. -/
def columnsOf (tables : List Table) : List Column := tables.flatMap (·.columns)

end PredicateOracle.Sql
