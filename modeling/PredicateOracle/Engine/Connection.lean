import PredicateOracle.Engine.Cell
import PredicateOracle.Engine.Client
import PredicateOracle.Sql.Printer
import PredicateOracle.Text.Case

/-!
# PredicateOracle.Engine.Connection -- an embedded engine as a client

A connection runs SQL and returns typed rows; reading a row may fail after others have been read.
On top of it this module builds the client that checks and workloads use: values become texts, a
statement in place of a query has no result, and the schema is read from the catalog of columns.
It also empties a database (`Connection.reset`): views go first, so that none outlives the tables
that it reads.
-/

namespace PredicateOracle

open Sql

/-- A connection with states of type `κ`. -/
structure Connection (κ : Type) where
  /-- Runs a query; each row is read on its own. -/
  query : String → StateM κ (Answer (List (Answer (List Cell))))
  /-- Runs a statement and tells how many rows it affected. -/
  execute : String → StateM κ (Answer Nat)
  /-- Drops the prepared statements that the connection keeps. -/
  flush : StateM κ Unit

namespace Connection

variable {κ : Type}

/-- Steps that may be refused. -/
abbrev Steps (κ : Type) := ExceptT EngineError (StateM κ)

/-- Reads the rows of a result, up to the first that cannot be read or that `f` refuses. -/
def readRows {α : Type} (f : List Cell → Answer α) : List (Answer (List Cell)) → Answer (List α)
  | [] => .ok []
  | row :: rest => do
    let a ← f (← row)
    return a :: (← readRows f rest)

/-- The cells of a row that must all be texts, `count` of them. -/
def names (count : Nat) (row : List Cell) : Answer (List String) :=
  (List.range count).mapM fun i =>
    match row[i]? with
    | none => .error ⟨"Invalid column index: " ++ toString i⟩
    | some cell =>
      match cell.name? with
      | some s => .ok s
      | none => .error ⟨"Invalid column type at index: " ++ toString i⟩

/-! ## Queries and statements -/

/-- The keywords that statements without a result start with. -/
def statementKeywords : List String := ["CREATE", "INSERT", "UPDATE", "DELETE", "DROP", "ALTER"]

/-- Whether a text is a statement without a result. -/
def isStatement (sql : String) : Bool :=
  statementKeywords.any (Text.startsWithKeyword (Text.trimLeft sql.toList))

/-- Runs a query, or a statement in its place. -/
def runQuery (c : Connection κ) (sql : String) : Steps κ (Option (List Row)) := do
  if isStatement sql then
    let _ ← ExceptT.mk (c.execute sql)
    return none
  else
    let result ← ExceptT.mk (c.query sql)
    let rows ← ExceptT.mk (pure (readRows (fun cells => .ok (cells.map Cell.text?)) result))
    return some rows

/-! ## The catalog -/

/-- The query for the columns of all tables and views. -/
def columnsQuery : String :=
  "SELECT table_name, column_name, data_type, is_nullable FROM information_schema.columns "
    ++ "WHERE table_schema = 'main' ORDER BY table_name, ordinal_position"

/-- The column that a row of the catalog describes; none if its type is not supported. -/
def catalogColumn? : List String → Option Column
  | [table, column, type, nullable] =>
    match DataType.ofName type with
    | .ok t => some ⟨table, column, t, Text.upper nullable ≠ "NO"⟩
    | .error _ => none
  | _ => none

/-- Columns as tables: a column joins the table before it if that has the same name. -/
def groupColumns : List Column → List Table
  | [] => []
  | c :: rest =>
    match groupColumns rest with
    | t :: ts =>
      if t.name = c.table then ⟨t.name, c :: t.columns⟩ :: ts
      else ⟨c.table, [c]⟩ :: t :: ts
    | [] => [⟨c.table, [c]⟩]

/-- Reads the tables and views of the database. -/
def runReadSchema (c : Connection κ) : Steps κ Schema := do
  let result ← ExceptT.mk (c.query columnsQuery)
  let rows ← ExceptT.mk (pure (readRows (names 4) result))
  return ⟨groupColumns (rows.filterMap catalogColumn?)⟩

/-- The client on top of a connection. -/
def client (c : Connection κ) : Client κ where
  query sql := (c.runQuery sql).run
  execute := c.execute
  release := do c.flush; return .ok ()
  readSchema := c.runReadSchema.run

/-! ## Emptying a database -/

/-- The query for the names and kinds of all tables and views. -/
def relationsQuery : String :=
  "SELECT table_name, table_type FROM information_schema.tables WHERE table_schema = 'main'"

/-- A table or view, as a name and a kind. -/
abbrev Relation := String × String

/-- Whether a relation is a view. -/
def isView (r : Relation) : Bool := r.2 = "VIEW"

/-- The statements that drop relations: the views in order, then everything else in order. -/
def dropStatements (relations : List Relation) : List String :=
  (relations.filter isView).map (fun r => "DROP VIEW IF EXISTS " ++ quoted '"' r.1)
    ++ (relations.filter (!isView ·)).map (fun r => "DROP TABLE IF EXISTS " ++ quoted '"' r.1)

/-- Runs statements up to the first that is refused. -/
def executeAll (c : Connection κ) : List String → Steps κ Unit
  | [] => return ()
  | sql :: rest => do
    let _ ← ExceptT.mk (c.execute sql)
    c.executeAll rest

/-- The relations that rows of the catalog describe. -/
def relationsOf (rows : List (List String)) : List Relation :=
  rows.filterMap fun
    | [name, kind] => some (name, kind)
    | _ => none

/-- Drops all views and tables. -/
def reset (c : Connection κ) : Steps κ Unit := do
  let result ← ExceptT.mk (c.query relationsQuery)
  let rows ← ExceptT.mk (pure (readRows (names 2) result))
  let _ ← ExceptT.mk (do c.flush; return .ok ())
  c.executeAll (dropStatements (relationsOf rows))

/-! ## Opening -/

/-- What is said when no connection can be opened; without a path it was to be one in memory. -/
def openError (path : Option String) (message : String) : EngineError :=
  match path with
  | none => ⟨"Failed to open DuckDB: " ++ message⟩
  | some path => ⟨"Failed to open DuckDB at " ++ path ++ ": " ++ message⟩

/-- The name of the engine. -/
def engineName : String := "DuckDB"

/-- How a client on top of a connection is shown; its state is not. -/
def clientListing : String := "DuckDbClient \x7b .. \x7d"

end Connection
end PredicateOracle
