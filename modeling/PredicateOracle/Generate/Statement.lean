import PredicateOracle.Generate.Expr
import PredicateOracle.Generate.RowSource
import PredicateOracle.Sql.Statement

/-!
# PredicateOracle.Generate.Statement -- random statements for filling a database

Statements are drawn for given tables, so what they mention exists. Indexes and views get fresh
names: an `Author` counts how many of each it has named, and hands the counts on. A request that
cannot be met (an index on a table without columns, a view over such tables) is answered with
`none`, draws nothing and counts nothing.
-/

namespace PredicateOracle.Generate

open Sql

/-- How large a database is made. -/
structure Workload where
  maxTables : Nat
  maxColumns : Nat
  maxInserts : Nat
  maxUpdates : Nat
  maxDeletes : Nat
  maxIndexes : Nat
  maxViews : Nat
  /-- Whether there may be indexes and key constraints. -/
  indexes : Bool
  /-- Whether there may be NOT NULL constraints. -/
  notNull : Bool
  deriving DecidableEq, Repr

/-- Two tables of four columns with some thirty rows. -/
def Workload.standard : Workload := ⟨2, 4, 30, 5, 1, 3, 1, true, true⟩

/-! ## How many -/

/-- What is done to a database after its tables are made. -/
inductive Action where
  | insert
  | createIndex
  | update
  | delete
  | createView
  deriving DecidableEq, Repr

/-- All actions, in the order in which they are done. -/
def Action.all : List Action := [.insert, .createIndex, .update, .delete, .createView]

/-- The greatest number of statements of a kind. -/
def Workload.limit (w : Workload) : Action → Nat
  | .insert => w.maxInserts
  | .createIndex => if w.indexes then w.maxIndexes else 0
  | .update => w.maxUpdates
  | .delete => w.maxDeletes
  | .createView => w.maxViews

/-- The number of statements of a kind. It is drawn below the successor of the maximum, which must
be a machine word. -/
def statementCount (w : Workload) (a : Action) : Gen Nat :=
  if 2 ^ (64 : Nat) ≤ w.limit a + 1 then Gen.fail .wordOverflow else Gen.index (w.limit a + 1)

/-- A number from one to a maximum that counts as one if it is zero. -/
def oneTo (maximum : Nat) : Gen Nat := return 1 + (← Gen.index (max 1 maximum))

/-- The number of tables. -/
def tableCount (w : Workload) : Gen Nat := oneTo w.maxTables

/-! ## Tables -/

/-- A key constraint for a column, one time in ten; a second primary key is never drawn. -/
def columnKey (w : Workload) (hasPrimary : Bool) : Gen (Option ColumnKey) := do
  if !w.indexes then return none
  if !(← Gen.rarely) then return none
  if hasPrimary then return some .unique
  return some (if ← Gen.coin then .primary else .unique)

/-- Column definitions from number `i` on. -/
def columnDefinitions (w : Workload) : Nat → Nat → Bool → Gen (List ColumnDefinition)
  | 0, _, _ => return []
  | n + 1, i, hasPrimary => do
    let type ← Gen.pick DataType.all
    let key ← columnKey w hasPrimary
    let notNull ← if w.notNull then Gen.rarely else pure false
    let rest ← columnDefinitions w n (i + 1) (hasPrimary || key = some .primary)
    return ⟨numbered "c" i, type, key, notNull⟩ :: rest

/-- The key of a table: every other time some of the columns, unless one of them is a primary key
by itself. -/
def tableKey (w : Workload) (columns : List ColumnDefinition) : Gen (List Nat) := do
  if !w.indexes || columns.any (·.key = some .primary) then return []
  if ← Gen.coin then Gen.positions columns.length else return []

/-- The number of columns of a table or a view, for which there must be room. -/
def columnCount (w : Workload) : Gen Nat := do
  let n ← oneTo w.maxColumns
  Gen.reserve .column n
  return n

/-- A table definition. -/
def tableDefinition (w : Workload) (name : String) : Gen TableDefinition := do
  let columns ← columnDefinitions w (← columnCount w) 0 false
  return ⟨name, columns, ← tableKey w columns⟩

/-! ## Rows -/

/-- A literal that a column can hold. -/
def storable (o : Options) (c : Column) : Gen Literal :=
  literal (if c.nullable then o.nullProbability else 0) c.type

/-- A literal for each column. -/
def tuple (o : Options) : List Column → Gen (List Literal)
  | [] => return []
  | c :: rest => do
    let v ← storable o c
    return v :: (← tuple o rest)

/-- One to three new rows. -/
def insert (o : Options) (t : Table) : Gen Statement := do
  let count := 1 + (← Gen.index 3)
  return .insert t.name (← Gen.times count (tuple o t.columns))

/-- A filter over the columns of a table, every other time. -/
def filter (o : Options) (columns : List Column) : Gen (Option Expr) := do
  if ← Gen.coin then return some (← predicate o columns) else return none

/-- A new value for a column of a table that has one. -/
def update (o : Options) (t : Table) : Gen (Option Statement) := do
  match ← Gen.choose? t.columns with
  | none => return none
  | some c =>
    let value ← storable o c
    return some (.update t.name c.name value (← filter o t.columns))

/-- The removal of rows. -/
def delete (o : Options) (t : Table) : Gen Statement := do
  return .delete t.name (← filter o t.columns)

/-! ## Indexes and views -/

/-- How many indexes and views have been named. -/
structure Author where
  indexes : Nat
  views : Nat
  deriving DecidableEq, Repr

/-- Nothing has been named. -/
def Author.fresh : Author := ⟨0, 0⟩

/-- An index on a table that has a column. -/
def createIndex (a : Author) (t : Table) : Gen (Option Statement × Author) :=
  if t.columns.isEmpty then return (none, a)
  else do
    let columns ← Gen.subset t.columns
    let unique ← Gen.rarely
    return (some (.createIndex unique (numbered "i" a.indexes) t.name (columns.map (·.name))),
      { a with indexes := a.indexes + 1 })

/-- How often the first two tables of a view are joined. -/
def viewJoinProbability : Float := 0.2

/-- Columns of a view from number `i` on, each with the expression behind it. -/
def viewColumns (o : Options) (columns : List Column) (view : String) :
    Nat → Nat → Gen (List (Column × Expr))
  | 0, _ => return []
  | n + 1, i => do
    let type ← Gen.pick DataType.all
    let e ← expr o columns type 0
    return (⟨view, numbered "c" i, type, true⟩, e) :: (← viewColumns o columns view n (i + 1))

/-- A view over some of the tables, if any of them has a column. -/
def createView (w : Workload) (o : Options) (a : Author) (tables : List Table) :
    Gen (Option (Table × Select) × Author) := do
  match ← targets ⟨tables⟩ w.maxTables with
  | none => return (none, a)
  | some chosen =>
    let columns := columnsOf chosen
    let name := numbered "v" a.views
    let listed ← viewColumns o columns name (← columnCount w) 0
    let source ← rowSource (predicate o) viewJoinProbability chosen
    let condition ← filter o columns
    let distinct ← Gen.coin
    return (some (⟨name, listed.map (·.1)⟩, ⟨distinct, listed.map (·.2), source, condition, []⟩),
      { a with views := a.views + 1 })

end PredicateOracle.Generate
