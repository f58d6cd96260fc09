import PredicateOracle.Engine.Allowlist
import PredicateOracle.Engine.Session
import PredicateOracle.Generate.Statement

/-!
# PredicateOracle.Workload.Populate -- filling an empty database

Tables come first, each in up to ten attempts; then all inserts, indexes, updates, deletes and
views, in this order. A statement that is refused for an expected reason is skipped and counted; any
other refusal ends the work. Later statements are drawn for the tables that the engine accepted, not
for those of rejected attempts. Views are made over base tables only and are never changed.
-/

namespace PredicateOracle

open Generate (Action Author Workload)
open Sql

/-- Why a database could not be filled. -/
inductive PopulateError where
  /-- Every attempt at a table was refused. -/
  | noTable (name : String)
  /-- A statement was refused for a reason that is not expected. -/
  | rejected (sql message : String)
  deriving DecidableEq, Repr

namespace Populate

/-- How often a table is tried. -/
def maxAttempts : Nat := 10

end Populate

/-- The wording of the error. -/
def PopulateError.message : PopulateError → String
  | .noTable name =>
    "could not create table " ++ name ++ " in " ++ toString Populate.maxAttempts ++ " attempts"
  | .rejected sql message => "unexpected error executing `" ++ sql ++ "`: " ++ message

/-- The refusals that are expected of an action. -/
def Generate.Action.allowlist : Action → Allowlist
  | .insert | .update | .delete => .insert
  | .createIndex => .index
  | .createView => .view

namespace Populate

variable {σ : Type}

/-- What has been done. -/
structure Counts where
  tables : Nat
  views : Nat
  executed : Nat
  skipped : Nat
  deriving DecidableEq, Repr

/-- Nothing has been done with `tables` tables. -/
def Counts.start (tables : Nat) : Counts := ⟨tables, 0, 0, 0⟩

/-- Counts a statement of a kind that was executed or skipped. -/
def Counts.add (c : Counts) (a : Action) (executed : Bool) : Counts :=
  if executed then
    { c with
      executed := c.executed + 1
      views := if a = .createView then c.views + 1 else c.views }
  else { c with skipped := c.skipped + 1 }

/-- The steps of filling a database. -/
abbrev Filling (σ : Type) := Session PopulateError σ

/-- Runs a statement; tells whether it was executed and not skipped. -/
def execute (c : Client σ) (a : Allowlist) (s : Statement) : Filling σ Bool := do
  match ← Session.request (c.execute s.sql) with
  | .ok _ => return true
  | .error e =>
    if a.expects e.message then return false
    else Session.raise (.rejected s.sql e.message)

/-- Creates a table in up to so many attempts, each with a definition of its own. -/
def createTable (c : Client σ) (w : Workload) (name : String) : Nat → Filling σ Table
  | 0 => Session.raise (.noTable name)
  | n + 1 => do
    let d ← Session.draw (Generate.tableDefinition w name)
    if ← execute c .table (.createTable d) then return d.table
    else createTable c w name n

/-- Creates tables from number `i` on. -/
def createTables (c : Client σ) (w : Workload) : Nat → Nat → Filling σ (List Table)
  | 0, _ => return []
  | n + 1, i => do
    let t ← createTable c w (numbered "t" i) maxAttempts
    return t :: (← createTables c w n (i + 1))

/-- A statement of a kind for one of the tables; views are made over all of them. -/
def statement (w : Workload) (o : Generate.Options) (author : Author) (tables : List Table)
    (table : Table) : Action → Gen (Option Statement × Author)
  | .insert => return (some (← Generate.insert o table), author)
  | .createIndex => Generate.createIndex author table
  | .update => return (← Generate.update o table, author)
  | .delete => return (some (← Generate.delete o table), author)
  | .createView => do
    let (v, author) ← Generate.createView w o author tables
    return (v.map fun (view, body) => .createView view body, author)

/-- Runs up to so many statements of a kind. -/
def repeatAction (c : Client σ) (w : Workload) (o : Generate.Options) (tables : List Table)
    (a : Action) : Nat → Counts × Author → Filling σ (Counts × Author)
  | 0, done => return done
  | n + 1, (counts, author) => do
    let some table ← Session.draw (Gen.choose? tables) | return (counts, author)
    match ← Session.draw (statement w o author tables table a) with
    | (none, author) => repeatAction c w o tables a n (counts, author)
    | (some s, author) =>
      let executed ← execute c a.allowlist s
      repeatAction c w o tables a n (counts.add a executed, author)

/-- Does the actions one after the other, each as often as is drawn for it. -/
def doActions (c : Client σ) (w : Workload) (o : Generate.Options) (tables : List Table) :
    List Action → Counts × Author → Filling σ (Counts × Author)
  | [], done => return done
  | a :: rest, done => do
    let n ← Session.draw (Generate.statementCount w a)
    doActions c w o tables rest (← repeatAction c w o tables a n done)

end Populate

/-- Fills an empty database. -/
def populate {σ : Type} (c : Client σ) (w : Workload) (o : Generate.Options) :
    Populate.Filling σ Populate.Counts := do
  let n ← Session.draw (Generate.tableCount w)
  Session.draw (Gen.reserve .table n)
  let tables ← Populate.createTables c w n 0
  let (counts, _) ←
    Populate.doActions c w o tables Action.all (.start tables.length, Author.fresh)
  return counts

end PredicateOracle
