import PredicateOracle.Check.Comparison
import PredicateOracle.Check.Expected
import PredicateOracle.Check.Mode
import PredicateOracle.Check.Snapshot
import PredicateOracle.Engine.Allowlist
import PredicateOracle.Engine.Session
import PredicateOracle.Generate.Expr
import PredicateOracle.Generate.RowSource
import PredicateOracle.Predicate.Compound
import PredicateOracle.Sql.Printer

/-!
# PredicateOracle.Check.Oracle -- one check of an engine

A check reads the schema and draws a plan: target tables, fetched columns, a row source, predicates
and whether the queries are ordered. The first query fetches the columns with the value of every
predicate. From that the truth of a random compound, and with it the answer of the second query, is
worked out. The second query has the compound as its filter; if its answer differs from the one
worked out, the engine has a bug.

The plan is drawn apart from the engine (`Plan.draw`), and the two queries are functions of the plan
and the compound. A check has three parts: finding a plan (`Oracle.planning`), making its predicates
known (`Oracle.survey`), and asking for the rows on which a compound of them holds
(`Oracle.confront`). Only the last part depends on the mode.
-/

namespace PredicateOracle

open Sql

/-! ## Trials -/

/-- The steps of a check. -/
abbrev Trial (σ : Type) := Session Interruption σ

/-- Takes a result that may be a defect. -/
def Trial.settle {σ α : Type} (r : Except Defect α) : Trial σ α :=
  match r with
  | .ok a => pure a
  | .error d => Session.raise (.defect d)

/-- What a refused query means for the check. -/
def Allowlist.classify (a : Allowlist) (query : String) (e : EngineError) : Interruption :=
  if a.expects e.message then .inconclusive (.expectedError query e.message)
  else .unexpected query e.message

namespace Client

variable {σ : Type}

/-- The rows that a query returns. -/
def rows (c : Client σ) (a : Allowlist) (query : String) : Trial σ (List Row) := do
  match ← Session.ask (c.query query) (a.classify query) with
  | some rows => return rows
  | none => Session.raise (.inconclusive (.noResult query))

/-- Fetches columns and predicates together. -/
def snapshot (c : Client σ) (a : Allowlist) (columns predicates : List Expr) (source : RowSource)
    (orderBy : List Expr) : Trial σ Snapshot := do
  let query := (Snapshot.fetchQuery columns predicates source orderBy).sql
  let rows ← c.rows a query
  Trial.settle (Snapshot.ofRows rows columns.length predicates query)

end Client

/-! ## Plans -/

namespace Check

/-- What checks look like. -/
structure Options where
  /-- The number of predicates of a check. -/
  predicates : Nat
  /-- What compounds look like. -/
  compound : CompoundOptions
  /-- The greatest number of target tables. -/
  maxTables : Nat
  joinProbability : Float
  /-- How often the queries are ordered by the fetched columns. -/
  orderedProbability : Float
  /-- How often the engine first frees its prepared statements. -/
  releaseProbability : Float
  /-- The modes that a run goes through. -/
  modes : List Mode

/-- Ten predicates and compounds of three levels over at most two tables, in both modes. -/
def Options.standard : Options := ⟨10, ⟨3, 0.1, .byPattern⟩, 2, 0.1, 0.2, 0.1, Mode.all⟩

/-- What a check is about. -/
structure Plan where
  tables : List Table
  fetched : List Column
  source : RowSource
  predicates : List Expr
  ordered : Bool
  deriving DecidableEq, Repr

namespace Plan

/-- Some of the columns, all of them every other time. -/
def drawFetched (columns : List Column) : Gen (List Column) := do
  if ← Gen.coin then return columns else Gen.subset columns

/-- Draws a plan for a schema; there is none if no table has a column. -/
def draw (o : Options) (g : Generate.Options) (s : Schema) : Gen (Option Plan) := do
  let some tables ← Generate.targets s o.maxTables | return none
  let columns := columnsOf tables
  let fetched ← drawFetched columns
  let source ← Generate.rowSource (Generate.predicate g) o.joinProbability tables
  Gen.reserve .expression o.predicates
  let predicates ← Gen.times o.predicates (Generate.predicate g columns)
  let ordered ← Gen.chance o.orderedProbability
  return some ⟨tables, fetched, source, predicates, ordered⟩

/-- The projection that both queries share. -/
def projection (p : Plan) : List Expr := p.fetched.map fun c => .column c.ref

/-- The order of both queries. -/
def orderBy (p : Plan) : List Expr := if p.ordered then p.projection else []

/-- The first query. -/
def fetch (p : Plan) : Select :=
  Snapshot.fetchQuery p.projection p.predicates p.source p.orderBy

/-- The second query. -/
def verification (p : Plan) (mode : Mode) (compound : Expr) : Select :=
  ⟨mode = .distinct, p.projection, p.source, some compound, p.orderBy⟩

end Plan
end Check

/-! ## Checks -/

/-- What a check comes to when nothing is wrong. -/
inductive Outcome where
  /-- The engine answered as it should, with so many rows. -/
  | passed (rows : Nat)
  /-- There was no verdict. -/
  | inconclusive (reason : Reason)
  deriving DecidableEq, Repr

/-- Counters over checks. -/
structure Stats where
  checks : Nat
  passed : Nat
  inconclusive : Nat
  bugs : Nat
  deriving DecidableEq, Repr

namespace Stats

/-- Nothing has been checked. -/
def zero : Stats := ⟨0, 0, 0, 0⟩

/-- The counters of two groups of checks together. -/
def merge (a b : Stats) : Stats :=
  ⟨a.checks + b.checks, a.passed + b.passed, a.inconclusive + b.inconclusive, a.bugs + b.bugs⟩

/-- Whether every counter is a machine word. -/
def fits (s : Stats) : Bool :=
  [s.checks, s.passed, s.inconclusive, s.bugs].all (· < 2 ^ (64 : Nat))

/-- The counters of two groups of checks together, as machine words. -/
def mergeWords (a b : Stats) : Except Fault Stats :=
  if (a.merge b).fits then .ok (a.merge b) else .error .wordOverflow

/-- Counts the end of one check. -/
def count (s : Stats) : Except (Halt Interruption) Nat → Stats
  | .ok _ => { s with checks := s.checks + 1, passed := s.passed + 1 }
  | .error (.raised (.inconclusive _)) =>
    { s with checks := s.checks + 1, inconclusive := s.inconclusive + 1 }
  | .error (.raised (.logicBug _)) =>
    { s with checks := s.checks + 1, bugs := s.bugs + 1 }
  | .error _ => { s with checks := s.checks + 1 }

end Stats

/-- What a check comes to: an outcome, or what is fatal. A missing verdict is an outcome. -/
def Outcome.ofTrial : Except (Halt Interruption) Nat → Except (Halt Interruption) Outcome
  | .ok rows => .ok (.passed rows)
  | .error (.raised (.inconclusive reason)) => .ok (.inconclusive reason)
  | .error h => .error h

/-- A checker with its options and counters. -/
structure Oracle where
  options : Check.Options
  generator : Generate.Options
  allowlist : Allowlist
  stats : Stats

namespace Oracle

variable {σ : Type}

/-- A checker that has not checked anything yet. -/
def new (options : Check.Options) (generator : Generate.Options) (allowlist : Allowlist) : Oracle :=
  ⟨options, generator, allowlist, .zero⟩

/-- The expected answer of the second query. -/
def expectedRows (mode : Mode) (s : Snapshot) (compound : Known) : Except Defect (List Row) :=
  match mode with
  | .plain => Expected.ordered s.rows compound.truth .fullRow
  | .distinct => Expected.distinct s.rows compound.truth .fullRow

/-- The report of a wrong answer. -/
def report (seed : UInt64) (query : String) (s : Snapshot) (compound : Known)
    (expected actual : List Row) (m : Mismatch) : BugReport :=
  ⟨seed, query, s.query, s.predicates.map (·.expression.sql), compound.expression.sql, expected,
    actual, m.message⟩

/-- Compares the answer of the second query with the expected one; gives the number of rows. -/
def judge (plan : Check.Plan) (mode : Mode) (seed : UInt64) (query : String) (s : Snapshot)
    (compound : Known) (expected actual : List Row) : Except Interruption Nat :=
  match Comparison.mismatch? (.forQuery (mode = .distinct) plan.ordered) expected actual with
  | none => .ok expected.length
  | some m => .error (.logicBug (report seed query s compound expected actual m))

/-- Has the engine free its prepared statements from time to time. -/
def opening (o : Oracle) (c : Client σ) : Trial σ Unit := do
  if ← Session.draw (Gen.chance o.options.releaseProbability) then
    Session.ask c.release .database

/-- Finds the plan of a check, for the schema that the engine has now. -/
def planning (o : Oracle) (c : Client σ) : Trial σ Check.Plan := do
  o.opening c
  let schema ← Session.ask c.readSchema .database
  let some plan ← Session.draw (Check.Plan.draw o.options o.generator schema)
    | Session.raise (.inconclusive .emptySchema)
  return plan

/-- Asks the first query of a plan and draws a compound of the predicates that it makes known. -/
def survey (o : Oracle) (c : Client σ) (plan : Check.Plan) : Trial σ (Snapshot × Known) := do
  let s ← c.snapshot o.allowlist plan.projection plan.predicates plan.source plan.orderBy
  let some compound ← Session.draw (Pool.compound ⟨s.predicates⟩ o.options.compound)
    | Session.raise (.defect .noPredicates)
  return (s, compound)

/-- Asks the second query and judges its answer. -/
def confront (o : Oracle) (c : Client σ) (mode : Mode) (plan : Check.Plan) (s : Snapshot)
    (compound : Known) : Trial σ Nat := do
  let expected ← Trial.settle (expectedRows mode s compound)
  let query := (plan.verification mode compound.expression).sql
  let actual ← c.rows o.allowlist query
  let seed := (← get).stream.seed
  match judge plan mode seed query s compound expected actual with
  | .ok rows => return rows
  | .error i => Session.raise i

/-- The steps of a check. -/
def trial (o : Oracle) (c : Client σ) (mode : Mode) : Trial σ Nat := do
  let plan ← o.planning c
  let (s, compound) ← o.survey c plan
  o.confront c mode plan s compound

/-- Runs a check and counts it. -/
def check (o : Oracle) (c : Client σ) (mode : Mode) (w : World σ) :
    Except (Halt Interruption) Outcome × Oracle × World σ :=
  let (result, w) := (o.trial c mode).runOn w
  (Outcome.ofTrial result, { o with stats := o.stats.count result }, w)

end Oracle
end PredicateOracle
