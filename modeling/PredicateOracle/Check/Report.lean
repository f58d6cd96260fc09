import PredicateOracle.Engine.Client
import PredicateOracle.Json.Basic

/-!
# PredicateOracle.Check.Report -- how a check can end early

A check that does not run to its end is interrupted for one of five causes. Only the first of them,
the lack of a verdict, lets the run go on; the others are fatal. All wording of reports is here.
-/

namespace PredicateOracle

/-- Why a check gave no verdict. -/
inductive Reason where
  /-- No table has a column. -/
  | emptySchema
  /-- A query had no result. -/
  | noResult (query : String)
  /-- A query was refused for an expected reason. -/
  | expectedError (query message : String)
  deriving DecidableEq, Repr

/-- The wording of a reason. -/
def Reason.message : Reason → String
  | .emptySchema => "schema has no usable table"
  | .noResult query => "no result handle for query: " ++ query
  | .expectedError _ message => "expected error: " ++ message

/-- Data that no engine should return, or a step of the check gone wrong. -/
inductive Defect where
  /-- A row of the snapshot has the wrong number of cells. -/
  | rowWidth (row width expected : Nat)
  /-- The cell of a predicate is no truth value. -/
  | notTruth (predicate : Nat) (text : String) (row : Nat)
  /-- A truth column is not as long as the snapshot. -/
  | columnLength (values rows : Nat)
  /-- There is no predicate to make a compound of. -/
  | noPredicates
  /-- Anything else, in words. -/
  | other (description : String)
  deriving DecidableEq, Repr

/-- The wording of a defect. -/
def Defect.message : Defect → String
  | .rowWidth row width expected =>
    "row " ++ toString row ++ " has " ++ toString width ++ " values, expected " ++ toString expected
  | .notTruth predicate text row =>
    "predicate " ++ toString predicate ++ " evaluated to non-boolean `" ++ text ++ "` at row "
      ++ toString row
  | .columnLength values rows =>
    "truth vector has " ++ toString values ++ " values for a snapshot of " ++ toString rows
      ++ " rows"
  | .noPredicates => "no predicates to combine"
  | .other description => description

/-! ## Bugs -/

/-- All that is needed to look into a wrong answer. -/
structure BugReport where
  /-- The seed of the stream that the check drew from. -/
  seed : UInt64
  /-- The query with the wrong answer. -/
  query : String
  /-- The query that the expected answer was derived from. -/
  fetchQuery : String
  predicates : List String
  compound : String
  expected : List Row
  actual : List Row
  mismatch : String
  deriving DecidableEq, Repr

namespace BugReport

/-- The heading of a list of rows, and the rows. -/
def rowsLine (title : String) (rows : List Row) : String :=
  "  " ++ title ++ " (" ++ toString rows.length ++ " rows): " ++ Row.listings rows

/-- The lines of a report. -/
def lines (r : BugReport) : List String :=
  ["logic bug: " ++ r.mismatch,
    "  seed: " ++ toString r.seed.toNat,
    "  query: " ++ r.query,
    "  fetch query: " ++ r.fetchQuery,
    "  combined predicate: " ++ r.compound,
    "  predicates:"]
    ++ r.predicates.map ("    " ++ ·)
    ++ [rowsLine "expected" r.expected, rowsLine "actual" r.actual]

/-- The text of a report. -/
def message (r : BugReport) : String := Text.join "\n" r.lines

/-- A cell in a report file. -/
def cellJson : Option String → Json
  | none => .null
  | some s => .text s

/-- Rows in a report file. -/
def rowsJson (rows : List Row) : Json := .list (rows.map fun r => .list (r.map cellJson))

/-- The content of a report file. -/
def json (r : BugReport) : Json :=
  .object
    [("seed", .int r.seed.toNat), ("query", .text r.query), ("fetch_query", .text r.fetchQuery),
      ("predicates", .list (r.predicates.map .text)), ("combined_predicate", .text r.compound),
      ("expected", rowsJson r.expected), ("actual", rowsJson r.actual),
      ("mismatch", .text r.mismatch)]

end BugReport

/-! ## Interruptions -/

/-- What ends a check before its time. -/
inductive Interruption where
  | inconclusive (reason : Reason)
  | logicBug (report : BugReport)
  | defect (cause : Defect)
  /-- A query was refused for a reason that is not expected. -/
  | unexpected (query message : String)
  /-- The engine failed outside of the two queries. -/
  | database (error : EngineError)
  deriving DecidableEq, Repr

namespace Interruption

/-- The wording of an interruption. -/
def message : Interruption → String
  | .inconclusive reason => "inconclusive: " ++ reason.message
  | .logicBug report => report.message
  | .defect cause => "oracle defect: " ++ cause.message
  | .unexpected query message => "unexpected error for query `" ++ query ++ "`: " ++ message
  | .database error => "database error: " ++ error.message

/-- Whether the run must stop: for everything but the lack of a verdict. -/
def isFatal : Interruption → Bool
  | .inconclusive _ => false
  | _ => true

end Interruption
end PredicateOracle
