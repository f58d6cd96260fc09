import PredicateOracle.Engine.Row
import PredicateOracle.Sql.Schema

/-!
# PredicateOracle.Engine.Client -- an engine seen from outside

An engine is anything that answers requests: it is a state and, for each kind of request, a function
from the state to an answer and the next state. Nothing is assumed about the answers. A client can be
watched (`Client.recorded`): the recording client answers like the other one and keeps the requests
with their answers, in the order in which they were made.
-/

namespace PredicateOracle

/-- What an engine says when it refuses a request. -/
structure EngineError where
  message : String
  deriving DecidableEq, Repr

/-- The answer to a request: a value or a refusal. -/
abbrev Answer (α : Type) := Except EngineError α

/-- An engine with states of type `σ`. -/
structure Client (σ : Type) where
  /-- Runs a query. An engine may also return no result at all. -/
  query : String → StateM σ (Answer (Option (List Row)))
  /-- Runs a statement and tells how many rows it affected. -/
  execute : String → StateM σ (Answer Nat)
  /-- Frees the prepared statements that the engine keeps. -/
  release : StateM σ (Answer Unit)
  /-- Reads the tables of the database. -/
  readSchema : StateM σ (Answer Sql.Schema)

/-- A request to an engine. -/
inductive Call where
  | query (sql : String)
  | execute (sql : String)
  | release
  | readSchema
  deriving DecidableEq, Repr

/-- How a request is shown in a log. -/
def Call.text : Call → String
  | .query sql => "query " ++ sql
  | .execute sql => "execute " ++ sql
  | .release => "release"
  | .readSchema => "read_schema"

/-- A request together with its answer. -/
inductive Exchange where
  | query (sql : String) (answer : Answer (Option (List Row)))
  | execute (sql : String) (answer : Answer Nat)
  | release (answer : Answer Unit)
  | readSchema (answer : Answer Sql.Schema)

/-- The request of an exchange. -/
def Exchange.call : Exchange → Call
  | .query sql _ => .query sql
  | .execute sql _ => .execute sql
  | .release _ => .release
  | .readSchema _ => .readSchema

namespace Client

variable {σ : Type}

/-- Makes a request and writes it down with its answer. -/
def record {α : Type} (exchange : α → Exchange) (request : StateM σ α) :
    StateM (σ × List Exchange) α :=
  fun (s, log) => let (a, s) := Id.run (request.run s); (a, s, log ++ [exchange a])

/-- The client that also keeps what was said, in order. -/
def recorded (c : Client σ) : Client (σ × List Exchange) where
  query sql := record (.query sql) (c.query sql)
  execute sql := record (.execute sql) (c.execute sql)
  release := record .release c.release
  readSchema := record .readSchema c.readSchema

end Client
end PredicateOracle
