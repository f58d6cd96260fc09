import PredicateOracle.Engine.Allowlist
import PredicateOracle.Engine.Connection

/-!
# PredicateOracle.Engine.Script -- an engine that follows a script

A scripted engine interprets no SQL. It gives prepared answers in turn, fails where a rule says so,
and keeps a log of what reached it. It stands in for an engine wherever a session is to be replayed:
below a client as a connection, or in place of a client.
-/

namespace PredicateOracle

namespace Script

/-- Makes requests that contain a text fail, from some hit on and for so many hits. -/
structure Rule where
  contains : String
  error : String
  after : Nat
  /-- How many hits fail; `none` for all. -/
  times : Option Nat
  deriving DecidableEq, Repr

/-- A row that is returned, or the failure to read it. -/
abbrev ScriptedRow := Answer (List Cell)

/-- A prepared answer to a query. -/
inductive Reply where
  | rows (rows : List ScriptedRow)
  | error (message : String)
  /-- No result at all. -/
  | nothing

end Script

/-- What a scripted engine does. -/
structure Script where
  queries : List Script.Reply
  rules : List Script.Rule
  affected : List Nat
  schemaError : Option String
  releaseError : Option String
  /-- The rows of the catalog of columns. -/
  columns : List Script.ScriptedRow
  /-- The rows of the catalog of tables. -/
  relations : List Script.ScriptedRow
  relationsError : Option String
  openError : Option String

namespace Script

/-- The script without any answers. -/
def empty : Script := ⟨[], [], [], none, none, [], [], none, none⟩

/-- A scripted engine at some point of its script. -/
structure State where
  script : Script
  /-- The answers that are left. -/
  queries : List Reply
  /-- The rules with their hits so far. -/
  rules : List (Rule × Nat)
  affected : List Nat
  log : Array String

/-- The beginning of a script. -/
def start (s : Script) : State := ⟨s, s.queries, s.rules.map (·, 0), s.affected, #[]⟩

/-- Writes a line into the log. -/
def note (line : String) : StateM State Unit :=
  modify fun s => { s with log := s.log.push line }

/-! ## Rules -/

/-- Whether a rule lets its `hits`-th hit fail. -/
def Rule.fails (r : Rule) (hits : Nat) : Bool :=
  r.after < hits && r.times.all fun n => hits ≤ r.after + n

/-- Whether a request contains a text. -/
def mentions (sql text : String) : Bool := Allowlist.occursIn text.toList sql.toList

/-- The first rule that lets a request fail. Rules behind it do not see the request. -/
def applyRules (sql : String) : List (Rule × Nat) → Option String × List (Rule × Nat)
  | [] => (none, [])
  | (r, hits) :: rest =>
    if mentions sql r.contains then
      if r.fails (hits + 1) then (some r.error, (r, hits + 1) :: rest)
      else let (e, rest) := applyRules sql rest; (e, (r, hits + 1) :: rest)
    else let (e, rest) := applyRules sql rest; (e, (r, hits) :: rest)

/-- Lets the rules look at a request. -/
def checkRules (sql : String) : StateM State (Option String) := do
  let s ← get
  let (e, rules) := applyRules sql s.rules
  set { s with rules }
  return e

/-! ## Requests -/

/-- The next prepared answer; no rows if there is none left. -/
def nextReply : StateM State Reply := do
  let s ← get
  match s.queries with
  | [] => return .rows []
  | r :: rest =>
    set { s with queries := rest }
    return r

/-- The answer to a query that is not about the catalog. -/
def replyTo (sql : String) : StateM State Reply := do
  match ← checkRules sql with
  | some e => return .error e
  | none => nextReply

/-- Runs a statement. -/
def runStatement (sql : String) : StateM State (Answer Nat) := do
  note ("execute " ++ sql)
  match ← checkRules sql with
  | some e => return .error ⟨e⟩
  | none =>
    let s ← get
    match s.affected with
    | [] => return .ok 0
    | n :: rest =>
      set { s with affected := rest }
      return .ok n

/-- The answer unless an error is prepared in its place. -/
def unlessError {α : Type} (e : Option String) (a : α) : Answer α :=
  match e with
  | some e => .error ⟨e⟩
  | none => .ok a

/-! ## As a connection -/

/-- Runs a query on the connection. -/
def runConnectionQuery (sql : String) : StateM State (Answer (List ScriptedRow)) := do
  note ("query " ++ sql)
  let s ← get
  if mentions sql "information_schema.columns" then
    return unlessError s.script.schemaError s.script.columns
  else if mentions sql "information_schema.tables" then
    return unlessError s.script.relationsError s.script.relations
  else
    match ← replyTo sql with
    | .rows rows => return .ok rows
    | .error e => return .error ⟨e⟩
    | .nothing => return .ok []

/-- The scripted engine as a connection. -/
def connection : Connection State where
  query := runConnectionQuery
  execute := runStatement
  flush := note "flush"

/-- Opens a connection. -/
def connect (s : Script) (path : Option String) : Answer State :=
  match s.openError with
  | some e => .error (Connection.openError path e)
  | none => .ok s.start

/-! ## As a client -/

/-- Runs a query on the client. -/
def runClientQuery (sql : String) : StateM State (Answer (Option (List Row))) := do
  note ("query " ++ sql)
  match ← replyTo sql with
  | .rows rows =>
    return (Connection.readRows (fun cells => .ok (cells.map Cell.text?)) rows).map some
  | .error e => return .error ⟨e⟩
  | .nothing => return .ok none

/-- The scripted engine as a client over a database with the given tables. -/
def client (schema : Sql.Schema) : Client State where
  query := runClientQuery
  execute := runStatement
  release := do
    note "release"
    return unlessError (← get).script.releaseError ()
  readSchema := do
    note "read_schema"
    return unlessError (← get).script.schemaError schema

end Script
end PredicateOracle
