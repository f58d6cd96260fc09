import PredicateOracle.Config.Basic
import PredicateOracle.Engine.Connection
import PredicateOracle.Workload.Populate

/-!
# PredicateOracle.Run.Worker -- one worker of a run

A worker owns an engine, a stream and a checker. Before each check it asks whether it should stop;
before the first one, and then at fixed intervals, it makes a new database. It ends when its checks
are done, when it is told to stop, or at its first failure. What a worker does up to some check
depends on nothing but its own state, and the answers to its polls are a parameter.
-/

namespace PredicateOracle

open PredicateOracle.Random (Stream)

/-- An engine that can be emptied. -/
structure Backend (σ : Type) extends Client σ where
  /-- Drops everything in the database. -/
  reset : StateM σ (Answer Unit)

/-- A connection as an engine that can be emptied. -/
def Connection.backend {κ : Type} (c : Connection κ) : Backend κ :=
  { c.client with reset := c.reset.run }

/-! ## Failures -/

/-- Why a worker ended early. -/
inductive Failure where
  | bug (report : BugReport)
  /-- There is no mode to check in. -/
  | noModes
  /-- The engine could not be opened or emptied. -/
  | engine (error : EngineError)
  /-- The database could not be filled. -/
  | populate (worker : Nat) (error : PopulateError)
  /-- A check ended for a fatal reason other than a bug. -/
  | check (cause : Interruption)
  /-- The worker met a fault of its own. -/
  | fault (worker : Nat)
  deriving DecidableEq, Repr

namespace Failure

/-- The failure that an interruption of a check amounts to. -/
def ofInterruption : Interruption → Failure
  | .logicBug report => .bug report
  | cause => .check cause

/-- The bug, if the failure is one. -/
def bug? : Failure → Option BugReport
  | .bug report => some report
  | _ => none

/-- The messages of a failure that is no bug, from the outermost cause inwards. -/
def causes : Failure → List String
  | .bug _ => []
  | .noModes => ["no oracle modes configured"]
  | .engine error => [error.message]
  | .populate worker error =>
    ["worker " ++ toString worker ++ " failed to populate its database", error.message]
  | .check (.database error) => [(Interruption.database error).message, error.message]
  | .check cause => [cause.message]
  | .fault worker => ["worker " ++ toString worker ++ " panicked"]

/-- The outermost cause alone. -/
def headline (f : Failure) : String := (f.causes.head?).getD ""

/-- All causes on one line. -/
def message (f : Failure) : String := Text.join ": " f.causes

end Failure

/-! ## Steps -/

namespace Worker

variable {σ : Type}

/-- What a worker works on. -/
structure State (σ : Type) where
  oracle : Oracle
  world : World σ

/-- The steps of a worker. -/
abbrev Work (σ : Type) := ExceptT (Halt Failure) (StateM (State σ))

/-- Does steps on the worker's engine and stream. -/
def onWorld {ε α : Type} (t : Session ε σ α) (failed : ε → Failure) : Work σ α :=
  ExceptT.mk fun s =>
    match t.runOn s.world with
    | (.ok a, w) => (.ok a, { s with world := w })
    | (.error (.fault f), w) => (.error (.fault f), { s with world := w })
    | (.error (.raised e), w) => (.error (.raised (failed e)), { s with world := w })

/-- Makes a new database. -/
def prepare (config : Configuration) (b : Backend σ) (worker : Nat) : Work σ Unit := do
  onWorld (Session.ask b.reset id) .engine
  let _ ← onWorld (populate b.toClient config.workload config.generator) (.populate worker)

/-- Runs one check. -/
def runCheck (b : Backend σ) (mode : Mode) : Work σ Unit :=
  ExceptT.mk fun s =>
    match s.oracle.check b.toClient mode s.world with
    | (.ok _, o, w) => (.ok (), ⟨o, w⟩)
    | (.error (.fault f), o, w) => (.error (.fault f), ⟨o, w⟩)
    | (.error (.raised i), o, w) => (.error (.raised (Failure.ofInterruption i)), ⟨o, w⟩)

/-- Whether a new database is made before check number `k`. -/
def isFresh (perDatabase k : Nat) : Bool := k = 0 || (0 < perDatabase && k % perDatabase = 0)

/-- The mode of check number `k`. -/
def modeOf (modes : List Mode) (k : Nat) : Mode := (modes[k % modes.length]?).getD .plain

/-- Check number `k`, on a new database if it is time for one. -/
def turn (config : Configuration) (b : Backend σ) (worker k : Nat) : Work σ Unit := do
  if isFresh config.run.checksPerDatabase k then prepare config b worker
  runCheck b (modeOf config.oracle.modes k)

/-- Up to so many checks from number `k` on. The worker asks before each of them whether it should
stop; `stops k` is the answer before check number `k`. -/
def turns (config : Configuration) (b : Backend σ) (worker : Nat) (stops : Nat → Bool) :
    Nat → Nat → Work σ Unit
  | 0, _ => return ()
  | n + 1, k => do
    if stops k then return ()
    turn config b worker k
    turns config b worker stops n (k + 1)

/-! ## Whole runs -/

/-- What a worker reports at its end. -/
structure Report where
  worker : Nat
  /-- The seed of the worker's own stream. -/
  seed : UInt64
  stats : Stats
  failure : Option Failure
  deriving DecidableEq, Repr

/-- The state in which a worker starts. -/
def State.start (config : Configuration) (stream : Stream) (engine : σ) : State σ :=
  ⟨Oracle.new config.oracle config.generator .check, ⟨engine, stream⟩⟩

/-- The failure of a worker that ended in some way. -/
def failureOf (worker : Nat) : Except (Halt Failure) Unit → Option Failure
  | .ok () => none
  | .error (.raised f) => some f
  | .error (.fault _) => some (.fault worker)

/-- The report of a worker. One that met a fault has lost its counters. -/
def reportOf (worker : Nat) (seed : UInt64) (result : Except (Halt Failure) Unit) (stats : Stats) :
    Report :=
  match result with
  | .error (.fault _) => ⟨worker, seed, .zero, failureOf worker result⟩
  | _ => ⟨worker, seed, stats, failureOf worker result⟩

/-- Runs a worker on an engine that is open. -/
def drive (config : Configuration) (b : Backend σ) (worker : Nat) (stream : Stream)
    (stops : Nat → Bool) (engine : σ) : Report × State σ :=
  let work := turns config b worker stops config.run.checksPerWorker 0
  let (result, s) := Id.run (StateT.run (ExceptT.run work) (State.start config stream engine))
  (reportOf worker stream.seed result s.oracle.stats, s)

/-- Opens an engine and runs a worker on it; gives the engine's last state as well, if it was
opened. -/
def run (config : Configuration) (b : Backend σ) (worker : Nat) (stream : Stream)
    (stops : Nat → Bool) (engine : Answer σ) : Report × Option σ :=
  if config.oracle.modes.isEmpty then
    (⟨worker, stream.seed, .zero, some .noModes⟩, none)
  else
    match engine with
    | .error e => (⟨worker, stream.seed, .zero, some (.engine e)⟩, none)
    | .ok engine =>
      let (report, s) := drive config b worker stream stops engine
      (report, some s.world.engine)

end Worker
end PredicateOracle
