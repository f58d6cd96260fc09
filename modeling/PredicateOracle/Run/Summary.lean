import PredicateOracle.Run.Worker

/-!
# PredicateOracle.Run.Summary -- the workers of a run

Each worker has a stream derived from the seed of the run and an engine of its own. They share a
stop flag, which a worker raises when it ends with a failure. Here they take their turns one after
the other, so a worker sees the flag if one before it has failed. A worker that met a fault of its
own does not get round to raising the flag. The run itself has a fault if its deadline lies beyond
the clock, if there is no room for its workers, or if the sum of their counters is no machine word.
-/

namespace PredicateOracle

open PredicateOracle.Random (Stream)

/-- The engines of a run: how one is opened at a path or in memory, and how it is used. -/
structure Fleet (σ : Type) where
  backend : Backend σ
  connect : Option String → Answer σ

/-- What came out of a run. -/
structure Summary where
  seed : UInt64
  stats : Stats
  timedOut : Bool
  workers : List Worker.Report
  deriving DecidableEq, Repr

namespace Summary

/-- The bugs, with the workers that found them. -/
def bugs (s : Summary) : List (Worker.Report × BugReport) :=
  s.workers.filterMap fun w => (w.failure.bind Failure.bug?).map (w, ·)

/-- The failures that are no bugs, with the workers that met them. -/
def fatal (s : Summary) : List (Worker.Report × Failure) :=
  s.workers.filterMap fun w => w.failure.bind fun f => if f.bug?.isNone then some (w, f) else none

end Summary

namespace Run

variable {σ : Type}

/-- The path of a worker's database; none if databases are kept in memory. -/
def databasePath (config : Configuration) (worker : Nat) : Option String :=
  config.databasePath.map fun p => Path.withMark p ("-w" ++ toString worker) "trivalent"

/-- Whether a failure raises the stop flag. -/
def raisesFlag : Option Failure → Bool
  | none | some (.fault _) => false
  | some _ => true

/-! ## The start -/

/-- The first second that is no longer shown by a clock. -/
def clockEnd : Nat := 2 ^ (63 : Nat)

/-- The second in which the time of a run is over, if there is a limit, by a clock that shows
`started` at its start. -/
def deadline (config : Configuration) (started : Nat) : Except Fault (Option Nat) :=
  match config.run.timeoutSeconds with
  | none => .ok none
  | some seconds =>
    if started + seconds < clockEnd then .ok (some (started + seconds)) else .error .clockOverflow

/-- What a run needs before it has workers: a deadline, and room for what is kept of them. -/
def opening (config : Configuration) (started : Nat) : Except Fault Unit := do
  let _ ← deadline config started
  Record.reserve .handle config.run.workers

/-- Whether the time of a run is over before it starts. -/
def expired (config : Configuration) : Bool := config.run.timeoutSeconds = some 0

/-! ## The workers in turn -/

/-- What a worker leaves behind: its report, the path of its database and the last state of its
engine. -/
structure Remains (σ : Type) where
  report : Worker.Report
  path : Option String
  engine : Option σ

/-- Runs so many workers from number `i` on; `flag` is the stop flag before the first of them. -/
def workersFrom (config : Configuration) (f : Fleet σ) (master : Stream) :
    Nat → Nat → Bool → List (Remains σ)
  | 0, _, _ => []
  | n + 1, i, flag =>
    let path := databasePath config i
    let stream := master.fork (UInt64.ofNat i)
    let (report, engine) :=
      Worker.run config f.backend i stream (fun _ => flag || expired config) (f.connect path)
    ⟨report, path, engine⟩
      :: workersFrom config f master n (i + 1) (flag || raisesFlag report.failure)

/-! ## The end -/

/-- The counters of all workers together, as machine words. -/
def totalStats (reports : List Worker.Report) : Except Fault Stats :=
  reports.foldlM (fun s r => s.mergeWords r.stats) .zero

/-- The summary of the workers' reports, which are first put in one list. -/
def summarize (seed : UInt64) (timedOut : Bool) (reports : List Worker.Report) :
    Except Fault Summary := do
  Record.reserve .report reports.length
  return ⟨seed, ← totalStats reports, timedOut, reports⟩

/-- Runs all workers of a configuration; a clock shows `started` at the start. -/
def run (config : Configuration) (f : Fleet σ) (started : Nat) (seed : UInt64) :
    Except Fault (Summary × List (Remains σ)) := do
  opening config started
  let remains := workersFrom config f (Stream.ofSeed seed) config.run.workers 0 false
  return (← summarize seed (expired config) (remains.map (·.report)), remains)

end Run
end PredicateOracle
