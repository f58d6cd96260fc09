import PredicateOracle.CommandLine.Page
import PredicateOracle.CommandLine.Transcript
import PredicateOracle.Config.Sources
import PredicateOracle.Run.Summary

/-!
# PredicateOracle.CommandLine.Program -- from arguments to an ending

A run has three phases. `RunFlags.prepare` puts the configuration together: the layers are loaded,
and the options of the command line are laid over them. `Run.run` does the work. `runEnding` says
what came out of it. Options win over every layer, but the layers must be sound without them too.
-/

namespace PredicateOracle.CommandLine

/-! ## The configuration of a run -/

/-- A configuration with the options of the command line laid over it. -/
def RunFlags.apply (f : RunFlags) (c : Configuration) : Configuration :=
  { c with
    run :=
      { c.run with
        seed := f.seed.or c.run.seed
        workers := f.workers.getD c.run.workers
        checksPerWorker := f.checks.getD c.run.checksPerWorker
        timeoutSeconds := f.timeoutSeconds.or c.run.timeoutSeconds
        reportDirectory := f.reportDirectory.or c.run.reportDirectory }
    oracle := { c.oracle with modes := if f.modes.isEmpty then c.oracle.modes else f.modes }
    databasePath := f.database.or c.databasePath }

/-- The causes of a failure to load a configuration. -/
def loadCauses (e : LoadError) : List String := "Failed to load configuration" :: e.causes

/-- Loads the configuration of a project in a directory; the error is a list of causes. -/
def loadConfig (s : Sources) (directory : String) : Except (List String) Configuration :=
  (s.load directory).mapError loadCauses

/-- The configuration of a run. -/
def RunFlags.prepare (f : RunFlags) (s : Sources) (directory : String) :
    Except (List String) Configuration := do
  let c := f.apply (← loadConfig s directory)
  match c.validate with
  | .ok () => return c
  | .error i => .error [i.complaint]

/-- The seed of a run; `fresh` if none is set. -/
def seedOf (c : Configuration) (fresh : UInt64) : UInt64 :=
  match c.run.seed with
  | some n => UInt64.ofNat n
  | none => fresh

/-! ## What came out of a run -/

/-- The line printed before a run. -/
def openingLine (plain : Bool) (c : Configuration) (seed : UInt64) : String :=
  "Running " ++ paint plain .header (toString c.run.workers) ++ " worker(s) x "
    ++ paint plain .header (toString c.run.checksPerWorker) ++ " checks (seed: "
    ++ paint plain .code (toString seed.toNat) ++ ")..."

/-- How long a run took, in seconds with two places. -/
def elapsedText (milliseconds : Nat) : String :=
  let hundredths := (milliseconds + 5) / 10
  let places := hundredths % 100
  toString (hundredths / 100) ++ "." ++ (if places < 10 then "0" else "") ++ toString places ++ "s"

/-- The lines about the counters of a run that took some time. -/
def summaryLines (plain : Bool) (s : Summary) (elapsed : String) : List String :=
  [""]
    ++ (if s.stats.bugs = 0 && s.fatal.isEmpty then
        [successLine plain (toString s.stats.checks ++ " checks, no logic bugs found")]
      else [])
    ++ [labeled plain "Checks" (toString s.stats.checks),
      labeled plain "Passed" (paint plain .success (toString s.stats.passed)),
      labeled plain "Inconclusive" (toString s.stats.inconclusive),
      labeled plain "Bugs" (toString s.stats.bugs), labeled plain "Time" elapsed]
    ++ (if s.timedOut then ["  " ++ paint plain .warning "stopped by timeout"] else [])

/-- The command that repeats a run. -/
def reproduction (s : Summary) : String :=
  programName ++ " run --seed " ++ toString s.seed.toNat ++ " --workers "
    ++ toString s.workers.length

/-- The lines about a bug. -/
def bugLines (plain : Bool) (s : Summary) (w : Worker.Report) (b : BugReport) : List String :=
  ["", errorLine plain
      (paint plain .error ("Logic bug found by worker " ++ toString w.worker)), b.message, "",
    paint plain .warning "Reproduce with:", "  " ++ paint plain .code (reproduction s)]

/-- The name of the file with a bug report. -/
def reportName (s : Summary) (w : Worker.Report) : String :=
  "bug-" ++ toString s.seed.toNat ++ "-w" ++ toString w.worker ++ ".json"

/-- What is done about a bug: it is shown, and its report is stored if there is a place for it. -/
def bugActions (plain : Bool) (c : Configuration) (s : Summary) (w : Worker.Report)
    (b : BugReport) : List Action :=
  (bugLines plain s w b).map .say
    ++ match c.run.reportDirectory with
      | none => []
      | some directory =>
        [.store directory (reportName s w) b.json.pretty,
          .say (labeled plain "Report" (Path.join directory (reportName s w)))]

/-- What is done about a failure that is no bug. -/
def fatalAction (plain : Bool) (w : Worker.Report) (f : Failure) : Action :=
  .complain (errorLine plain ("worker " ++ toString w.worker ++ " failed: " ++ f.message))

/-- The exit code of a run: a failure that is no bug outweighs a bug. -/
def exitCode (s : Summary) : Nat :=
  if !s.fatal.isEmpty then exitFatal else if !s.bugs.isEmpty then exitBug else 0

/-- What is done after a run. -/
def runEnding (plain : Bool) (c : Configuration) (s : Summary) (elapsed : String) : Ending :=
  ⟨(summaryLines plain s elapsed).map .say
      ++ s.bugs.flatMap (fun (w, b) => bugActions plain c s w b)
      ++ s.fatal.map (fun (w, f) => fatalAction plain w f),
    exitCode s⟩

/-- What is done after a run, or after the fault that ended it. -/
def resultEnding (plain : Bool) (c : Configuration) (result : Except Fault Summary)
    (elapsed : String) : Ending :=
  match result with
  | .error f => .fault f
  | .ok s => runEnding plain c s elapsed

/-! ## Whole programs -/

/-- What a program finds around itself, besides its arguments and files. -/
structure Surroundings (σ : Type) where
  /-- The working directory, which is that of the project. -/
  directory : String
  environment : Environment
  fleet : Fleet σ
  /-- The seed of a run that has none of its own. -/
  fresh : UInt64
  /-- What the clock shows, in seconds. -/
  started : Nat

/-- Whether colours are switched off by the environment. -/
def wantsPlain (environment : Environment) : Bool := environment.any (·.1 = "NO_COLOR")

/-- Whether a command does without colours. -/
def Invocation.isPlain (i : Invocation) (environment : Environment) : Bool :=
  i.plain || wantsPlain environment

/-- A line printed before everything else. -/
def Ending.after (line : String) (e : Ending) : Ending :=
  { e with actions := .say line :: e.actions }

/-- A whole run. -/
def runCommand {σ : Type} (plain : Bool) (f : RunFlags) (s : Sources) (around : Surroundings σ)
    (elapsed : String) : Ending :=
  match f.prepare s around.directory with
  | .error causes => .failure plain causes
  | .ok c =>
    let seed := seedOf c around.fresh
    let result := (Run.run c around.fleet around.started seed).map Prod.fst
    (resultEnding plain c result elapsed).after (openingLine plain c seed)

/-- A whole command. -/
def Command.ending {σ : Type} (plain : Bool) (s : Sources) (around : Surroundings σ)
    (elapsed : String) : Command → Ending
  | .version => .lines versionPage
  | .showConfig _ form =>
    match loadConfig s around.directory with
    | .error causes => .failure plain causes
    | .ok c => .lines (configLines plain c form)
  | .run f => runCommand plain f s around elapsed

/-- What is done when there is no command to be carried out. -/
def Stop.ending : Stop → Ending
  | .usage => ⟨[], exitFatal⟩
  | .help => .lines helpPage
  | .version names => .lines [versionLine names]

/-- A whole program on a disk in memory, whose user keeps a file at a path. -/
def programOn {σ : Type} (d : Disk) (user : String) (around : Surroundings σ) (elapsed : String)
    (args : List String) : Trace :=
  let cwd := Disk.place around.directory
  match Invocation.ofArguments args with
  | .error stop =>
    let e := stop.ending
    performOn true cwd d e.exit e.actions
  | .ok i =>
    let plain := i.isPlain around.environment
    let sources := d.sources ⟨around.directory, user, i.command.config?⟩ around.environment
    let e := i.command.ending plain sources around elapsed
    performOn plain cwd d e.exit e.actions

end PredicateOracle.CommandLine
