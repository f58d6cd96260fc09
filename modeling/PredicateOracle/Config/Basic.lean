import PredicateOracle.Check.Oracle
import PredicateOracle.File.Path
import PredicateOracle.Generate.Statement
import PredicateOracle.Number.Layout

/-!
# PredicateOracle.Config.Basic -- the configuration of a run

Five sections: what checks, generated expressions and databases look like, how a run is scheduled,
and where databases are kept. `Configuration.validate` accepts exactly what a run can honour, and
names the first setting that it cannot.
-/

namespace PredicateOracle

/-- How a run is scheduled. -/
structure RunOptions where
  /-- The seed of the run; a random one if there is none. -/
  seed : Option Nat
  workers : Nat
  checksPerWorker : Nat
  /-- After so many checks a worker makes a new database; never if it is zero. -/
  checksPerDatabase : Nat
  timeoutSeconds : Option Nat
  /-- Where bug reports are written. -/
  reportDirectory : Option String
  deriving DecidableEq, Repr

/-- One worker, a thousand checks, a new database for every hundred. -/
def RunOptions.standard : RunOptions := ⟨none, 1, 1000, 100, none, none⟩

/-- The settings of a run. -/
structure Configuration where
  oracle : Check.Options
  generator : Generate.Options
  workload : Generate.Workload
  run : RunOptions
  /-- The file of the database; in memory if there is none. -/
  databasePath : Option String

/-- A setting that no run can honour. -/
inductive InvalidSetting where
  | probability (key : String) (value : Float)
  | noPredicates
  | noModes
  | noWorkers
  deriving DecidableEq

/-- The wording of the complaint. -/
def InvalidSetting.message : InvalidSetting → String
  | .probability key value =>
    key ++ " must be within [0, 1], got " ++ Number.Layout.plain.double value
  | .noPredicates => "oracle.num_predicates must be at least 1"
  | .noModes => "oracle.modes must name at least one mode"
  | .noWorkers => "run.workers must be at least 1"

namespace Configuration

/-- The settings that hold where nothing else is said. -/
def standard : Configuration := ⟨.standard, .standard, .standard, .standard, none⟩

/-- The probabilities among the settings, with their names. -/
def probabilities (c : Configuration) : List (String × Float) :=
  [("oracle.leaf_probability", c.oracle.compound.leafProbability),
    ("oracle.join_probability", c.oracle.joinProbability),
    ("oracle.ordered_probability", c.oracle.orderedProbability),
    ("oracle.release_statements_probability", c.oracle.releaseProbability),
    ("generator.null_probability", c.generator.nullProbability)]

/-- The first setting that no run can honour, if there is one. -/
def invalid? (c : Configuration) : Option InvalidSetting :=
  match c.probabilities.find? fun (_, p) => !(Number.Binary.ofFloat p).isProbability with
  | some (key, value) => some (.probability key value)
  | none =>
    if c.oracle.predicates = 0 then some .noPredicates
    else if c.oracle.modes.isEmpty then some .noModes
    else if c.run.workers = 0 then some .noWorkers
    else none

/-- Accepts a configuration that a run can honour. -/
def validate (c : Configuration) : Except InvalidSetting Unit :=
  match c.invalid? with
  | some i => .error i
  | none => .ok ()

/-- The configuration with relative paths taken from a base directory. -/
def resolvePaths (c : Configuration) (base : String) : Configuration :=
  { c with
    run := { c.run with reportDirectory := c.run.reportDirectory.map (Path.join base) }
    databasePath := c.databasePath.map (Path.join base) }

end Configuration
end PredicateOracle
