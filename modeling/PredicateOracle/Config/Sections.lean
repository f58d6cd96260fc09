import PredicateOracle.Config.Basic
import PredicateOracle.Setting.Conversion

/-!
# PredicateOracle.Config.Sections -- configurations as settings

A configuration is a table of five sections, each a table of its own. `Configuration.toSetting` says
everything that a configuration says, options that are not set as `null`. `Configuration.ofSetting?`
takes a setting for a configuration by some conversion: keys that are missing have their defaults,
keys that no section has are passed over, and a value that cannot be taken is refused.
-/

namespace PredicateOracle

/-! ## Keys -/

namespace Section

/-- The names of the sections. -/
def names : List String := ["oracle", "generator", "workload", "run", "database"]

/-- The keys of the section about checks. -/
def oracleKeys : List String :=
  ["num_predicates", "max_depth", "leaf_probability", "leaf_selection", "max_tables",
    "join_probability", "ordered_probability", "release_statements_probability", "modes"]

/-- The keys of the section about generated expressions. -/
def generatorKeys : List String :=
  ["max_expression_depth", "logic_in_predicates", "null_probability"]

/-- The keys of the section about generated databases. -/
def workloadKeys : List String :=
  ["max_tables", "max_columns", "max_inserts", "max_updates", "max_deletes", "max_indexes",
    "max_views", "test_indexes", "test_not_null"]

/-- The keys of the section about runs. -/
def runKeys : List String :=
  ["seed", "workers", "checks_per_worker", "checks_per_database", "timeout_secs", "report_dir"]

/-- The keys of the section about the database. -/
def databaseKeys : List String := ["path"]

/-! ## Taking values -/

/-- The value under a key, or the default if there is none. -/
def value? {α : Type} (es : Entries Setting) (key : String) (standard : α)
    (take? : Setting → Option α) : Option α :=
  match Entries.find? key es with
  | some s => take? s
  | none => some standard

/-- Takes a value that may be left out. -/
def optional? {α : Type} (take? : Setting → Option α) : Setting → Option (Option α)
  | .null => some none
  | s => (take? s).map some

/-- Takes a list of values. -/
def list? {α : Type} (take? : Setting → Option α) : Setting → Option (List α)
  | .list vs => vs.mapM take?
  | _ => none

end Section

/-- The name of a way to choose. -/
def Selection.name : Selection → String
  | .byPattern => "by-pattern"
  | .uniform => "uniform"

/-- The way to choose with exactly this name. -/
def Selection.ofName? : String → Option Selection
  | "by-pattern" => some .byPattern
  | "uniform" => some .uniform
  | _ => none

theorem Selection.ofName?_name (s : Selection) : ofName? s.name = some s := by cases s <;> rfl

open Section in
/-- The options of checks that a section sets. -/
def Check.Options.ofSetting? (c : Conversion) (s : Setting) : Option Check.Options := do
  let es ← c.entries? oracleKeys s
  let d := Check.Options.standard
  let predicates ← value? es "num_predicates" d.predicates c.size?
  let maxDepth ← value? es "max_depth" d.compound.maxDepth c.size?
  let leafProbability ← value? es "leaf_probability" d.compound.leafProbability c.number?
  let selection ← value? es "leaf_selection" d.compound.selection
    fun s => c.choice? s >>= Selection.ofName?
  let maxTables ← value? es "max_tables" d.maxTables c.size?
  let joinProbability ← value? es "join_probability" d.joinProbability c.number?
  let orderedProbability ← value? es "ordered_probability" d.orderedProbability c.number?
  let releaseProbability ←
    value? es "release_statements_probability" d.releaseProbability c.number?
  let modes ← value? es "modes" d.modes (list? fun s => c.choice? s >>= Mode.ofName?)
  return ⟨predicates, ⟨maxDepth, leafProbability, selection⟩, maxTables, joinProbability,
    orderedProbability, releaseProbability, modes⟩

open Section in
/-- The options of generated expressions that a section sets. -/
def Generate.Options.ofSetting? (c : Conversion) (s : Setting) : Option Generate.Options := do
  let es ← c.entries? generatorKeys s
  let d := Generate.Options.standard
  let maxDepth ← value? es "max_expression_depth" d.maxDepth c.size?
  let logic ← value? es "logic_in_predicates" d.logic c.flag?
  let nullProbability ← value? es "null_probability" d.nullProbability c.number?
  return ⟨maxDepth, logic, nullProbability⟩

open Section in
/-- The options of generated databases that a section sets. -/
def Generate.Workload.ofSetting? (c : Conversion) (s : Setting) : Option Generate.Workload := do
  let es ← c.entries? workloadKeys s
  let d := Generate.Workload.standard
  let maxTables ← value? es "max_tables" d.maxTables c.size?
  let maxColumns ← value? es "max_columns" d.maxColumns c.size?
  let maxInserts ← value? es "max_inserts" d.maxInserts c.size?
  let maxUpdates ← value? es "max_updates" d.maxUpdates c.size?
  let maxDeletes ← value? es "max_deletes" d.maxDeletes c.size?
  let maxIndexes ← value? es "max_indexes" d.maxIndexes c.size?
  let maxViews ← value? es "max_views" d.maxViews c.size?
  let indexes ← value? es "test_indexes" d.indexes c.flag?
  let notNull ← value? es "test_not_null" d.notNull c.flag?
  return ⟨maxTables, maxColumns, maxInserts, maxUpdates, maxDeletes, maxIndexes, maxViews, indexes,
    notNull⟩

open Section in
/-- The options of a run that a section sets. -/
def RunOptions.ofSetting? (c : Conversion) (s : Setting) : Option RunOptions := do
  let es ← c.entries? runKeys s
  let d := RunOptions.standard
  let seed ← value? es "seed" d.seed (optional? c.size?)
  let workers ← value? es "workers" d.workers c.size?
  let checksPerWorker ← value? es "checks_per_worker" d.checksPerWorker c.size?
  let checksPerDatabase ← value? es "checks_per_database" d.checksPerDatabase c.size?
  let timeoutSeconds ← value? es "timeout_secs" d.timeoutSeconds (optional? c.size?)
  let reportDirectory ← value? es "report_dir" d.reportDirectory (optional? c.text?)
  return ⟨seed, workers, checksPerWorker, checksPerDatabase, timeoutSeconds, reportDirectory⟩

open Section in
/-- The path that the section about the database sets. -/
def Configuration.databasePathOf? (c : Conversion) (s : Setting) : Option (Option String) := do
  let es ← c.entries? databaseKeys s
  value? es "path" none (optional? c.text?)

namespace Configuration

open Section in
/-- The configuration that a setting is. -/
def ofSetting? (c : Conversion) (s : Setting) : Option Configuration := do
  let es ← c.entries? Section.names s
  let d := Configuration.standard
  let oracle ← value? es "oracle" d.oracle (Check.Options.ofSetting? c)
  let generator ← value? es "generator" d.generator (Generate.Options.ofSetting? c)
  let workload ← value? es "workload" d.workload (Generate.Workload.ofSetting? c)
  let run ← value? es "run" d.run (RunOptions.ofSetting? c)
  let databasePath ← value? es "database" d.databasePath (databasePathOf? c)
  return ⟨oracle, generator, workload, run, databasePath⟩

/-! ## Saying everything -/

/-- A size as a setting. -/
def size (n : Nat) : Setting := .int n

/-- A value that may be left out as a setting. -/
def optional {α : Type} (f : α → Setting) : Option α → Setting
  | some a => f a
  | none => .null

/-- The section about checks. -/
def oracleSection (o : Check.Options) : Setting :=
  .table
    [("num_predicates", size o.predicates), ("max_depth", size o.compound.maxDepth),
      ("leaf_probability", .float o.compound.leafProbability),
      ("leaf_selection", .text o.compound.selection.name), ("max_tables", size o.maxTables),
      ("join_probability", .float o.joinProbability),
      ("ordered_probability", .float o.orderedProbability),
      ("release_statements_probability", .float o.releaseProbability),
      ("modes", .list (o.modes.map fun m => .text m.name))]

/-- The section about generated expressions. -/
def generatorSection (o : Generate.Options) : Setting :=
  .table
    [("max_expression_depth", size o.maxDepth), ("logic_in_predicates", .bool o.logic),
      ("null_probability", .float o.nullProbability)]

/-- The section about generated databases. -/
def workloadSection (w : Generate.Workload) : Setting :=
  .table
    [("max_tables", size w.maxTables), ("max_columns", size w.maxColumns),
      ("max_inserts", size w.maxInserts), ("max_updates", size w.maxUpdates),
      ("max_deletes", size w.maxDeletes), ("max_indexes", size w.maxIndexes),
      ("max_views", size w.maxViews), ("test_indexes", .bool w.indexes),
      ("test_not_null", .bool w.notNull)]

/-- The section about runs. -/
def runSection (r : RunOptions) : Setting :=
  .table
    [("seed", optional size r.seed), ("workers", size r.workers),
      ("checks_per_worker", size r.checksPerWorker),
      ("checks_per_database", size r.checksPerDatabase),
      ("timeout_secs", optional size r.timeoutSeconds),
      ("report_dir", optional .text r.reportDirectory)]

/-- The section about the database. -/
def databaseSection (path : Option String) : Setting := .table [("path", optional .text path)]

/-- Everything that a configuration says. -/
def toSetting (c : Configuration) : Setting :=
  .table
    [("oracle", oracleSection c.oracle), ("generator", generatorSection c.generator),
      ("workload", workloadSection c.workload), ("run", runSection c.run),
      ("database", databaseSection c.databasePath)]

end Configuration
end PredicateOracle
