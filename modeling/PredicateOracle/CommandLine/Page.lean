import PredicateOracle.CommandLine.Arguments
import PredicateOracle.CommandLine.Style
import PredicateOracle.Config.Sections
import PredicateOracle.Toml.Printer

/-!
# PredicateOracle.CommandLine.Page -- what is shown and not run

The version, the help and the configuration as texts. The configuration is shown in one of three
forms: as a page for readers, or as a TOML or JSON document that says everything.
-/

namespace PredicateOracle.CommandLine

/-- The number of this version. -/
def versionNumber : String := "0.3.0"

/-- The name of the program. -/
def programName : String := "trivalent"

/-- What a command with these names says about its version. -/
def versionLine (names : List String) : String := Text.join "-" names ++ " " ++ versionNumber

/-- The page about the version. -/
def versionPage : List String :=
  [programName ++ " " ++ versionNumber, "", "Predicate-combining logic-bug finder for SQL engines.",
    "", "Build info:", "  Backend:      DuckDB", "  Target:       x86_64", "  OS:           linux"]

/-- The page about the commands and their options. -/
def helpPage : List String :=
  ["Usage: " ++ programName ++ " [--no-color] <COMMAND>", "",
    "Commands:",
    "  version      Show version information",
    "  run          Populate databases and check them for logic bugs",
    "  config show  Show the effective configuration", "",
    "Options of run:",
    "  -c, --config <FILE>        Configuration file layered over trivalent.toml",
    "  -s, --seed <SEED>          Master seed; random when omitted",
    "  -w, --workers <WORKERS>    Number of workers",
    "  -n, --checks <CHECKS>      Checks per worker",
    "  -m, --mode <MODE>          Oracle mode (where, distinct); may be repeated",
    "      --database <PATH>      Database file; in memory when omitted",
    "      --timeout-secs <SECS>  Stop all workers after this many seconds",
    "      --report-dir <DIR>     Directory for JSON bug reports",
    "      --log-level <LEVEL>    Log filter", "",
    "Options of config show:",
    "  -c, --config <FILE>        Configuration file layered over trivalent.toml",
    "  -f, --format <FORMAT>      Output format (text, toml, json)"]

/-! ## The configuration -/

/-- A probability on the page. -/
def number (x : Float) : String := Number.Layout.plain.double x

/-- A value that may be left out on the page. -/
def optional {α : Type} (text : α → String) (missing : String) : Option α → String
  | some a => text a
  | none => missing

/-- The name of a way to choose on the page. -/
def selectionName : Selection → String
  | .byPattern => "ByPattern"
  | .uniform => "Uniform"

/-- The part about checks. -/
def oraclePart (o : Check.Options) : List (String × String) :=
  [("Modes", Text.join ", " (o.modes.map Mode.name)),
    ("Predicates per check", toString o.predicates), ("Max depth", toString o.compound.maxDepth),
    ("Leaf probability", number o.compound.leafProbability),
    ("Leaf selection", selectionName o.compound.selection), ("Max tables", toString o.maxTables),
    ("Join probability", number o.joinProbability),
    ("Ordered probability", number o.orderedProbability)]

/-- The part about generated expressions. -/
def generatorPart (o : Generate.Options) : List (String × String) :=
  [("Max expression depth", toString o.maxDepth), ("Logic in predicates", toString o.logic),
    ("NULL probability", number o.nullProbability)]

/-- The part about generated databases. -/
def workloadPart (w : Generate.Workload) : List (String × String) :=
  [("Max tables", toString w.maxTables), ("Max columns", toString w.maxColumns),
    ("Max inserts", toString w.maxInserts), ("Max views", toString w.maxViews),
    ("Indexes", toString w.indexes), ("NOT NULL", toString w.notNull)]

/-- The part about runs. -/
def runPart (r : RunOptions) : List (String × String) :=
  [("Seed", optional toString "-" r.seed), ("Workers", toString r.workers),
    ("Checks per worker", toString r.checksPerWorker),
    ("Checks per database", toString r.checksPerDatabase),
    ("Timeout (s)", optional toString "-" r.timeoutSeconds),
    ("Report directory", optional id "-" r.reportDirectory)]

/-- The part about the database. -/
def databasePart (path : Option String) : List (String × String) :=
  [("Path", optional id "in-memory" path)]

/-- The lines of a part, with an empty one before them. -/
def partLines (plain : Bool) (title : String) (entries : List (String × String)) : List String :=
  "" :: (title ++ ":") :: entries.map fun (name, value) => labeled plain name value

/-- The page about a configuration. -/
def configPage (plain : Bool) (c : Configuration) : List String :=
  paint plain .header "Trivalent Configuration" :: partLines plain "Oracle" (oraclePart c.oracle)
    ++ partLines plain "Generator" (generatorPart c.generator)
    ++ partLines plain "Workload" (workloadPart c.workload)
    ++ partLines plain "Run" (runPart c.run)
    ++ partLines plain "Database" (databasePart c.databasePath)

/-- A configuration in some form. -/
def configLines (plain : Bool) (c : Configuration) : Form → List String
  | .text => configPage plain c
  | .toml => [Toml.print c.toSetting]
  | .json => [c.toSetting.json.pretty]

end PredicateOracle.CommandLine
