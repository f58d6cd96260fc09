import PredicateOracle.Config.Layer
import PredicateOracle.File.Disk

/-!
# PredicateOracle.Config.Sources -- where a configuration comes from

From the lowest to the highest the layers of a configuration are the defaults, the file of the user,
the file of the project, the personal file of the project, a file that is asked for explicitly, and
the environment. Together they are taken leniently, relative paths are taken from the directory of the
project, and what comes out must be a configuration that a run can honour.

A file that is not there is no layer; only the explicit one must exist. It is also the only one whose
faults are found before the layers are put together.
-/

namespace PredicateOracle

/-- What the layers above the defaults are made of: texts of files, and an environment. -/
structure Sources where
  user : Option String
  project : Option String
  personal : Option String
  /-- The path of the explicit file, and what came of reading it. -/
  explicit : Option (String × Except FileError String)
  environment : Environment

/-- Why there is no configuration. -/
inductive LoadError where
  /-- The explicit file cannot be read. -/
  | unreadable (path : String) (error : FileError)
  /-- The explicit file is no TOML. -/
  | unparsable (path : String)
  /-- Another file is no TOML. -/
  | build
  /-- The layers together are no configuration. -/
  | deserialize
  | invalid (setting : InvalidSetting)
  deriving DecidableEq

/-- The complaint about a setting that no run can honour. -/
def InvalidSetting.complaint (i : InvalidSetting) : String := "Invalid configuration: " ++ i.message

/-- The messages of an error, from the outermost cause inwards. -/
def LoadError.causes : LoadError → List String
  | .unreadable path error =>
    ["Failed to read config file at " ++ path ++ ": " ++ error.message, error.message]
  | .unparsable path =>
    ["Failed to parse TOML config at " ++ path ++ ": TOML parse error", "TOML parse error"]
  | .build => ["Failed to build configuration"]
  | .deserialize => ["Failed to deserialize configuration"]
  | .invalid setting => [setting.complaint]

/-! ## Loading -/

namespace Sources

/-- The layer of the explicit file. -/
def explicitLayer (s : Sources) : Except LoadError Layer :=
  match s.explicit with
  | none => .ok []
  | some (path, .error e) => .error (.unreadable path e)
  | some (path, .ok text) =>
    match Layer.ofText? text with
    | some l => .ok l
    | none => .error (.unparsable path)

/-- The layers above the defaults, the lowest first. -/
def layers (s : Sources) : Except LoadError (List Layer) := do
  let explicit ← s.explicitLayer
  match [s.user, s.project, s.personal].mapM Layer.ofFile? with
  | none => .error .build
  | some files => return files ++ [explicit, Layer.ofEnvironment s.environment]

/-- The configuration that the sources say, before it is validated. -/
def read (s : Sources) : Except LoadError Configuration := do
  match Configuration.ofSetting? .lenient (Layer.merged (← s.layers)) with
  | some c => return c
  | none => .error .deserialize

/-- The configuration that the sources say, for a project in a directory. -/
def load (s : Sources) (directory : String) : Except LoadError Configuration := do
  let c := (← s.read).resolvePaths directory
  match c.validate with
  | .ok () => return c
  | .error i => .error (.invalid i)

end Sources

/-! ## Files on a disk -/

/-- Where the files of a configuration are. -/
structure Locations where
  /-- The directory of the project. -/
  directory : String
  /-- The file of the user. -/
  user : String
  /-- The explicit file. -/
  explicit : Option String

namespace Locations

/-- The name of the file of a project. -/
def projectFile : String := "trivalent.toml"

/-- The name of the local file of a project. -/
def personalFile : String := "trivalent.local.toml"

/-- The path of a file of the project. -/
def inProject (l : Locations) (name : String) : String := Path.join l.directory name

/-- The name of the file of a user, below the directory where users keep such files. -/
def userFile : String := "trivalent/config.toml"

end Locations

namespace Disk

/-- The sources on a disk and in an environment. -/
def sources (d : Disk) (l : Locations) (environment : Environment) : Sources :=
  let cwd := place l.directory
  let file (path : String) : Option String := (d.read cwd path).toOption
  ⟨file l.user, file (l.inProject Locations.projectFile), file (l.inProject Locations.personalFile),
    l.explicit.map fun path => (path, d.read cwd path), environment⟩

end Disk
end PredicateOracle
