import PredicateOracle.Check.Mode
import PredicateOracle.Number.Reader

/-!
# PredicateOracle.CommandLine.Arguments -- what is asked for on the command line

There are three commands: `version`, `config show` and `run`. Each has options of its own, and all
have `--no-color`, `--help` and `--version`. An option with a value takes it from the same argument,
behind an equals sign or, for a short name, directly; or else from the next argument, unless that
looks like an option itself. Arguments are read from left to right, and the first that makes no sense
ends the reading (`Stop.usage`). So does a request for help or for the version.
-/

namespace PredicateOracle.CommandLine

/-- The forms in which a configuration is shown. -/
inductive Form where
  | text
  | toml
  | json
  deriving DecidableEq, Repr

/-- The form with exactly this name. -/
def Form.ofName? : String → Option Form
  | "text" => some .text
  | "toml" => some .toml
  | "json" => some .json
  | _ => none

/-- The options of a run. -/
structure RunFlags where
  /-- A file that is laid over those of the project. -/
  config : Option String
  seed : Option Nat
  workers : Option Nat
  checks : Option Nat
  /-- The modes to go through; those of the configuration if there are none. -/
  modes : List Mode
  database : Option String
  timeoutSeconds : Option Nat
  reportDirectory : Option String
  /-- What is written to the log. -/
  logLevel : Option String
  deriving DecidableEq, Repr

/-- No option is given. -/
def RunFlags.none : RunFlags := ⟨.none, .none, .none, .none, [], .none, .none, .none, .none⟩

/-- What is to be done. -/
inductive Command where
  | version
  | showConfig (config : Option String) (form : Form)
  | run (flags : RunFlags)
  deriving DecidableEq, Repr

/-- A command, and whether it is to do without colours. -/
structure Invocation where
  plain : Bool
  command : Command
  deriving DecidableEq, Repr

/-- Why there is no command to be carried out. -/
inductive Stop where
  /-- The arguments make no sense. -/
  | usage
  /-- Help is asked for. -/
  | help
  /-- The version is asked for, by the command with these names. -/
  | version (names : List String)
  deriving DecidableEq, Repr

/-- The explicit configuration file of a command. -/
def Command.config? : Command → Option String
  | .version => none
  | .showConfig config _ => config
  | .run flags => flags.config

/-! ## Options -/

/-- An option: its long name, its short name, and whether it has a value. -/
structure Switch where
  long : String
  short : Option Char
  hasValue : Bool
  deriving DecidableEq, Repr

/-- The options that every command has. -/
def commonSwitches : List Switch :=
  [⟨"no-color", none, false⟩, ⟨"help", some 'h', false⟩, ⟨"version", some 'V', false⟩]

/-- The options of `config show`. -/
def showSwitches : List Switch := [⟨"config", some 'c', true⟩, ⟨"format", some 'f', true⟩]

/-- The options of `run`. -/
def runSwitches : List Switch :=
  [⟨"config", some 'c', true⟩, ⟨"seed", some 's', true⟩, ⟨"workers", some 'w', true⟩,
    ⟨"checks", some 'n', true⟩, ⟨"mode", some 'm', true⟩, ⟨"database", none, true⟩,
    ⟨"timeout-secs", none, true⟩, ⟨"report-dir", none, true⟩, ⟨"log-level", none, true⟩]

/-- What stands at the start of the arguments. -/
inductive Piece where
  /-- An option with its value; the empty text for one that has none. -/
  | option (name value : String)
  | word (text : String)
  /-- The mark behind which there are no options. -/
  | mark
  deriving DecidableEq, Repr

/-- Whether an argument looks like an option. -/
def looksLikeOption (arg : String) : Bool := arg.toList.head? = some '-' && arg ≠ "-"

/-- The next argument as the value of an option. -/
def nextValue? (name : String) : List String → Option (Piece × List String)
  | [] => none
  | arg :: rest => if looksLikeOption arg then none else some (.option name arg, rest)

/-- The option with a long name and an optional value behind an equals sign. -/
def longPiece? (switches : List Switch) (cs : List Char) (rest : List String) :
    Option (Piece × List String) := do
  let (name, value) := cs.span (· ≠ '=')
  let switch ← switches.find? (·.long.toList = name)
  match value, switch.hasValue with
  | [], true => nextValue? switch.long rest
  | [], false => return (.option switch.long "", rest)
  | _ :: value, true => return (.option switch.long (String.ofList value), rest)
  | _ :: _, false => none

/-- The option with a short name and an optional value directly behind it. -/
def shortPiece? (switches : List Switch) (c : Char) (value : List Char) (rest : List String) :
    Option (Piece × List String) := do
  let switch ← switches.find? (·.short = some c)
  match value, switch.hasValue with
  | [], true => nextValue? switch.long rest
  | '=' :: value, true => return (.option switch.long (String.ofList value), rest)
  | value, true => return (.option switch.long (String.ofList value), rest)
  | _, false => return (.option switch.long "", rest)

/-- What the arguments start with, and the arguments behind it. -/
def piece? (switches : List Switch) (arg : String) (rest : List String) :
    Option (Piece × List String) :=
  match arg.toList with
  | ['-', '-'] => some (.mark, rest)
  | '-' :: '-' :: cs => longPiece? switches cs rest
  | '-' :: c :: value => shortPiece? switches c value rest
  | _ => some (.word arg, rest)

/-- The pieces of the arguments up to the first word, then the word and what follows it. Behind the
last piece that makes sense comes the reason why there is no other. -/
structure Scan where
  options : List (String × String)
  /-- The first word and the arguments behind it; `none` if there is no word. -/
  word : Option (String × List String)
  /-- Whether everything up to here made sense. -/
  sound : Bool
  deriving DecidableEq, Repr

/-- Scans so many arguments at most. -/
def scan (switches : List Switch) : Nat → List String → Scan
  | 0, _ | _, [] => ⟨[], none, true⟩
  | bound + 1, arg :: rest =>
    match piece? switches arg rest with
    | none => ⟨[], none, false⟩
    | some (.word text, rest) => ⟨[], some (text, rest), true⟩
    | some (.mark, rest) => ⟨[], none, rest.isEmpty⟩
    | some (.option name value, rest) =>
      let s := scan switches bound rest
      { s with options := (name, value) :: s.options }

/-- Scans all arguments. -/
def scanAll (switches : List Switch) (args : List String) : Scan :=
  scan (commonSwitches ++ switches) args.length args

/-! ## Values -/

/-- A number that fits a 64-bit word, in digits with an optional plus. -/
def readWord? (s : String) : Option Nat :=
  let digits := match s.toList with
    | '+' :: cs => cs
    | cs => cs
  (Number.readNat? digits).filter (· < 2 ^ (64 : Nat))

/-- A path; the empty text is none. -/
def readPath? (s : String) : Option String := if s.isEmpty then none else some s

/-- Sets what is not set yet. -/
def setOnce {α β : Type} (old : Option α) (value : Option α) (change : Option α → β) : Option β :=
  match old, value with
  | none, some a => some (change (some a))
  | _, _ => none

/-- The options of a run with one more of them; nothing but the mode may be given twice. -/
def RunFlags.set? (f : RunFlags) : String → String → Option RunFlags
  | "config", v => setOnce f.config (readPath? v) fun a => { f with config := a }
  | "seed", v => setOnce f.seed (readWord? v) fun a => { f with seed := a }
  | "workers", v => setOnce f.workers (readWord? v) fun a => { f with workers := a }
  | "checks", v => setOnce f.checks (readWord? v) fun a => { f with checks := a }
  | "mode", v => (Mode.ofText v).toOption.map fun m => { f with modes := f.modes ++ [m] }
  | "database", v => setOnce f.database (readPath? v) fun a => { f with database := a }
  | "timeout-secs", v =>
    setOnce f.timeoutSeconds (readWord? v) fun a => { f with timeoutSeconds := a }
  | "report-dir", v =>
    setOnce f.reportDirectory (readPath? v) fun a => { f with reportDirectory := a }
  | "log-level", v => setOnce f.logLevel (some v) fun a => { f with logLevel := a }
  | _, _ => none

/-- What `config show` is given: a file and a form. -/
abbrev ShowFlags := Option String × Option Form

/-- The options of `config show` with one more of them; none may be given twice. -/
def ShowFlags.set? (f : ShowFlags) : String → String → Option ShowFlags
  | "config", v => setOnce f.1 (readPath? v) fun a => (a, f.2)
  | "format", v => setOnce f.2 (Form.ofName? v) fun a => (f.1, a)
  | _, _ => none

/-! ## Commands -/

/-- Takes the options of one command, and tells whether colours are switched off. -/
def takeOptions {φ : Type} (names : List String) (set? : φ → String → String → Option φ) :
    List (String × String) → Bool → φ → Except Stop (Bool × φ)
  | [], plain, flags => .ok (plain, flags)
  | ("help", _) :: _, _, _ => .error .help
  | ("version", _) :: _, _, _ => .error (.version names)
  | ("no-color", _) :: rest, plain, flags =>
    if plain then .error .usage else takeOptions names set? rest true flags
  | (name, value) :: rest, plain, flags =>
    match set? flags name value with
    | some flags => takeOptions names set? rest plain flags
    | none => .error .usage

/-- A command has no options of its own. -/
def noOption (_ : Unit) (_ _ : String) : Option Unit := none

/-- Reads the arguments of a command that has no words. -/
def readLeaf {φ : Type} (names : List String) (switches : List Switch)
    (set? : φ → String → String → Option φ) (start : φ) (args : List String) :
    Except Stop (Bool × φ) := do
  let s := scanAll switches args
  let found ← takeOptions names set? s.options false start
  if s.sound && s.word.isNone then return found else .error .usage

/-- Reads the arguments of a command that has others below it, up to the name of one. -/
def readBranch (names : List String) (args : List String) :
    Except Stop (Bool × String × List String) := do
  let s := scanAll [] args
  let (plain, ()) ← takeOptions names noOption s.options false ()
  match s.word with
  | some (word, rest) => return (plain, word, rest)
  | none => .error .usage

/-- The commands for which there is help. -/
def helpTopics : List (List String) :=
  [[], ["version"], ["run"], ["config"], ["config", "show"], ["help"]]

/-- A request for help on a command. -/
def helpOn (topic : List String) : Stop := if helpTopics.contains topic then .help else .usage

/-- Reads the arguments of `config`. -/
def readConfig (args : List String) : Except Stop (Bool × Command) := do
  let (plain, word, rest) ← readBranch ["trivalent", "config"] args
  match word with
  | "show" =>
    let (below, config, form) ←
      readLeaf ["trivalent", "config", "show"] showSwitches ShowFlags.set? (none, none) rest
    return (plain || below, .showConfig config (form.getD .text))
  | "help" => .error (helpOn ("config" :: rest))
  | _ => .error .usage

/-- Reads all arguments. -/
def Invocation.ofArguments (args : List String) : Except Stop Invocation := do
  let (plain, word, rest) ← readBranch ["trivalent"] args
  match word with
  | "version" =>
    let (below, ()) ← readLeaf ["trivalent", "version"] [] noOption () rest
    return ⟨plain || below, .version⟩
  | "run" =>
    let (below, flags) ← readLeaf ["trivalent", "run"] runSwitches RunFlags.set? .none rest
    return ⟨plain || below, .run flags⟩
  | "config" =>
    let (below, command) ← readConfig rest
    return ⟨plain || below, command⟩
  | "help" => .error (helpOn rest)
  | _ => .error .usage

end PredicateOracle.CommandLine
