import PredicateOracle.Config.Sections
import PredicateOracle.Text.Case
import PredicateOracle.Toml.Reader

/-!
# PredicateOracle.Config.Layer -- one layer of a configuration

A layer is a list of values under paths of keys. A TOML file is a layer, and so is an environment: a
variable whose name starts with the right mark gives a value to the key that the rest of the name
spells. Layers are laid over the defaults one after the other (`Layer.merged`), key by key.
-/

namespace PredicateOracle

/-- The variables around a program, with their values. -/
abbrev Environment := List (String × String)

/-- A layer: values under paths of keys. -/
abbrev Layer := List (List String × Setting)

namespace Layer

/-- Lays a layer over a tree. -/
def layOn (tree : Setting) (l : Layer) : Setting :=
  l.foldl (fun tree (path, value) => Setting.assign value path tree) tree

/-- Whether a character may be part of a step of a path. -/
def isStepChar (c : Char) : Bool := c.isAlphanum ∨ c = '_' ∨ c = '-'

/-- The path that a name spells, with dots between its steps. A name of any other form is a single
key. -/
def pathOf (name : String) : List String :=
  let steps := (name.toList.splitOn '.').map String.ofList
  if steps.all fun s => !s.isEmpty && s.toList.all isStepChar then steps else [name]

/-! ## Files -/

mutual

/-- Whether all whole numbers of a value are 64-bit words with a sign. -/
def isNarrow : Setting → Bool
  | .int n => -2 ^ (63 : Nat) ≤ n ∧ n < 2 ^ (63 : Nat)
  | .list vs => areNarrow vs
  | .table es => haveNarrow es
  | _ => true

/-- Whether all whole numbers of values are. -/
def areNarrow : List Setting → Bool
  | [] => true
  | v :: rest => isNarrow v && areNarrow rest

/-- Whether all whole numbers of entries are. -/
def haveNarrow : List (String × Setting) → Bool
  | [] => true
  | (_, v) :: rest => isNarrow v && haveNarrow rest

end

/-- The layer that a table is: its entries are values under the paths that their keys spell. -/
def ofTable (s : Setting) : Layer := s.entries.map fun (key, v) => (pathOf key, v)

/-- The layer that the text of a file says. -/
def ofText? (text : String) : Option Layer := do
  let s ← Toml.read? text
  if isNarrow s then return ofTable s else none

/-- The layer of a file that may be missing. -/
def ofFile? : Option String → Option Layer
  | none => some []
  | some text => ofText? text

/-! ## Variables -/

/-- What the names of variables start with. -/
def variableMark : String := "trv_"

/-- Cuts a text at every double underscore. -/
def sections : List Char → List Char → List String
  | read, [] => [String.ofList read.reverse]
  | read, '_' :: '_' :: rest => String.ofList read.reverse :: sections [] rest
  | read, c :: rest => sections (c :: read) rest

/-- The path that the name of a variable spells, if it has the mark. Case does not matter, and a
double underscore separates a section from a key. -/
def pathOfVariable? (name : String) : Option (List String) :=
  let name := Text.lowerName name
  if name.startsWith variableMark then
    some (pathOf (Text.join "." (sections [] (name.toList.drop variableMark.length))))
  else none

/-- The value of a variable: a flag, a whole number, a number, or else a text. -/
def valueOfVariable (text : String) : Setting :=
  match Text.lower text with
  | "true" => .bool true
  | "false" => .bool false
  | _ =>
    match (Number.readInt? text).filter fun n => -2 ^ (63 : Nat) ≤ n ∧ n < 2 ^ (63 : Nat) with
    | some n => .int n
    | none =>
      match Number.readNumeral? text with
      | some n => .float n.float
      | none => .text text

/-- The layer of the environment. -/
def ofEnvironment (environment : Environment) : Layer :=
  environment.filterMap fun (name, text) =>
    (pathOfVariable? name).map (·, valueOfVariable text)

/-! ## Together -/

/-- Layers laid over the defaults, the lowest first. -/
def merged (layers : List Layer) : Setting :=
  layers.foldl layOn Configuration.standard.toSetting

end Layer
end PredicateOracle
