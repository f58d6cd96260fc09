/-!
# PredicateOracle.File.Path -- file paths as texts

Paths are texts with slashes. The last component of a path is what names a file; slashes and single
dots behind it do not count. Nothing is normalised: what is not replaced stays as it was written.
-/

namespace PredicateOracle.Path

/-- Whether a path starts at the root. -/
def isAbsolute (path : String) : Bool := path.toList.head? = some '/'

/-- A path below another one. An absolute path replaces the other one. -/
def join (base path : String) : String :=
  if isAbsolute path then path
  else if base.isEmpty || base.toList.getLast? = some '/' then base ++ path
  else base ++ "/" ++ path

/-- Takes slashes and single dots off the end of a path whose characters are given in reverse. A
slash at the root and a single dot at the start stay. -/
def trimEnd : List Char → List Char
  | '/' :: c :: rest => trimEnd (c :: rest)
  | '.' :: '/' :: rest => trimEnd ('/' :: rest)
  | rest => rest
  termination_by rest => rest.length

/-- The directory and the file name of a path, if its last component is a name. -/
def splitName? (path : String) : Option (String × String) :=
  let back := trimEnd path.toList.reverse
  let name := (back.takeWhile (· ≠ '/')).reverse
  if name = [] ∨ name = ['.'] ∨ name = ['.', '.'] then none
  else
    let directory := (trimEnd (back.dropWhile (· ≠ '/'))).reverse
    some (String.ofList directory, String.ofList name)

/-- A file name cut at its last dot: what stands before it, and what stands behind it. A dot at the
start of a name does not count. -/
def splitExtension (name : String) : String × Option String :=
  let back := name.toList.reverse
  let extension := (back.takeWhile (· ≠ '.')).reverse
  match back.dropWhile (· ≠ '.') with
  | [] | ['.'] => (name, none)
  | _ :: stem => (String.ofList stem.reverse, some (String.ofList extension))

/-- The path with another file name. A path that has none is taken as a directory. -/
def withFileName (path name : String) : String :=
  match splitName? path with
  | some (directory, _) => join directory name
  | none => join path name

/-- The path with a mark put behind the stem of its file name; a path without a file name gets the
default stem. -/
def withMark (path mark defaultStem : String) : String :=
  let (stem, extension) := match splitName? path with
    | some (_, name) => splitExtension name
    | none => (defaultStem, none)
  let name := match extension with
    | some e => stem ++ mark ++ "." ++ e
    | none => stem ++ mark
  withFileName path name

end PredicateOracle.Path
