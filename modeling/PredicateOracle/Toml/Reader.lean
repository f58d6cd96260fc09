import PredicateOracle.Toml.Node
import PredicateOracle.Toml.Scalar

/-!
# PredicateOracle.Toml.Reader -- reading TOML

`Toml.read? s` is the table that a document says, if the text is one. The readers of values, keys and
statements take a bound on how much they may read; the length of the text is always enough.
-/

namespace PredicateOracle.Toml

/-! ## Keys -/

/-- Whether a character may stand in a key without quotes. -/
def isKeyChar (c : Char) : Bool := c.isAlphanum ∨ c = '_' ∨ c = '-'

/-- A key without dots. -/
def simpleKey? (cs : List Char) : Option (String × List Char) :=
  match cs with
  | '"' :: rest => basicTail [] rest
  | '\'' :: rest => literalTail rest
  | cs =>
    match cs.span isKeyChar with
    | ([], _) => none
    | (name, rest) => some (String.ofList name, rest)

/-- A key with dots between its parts. -/
def key? : Nat → List Char → Option (List String × List Char)
  | 0, _ => none
  | bound + 1, cs => do
    let (name, rest) ← simpleKey? (skipBlanks cs)
    match skipBlanks rest with
    | '.' :: rest =>
      let (names, rest) ← key? bound rest
      return (name :: names, rest)
    | rest => return ([name], rest)

/-- The text after a key and its equals sign. -/
def keyBefore? (bound : Nat) (cs : List Char) : Option (List String × List Char) := do
  let (names, rest) ← key? bound cs
  match rest with
  | '=' :: rest => return (names, skipBlanks rest)
  | _ => none

/-! ## Values -/

mutual

/-- A value at the start of a text. -/
def value? : Nat → List Char → Option (Setting × List Char)
  | 0, _ => none
  | bound + 1, cs =>
    match cs with
    | '[' :: rest => (items? bound rest).map fun (vs, rest) => (.list vs, rest)
    | '{' :: rest =>
      (fields? bound [] rest).map fun (es, rest) => (.table (Node.settings es), rest)
    | '"' :: _ | '\'' :: _ => (string? cs).map fun (s, rest) => (.text s, rest)
    | _ => scalar? cs

/-- The items of an array up to its closing bracket. -/
def items? : Nat → List Char → Option (List Setting × List Char)
  | 0, _ => none
  | bound + 1, cs => do
    match ← skipLines false cs with
    | ']' :: rest => return ([], rest)
    | cs =>
      let (v, rest) ← value? bound cs
      match ← skipLines false rest with
      | ',' :: rest =>
        let (vs, rest) ← items? bound rest
        return (v :: vs, rest)
      | ']' :: rest => return ([v], rest)
      | _ => none

/-- The entries of an inline table up to its closing brace, behind those already read. -/
def fields? : Nat → Entries Node → List Char → Option (Entries Node × List Char)
  | 0, _, _ => none
  | bound + 1, es, cs => do
    match ← skipLines false cs with
    | '}' :: rest => return (es, rest)
    | cs =>
      let (names, rest) ← keyBefore? bound cs
      let (v, rest) ← value? bound rest
      let es ← Node.define? v names es
      match ← skipLines false rest with
      | ',' :: rest => fields? bound es rest
      | '}' :: rest => return (es, rest)
      | _ => none

end

/-! ## Documents -/

/-- The table under a path opened by `f`. -/
def openAt? (f : String → Entries Node → Option (Entries Node)) (path : List String)
    (document : Entries Node) : Option (Entries Node) := do
  Node.update? (f (← path.getLast?)) path.dropLast document

/-- The statements of a document, behind what has been read; `path` is the table that is open. -/
def statements? : Nat → List String → Entries Node → List Char → Option (Entries Node)
  | 0, _, _, _ => none
  | bound + 1, path, document, cs => do
    match ← skipLines false cs with
    | [] => return document
    | '[' :: '[' :: rest =>
      let (path, rest) ← key? bound rest
      match rest with
      | ']' :: ']' :: rest =>
        let document ← openAt? Node.openItem? path document
        statements? bound path document (← endLine? rest)
      | _ => none
    | '[' :: rest =>
      let (path, rest) ← key? bound rest
      match rest with
      | ']' :: rest =>
        let document ← openAt? Node.openTable? path document
        statements? bound path document (← endLine? rest)
      | _ => none
    | cs =>
      let (names, rest) ← keyBefore? bound cs
      let (v, rest) ← value? bound rest
      let document ← Node.update? (Node.define? v names) path document
      statements? bound path document (← endLine? rest)

/-- The text without a byte order mark. -/
def skipMark : List Char → List Char
  | '\ufeff' :: cs => cs
  | cs => cs

/-- The table that a document says. -/
def read? (s : String) : Option Setting :=
  (statements? (s.length + 2) [] [] (skipMark s.toList)).map fun es => .table (Node.settings es)

end PredicateOracle.Toml
