import PredicateOracle.Number.Layout
import PredicateOracle.Setting.Basic
import PredicateOracle.Text.Blank

/-!
# PredicateOracle.Toml.Printer -- writing TOML

A document of sections: each section is a table under a header, with one key to a line and an empty
line between sections. What is not set is left out. A list of several values has one to a line.
A string takes the first of the forms that shows it without escapes, and a basic one if none does.
-/

namespace PredicateOracle.Toml

/-! ## Strings -/

/-- The length of the longest run of a character. -/
def longestRun (c : Char) (cs : List Char) : Nat :=
  (cs.foldl (fun (best, run) d =>
    let run := if d = c then run + 1 else 0
    (max best run, run)) (0, 0)).1

/-- Whether a character can only be shown by an escape. -/
def needsEscape (c : Char) : Bool :=
  c ≠ '\t' ∧ c ≠ '\n' ∧ (c.toNat < 32 ∨ c = '\x7f')

/-- How a character other than a quote stands in a basic string, on one line or over several. -/
def escapeChar (lines : Bool) (c : Char) : List Char :=
  match c with
  | '\x08' => ['\\', 'b']
  | '\t' => ['\\', 't']
  | '\n' => if lines then ['\n'] else ['\\', 'n']
  | '\x0c' => ['\\', 'f']
  | '\r' => ['\\', 'r']
  | '\\' => ['\\', '\\']
  | c =>
    if needsEscape c then ['\\', 'u', '0', '0'] ++ (Json.hexByte c.toNat).map Char.toUpper else [c]

/-- The inside of a basic string; of quotes in a row, only `allowed` stand as they are before one is
escaped. -/
def escapeText (lines : Bool) (allowed : Nat) : Nat → List Char → List Char
  | _, [] => []
  | run, '"' :: cs =>
    if run < allowed then '"' :: escapeText lines allowed (run + 1) cs
    else '\\' :: '"' :: escapeText lines allowed 0 cs
  | _, c :: cs => escapeChar lines c ++ escapeText lines allowed 0 cs

/-- A text in single delimiters. -/
def enclose (delimiter : Char) (cs : List Char) : List Char := delimiter :: cs ++ [delimiter]

/-- A text in triple delimiters; one that has line breaks starts on a line of its own. -/
def encloseLines (delimiter : Char) (breaks : Bool) (cs : List Char) : List Char :=
  List.replicate 3 delimiter ++ (if breaks then ['\n'] else []) ++ cs
    ++ List.replicate 3 delimiter

/-- A string in the form that suits it. -/
def quote (s : String) : String :=
  let cs := s.toList
  let escapes := cs.any needsEscape
  let backslash := cs.contains '\\'
  let breaks := cs.contains '\n'
  let double := longestRun '"' cs
  let single := longestRun '\'' cs
  String.ofList <|
    if !escapes && !backslash && double = 0 && !breaks then enclose '"' (escapeText false 0 0 cs)
    else if !escapes && single = 0 && !breaks then enclose '\'' cs
    else if !escapes && !backslash && double ≤ 2 then
      encloseLines '"' breaks (escapeText true 2 0 cs)
    else if !escapes && single ≤ 2 then encloseLines '\'' breaks cs
    else if breaks then encloseLines '"' breaks (escapeText true 2 0 cs)
    else enclose '"' (escapeText false 0 0 cs)

/-! ## Values -/

mutual

/-- The text of a value in a list. -/
def inline : Setting → String
  | .null => ""
  | .bool b => toString b
  | .int n => toString n
  | .float x => Number.Layout.toml.double x
  | .text s => quote s
  | .date s => s
  | .list vs => "[" ++ Text.join ", " (inlineItems vs) ++ "]"
  | .table es => "\x7b " ++ Text.join ", " (inlineFields es) ++ " \x7d"

/-- The texts of the values in a list. -/
def inlineItems : List Setting → List String
  | [] => []
  | v :: rest => inline v :: inlineItems rest

/-- The texts of the entries in a table. -/
def inlineFields : List (String × Setting) → List String
  | [] => []
  | (key, v) :: rest => (key ++ " = " ++ inline v) :: inlineFields rest

end

/-- The lines of a value. -/
def valueLines : Setting → List String
  | .list (v :: w :: rest) =>
    "[" :: (inlineItems (v :: w :: rest)).map (fun item => "    " ++ item ++ ",") ++ ["]"]
  | v => [inline v]

/-- The lines of an entry; none if it is not set. -/
def entryLines : String × Setting → List String
  | (_, .null) => []
  | (key, v) =>
    match valueLines v with
    | [] => []
    | first :: rest => (key ++ " = " ++ first) :: rest

/-- The lines of a section. -/
def sectionLines : String × Setting → List String
  | (name, s) => ("[" ++ name ++ "]") :: s.entries.flatMap entryLines

/-- The text of a document, a line break behind every line. -/
def print (document : Setting) : String :=
  let sections := document.entries.map fun e =>
    String.join ((sectionLines e).map (· ++ "\n"))
  Text.join "\n" sections

end PredicateOracle.Toml
