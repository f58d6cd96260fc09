import PredicateOracle.Number.Reader

/-!
# PredicateOracle.Toml.Text -- blanks, comments and strings of TOML

The smallest parts of a TOML document. Blanks separate parts of a line, comments reach to its end,
and a line ends in a line feed with or without a carriage return. Strings come in four forms: basic
ones with escapes and literal ones without, each on one line in single delimiters or over several
lines in triple ones. Control characters other than the tab stand nowhere.
-/

namespace PredicateOracle.Toml

/-! ## Lines -/

/-- Blanks within a line. -/
def isBlank (c : Char) : Bool := c = ' ' ∨ c = '\t'

/-- The text after its leading blanks. -/
def skipBlanks (cs : List Char) : List Char := cs.dropWhile isBlank

/-- Whether a character may stand in a line as it is. -/
def isPlain (c : Char) : Bool := c = '\t' ∨ (32 ≤ c.toNat ∧ c ≠ '\x7f')

/-- The text after blanks, line breaks and comments, up to the next part of the document;
`comment` says whether it starts inside a comment. -/
def skipLines (comment : Bool) : List Char → Option (List Char)
  | [] => some []
  | '\n' :: cs => skipLines false cs
  | '\r' :: '\n' :: cs => skipLines false cs
  | c :: cs =>
    if comment then (if isPlain c then skipLines true cs else none)
    else if isBlank c then skipLines false cs
    else if c = '#' then skipLines true cs
    else some (c :: cs)

/-- The text after the end of a line, with a comment or without one. -/
def endLine? (cs : List Char) : Option (List Char) :=
  let cs := skipBlanks cs
  let (comment, cs) := match cs with
    | '#' :: _ => cs.span isPlain
    | _ => ([], cs)
  match comment, cs with
  | _, [] => some []
  | _, '\n' :: cs => some cs
  | _, '\r' :: '\n' :: cs => some cs
  | _, _ => none

/-! ## Escapes -/

/-- The number that hexadecimal digits stand for. -/
def hexNumber? (cs : List Char) : Option Nat :=
  cs.foldlM (fun n c => (Number.hexDigit? c).map (n * 16 + ·)) 0

/-- The character with a number written in so many hexadecimal digits. -/
def hexChar? (count : Nat) (cs : List Char) : Option Char := do
  let n ← hexNumber? (cs.take count)
  if (cs.take count).length = count ∧ n.isValidChar then return Char.ofNat n else none

/-- What an escape stands for, and how many characters it takes behind its backslash. -/
def escape? : List Char → Option (Char × Nat)
  | 'b' :: _ => some ('\x08', 1)
  | 't' :: _ => some ('\t', 1)
  | 'n' :: _ => some ('\n', 1)
  | 'f' :: _ => some ('\x0c', 1)
  | 'r' :: _ => some ('\r', 1)
  | 'e' :: _ => some ('\x1b', 1)
  | '"' :: _ => some ('"', 1)
  | '\\' :: _ => some ('\\', 1)
  | 'x' :: cs => (hexChar? 2 cs).map (·, 3)
  | 'u' :: cs => (hexChar? 4 cs).map (·, 5)
  | 'U' :: cs => (hexChar? 8 cs).map (·, 9)
  | _ => none

/-! ## Strings on one line -/

/-- A basic string up to its closing delimiter, behind what has been read. -/
def basicTail (read : List Char) : List Char → Option (String × List Char)
  | [] => none
  | '"' :: rest => some (String.ofList read.reverse, rest)
  | '\\' :: rest =>
    match escape? rest with
    | some (c, n) => basicTail (c :: read) (rest.drop n)
    | none => none
  | c :: rest => if isPlain c then basicTail (c :: read) rest else none
  termination_by cs => cs.length
  decreasing_by all_goals simp only [List.length_cons, List.length_drop]; omega

/-- A literal string up to its closing delimiter. -/
def literalTail (cs : List Char) : Option (String × List Char) :=
  match cs.span (· ≠ '\'') with
  | (text, _ :: rest) => if text.all isPlain then some (String.ofList text, rest) else none
  | (_, []) => none

/-! ## Strings over several lines -/

/-- The text after one line break at its start, if there is one. -/
def skipBreak : List Char → List Char
  | '\n' :: cs => cs
  | '\r' :: '\n' :: cs => cs
  | cs => cs

/-- Whether blanks are followed by the end of the line. -/
def breaksLine (cs : List Char) : Bool :=
  match skipBlanks cs with
  | '\n' :: _ => true
  | '\r' :: '\n' :: _ => true
  | _ => false

/-- The text after blanks and line breaks. -/
def skipSpace : List Char → List Char
  | ' ' :: cs => skipSpace cs
  | '\t' :: cs => skipSpace cs
  | '\n' :: cs => skipSpace cs
  | '\r' :: '\n' :: cs => skipSpace cs
  | cs => cs

theorem length_skipSpace_le (cs : List Char) : (skipSpace cs).length ≤ cs.length := by
  fun_induction skipSpace cs with
  | case5 => exact Nat.le_refl _
  | _ => simp only [List.length_cons]; omega

/-- What a run of delimiters closes: the string with up to two of them at its end, and the text
behind. A run of fewer than three closes nothing. -/
def close? (delimiter : Char) (read : List Char) (cs : List Char) : Option (String × List Char) :=
  let run := ((cs.takeWhile (· = delimiter)).take 5).length
  if run < 3 then none
  else
    let text := List.replicate (run - 3) delimiter ++ read
    some (String.ofList text.reverse, cs.drop run)

/-- A basic string over several lines, behind what has been read. A backslash at the end of a line
takes away all space up to the next visible character. -/
def basicLines (read : List Char) : List Char → Option (String × List Char)
  | [] => none
  | '\\' :: rest =>
    if breaksLine rest then basicLines read (skipSpace rest)
    else
      match escape? rest with
      | some (c, n) => basicLines (c :: read) (rest.drop n)
      | none => none
  | '\r' :: '\n' :: rest => basicLines ('\n' :: '\r' :: read) rest
  | c :: rest =>
    match close? '"' read (c :: rest) with
    | some found => some found
    | none => if isPlain c ∨ c = '\n' then basicLines (c :: read) rest else none
  termination_by cs => cs.length
  decreasing_by
    · have := length_skipSpace_le rest
      simp only [List.length_cons]; omega
    · simp only [List.length_cons, List.length_drop]; omega
    · simp only [List.length_cons]; omega
    · simp only [List.length_cons]; omega

/-- A literal string over several lines, behind what has been read. -/
def literalLines (read : List Char) : List Char → Option (String × List Char)
  | [] => none
  | '\r' :: '\n' :: rest => literalLines ('\n' :: '\r' :: read) rest
  | c :: rest =>
    match close? '\'' read (c :: rest) with
    | some found => some found
    | none => if isPlain c ∨ c = '\n' then literalLines (c :: read) rest else none

/-! ## All strings -/

/-- A string of any form. -/
def string? : List Char → Option (String × List Char)
  | '"' :: '"' :: '"' :: rest => basicLines [] (skipBreak rest)
  | '\'' :: '\'' :: '\'' :: rest => literalLines [] (skipBreak rest)
  | '"' :: rest => basicTail [] rest
  | '\'' :: rest => literalTail rest
  | _ => none

end PredicateOracle.Toml
