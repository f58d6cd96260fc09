import PredicateOracle.Text.Glyph

/-!
# PredicateOracle.Text.Quoted -- texts shown in reports

A text in a report stands in double quotes, with every character visible: quotes and backslashes
behind a backslash, the usual controls as letters, and all other characters without a glyph of
their own by their number.
-/

namespace PredicateOracle.Text

/-- How a character is shown. -/
def showChar (c : Char) : List Char :=
  match c with
  | '\x00' => ['\\', '0']
  | '\t' => ['\\', 't']
  | '\r' => ['\\', 'r']
  | '\n' => ['\\', 'n']
  | '"' => ['\\', '"']
  | '\\' => ['\\', '\\']
  | c =>
    if lacksGlyph c then ['\\', 'u', '\x7b'] ++ Nat.toDigits 16 c.toNat ++ ['\x7d'] else [c]

/-- How a text is shown. -/
def quoted (s : String) : String := String.ofList ('"' :: s.toList.flatMap showChar ++ ['"'])

end PredicateOracle.Text
