import PredicateOracle.Text.Blank

/-!
# PredicateOracle.Text.Case -- letter case beyond ASCII

A keyword is recognised in the upper case of a text, and a name in its lower case. Some characters
outside ASCII have an upper case that is made of ASCII letters, wholly or in part, and so can be part
of a keyword; the table lists all of them. Only one of them has a lower case that is an ASCII letter
and nothing else. What the other case of any other character is makes no difference to keywords and
names, which have ASCII letters only.
-/

namespace PredicateOracle.Text

/-- The upper case of a character, as far as ASCII letters occur in it. -/
def upperChars (c : Char) : List Char :=
  match c.toNat with
  | 0xDF => ['S', 'S']
  | 0x131 => ['I']
  | 0x149 => ['\u02BC', 'N']
  | 0x17F => ['S']
  | 0x1F0 => ['J', '\u030C']
  | 0x1E96 => ['H', '\u0331']
  | 0x1E97 => ['T', '\u0308']
  | 0x1E98 => ['W', '\u030A']
  | 0x1E99 => ['Y', '\u030A']
  | 0x1E9A => ['A', '\u02BE']
  | 0xFB00 => ['F', 'F']
  | 0xFB01 => ['F', 'I']
  | 0xFB02 => ['F', 'L']
  | 0xFB03 => ['F', 'F', 'I']
  | 0xFB04 => ['F', 'F', 'L']
  | 0xFB05 => ['S', 'T']
  | 0xFB06 => ['S', 'T']
  | _ => [c.toUpper]

/-- The lower case of a text, as far as it is ASCII. The sign for kelvin is a capital K. -/
def lowerName (s : String) : String := lower (s.map fun c => if c = '\u212A' then 'K' else c)

/-- Whether the upper case of a text starts with a keyword. -/
def startsWithKeyword (cs : List Char) (keyword : String) : Bool :=
  keyword.toList.isPrefixOf (cs.flatMap upperChars)

end PredicateOracle.Text
