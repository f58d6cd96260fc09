import PredicateOracle.Text.Blank
import PredicateOracle.Text.Quoted

/-!
# PredicateOracle.Engine.Row -- result rows

A result row is a list of cells, and a cell is a text or NULL. Rows are ordered cell by cell, NULL
before every text and texts by their characters; a row comes before its extensions. `Row.listing`
shows a row in a report.
-/

namespace PredicateOracle

/-- The cells of a result row. -/
abbrev Row := List (Option String)

namespace Row

/-- Whether one cell comes before another. -/
def cellLt : Option String → Option String → Bool
  | none, some _ => true
  | some a, some b => a < b
  | _, none => false

/-- Whether one row comes before another or is the same. -/
def le : Row → Row → Bool
  | [], _ => true
  | _ :: _, [] => false
  | a :: as, b :: bs => cellLt a b || (a = b && le as bs)

/-- The different rows of a list, in order. -/
def sortedDistinct (rows : List Row) : List Row := rows.eraseDups.mergeSort le

/-! ## Text -/

/-- How a cell is shown. -/
def cellListing : Option String → String
  | none => "None"
  | some s => "Some(" ++ Text.quoted s ++ ")"

/-- How a row is shown. -/
def listing (r : Row) : String := "[" ++ Text.join ", " (r.map cellListing) ++ "]"

/-- How a list of rows is shown. -/
def listings (rows : List Row) : String := "[" ++ Text.join ", " (rows.map listing) ++ "]"

end Row
end PredicateOracle
