/-!
# PredicateOracle.Engine.Allowlist -- refusals that are no bugs

An engine may refuse a generated request for good reasons. An allowlist is a list of texts; a
refusal is expected if its message contains one of them. The catalogs at the end list what the
engine under test says on such occasions, by the kind of request.
-/

namespace PredicateOracle

/-- Texts that mark a refusal as expected. -/
structure Allowlist where
  texts : List String
  deriving DecidableEq, Repr

namespace Allowlist

/-- Whether a list of characters occurs within another one. -/
def occursIn (part : List Char) : List Char → Bool
  | [] => part.isEmpty
  | c :: cs => part.isPrefixOf (c :: cs) || occursIn part cs

theorem occursIn_iff {part whole : List Char} : occursIn part whole = true ↔ part <:+: whole := by
  induction whole with
  | nil => simp [occursIn]
  | cons c cs ih => simp [occursIn, ih, List.infix_cons_iff]

/-- The empty allowlist, which expects nothing. -/
def empty : Allowlist := ⟨[]⟩

/-- An allowlist with one more text. -/
def add (a : Allowlist) (text : String) : Allowlist := ⟨a.texts ++ [text]⟩

/-- An allowlist with all texts of another one. -/
def extend (a b : Allowlist) : Allowlist := ⟨a.texts ++ b.texts⟩

/-- Whether there is no text. -/
def isEmpty (a : Allowlist) : Bool := a.texts.isEmpty

/-- Whether a message contains one of the texts. -/
def expects (a : Allowlist) (message : String) : Bool :=
  a.texts.any fun text => occursIn text.toList message.toList

/-! ## Catalogs -/

/-- What a well-typed expression can still run into. -/
def expression : Allowlist :=
  ⟨["Out of Range Error", "Overflow", "Conversion Error", "Could not convert string",
    "Invalid Input Error"]⟩

/-- Failures of the engine or the machine that pass. -/
def unstable : Allowlist :=
  ⟨["Out of Memory Error", "INTERRUPT Error", "Interrupted", "IO Error"]⟩

/-- Violated constraints of new or changed rows. -/
def insert : Allowlist :=
  Allowlist.extend
    ⟨["Constraint Error", "Duplicate key", "violates primary key constraint",
      "violates unique constraint", "NOT NULL constraint failed",
      "over-eager constraint checking"]⟩
    expression

/-- Failures of new tables. -/
def table : Allowlist := ⟨["Catalog Error: Table with name", "already exists"]⟩

/-- Failures of new indexes over existing rows. -/
def index : Allowlist :=
  ⟨["Constraint Error", "contains duplicates", "Catalog Error: Index with name"]⟩

/-- Failures of new views. -/
def view : Allowlist := Allowlist.extend insert unstable

/-- Whatever the two queries of a check may run into. -/
def check : Allowlist := Allowlist.extend expression unstable

end Allowlist
end PredicateOracle
