import PredicateOracle.Fault
import PredicateOracle.Number.Binary

/-!
# PredicateOracle.Capacity -- how long a list can be

A list lies in one block of memory, and the size of a block is a machine word with a sign. Where it
is known how many records a list will have, the block for all of them is asked for before the first
record is made. A number of records for which there is no block is a fault; how much memory the
machine really has is not looked at here.
-/

namespace PredicateOracle

/-- The kinds of records of which there can be any number. -/
inductive Record where
  | table
  | column
  | expression
  /-- What is kept of a worker while it runs. -/
  | handle
  /-- What a worker leaves. -/
  | report
  deriving DecidableEq, Repr

namespace Record

/-- The size of a record, without the texts and trees that it points to. -/
def bytes : Record → Nat
  | .table | .expression => 48
  | .column => 56
  | .handle => 24
  | .report => 64

/-- **`r.HasRoom n`** -- there are blocks for so many records. -/
def HasRoom (r : Record) (n : Nat) : Prop := n * r.bytes < 2 ^ (63 : Nat)

instance (r : Record) (n : Nat) : Decidable (r.HasRoom n) :=
  inferInstanceAs (Decidable (_ < _))

/-- Asks for a block for so many records. -/
def reserve (r : Record) (n : Nat) : Except Fault Unit :=
  if r.HasRoom n then .ok () else .error .capacityOverflow

end Record
end PredicateOracle
