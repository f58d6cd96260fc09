/-!
# PredicateOracle.Text.Utf8 -- texts from bytes that may not be texts

Bytes are read as UTF-8. Where they are not, each longest run of bytes that could have started a
character, or a single byte that could not, is read as one replacement character.
-/

namespace PredicateOracle.Text

/-- The character that stands for bytes that cannot be read. -/
def replacement : Char := '\uFFFD'

/-- What the first byte of a character says: how many bytes follow, the bits that it holds, and the
least and greatest byte that may come next. -/
structure Lead where
  following : Nat
  bits : Nat
  low : Nat
  high : Nat
  deriving DecidableEq, Repr

/-- Reads a first byte. The bounds on the next byte rule out overlong forms, surrogates and numbers
that are no code points. -/
def Lead.ofByte? (b : Nat) : Option Lead :=
  if b < 0x80 then some ⟨0, b, 0, 0⟩
  else if b < 0xC2 then none
  else if b < 0xE0 then some ⟨1, b - 0xC0, 0x80, 0xBF⟩
  else if b = 0xE0 then some ⟨2, 0, 0xA0, 0xBF⟩
  else if b = 0xED then some ⟨2, 0xD, 0x80, 0x9F⟩
  else if b < 0xF0 then some ⟨2, b - 0xE0, 0x80, 0xBF⟩
  else if b = 0xF0 then some ⟨3, 0, 0x90, 0xBF⟩
  else if b < 0xF4 then some ⟨3, b - 0xF0, 0x80, 0xBF⟩
  else if b = 0xF4 then some ⟨3, 4, 0x80, 0x8F⟩
  else none

/-- What is still to be read: nothing, or so many bytes of a character, with the bits so far and the
bounds on the next byte. -/
abbrev Pending := Option (Nat × Nat × Nat × Nat)

/-- Starts a character. -/
def startChar (b : Nat) : Option Char × Pending :=
  match Lead.ofByte? b with
  | none => (some replacement, none)
  | some ⟨0, bits, _, _⟩ => (some (Char.ofNat bits), none)
  | some ⟨n + 1, bits, low, high⟩ => (none, some (n + 1, bits, low, high))

/-- Reads bytes, in the middle of a character or not. -/
def readBytes : Pending → List Nat → List Char
  | none, [] => []
  | some _, [] => [replacement]
  | none, b :: bs =>
    match startChar b with
    | (some c, pending) => c :: readBytes pending bs
    | (none, pending) => readBytes pending bs
  | some (n, bits, low, high), b :: bs =>
    if low ≤ b ∧ b ≤ high then
      if n = 1 then Char.ofNat (bits * 64 + (b - 0x80)) :: readBytes none bs
      else readBytes (some (n - 1, bits * 64 + (b - 0x80), 0x80, 0xBF)) bs
    else
      match startChar b with
      | (some c, pending) => replacement :: c :: readBytes pending bs
      | (none, pending) => replacement :: readBytes pending bs

/-- The text that bytes stand for. -/
def ofBytes (bytes : List Nat) : String := String.ofList (readBytes none bytes)

end PredicateOracle.Text
