/-!
# PredicateOracle.Random.Keystream -- the word sequence behind a seed

A 64-bit seed determines an endless sequence of 32-bit words: an eight-round ChaCha keystream whose
256-bit key is expanded from the seed by a linear congruential generator with permuted output.
`Keystream.block seed n` is the `n`-th group of sixteen words. Nothing here depends on how many
words have been read, so the sequence is a function of the seed alone.
-/

namespace PredicateOracle.Random

/-- Sixteen words: the state that the rounds work on, and one group of output. -/
abbrev Block := Vector UInt32 16

namespace Keystream

/-- Rotation of a word to the left. -/
def rotateLeft (x : UInt32) (n : UInt32) : UInt32 :=
  (x <<< n) ||| (x >>> (32 - n))

/-- Rotation of a word to the right. A rotation by zero leaves the word as it is. -/
def rotateRight (x : UInt32) (n : UInt32) : UInt32 :=
  if n = 0 then x else (x >>> n) ||| (x <<< (32 - n))

/-! ## The rounds -/

/-- One quarter round on four of the sixteen words. -/
def quarterRound (s : Block) (a b c d : Fin 16) : Block :=
  let wa := s[a] + s[b]
  let wd := rotateLeft (s[d] ^^^ wa) 16
  let wc := s[c] + wd
  let wb := rotateLeft (s[b] ^^^ wc) 12
  let wa := wa + wb
  let wd := rotateLeft (wd ^^^ wa) 8
  let wc := wc + wd
  let wb := rotateLeft (wb ^^^ wc) 7
  (((s.set a wa).set b wb).set c wc).set d wd

/-- A round over the columns, then one over the diagonals. -/
def doubleRound (s : Block) : Block :=
  let s := quarterRound s 0 4 8 12
  let s := quarterRound s 1 5 9 13
  let s := quarterRound s 2 6 10 14
  let s := quarterRound s 3 7 11 15
  let s := quarterRound s 0 5 10 15
  let s := quarterRound s 1 6 11 12
  let s := quarterRound s 2 7 8 13
  quarterRound s 3 4 9 14

/-- Four double rounds. -/
def eightRounds (s : Block) : Block :=
  doubleRound (doubleRound (doubleRound (doubleRound s)))

/-! ## The key -/

/-- One step of the congruential generator that expands a seed. -/
def nextKeyState (state : UInt64) : UInt64 :=
  state * 6364136223846793005 + 11634580027462260723

/-- The word that a state of the seed expansion gives out. -/
def keyWord (state : UInt64) : UInt32 :=
  rotateRight (((state >>> 18) ^^^ state) >>> 27).toUInt32 (state >>> 59).toUInt32

/-- The first `n` key words after `state`. -/
def keyWords (state : UInt64) : Nat → List UInt32
  | 0 => []
  | n + 1 => keyWord (nextKeyState state) :: keyWords (nextKeyState state) n

/-- The state before the rounds: four constants, the eight key words, the number of the block as
two words with the low one first, and an empty stream number. -/
def input (seed : UInt64) (number : UInt64) : Block :=
  match keyWords seed 8 with
  | [k₀, k₁, k₂, k₃, k₄, k₅, k₆, k₇] =>
    #v[0x61707865, 0x3320646e, 0x79622d32, 0x6b206574,
      k₀, k₁, k₂, k₃, k₄, k₅, k₆, k₇,
      number.toUInt32, (number >>> 32).toUInt32, 0, 0]
  | _ => Vector.replicate 16 0

/-- Group `number` of the words that belong to a seed. -/
def block (seed : UInt64) (number : Nat) : Block :=
  let start := input seed (UInt64.ofNat number)
  Vector.zipWith (· + ·) start (eightRounds start)

/-- Word `position` of the sequence that belongs to a seed. -/
def word (seed : UInt64) (position : Nat) : UInt32 :=
  (block seed (position / 16)).get ⟨position % 16, Nat.mod_lt _ (by decide)⟩

end Keystream
end PredicateOracle.Random
