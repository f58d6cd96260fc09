import PredicateOracle.Capacity
import PredicateOracle.Number.Binary
import PredicateOracle.Random.Stream

/-!
# PredicateOracle.Random.Draw -- decisions drawn from a stream

`Gen α` is a random `α`: a function of the stream that gives a value or a fault, and in either case
the stream that is left. The draws are uniform. A word `v` of `b` bits is turned into a number
below `range` by taking the high part of the product `v * range`; the word is refused, and another
one read, when the low part lies above the largest multiple of `range` that a word can count. Every
result therefore lies in its range whatever the words are.
-/

namespace PredicateOracle

open PredicateOracle.Random (Stream)

/-- A random value: what it is, or why there is none, and the stream that is left. -/
abbrev Gen := ExceptT Fault (StateM Stream)

namespace Random

/-! ## Uniform numbers -/

/-- The largest low part that is accepted for a range, with words of `bits` bits. -/
def acceptanceBound (bits range : Nat) : Nat :=
  range <<< (bits - 1 - range.log2) - 1

/-- How often a word may be refused before one is taken as it comes. Each refusal has a chance
below one half, so the bound is never met in practice; it makes the loop end for every stream. -/
def maxRefusals : Nat := 1000

/-- Reads words until one is accepted and gives the high part of its product with the range. -/
def reduceFrom (read : Stream → Nat × Stream) (bits range : Nat) : Nat → Stream → Nat × Stream
  | 0, s => let (v, s) := read s; (v * range / 2 ^ bits, s)
  | n + 1, s =>
    let (v, s) := read s
    if v * range % 2 ^ bits ≤ acceptanceBound bits range then (v * range / 2 ^ bits, s)
    else reduceFrom read bits range n s

/-- One word as a natural number. -/
def readWord (s : Stream) : Nat × Stream :=
  let (w, s) := s.word; (w.toNat, s)

/-- One double word as a natural number. -/
def readDoubleWord (s : Stream) : Nat × Stream :=
  let (w, s) := s.doubleWord; (w.toNat, s)

/-- A number below `range`, from double words. A range of all double words takes one as it is. -/
def below (range : Nat) (s : Stream) : Nat × Stream :=
  if range = 2 ^ (64 : Nat) then readDoubleWord s
  else reduceFrom readDoubleWord 64 range maxRefusals s

/-- A position in a list of `length` elements: a single word decides wherever it can. -/
def slot (length : Nat) (s : Stream) : Nat × Stream :=
  if length < 2 ^ (32 : Nat) then reduceFrom readWord 32 length maxRefusals s else below length s

/-! ## Coins -/

/-- A probability as a coin sees it. -/
inductive Odds where
  /-- Always, without reading a word. -/
  | certain
  /-- When a double word lies below the threshold. -/
  | threshold (n : Nat)
  /-- Not a number. -/
  | undefined
  deriving DecidableEq, Repr

/-- The odds of a probability, taken to the nearest of 0 and 1 if it lies outside of them. The
threshold is the probability times `2 ^ 64`, rounded down. -/
def Odds.ofProbability (p : Float) : Odds :=
  match Number.Binary.ofFloat p with
  | .nan => .undefined
  | .infinite negative => if negative then .threshold 0 else .certain
  | .finite negative significand exponent =>
    if negative then .threshold 0
    else
      let n := significand * 2 ^ (exponent + 64).toNat / 2 ^ (-(exponent + 64)).toNat
      if n < 2 ^ (64 : Nat) then .threshold n else .certain

end Random

namespace Gen

open PredicateOracle.Random

/-- A draw that always has a value. -/
def ofDraw {α : Type} (f : Stream → α × Stream) : Gen α :=
  ExceptT.mk fun s => let (a, s) := f s; (.ok a, s)

/-- The outcome of a draw from a stream, and the stream that is left. -/
def runOn {α : Type} (g : Gen α) (s : Stream) : Except Fault α × Stream :=
  Id.run (StateT.run (ExceptT.run g) s)

/-- Gives up. -/
def fail {α : Type} (f : Fault) : Gen α := throw f

/-- Asks for room for so many records, without a draw. -/
def reserve (r : Record) (n : Nat) : Gen Unit :=
  match r.reserve n with
  | .ok () => pure ()
  | .error f => fail f

/-- A fair coin. -/
def coin : Gen Bool :=
  ofDraw fun s => let (v, s) := readDoubleWord s; (v < 2 ^ (63 : Nat), s)

/-- A coin with given odds. -/
def toss : Odds → Gen Bool
  | .certain => pure true
  | .threshold n => ofDraw fun s => let (v, s) := readDoubleWord s; (v < n, s)
  | .undefined => fail .undefinedProbability

/-- A coin with a given probability. -/
def chance (p : Float) : Gen Bool := toss (.ofProbability p)

/-- A coin that rarely comes up: one time in ten. -/
def rarely : Gen Bool := chance 0.1

/-- A coin that seldom comes up: one time in a hundred. -/
def seldom : Gen Bool := chance 0.01

/-- An index below `n`. There is none below zero. -/
def index (n : Nat) : Gen Nat :=
  if n = 0 then fail .emptyRange else ofDraw (below n)

/-- A number from `low` to `high`, ends included. If these are all the numbers of a double word,
the word itself is the number, read with a sign. -/
def between (low high : Int) : Gen Int :=
  if high < low then fail .emptyInterval
  else do
    let range := (high - low + 1).toNat
    let k ← ofDraw (below range)
    return if range = 2 ^ (64 : Nat) then Int.bmod k (2 ^ (64 : Nat)) else low + k

/-! ## Choices from lists -/

/-- The element at a position. There is none outside of the list. -/
def element {α : Type} (items : List α) (i : Nat) : Gen α :=
  match items[i]? with
  | some a => return a
  | none => fail (.outOfBounds i items.length)

/-- The elements at some positions. -/
def elements {α : Type} (items : List α) : List Nat → Gen (List α)
  | [] => return []
  | i :: rest => do
    let a ← element items i
    return a :: (← elements items rest)

/-- The list without the element at a position. -/
def remove {α : Type} (items : List α) (i : Nat) : Gen (List α) :=
  if i < items.length then return items.eraseIdx i else fail (.outOfBounds i items.length)

/-- An element of the list; nothing is read for the empty list. -/
def choose? {α : Type} (items : List α) : Gen (Option α) :=
  match items with
  | [] => pure none
  | _ => do return some (← element items (← ofDraw (slot items.length)))

/-- An element of a list that is expected to have one. -/
def pick {α : Type} (items : List α) : Gen α := do element items (← index items.length)

/-- The array with the elements at two positions exchanged. -/
def exchange {α : Type} (a : Array α) (i j : Nat) : Gen (Array α) :=
  if h : i < a.size ∧ j < a.size then return a.swap i j h.1 h.2
  else fail (.outOfBounds (max i j) a.size)

/-- Exchanges each position from `n` downwards with one at or below it. -/
def shuffleFrom {α : Type} : Nat → Array α → Gen (Array α)
  | 0, a => pure a
  | n + 1, a => do
    let j ← ofDraw (slot (n + 2))
    shuffleFrom n (← exchange a (n + 1) j)

/-- The elements in a random order. -/
def shuffle {α : Type} (a : Array α) : Gen (Array α) := shuffleFrom (a.size - 1) a

/-- Distinct positions below `n` in increasing order, at least one of them if there is any. -/
def positions (n : Nat) : Gen (List Nat) :=
  if n = 0 then pure []
  else do
    let keep := 1 + (← index n)
    let order ← shuffle (Array.range n)
    return (order.toList.take keep).mergeSort

/-- Some of the elements in their order, at least one if there is any. -/
def subset {α : Type} (items : List α) : Gen (List α) := do
  elements items (← positions items.length)

/-- A list of `n` values drawn one after the other. -/
def times {α : Type} (n : Nat) (g : Gen α) : Gen (List α) :=
  match n with
  | 0 => pure []
  | n + 1 => do
    let a ← g
    return a :: (← times n g)

/-- A text of at most `maxLength` characters of the alphabet. -/
def text (alphabet : List Char) (maxLength : Nat) : Gen String := do
  let length ← ofDraw (below (maxLength + 1))
  return String.ofList (← times length (pick alphabet))

end Gen
end PredicateOracle
