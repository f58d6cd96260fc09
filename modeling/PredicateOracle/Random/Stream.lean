import PredicateOracle.Random.Keystream

/-!
# PredicateOracle.Random.Stream -- a reading position in a seed's word sequence

A `Stream` is a seed and the number of words already read. The group of sixteen words around the
position is kept beside them, with a proof that it is that group, so a stream is determined by its
seed and its position (`Stream.ext_position`) and reading gives the words of the sequence in order
(`Stream.word_fst`).
-/

namespace PredicateOracle.Random

/-- A seed, a reading position, and the sixteen words around it. -/
structure Stream where
  /-- The seed that the sequence belongs to. -/
  seed : UInt64
  /-- How many words have been read. -/
  position : Nat
  /-- The group of words that the position lies in. -/
  group : Block
  group_eq : group = Keystream.block seed (position / 16)

namespace Stream

/-- The stream of a seed, with nothing read. -/
def ofSeed (seed : UInt64) : Stream :=
  ⟨seed, 0, Keystream.block seed 0, rfl⟩

instance : Inhabited Stream := ⟨ofSeed 0⟩

/-- A stream is its seed and its position. -/
theorem ext_position {s t : Stream} (hseed : s.seed = t.seed) (hpos : s.position = t.position) :
    s = t := by
  obtain ⟨a, p, g, hg⟩ := s
  obtain ⟨b, q, h, hh⟩ := t
  obtain rfl : a = b := hseed
  obtain rfl : p = q := hpos
  obtain rfl : g = h := hg.trans hh.symm
  rfl

/-- Reads one word. -/
def word (s : Stream) : UInt32 × Stream :=
  let read := s.group.get ⟨s.position % 16, Nat.mod_lt _ (by decide)⟩
  if h : (s.position + 1) / 16 = s.position / 16 then
    (read, ⟨s.seed, s.position + 1, s.group, h ▸ s.group_eq⟩)
  else
    (read, ⟨s.seed, s.position + 1, Keystream.block s.seed ((s.position + 1) / 16), rfl⟩)

theorem word_fst (s : Stream) : s.word.1 = Keystream.word s.seed s.position := by
  unfold word Keystream.word
  split <;> simp only [s.group_eq]

@[simp] theorem word_seed (s : Stream) : s.word.2.seed = s.seed := by
  unfold word; split <;> rfl

@[simp] theorem word_position (s : Stream) : s.word.2.position = s.position + 1 := by
  unfold word; split <;> rfl

/-- Reads a 64-bit word: two words, the low half first. -/
def doubleWord (s : Stream) : UInt64 × Stream :=
  let (low, s) := s.word
  let (high, s) := s.word
  (high.toUInt64 <<< 32 ||| low.toUInt64, s)

@[simp] theorem doubleWord_seed (s : Stream) : s.doubleWord.2.seed = s.seed := by
  simp [doubleWord]

/-! ## Derived streams -/

/-- Rotation of a 64-bit word to the left by seventeen places. -/
def rotate17 (x : UInt64) : UInt64 :=
  (x <<< 17) ||| (x >>> 47)

/-- The seed of the stream with a given number under a given seed. -/
def forkSeed (seed number : UInt64) : UInt64 :=
  rotate17 (seed * 0x9E3779B97F4A7C15) ^^^ (number * 0xC2B2AE3D27D4EB4F)

/-- The derived stream with a given number. It depends on the seed alone, not on the position. -/
def fork (s : Stream) (number : UInt64) : Stream :=
  ofSeed (forkSeed s.seed number)

@[simp] theorem fork_seed (s : Stream) (number : UInt64) :
    (s.fork number).seed = forkSeed s.seed number := rfl

end Stream
end PredicateOracle.Random
