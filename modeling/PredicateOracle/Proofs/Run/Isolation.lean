import Mathlib.Logic.Function.Basic
import PredicateOracle.Proofs.File.Path
import PredicateOracle.Proofs.Number.Reader
import PredicateOracle.Run.Summary

/-!
# PredicateOracle.Proofs.Run.Isolation -- no two workers share a seed or a file

A worker's stream comes from the seed of the run and the worker's number, and the file of its database
from the path in the configuration and that number. Both maps lose nothing. The seed of a fork is an
xor of two words (`forkSeed`): the seed of the run times an odd constant and rotated, and the number
times another odd constant. Each of the steps has an inverse modulo 2⁶⁴, so for one seed all forks
are different and for one number all seeds are. A file name gets the number as a mark behind its stem,
in the directory that the path names (`Path.splitName?_withMark`).
-/

namespace PredicateOracle

open PredicateOracle.Random (Stream)

namespace Random.Stream

/-! ## Words that lose nothing -/

/-- Multiplication by a word that has an inverse is injective. -/
theorem mul_injective {k inverse : UInt64} (hunit : k * inverse = 1) :
    Function.Injective fun x : UInt64 => x * k := by
  intro x y h
  have hback : x * k * inverse = y * k * inverse := congrArg (· * inverse) h
  simpa only [UInt64.mul_assoc, hunit, UInt64.mul_one] using hback

/-- The inverse of the multiplier of seeds. -/
def seedInverse : UInt64 := 0xF1DE83E19937733D

/-- The inverse of the multiplier of numbers. -/
def numberInverse : UInt64 := 0x0BA79078168D4BAF

theorem seed_mul_inverse : 0x9E3779B97F4A7C15 * seedInverse = 1 := by decide

theorem number_mul_inverse : 0xC2B2AE3D27D4EB4F * numberInverse = 1 := by decide

theorem inverse_mul_number : numberInverse * 0xC2B2AE3D27D4EB4F = 1 := by decide

theorem rotate17_toBitVec (x : UInt64) : (rotate17 x).toBitVec = x.toBitVec.rotateLeft 17 := rfl

/-- A rotation to the right undoes one to the left. -/
theorem rotateRight_rotateLeft (x : BitVec 64) : (x.rotateLeft 17).rotateRight 17 = x := by
  ext i hi
  simp only [BitVec.getElem_rotateRight, BitVec.getElem_rotateLeft]
  grind

theorem rotate17_injective : Function.Injective rotate17 := by
  intro x y h
  have hbits : x.toBitVec.rotateLeft 17 = y.toBitVec.rotateLeft 17 := by
    rw [← rotate17_toBitVec, ← rotate17_toBitVec, h]
  apply UInt64.toBitVec_inj.mp
  rw [← rotateRight_rotateLeft x.toBitVec, hbits, rotateRight_rotateLeft]

/-! ## Forks -/

/-- Different seeds have different forks of one number. -/
theorem forkSeed_injective_left (number : UInt64) : Function.Injective (forkSeed · number) := by
  intro s t h
  have hrotated : rotate17 (s * 0x9E3779B97F4A7C15) = rotate17 (t * 0x9E3779B97F4A7C15) :=
    (UInt64.xor_left_inj _).mp h
  exact mul_injective seed_mul_inverse (rotate17_injective hrotated)

/-- The number that a fork of the seed has to have to start from a given word. -/
def numberOf (seed word : UInt64) : UInt64 :=
  (rotate17 (seed * 0x9E3779B97F4A7C15) ^^^ word) * numberInverse

theorem forkSeed_numberOf (seed word : UInt64) : forkSeed seed (numberOf seed word) = word := by
  unfold forkSeed numberOf
  rw [UInt64.mul_assoc, inverse_mul_number, UInt64.mul_one, ← UInt64.xor_assoc, UInt64.xor_self,
    UInt64.zero_xor]

/-- **The forks of a seed are all words**, each for one number. -/
theorem forkSeed_bijective (seed : UInt64) : Function.Bijective (forkSeed seed) := by
  constructor
  · intro m n h
    exact mul_injective number_mul_inverse ((UInt64.xor_right_inj _).mp h)
  · intro word
    exact ⟨numberOf seed word, forkSeed_numberOf seed word⟩

end Random.Stream

/-! ## Files -/

namespace Run

/-- The mark of a worker in the name of its database file. -/
def workerMark (worker : Nat) : String := "-w" ++ toString worker

theorem workerMark_injective : Function.Injective workerMark :=
  Number.append_toString_injective "-w"

theorem slash_not_mem_workerMark (worker : Nat) : '/' ∉ (workerMark worker).toList := by
  intro hmem
  rw [workerMark, String.toList_append, List.mem_append] at hmem
  rcases hmem with h | h
  · exact absurd h (by decide)
  · rcases Number.isDigit_or_minus_of_mem (n := (worker : Int)) h with hdigit | hminus
    · exact absurd hdigit (by decide)
    · exact absurd hminus (by decide)

/-- The file name of a worker's database. -/
def workerName (path : String) (worker : Nat) : String :=
  (Path.nameParts path "trivalent").1 ++ workerMark worker ++ (Path.nameParts path "trivalent").2

theorem workerName_injective (path : String) : Function.Injective (workerName path) := by
  intro i j h
  have hchars := congrArg String.toList h
  rw [workerName, workerName] at hchars
  simp only [String.toList_append, List.append_assoc] at hchars
  have hmark : (workerMark i).toList = (workerMark j).toList :=
    List.append_cancel_right (List.append_cancel_left hchars)
  exact workerMark_injective (String.toList_injective hmark)

/-- A worker's file lies in the directory of the configured path and has the worker's name. -/
theorem splitName?_databasePath {config : Configuration} {path : String}
    (hpath : config.databasePath = some path) (worker : Nat) :
    ∃ file, databasePath config worker = some file ∧
      Path.splitName? file = some (Path.directory path, workerName path worker) := by
  refine ⟨Path.withMark path (workerMark worker) "trivalent", ?_, ?_⟩
  · rw [databasePath, hpath]
    rfl
  · have hw : 'w' ∈ (workerMark worker).toList := by simp [workerMark]
    exact Path.splitName?_withMark path (by decide) (slash_not_mem_workerMark worker) hw (by decide)

/-- **Workers share neither a seed nor a file.** Under every seed the forks of a stream are a bijection
from numbers to seeds, under every number different seeds have different forks, and wherever the
databases are files, any two workers have different files, in the directory of the configured path. -/
theorem workers_isolated :
    (∀ master : Stream, Function.Bijective fun number => (master.fork number).seed) ∧
    (∀ (number : UInt64) (s t : Stream), s.seed ≠ t.seed →
      (s.fork number).seed ≠ (t.fork number).seed) ∧
    (∀ (config : Configuration) (path : String), config.databasePath = some path →
      ∀ i j : Nat, i ≠ j →
        ∃ p q m n, databasePath config i = some p ∧ databasePath config j = some q ∧ p ≠ q ∧
          Path.splitName? p = some (Path.directory path, m) ∧
          Path.splitName? q = some (Path.directory path, n) ∧ m ≠ n) := by
  refine ⟨fun master => Random.Stream.forkSeed_bijective master.seed, ?_, ?_⟩
  · intro number s t hseed hfork
    exact hseed (Random.Stream.forkSeed_injective_left number hfork)
  · intro config path hpath i j hij
    obtain ⟨p, hp, hpsplit⟩ := splitName?_databasePath hpath i
    obtain ⟨q, hq, hqsplit⟩ := splitName?_databasePath hpath j
    have hname : workerName path i ≠ workerName path j := (workerName_injective path).ne hij
    have hne : p ≠ q := by
      intro h
      rw [h, hqsplit] at hpsplit
      exact hname (Prod.mk.inj (Option.some.inj hpsplit)).2.symm
    exact ⟨p, q, _, _, hp, hq, hne, hpsplit, hqsplit, hname⟩

/-- Two seeds, and workers 3 and 12 with a file that has a directory and an extension. -/
theorem workers_isolated_fuzz_file :
    let config : Configuration :=
      { Configuration.standard with databasePath := some "/tmp/fuzz.duckdb" }
    (Stream.ofSeed 7).seed ≠ (Stream.ofSeed 8).seed ∧
    ((Stream.ofSeed 7).fork 3).seed ≠ ((Stream.ofSeed 8).fork 3).seed ∧
    config.databasePath = some "/tmp/fuzz.duckdb" ∧ (3 : Nat) ≠ 12 ∧
    ∃ p q m n, databasePath config 3 = some p ∧ databasePath config 12 = some q ∧ p ≠ q ∧
      Path.splitName? p = some ("/tmp", m) ∧ Path.splitName? q = some ("/tmp", n) ∧ m ≠ n := by
  intro config
  have hseeds : (Stream.ofSeed 7).seed ≠ (Stream.ofSeed 8).seed := by decide
  have hdirectory : Path.directory "/tmp/fuzz.duckdb" = "/tmp" := by decide +kernel
  obtain ⟨-, hforks, hfiles⟩ := workers_isolated
  have hpaths := hfiles config "/tmp/fuzz.duckdb" rfl 3 12 (by decide)
  rw [hdirectory] at hpaths
  exact ⟨hseeds, hforks 3 _ _ hseeds, rfl, by decide, hpaths⟩

end Run
end PredicateOracle
