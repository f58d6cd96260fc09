import PredicateOracle.Proofs.Number.Binary
import PredicateOracle.Proofs.Random.Draw

/-!
# PredicateOracle.Proofs.Random.Odds -- coins at the ends of the scale

The odds of a probability depend on the number that it stands for. From one upwards the coin always
comes up and from zero downwards it never does; only a probability that is not a number has no odds.
-/

namespace PredicateOracle

open PredicateOracle.Random
open PredicateOracle.Number (Binary)

/-! ## The odds of a probability -/

namespace Random.Odds

variable {p : Float}

theorem ofProbability_of_le_zero (h : p ≤ 0) : ofProbability p = .threshold 0 := by
  unfold ofProbability
  obtain hp | ⟨negative, significand, exponent, hp, hnone⟩ := Binary.ofFloat_of_le_zero h
  · rw [hp]
    rfl
  · rw [hp]
    rcases hnone with rfl | rfl
    · rfl
    · simp

/-- A number of full size is at least one when it is scaled by `2 ^ 64`. -/
theorem ofProbability_of_one_le (h : 1 ≤ p) : ofProbability p = .certain := by
  unfold ofProbability
  obtain hp | ⟨significand, exponent, hp, hsignificand, hexponent⟩ := Binary.ofFloat_of_one_le h
  · rw [hp]
    rfl
  · rw [hp]
    have hscale : (12 : Nat) ≤ (exponent + 64).toNat := by omega
    have hfull : 2 ^ (64 : Nat) ≤ significand * 2 ^ (exponent + 64).toNat :=
      calc 2 ^ (64 : Nat) = 2 ^ (52 : Nat) * 2 ^ (12 : Nat) := by decide
        _ ≤ significand * 2 ^ (exponent + 64).toNat :=
          Nat.mul_le_mul hsignificand (Nat.pow_le_pow_right (by decide) hscale)
    have hwhole : (-(exponent + 64)).toNat = 0 := by omega
    simp only [Bool.false_eq_true, if_false, hwhole, Nat.pow_zero, Nat.div_one]
    exact if_neg (Nat.not_lt.mpr hfull)

theorem ofProbability_eq_undefined_iff : ofProbability p = .undefined ↔ p.isNaN = true := by
  rw [← Binary.ofFloat_eq_nan_iff]
  unfold ofProbability
  cases Binary.ofFloat p with
  | nan => exact iff_of_true rfl rfl
  | infinite negative => cases negative <;> simp
  | finite negative significand exponent =>
    refine iff_of_false ?_ nofun
    dsimp only
    split
    · exact nofun
    · split <;> exact nofun

end Random.Odds

/-! ## Tossing -/

namespace Gen

open Random.Odds

variable {p : Float}

theorem runOn_chance_of_one_le (h : 1 ≤ p) (s : Stream) : (chance p).runOn s = (.ok true, s) := by
  rw [chance, ofProbability_of_one_le h]
  rfl

theorem runOn_chance_of_le_zero (h : p ≤ 0) (s : Stream) :
    ((chance p).runOn s).1 = .ok false := by
  rw [chance, ofProbability_of_le_zero h]
  rfl

/-- A coin has no side only if its probability is not a number. -/
theorem runOn_chance_eq_error {s t : Stream} {f : Fault} (h : (chance p).runOn s = (.error f, t)) :
    f = .undefinedProbability ∧ p.isNaN = true := by
  have hyields := yields_chance (List.mem_singleton_self p)
  obtain ⟨⟨hf, q, hq, hodds⟩, -⟩ := hyields.of_runOn_error h
  rw [List.mem_singleton.mp hq] at hodds
  exact ⟨hf, ofProbability_eq_undefined_iff.mp hodds⟩

end Gen
end PredicateOracle
