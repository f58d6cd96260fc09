import PredicateOracle.Proofs.Random.Draw

/-!
# PredicateOracle.Proofs.Random.Index -- every number of a range can be drawn

A number below a range is the high part of a double word times the range. For each number there is a
word that leads to it, and is not refused: the smallest one whose product with the range reaches the
number, because it goes beyond it by less than the range (`exists_word`). So a stream that starts with
that word draws the number, and reads nothing more.
-/

namespace PredicateOracle

open PredicateOracle.Random

namespace Random

/-- Some word times the range goes beyond a multiple of `2 ^ bits` by less than the range. -/
theorem exists_word {bits range k : Nat} (hk : k < range) (hrange : range ≤ 2 ^ bits) :
    ∃ w < 2 ^ bits, w * range / 2 ^ bits = k ∧ w * range % 2 ^ bits < range := by
  have hpos : 0 < range := by omega
  -- The word is the quotient rounded up, and `r` is what rounding up adds to the product.
  obtain ⟨w, r, hr, hw⟩ : ∃ w r, r < range ∧ w * range = k * 2 ^ bits + r := by
    have hdivision := Nat.div_add_mod (k * 2 ^ bits + (range - 1)) range
    have hmod := Nat.mod_lt (k * 2 ^ bits + (range - 1)) hpos
    refine ⟨(k * 2 ^ bits + (range - 1)) / range,
      range - 1 - (k * 2 ^ bits + (range - 1)) % range, by omega, ?_⟩
    rw [Nat.mul_comm]
    omega
  have hsmall : r < 2 ^ bits := by omega
  refine ⟨w, ?_, ?_, ?_⟩
  · refine Nat.lt_of_mul_lt_mul_right (a := range) ?_
    calc w * range = k * 2 ^ bits + r := hw
      _ < (k + 1) * 2 ^ bits := by rw [Nat.succ_mul]; omega
      _ ≤ range * 2 ^ bits := Nat.mul_le_mul_right _ hk
      _ = 2 ^ bits * range := Nat.mul_comm _ _
  · rw [hw, Nat.mul_comm, Nat.mul_add_div (Nat.two_pow_pos bits), Nat.div_eq_of_lt hsmall,
      Nat.add_zero]
  · rw [hw, Nat.mul_comm, Nat.mul_add_mod, Nat.mod_eq_of_lt hsmall]
    exact hr

/-- What lies below the range is accepted. -/
theorem le_acceptanceBound {bits range r : Nat} (hr : r < range) : r ≤ acceptanceBound bits range := by
  unfold acceptanceBound
  rw [Nat.shiftLeft_eq]
  have hle : range ≤ range * 2 ^ (bits - 1 - range.log2) :=
    Nat.le_mul_of_pos_right _ (Nat.two_pow_pos _)
  omega

end Random

namespace Gen

/-- **Every index can be drawn**: some double word at the start of a stream leads to it. -/
theorem exists_word_index {n k : Nat} (hk : k < n) (hn : n ≤ 2 ^ (64 : Nat)) :
    ∃ w < 2 ^ (64 : Nat), ∀ s, (readDoubleWord s).1 = w →
      (index n).runOn s = (.ok k, (readDoubleWord s).2) := by
  by_cases hall : n = 2 ^ (64 : Nat)
  · -- A range of all double words takes one as it is.
    refine ⟨k, hall ▸ hk, fun s hs => ?_⟩
    rw [index, if_neg (by omega), runOn_ofDraw, below, if_pos hall, hs]
  · obtain ⟨w, hw, hquotient, hremainder⟩ := exists_word hk hn
    refine ⟨w, hw, fun s hs => ?_⟩
    have haccepted : w * n % 2 ^ (64 : Nat) ≤ acceptanceBound 64 n := le_acceptanceBound hremainder
    have hdraw : below n s = (k, (readDoubleWord s).2) := by
      rw [below, if_neg hall, maxRefusals, reduceFrom]
      simp only [hs, hquotient, if_pos haccepted]
    rw [index, if_neg (by omega), runOn_ofDraw, hdraw]

/-- **Every element can be picked**: some double word at the start of a stream leads to its
position. -/
theorem exists_word_pick {α : Type} {items : List α} {k : Nat} {a : α} (ha : items[k]? = some a)
    (hlength : items.length ≤ 2 ^ (64 : Nat)) :
    ∃ w < 2 ^ (64 : Nat), ∀ s, (readDoubleWord s).1 = w →
      (pick items).runOn s = (.ok a, (readDoubleWord s).2) := by
  obtain ⟨hk, -⟩ := List.getElem?_eq_some_iff.mp ha
  obtain ⟨w, hw, hindex⟩ := exists_word_index hk hlength
  refine ⟨w, hw, fun s hs => ?_⟩
  rw [pick, runOn_bind, hindex s hs]
  simp [element, ha]

end Gen
end PredicateOracle
