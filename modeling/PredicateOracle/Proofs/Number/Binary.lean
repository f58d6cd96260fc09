import PredicateOracle.Number.Binary

/-!
# PredicateOracle.Proofs.Number.Binary -- a float is read as the number it stands for

The core library explains a `Float` by a model of its own: the word is unpacked into a sign, a
significand and an exponent, and floats are compared through these. `Binary.ofFloat` reads the same
word by division. The two readings agree (`Binary.ofFloat_eq_ofUnpacked`), and so what a comparison of
floats says can be said of the numbers that they are read as.
-/

namespace PredicateOracle.Number

open Float.Model (UnpackedFloat)
open Float.Model.UnpackedFloat

/-! ## The fields of a word -/

theorem toNat_unpackMantissa (b : BitVec 64) :
    (@unpackMantissa .binary64 b).toNat = b.toNat % 2 ^ (52 : Nat) := by
  simp [unpackMantissa]

theorem toNat_unpackExponent (b : BitVec 64) :
    (@unpackExponent .binary64 b).toNat =
      b.toNat / 2 ^ (52 : Nat) % 2 ^ (11 : Nat) := by
  simp [unpackExponent, Nat.shiftRight_eq_div_pow]

theorem toNat_unpackSign (b : BitVec 64) :
    (@unpackSign .binary64 b).toNat = b.toNat / 2 ^ (63 : Nat) % 2 := by
  show (b.extractLsb' 63 1).toNat = _
  rw [BitVec.extractLsb'_toNat, Nat.shiftRight_eq_div_pow, Nat.pow_one]

theorem ofBitVec_beq_negative (v : BitVec 1) :
    (Sign.ofBitVec v == .negative) = decide (v.toNat = 1) := by
  revert v
  decide

/-- A leading one counts for a power of two. -/
theorem toNat_one_append {w : Nat} (v : BitVec w) : (1#1 ++ v).toNat = 2 ^ w + v.toNat := by
  show (BitVec.cons true v).toNat = _
  rw [BitVec.toNat_cons', Nat.shiftLeft_eq, Bool.toNat_true, Nat.one_mul]

/-! ## The two readings -/

/-- The number that an unpacked word stands for. -/
def Binary.ofUnpacked : UnpackedFloat → Binary
  | .notANumber => .nan
  | .infinity s => .infinite (s == .negative)
  | .zero s => .finite (s == .negative) 0 Format.double.minExponent
  | .finite s m e _ => .finite (s == .negative) m e

/-- **A float is read as what the core library unpacks it into.** -/
theorem Binary.ofFloat_eq_ofUnpacked (x : Float) : ofFloat x = ofUnpacked x.toModel.unpack := by
  obtain ⟨⟨⟨b⟩, _⟩⟩ := x
  show Format.double.decode b.toNat = ofUnpacked (unpack .binary64 b)
  have hnegative : decide (b.toNat / 2 ^ (52 + 11) % 2 = 1) =
      (Sign.ofBitVec (@unpackSign .binary64 b) == .negative) := by
    rw [ofBitVec_beq_negative, toNat_unpackSign]
  simp only [Format.decode, Format.double, Format.topExponent, ← toNat_unpackMantissa,
    ← toNat_unpackExponent]
  -- Both readings split on the exponent field, and on the fraction where the field is extreme.
  by_cases htop : @unpackExponent .binary64 b = -1#11
  · rw [if_pos (by rw [htop]; rfl)]
    by_cases hm : @unpackMantissa .binary64 b = 0#52
    · have hu : unpack .binary64 b = .infinity _ := (if_pos htop).trans (if_pos hm)
      rw [if_pos (by rw [hm]; rfl), hu]
      exact congrArg infinite hnegative
    · have hu : unpack .binary64 b = .notANumber := (if_pos htop).trans (if_neg hm)
      rw [if_neg (by rwa [← BitVec.toNat_inj] at hm), hu]
      rfl
  · rw [if_neg (by rwa [← BitVec.toNat_inj] at htop)]
    by_cases hzero : @unpackExponent .binary64 b = 0#11
    · rw [if_pos (by rw [hzero]; rfl)]
      by_cases hm : @unpackMantissa .binary64 b = 0#52
      · have hu : unpack .binary64 b = .zero _ :=
          (if_neg htop).trans ((if_pos hzero).trans (dif_pos hm))
        rw [hu, hm]
        exact congrArg (finite · 0 Format.double.minExponent) hnegative
      · have hu : ∃ hpositive, unpack .binary64 b = .finite _ _ _ hpositive :=
          ⟨_, (if_neg htop).trans ((if_pos hzero).trans (dif_neg hm))⟩
        obtain ⟨hpositive, hu⟩ := hu
        rw [hu, hzero]
        exact congrArg (finite · _ Format.double.minExponent) hnegative
    · have hu : ∃ hpositive, unpack .binary64 b = .finite _ _ _ hpositive :=
        ⟨_, (if_neg htop).trans (if_neg hzero)⟩
      obtain ⟨hpositive, hu⟩ := hu
      have hexponent (field : Nat) : (-1074 : Int) + field - 1 = field - (1023 + 52) := by omega
      rw [if_neg (by rwa [← BitVec.toNat_inj] at hzero), hu]
      show _ = finite _ (1#1 ++ @unpackMantissa .binary64 b).toNat _
      rw [toNat_one_append]
      exact finite.injEq .. ▸ ⟨hnegative, rfl, hexponent _⟩

/-- Above the smallest exponent a significand has its leading place. -/
theorem Binary.two_pow_le_significand {x : Float} {negative : Bool} {significand : Nat}
    {exponent : Int} (h : ofFloat x = .finite negative significand exponent)
    (hexponent : Format.double.minExponent < exponent) : 2 ^ (52 : Nat) ≤ significand := by
  unfold ofFloat Format.decode at h
  dsimp only at h
  split at h
  · split at h <;> exact absurd h nofun
  · split at h
    · obtain ⟨-, -, rfl⟩ := finite.inj h
      exact absurd hexponent (Int.lt_irrefl _)
    · obtain ⟨-, rfl, -⟩ := finite.inj h
      exact Nat.le_add_right _ _

/-! ## Comparisons -/

theorem le_iff_unpack_le (x y : Float) :
    x ≤ y ↔ x.toModel.unpack.le y.toModel.unpack = true := by
  show Float.le x y = true ↔ _
  exact decide_eq_true_iff

theorem Binary.ofFloat_eq_nan_iff (x : Float) : ofFloat x = .nan ↔ x.isNaN = true := by
  show _ ↔ x.toModel.unpack.isNaN = true
  rw [ofFloat_eq_ofUnpacked]
  cases x.toModel.unpack with
  | notANumber => exact iff_of_true rfl rfl
  | infinity s => exact iff_of_false nofun Bool.false_ne_true
  | zero s => exact iff_of_false nofun Bool.false_ne_true
  | finite s m e hpositive => exact iff_of_false nofun Bool.false_ne_true

/-- **What is at most zero** has a negative sign or no significand. -/
theorem Binary.ofFloat_of_le_zero {x : Float} (h : x ≤ 0) :
    ofFloat x = .infinite true ∨
      ∃ negative significand exponent, ofFloat x = .finite negative significand exponent ∧
        (negative = true ∨ significand = 0) := by
  have hle : x.toModel.unpack.le (.zero .positive) = true := (le_iff_unpack_le x 0).mp h
  rw [ofFloat_eq_ofUnpacked]
  generalize x.toModel.unpack = u at hle ⊢
  match u with
  | .infinity .negative => exact .inl rfl
  | .zero s => exact .inr ⟨_, _, _, rfl, .inr rfl⟩
  | .finite .negative m e _ => exact .inr ⟨_, _, _, rfl, .inl rfl⟩

/-- **What is at least one** has no sign and a number of full size. -/
theorem Binary.ofFloat_of_one_le {x : Float} (h : 1 ≤ x) :
    ofFloat x = .infinite false ∨
      ∃ significand exponent, ofFloat x = .finite false significand exponent ∧
        2 ^ (52 : Nat) ≤ significand ∧ -52 ≤ exponent := by
  have hle : (UnpackedFloat.finite .positive (2 ^ (52 : Nat)) (-52) (by decide)).le
      x.toModel.unpack = true := (le_iff_unpack_le 1 x).mp h
  have hx := ofFloat_eq_ofUnpacked x
  generalize x.toModel.unpack = u at hle hx
  match u with
  | .infinity .positive => exact .inl hx
  | .finite .positive m e _ =>
    have hexponent : -52 ≤ e := by
      apply Int.not_lt.mp
      intro hlt
      have hgt : compare (-52 : Int) e = .gt := Int.compare_eq_gt.mpr hlt
      change ((compare (-52 : Int) e).then (compare (2 ^ (52 : Nat)) m)).isLE = true at hle
      rw [hgt] at hle
      exact absurd hle Bool.false_ne_true
    refine .inr ⟨m, e, hx, two_pow_le_significand hx ?_, hexponent⟩
    show (-1074 : Int) < e
    omega

end PredicateOracle.Number
