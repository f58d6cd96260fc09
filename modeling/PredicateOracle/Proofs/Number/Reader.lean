import PredicateOracle.Number.Reader
import Mathlib.Data.List.Basic

/-!
# PredicateOracle.Proofs.Number.Reader -- a printed number is read as itself

Whole numbers are printed by the standard library and read by `readInt?`. The reader takes a sign
off first, so the digits of a natural number have to be told from a sign.
-/

namespace PredicateOracle.Number

theorem digitsValue_toDigits (n : Nat) : digitsValue (Nat.toDigits 10 n) = n := by
  have hfold : digitsValue (Nat.toDigits 10 n) = Nat.ofDigitChars 10 (Nat.toDigits 10 n) 0 := by
    unfold digitsValue Nat.ofDigitChars
    simp only [Nat.mul_comm]
  rw [hfold, Nat.ofDigitChars_ten_toDigits]

theorem isDigit_of_mem_toDigits {n : Nat} {c : Char} (hc : c ∈ Nat.toDigits 10 n) :
    c.isDigit = true := Nat.isDigit_of_mem_toDigits (by decide) (by decide) hc

theorem readNat?_toDigits (n : Nat) : readNat? (Nat.toDigits 10 n) = some n := by
  have hall : (Nat.toDigits 10 n).all Char.isDigit = true :=
    List.all_eq_true.mpr fun c hc => isDigit_of_mem_toDigits hc
  simp [readNat?, hall, digitsValue_toDigits]

/-- A text of digits has no sign. -/
theorem splitSign_toDigits (n : Nat) :
    splitSign (Nat.toDigits 10 n) = (false, Nat.toDigits 10 n) := by
  unfold splitSign
  split
  · rename_i cs hcs
    have hdigit : '-'.isDigit = true := isDigit_of_mem_toDigits (hcs ▸ List.mem_cons_self)
    exact absurd hdigit (by decide)
  · rename_i cs hcs
    have hdigit : '+'.isDigit = true := isDigit_of_mem_toDigits (hcs ▸ List.mem_cons_self)
    exact absurd hdigit (by decide)
  · rfl

theorem toList_toString_ofNat (n : Nat) : (toString (n : Int)).toList = Nat.toDigits 10 n := by
  show (Nat.repr n).toList = _
  exact Nat.toList_repr

theorem toList_toString_negSucc (n : Nat) :
    (toString (Int.negSucc n)).toList = '-' :: Nat.toDigits 10 (n + 1) := by
  show ("-" ++ Nat.repr (n + 1)).toList = _
  rw [String.toList_append, Nat.toList_repr]
  rfl

/-- **A printed number is read as the number.** -/
theorem readInt?_toString (n : Int) : readInt? (toString n) = some n := by
  unfold readInt?
  cases n with
  | ofNat n =>
    rw [Int.ofNat_eq_natCast, toList_toString_ofNat, splitSign_toDigits]
    simp [readNat?_toDigits]
  | negSucc n =>
    rw [toList_toString_negSucc]
    simp [splitSign, readNat?_toDigits, Int.negSucc_eq]

/-- Different natural numbers are printed differently. -/
theorem toString_nat_injective : Function.Injective (toString : Nat → String) := by
  intro m n h
  have hread : readInt? (toString (m : Int)) = readInt? (toString (n : Int)) := congrArg readInt? h
  rw [readInt?_toString, readInt?_toString] at hread
  exact Int.ofNat.inj (Option.some.inj hread)

/-- Names that end in different numbers are different. -/
theorem append_toString_injective (stem : String) :
    Function.Injective fun n : Nat => stem ++ toString n := by
  intro m n h
  have hchars : stem.toList ++ (toString m).toList = stem.toList ++ (toString n).toList := by
    rw [← String.toList_append, ← String.toList_append]
    exact congrArg String.toList h
  exact toString_nat_injective (String.toList_injective (List.append_cancel_left hchars))

/-- A printed number consists of digits and perhaps a minus. -/
theorem isDigit_or_minus_of_mem {n : Int} {c : Char} (hc : c ∈ (toString n).toList) :
    c.isDigit = true ∨ c = '-' := by
  cases n with
  | ofNat n =>
    rw [Int.ofNat_eq_natCast, toList_toString_ofNat] at hc
    exact .inl (isDigit_of_mem_toDigits hc)
  | negSucc n =>
    rw [toList_toString_negSucc, List.mem_cons] at hc
    rcases hc with h | h
    · exact .inr h
    · exact .inl (isDigit_of_mem_toDigits h)

/-- No text with a character other than a digit or a minus is a printed number. -/
theorem toString_ne {n : Int} {w : List Char} {c : Char} (hc : c ∈ w)
    (hdigit : c.isDigit = false) (hminus : c ≠ '-') : (toString n).toList ≠ w := by
  intro h
  rcases isDigit_or_minus_of_mem (n := n) (h ▸ hc) with hd | hm
  · rw [hdigit] at hd
    exact absurd hd (by decide)
  · exact hminus hm

end PredicateOracle.Number
