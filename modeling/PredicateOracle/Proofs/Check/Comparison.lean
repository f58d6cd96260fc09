import PredicateOracle.Proofs.Check.Expected
import Mathlib.Data.List.Count
import Mathlib.Data.List.Perm.Subperm

/-!
# PredicateOracle.Proofs.Check.Comparison -- when no mismatch is found

Each policy finds no mismatch exactly if the two answers are equal in its sense: as lists, or up to
the order of their rows. A comparison as sets also counts the rows, and that is enough: if the expected
answer has no duplicates, an answer of as many rows with the same members has none either
(`Comparison.mismatch?_set`).
-/

namespace PredicateOracle

namespace Row

theorem sortedDistinct_eq_nil_iff {rows : List Row} : sortedDistinct rows = [] ↔ rows = [] := by
  rw [sortedDistinct, ← List.length_eq_zero_iff, List.length_mergeSort, List.length_eq_zero_iff]
  cases rows with
  | nil => simp
  | cons r rows => simp [List.eraseDups_cons]

end Row

namespace Comparison

variable {expected actual : List Row}

/-! ## Lists -/

theorem firstDifference_eq_none_iff (index : Nat) (hlength : expected.length = actual.length) :
    firstDifference index expected actual = none ↔ actual = expected := by
  induction expected generalizing index actual with
  | nil => simpa [firstDifference, eq_comm] using hlength
  | cons e expected ih =>
    cases actual with
    | nil => cases hlength
    | cons a actual =>
      unfold firstDifference
      by_cases heq : e = a
      · subst heq
        simp [ih (index + 1) (Nat.succ.inj hlength)]
      · have hne : ¬a = e := fun h => heq h.symm
        by_cases hwidth : e.length = a.length <;> simp [hwidth, heq, hne]

theorem mismatch?_ordered : mismatch? .ordered expected actual = none ↔ actual = expected := by
  by_cases hlength : expected.length = actual.length
  · rw [mismatch?, if_neg (not_not_intro hlength)]
    exact firstDifference_eq_none_iff 0 hlength
  · rw [mismatch?, if_pos hlength]
    refine iff_of_false (by simp) fun h => hlength ?_
    rw [h]

/-! ## Multisets -/

theorem surplus_eq_nil_iff : surplus expected actual = [] ↔
    ∀ r, expected.count r ≤ actual.count r := by
  rw [surplus, Row.sortedDistinct_eq_nil_iff, List.filter_eq_nil_iff]
  constructor
  · intro h r
    by_cases hmem : r ∈ expected
    · have := h r hmem
      simpa using this
    · rw [List.count_eq_zero_of_not_mem hmem]
      exact Nat.zero_le _
  · intro h r _
    simpa using h r

theorem mismatch?_multiset :
    mismatch? .multiset expected actual = none ↔ actual.Perm expected := by
  by_cases hlength : expected.length = actual.length
  · have hcount : surplus expected actual = [] ∧ surplus actual expected = [] ↔
        actual.Perm expected := by
      rw [surplus_eq_nil_iff, surplus_eq_nil_iff, List.perm_iff_count]
      constructor
      · rintro ⟨hle, hge⟩ r
        exact Nat.le_antisymm (hge r) (hle r)
      · intro h
        exact ⟨fun r => Nat.le_of_eq (h r).symm, fun r => Nat.le_of_eq (h r)⟩
    rw [mismatch?, if_neg (not_not_intro hlength), ← hcount]
    simp
  · rw [mismatch?, if_pos hlength]
    exact iff_of_false (by simp) fun h => hlength h.length_eq.symm

/-! ## Sets -/

theorem difference_eq_nil_iff : difference expected actual = [] ↔ expected ⊆ actual := by
  rw [difference, Row.sortedDistinct_eq_nil_iff, List.filter_eq_nil_iff]
  simp [List.subset_def]

/-- **A comparison as sets notices duplicates.** Against an expected answer without duplicates, only
its permutations pass. -/
theorem mismatch?_set (hnodup : expected.Nodup) :
    mismatch? .set expected actual = none ↔ actual.Perm expected := by
  by_cases hlength : expected.length = actual.length
  · have hmembers : difference expected actual = [] ∧ difference actual expected = [] ↔
        actual.Perm expected := by
      rw [difference_eq_nil_iff, difference_eq_nil_iff]
      constructor
      · rintro ⟨hsub, -⟩
        -- A list without duplicates that lies in another one of its length is all of it.
        have hsubperm := List.subperm_of_subset hnodup hsub
        exact (hsubperm.perm_of_length_le (Nat.le_of_eq hlength.symm)).symm
      · intro h
        exact ⟨h.symm.subset, h.subset⟩
    rw [mismatch?, if_neg (not_not_intro hlength), ← hmembers]
    simp
  · rw [mismatch?, if_pos hlength]
    exact iff_of_false (by simp) fun h => hlength h.length_eq.symm

end Comparison

/-! ## Modes -/

/-- **`mode.Agrees ordered expected actual`** -- an answer counts as the expected one. A plain ordered
query fixes the order of its rows, every other query leaves it open. -/
def Mode.Agrees (mode : Mode) (ordered : Bool) (expected actual : List Row) : Prop :=
  match mode, ordered with
  | .plain, true => actual = expected
  | _, _ => actual.Perm expected

instance (mode : Mode) (ordered : Bool) (expected actual : List Row) :
    Decidable (mode.Agrees ordered expected actual) :=
  match mode, ordered with
  | .plain, true => inferInstanceAs (Decidable (actual = expected))
  | .plain, false => inferInstanceAs (Decidable (actual.Perm expected))
  | .distinct, _ => inferInstanceAs (Decidable (actual.Perm expected))

/-- What a mode returns of some rows does not depend on their order, up to order. -/
theorem Mode.answer_perm (mode : Mode) {rows rows' : List Row} (h : rows.Perm rows') :
    (mode.answer rows).Perm (mode.answer rows') := by
  cases mode with
  | plain => exact h
  | distinct =>
    refine (List.perm_ext_iff_of_nodup (Expected.nodup_eraseDups rows)
      (Expected.nodup_eraseDups rows')).mpr fun r => ?_
    rw [List.mem_eraseDups, List.mem_eraseDups]
    exact h.mem_iff

/-- No mismatch is found exactly if the answer agrees with the expected one of its mode. -/
theorem Mode.mismatch?_eq_none_iff (mode : Mode) (ordered : Bool) (rows actual : List Row) :
    Comparison.mismatch? (.forQuery (mode = .distinct) ordered) (mode.answer rows) actual = none ↔
      mode.Agrees ordered (mode.answer rows) actual := by
  cases mode with
  | plain =>
    cases ordered with
    | true => exact Comparison.mismatch?_ordered
    | false => exact Comparison.mismatch?_multiset
  | distinct => exact Comparison.mismatch?_set (Expected.nodup_eraseDups rows)

end PredicateOracle
