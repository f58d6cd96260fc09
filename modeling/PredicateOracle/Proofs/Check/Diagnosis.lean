import Mathlib.Data.List.Lex
import Mathlib.Data.String.Basic
import Mathlib.Order.WithBot
import PredicateOracle.Proofs.Check.Comparison

/-!
# PredicateOracle.Proofs.Check.Diagnosis -- what a mismatch says

A mismatch is not only found, it is also explained, and the explanation is exact. Ordered answers are
told apart at the first place where they differ. Multisets and sets are told apart by two lists of
rows, the missing and the unexpected ones; each list is strictly increasing (`Lists`), so it is
determined by its members. Between answers of one length no multiset mismatch is one-sided: a row
that occurs too seldom makes room for one that occurs too often (`Comparison.surplus_ne_nil`).
-/

namespace PredicateOracle

/-! ## The order of rows -/

namespace Row

/-- **`Before r s`** -- the row `r` comes before the row `s` in the order in which rows are listed: by
the first cell in which they differ, NULL before every text, and a row before its extensions. -/
def Before (r s : Row) : Prop := @LT.lt (List (WithBot String)) _ r s

theorem cellLt_iff (a b : Option String) : cellLt a b = true ↔ @LT.lt (WithBot String) _ a b := by
  cases a with
  | none =>
    cases b with
    | none => exact iff_of_false nofun (lt_irrefl (⊥ : WithBot String))
    | some b => exact iff_of_true rfl (WithBot.bot_lt_coe b)
  | some a =>
    cases b with
    | none => exact iff_of_false nofun (not_lt_bot (a := (a : WithBot String)))
    | some b => exact decide_eq_true_iff.trans WithBot.coe_lt_coe.symm

/-- The order that rows are sorted by is the lexicographic one. -/
theorem le_iff (r s : Row) : le r s = true ↔ r = s ∨ Before r s := by
  induction r generalizing s with
  | nil =>
    cases s with
    | nil => exact iff_of_true rfl (.inl rfl)
    | cons b s => exact iff_of_true rfl (.inr .nil)
  | cons a r ih =>
    cases s with
    | nil => exact iff_of_false nofun (by rintro (h | h) <;> cases h)
    | cons b s =>
      rw [le, Bool.or_eq_true, Bool.and_eq_true, decide_eq_true_iff, cellLt_iff, ih]
      constructor
      · rintro (h | ⟨rfl, rfl | h⟩)
        · exact .inr (.rel h)
        · exact .inl rfl
        · exact .inr (.cons h)
      · rintro (h | h)
        · cases h
          exact .inr ⟨rfl, .inl rfl⟩
        · cases h with
          | rel h => exact .inl h
          | cons h => exact .inr ⟨rfl, .inr h⟩

variable {r : Row} {rows : List Row}

theorem mem_sortedDistinct : r ∈ sortedDistinct rows ↔ r ∈ rows := by
  rw [sortedDistinct, List.mem_mergeSort, List.mem_eraseDups]

/-- Sorted rows without duplicates are strictly increasing. -/
theorem pairwise_sortedDistinct (rows : List Row) : (sortedDistinct rows).Pairwise Before := by
  have hsorted : (sortedDistinct rows).Pairwise fun r s => le r s = true := by
    refine List.pairwise_mergeSort (fun r s t hrs hst => ?_) (fun r s => ?_) _
    · obtain rfl | hrs := (le_iff r s).mp hrs
      · exact hst
      obtain rfl | hst := (le_iff s t).mp hst
      · exact (le_iff r s).mpr (.inr hrs)
      · exact (le_iff r t).mpr (.inr (lt_trans (α := List (WithBot String)) hrs hst))
    · rw [Bool.or_eq_true, le_iff, le_iff]
      obtain h | h | h := lt_trichotomy (α := List (WithBot String)) r s
      · exact .inl (.inr h)
      · exact .inl (.inl h)
      · exact .inr (.inr h)
  have hnodup : (sortedDistinct rows).Nodup :=
    (List.mergeSort_perm _ _).nodup_iff.mpr (Expected.nodup_eraseDups rows)
  refine (hsorted.and hnodup).imp fun {r s} h => ?_
  exact ((le_iff r s).mp h.1).resolve_left h.2

end Row

/-- **`Lists rows P`** -- the rows with the property `P` are listed, in strictly increasing order. -/
structure Lists (rows : List Row) (P : Row → Prop) : Prop where
  increasing : rows.Pairwise Row.Before
  mem_iff : ∀ r, r ∈ rows ↔ P r

namespace Comparison

variable {expected actual : List Row} {m : Mismatch}

/-! ## Lists -/

/-- The mismatch of two rows at a place. -/
def rowMismatch (index : Nat) (e a : Row) : Mismatch :=
  if e.length ≠ a.length then .rowWidth index e.length a.length else .row index e a

/-- A reported difference is at the first place where the lists differ: they agree up to it. -/
theorem exists_of_firstDifference {index : Nat} (h : firstDifference index expected actual = some m) :
    ∃ i e a, expected.take i = actual.take i ∧ expected[i]? = some e ∧ actual[i]? = some a ∧
      e ≠ a ∧ m = rowMismatch (index + i) e a := by
  induction expected generalizing index actual with
  | nil => cases h
  | cons e expected ih =>
    cases actual with
    | nil => cases h
    | cons a actual =>
      unfold firstDifference at h
      by_cases heq : e = a
      · subst heq
        rw [if_neg (not_not_intro rfl), if_neg (not_not_intro rfl)] at h
        obtain ⟨i, e', a', htake, he, ha, hne, rfl⟩ := ih h
        refine ⟨i + 1, e', a', ?_, he, ha, hne, ?_⟩
        · rw [List.take_succ_cons, List.take_succ_cons, htake]
        · rw [Nat.add_right_comm, Nat.add_assoc]
      · refine ⟨0, e, a, rfl, rfl, rfl, heq, ?_⟩
        rw [if_pos heq, ← apply_ite] at h
        exact (Option.some.inj h).symm

/-! ## Multisets and sets -/

/-- The surplus of a list lists the rows that occur more often in it. -/
theorem lists_surplus (more fewer : List Row) :
    Lists (surplus more fewer) fun r => fewer.count r < more.count r := by
  refine ⟨Row.pairwise_sortedDistinct _, fun r => ?_⟩
  rw [surplus, Row.mem_sortedDistinct, List.mem_filter, decide_eq_true_iff]
  exact and_iff_right_of_imp fun h => List.count_pos_iff.mp (Nat.zero_lt_of_lt h)

/-- The difference of two lists lists the rows of one that the other one lacks. -/
theorem lists_difference (more fewer : List Row) :
    Lists (difference more fewer) fun r => r ∈ more ∧ r ∉ fewer := by
  refine ⟨Row.pairwise_sortedDistinct _, fun r => ?_⟩
  rw [difference, Row.mem_sortedDistinct, List.mem_filter]
  simp

/-- **No row occurs too often unless another one occurs too seldom**, among as many rows. -/
theorem surplus_ne_nil (hlength : expected.length = actual.length) (hperm : ¬ actual.Perm expected) :
    surplus expected actual ≠ [] := by
  intro hnil
  -- If no row occurred too seldom, the expected rows would be a part of the actual ones, and all of
  -- them, since there are no more.
  have hsubperm : expected.Subperm actual :=
    List.subperm_ext_iff.mpr fun r _ => surplus_eq_nil_iff.mp hnil r
  exact hperm (hsubperm.perm_of_length_le (Nat.le_of_eq hlength.symm)).symm

theorem eq_of_mismatch?_multiset (hlength : expected.length = actual.length)
    (h : mismatch? .multiset expected actual = some m) :
    m = .multiset (surplus expected actual) (surplus actual expected) := by
  rw [mismatch?, if_neg (not_not_intro hlength)] at h
  dsimp only at h
  split at h
  · cases h
  · exact (Option.some.inj h).symm

theorem eq_of_mismatch?_set (hlength : expected.length = actual.length)
    (h : mismatch? .set expected actual = some m) :
    m = .set (difference expected actual) (difference actual expected) := by
  rw [mismatch?, if_neg (not_not_intro hlength)] at h
  dsimp only at h
  split at h
  · cases h
  · exact (Option.some.inj h).symm

theorem mismatch?_set_iff (hlength : expected.length = actual.length) :
    mismatch? .set expected actual = none ↔ ∀ r, r ∈ expected ↔ r ∈ actual := by
  rw [mismatch?, if_neg (not_not_intro hlength)]
  have hmembers : difference expected actual = [] ∧ difference actual expected = [] ↔
      ∀ r, r ∈ expected ↔ r ∈ actual := by
    rw [difference_eq_nil_iff, difference_eq_nil_iff]
    exact ⟨fun h r => ⟨(h.1 ·), (h.2 ·)⟩, fun h => ⟨fun r => (h r).mp, fun r => (h r).mpr⟩⟩
  rw [← hmembers]
  simp

/-- The answer that a distinct check expects has no duplicates: rows are told apart by all of their
cells, and all of their cells are returned. -/
theorem nodup_expectedRows {s : Snapshot} {k : Known}
    (h : Oracle.expectedRows .distinct s k = .ok expected) : expected.Nodup := by
  rw [Oracle.expectedRows, Expected.distinct] at h
  cases hmatching : Expected.matching s.rows k.truth with
  | error d =>
    rw [hmatching] at h
    cases h
  | ok u =>
    have hid : Projection.fullRow.apply = id := rfl
    rw [hmatching, hid, List.map_id] at h
    cases h
    exact Expected.nodup_eraseDups _

/-! ## All policies -/

/-- **A comparison decides its policy, and its diagnosis is exact.** Answers of different lengths
are told apart by their lengths under every policy. Of the others, lists are told apart at the least
place where they differ, multisets by the rows that occur too seldom and those that occur too often,
of which there are some of both, and sets by the rows that one of them lacks. A comparison as sets
that finds nothing, against an expected answer without duplicates, finds a permutation of it; and the
answer that a distinct check expects has no duplicates. -/
theorem mismatch?_exact (expected actual : List Row) :
    (expected.length ≠ actual.length →
      ∀ p, mismatch? p expected actual = some (.rowCount expected.length actual.length)) ∧
    (expected.length = actual.length →
      ((mismatch? .ordered expected actual = none ↔ actual = expected) ∧
        ∀ m, mismatch? .ordered expected actual = some m →
          ∃ i e a, (∀ j < i, expected[j]? = actual[j]?) ∧ expected[i]? = some e ∧
            actual[i]? = some a ∧ e ≠ a ∧
            (e.length ≠ a.length → m = .rowWidth i e.length a.length) ∧
            (e.length = a.length → m = .row i e a)) ∧
      ((mismatch? .multiset expected actual = none ↔ actual.Perm expected) ∧
        ∀ m, mismatch? .multiset expected actual = some m →
          ∃ missing unexpected, m = .multiset missing unexpected ∧
            missing ≠ [] ∧ unexpected ≠ [] ∧
            Lists missing (fun r => actual.count r < expected.count r) ∧
            Lists unexpected (fun r => expected.count r < actual.count r)) ∧
      ((mismatch? .set expected actual = none ↔ ∀ r, r ∈ expected ↔ r ∈ actual) ∧
        ∀ m, mismatch? .set expected actual = some m →
          ∃ missing unexpected, m = .set missing unexpected ∧
            Lists missing (fun r => r ∈ expected ∧ r ∉ actual) ∧
            Lists unexpected (fun r => r ∈ actual ∧ r ∉ expected))) ∧
    (expected.Nodup → mismatch? .set expected actual = none →
      actual.Nodup ∧ actual.Perm expected) ∧
    ∀ (s : Snapshot) (k : Known),
      Oracle.expectedRows .distinct s k = .ok expected → expected.Nodup := by
  refine ⟨fun hlength p => if_pos hlength, fun hlength => ⟨?ordered, ?multiset, ?set⟩,
    fun hnodup hnone => ?nodup, fun s k => ?distinct⟩
  case ordered =>
    refine ⟨mismatch?_ordered, fun m hm => ?_⟩
    rw [mismatch?, if_neg (not_not_intro hlength)] at hm
    obtain ⟨i, e, a, htake, he, ha, hne, rfl⟩ := exists_of_firstDifference hm
    rw [Nat.zero_add]
    refine ⟨i, e, a, fun j hj => ?_, he, ha, hne, fun h => if_pos h,
      fun h => if_neg (not_not_intro h)⟩
    rw [← List.getElem?_take_of_lt hj, htake, List.getElem?_take_of_lt hj]
  case multiset =>
    refine ⟨mismatch?_multiset, fun m hm => ?_⟩
    have hperm : ¬ actual.Perm expected := by
      rw [← mismatch?_multiset, hm]
      exact Option.some_ne_none m
    exact ⟨_, _, eq_of_mismatch?_multiset hlength hm, surplus_ne_nil hlength hperm,
      surplus_ne_nil hlength.symm fun h => hperm h.symm, lists_surplus _ _, lists_surplus _ _⟩
  case set =>
    refine ⟨mismatch?_set_iff hlength, fun m hm => ?_⟩
    exact ⟨_, _, eq_of_mismatch?_set hlength hm, lists_difference _ _, lists_difference _ _⟩
  case nodup =>
    have hperm := (mismatch?_set hnodup).mp hnone
    exact ⟨hperm.nodup_iff.mpr hnodup, hperm⟩
  case distinct => exact nodup_expectedRows

/-- A row that is missing once stands against another one that there is once too often; the two lists
have the same members, so as sets nothing tells them apart. In another order, the rows of an expected
answer without duplicates pass as a set. -/
theorem mismatch?_exact_duplicated :
    (mismatch? .set [[some "a"], [some "a"], [none]] [[some "a"], [none], [none]] = none ∧
      ∃ missing unexpected,
        mismatch? .multiset [[some "a"], [some "a"], [none]] [[some "a"], [none], [none]] =
          some (.multiset missing unexpected) ∧
        missing ≠ [] ∧ unexpected ≠ [] ∧ [some "a"] ∈ missing ∧ [none] ∈ unexpected) ∧
    mismatch? .ordered [[some "a"], [none]] [[none], [some "a"]] ≠ none ∧
    mismatch? .set [[some "a"], [none]] [[none], [some "a"]] = none ∧
    ([[none], [some "a"]] : List Row).Nodup := by
  obtain ⟨-, hlists, -, -⟩ :=
    mismatch?_exact [[some "a"], [some "a"], [none]] [[some "a"], [none], [none]]
  obtain ⟨-, ⟨hperm, hmultiset⟩, hset, -⟩ := hlists rfl
  obtain ⟨-, hlists', hnodup, -⟩ := mismatch?_exact [[some "a"], [none]] [[none], [some "a"]]
  obtain ⟨⟨hordered, -⟩, -, hset', -⟩ := hlists' rfl
  have hmembers : ∀ r : Row, r ∈ [[some "a"], [some "a"], [none]] ↔
      r ∈ [[some "a"], [none], [none]] := by simp
  have hpasses := hset'.mpr fun r => by simp [or_comm]
  refine ⟨⟨hset.mpr hmembers, ?_⟩, fun h => ?_, hpasses, (hnodup (by decide) hpasses).1⟩
  · obtain ⟨m, hm⟩ := Option.ne_none_iff_exists'.mp (mt hperm.mp (by decide))
    obtain ⟨missing, unexpected, rfl, hmissing, hunexpected, hless, hmore⟩ := hmultiset m hm
    exact ⟨missing, unexpected, hm, hmissing, hunexpected, (hless.mem_iff _).mpr (by decide),
      (hmore.mem_iff _).mpr (by decide)⟩
  · exact absurd (hordered.mp h) (by decide)

end Comparison
end PredicateOracle
