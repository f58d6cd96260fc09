import PredicateOracle.Check.Oracle
import Mathlib.Data.List.Nodup

/-!
# PredicateOracle.Proofs.Check.Expected -- the answer worked out from a snapshot

The answer that the second query should give is stated without the snapshot's bookkeeping: the rows
on which the filter holds, in their order, each of them once if the query is distinct.
-/

namespace PredicateOracle

/-- What a query of this mode returns of the rows that its filter keeps. -/
def Mode.answer : Mode → List Row → List Row
  | .plain, rows => rows
  | .distinct, rows => rows.eraseDups

namespace Expected

/-- Removing later duplicates leaves none. -/
theorem nodup_eraseDups {α : Type} [BEq α] [LawfulBEq α] (items : List α) :
    items.eraseDups.Nodup := by
  match items with
  | [] => exact .nil
  | a :: items =>
    rw [List.eraseDups_cons, List.nodup_cons]
    refine ⟨fun hmem => ?_, nodup_eraseDups _⟩
    have hne := (List.mem_filter.mp (List.mem_eraseDups.mp hmem)).2
    simp at hne
termination_by items.length
decreasing_by exact Nat.lt_succ_of_le (List.length_filter_le _ _)

/-- The kept rows, if rows and truths come from one list. -/
theorem kept_map {ι : Type} (items : List ι) (row : ι → Row) (truth : ι → Truth) :
    kept (items.map row) (items.map truth) =
      (items.filter fun i => truth i = .holds).map row := by
  induction items with
  | nil => rfl
  | cons i items ih =>
    rw [List.map_cons, List.map_cons, kept, ih]
    by_cases hkept : truth i = .holds
    · rw [if_pos ((Truth.kept_iff _).mpr hkept), List.filter_cons_of_pos (by simp [hkept])]
      rfl
    · rw [if_neg (mt (Truth.kept_iff _).mp hkept), List.filter_cons_of_neg (by simp [hkept])]

end Expected

namespace Oracle

/-- **The expected answer** holds the rows on which the compound holds, as the mode returns them. -/
theorem expectedRows_eq {ι : Type} (mode : Mode) {s : Snapshot} {k : Known} {items : List ι}
    {row : ι → Row} {truth : ι → Truth} (hrows : s.rows = items.map row)
    (htruth : k.truth = items.map truth) :
    expectedRows mode s k =
      .ok (mode.answer ((items.filter fun i => truth i = .holds).map row)) := by
  have hmatching : Expected.matching s.rows k.truth = .ok () := by
    rw [Expected.matching, hrows, htruth, if_pos (by rw [List.length_map, List.length_map])]
  have hid : Projection.fullRow.apply = id := rfl
  cases mode with
  | plain =>
    rw [expectedRows, Expected.ordered, hmatching, hrows, htruth, Expected.kept_map, hid,
      List.map_id]
    rfl
  | distinct =>
    rw [expectedRows, Expected.distinct, hmatching, hrows, htruth, Expected.kept_map, hid,
      List.map_id]
    rfl

end Oracle
end PredicateOracle
