import PredicateOracle.Proofs.Check.Expected

/-!
# PredicateOracle.Proofs.Check.Projection -- which rows of a snapshot are expected

The answer that a filter should give is worked out by walking over rows and truths together. Here it
is stated by positions. `heldAt` lists the positions on which the filter holds, `firstAt` those of them
at which a row stands for the first time among them. Both ways of projecting show the rows at these
positions and nothing else (`projection_exact`): a position on which the filter fails or is unknown
neither shows its row nor keeps a later one from being shown.
-/

namespace PredicateOracle.Expected

variable {α : Type}

/-! ## Positions -/

/-- The positions on which a filter holds, in order. -/
def heldAt (truth : TruthColumn) : List Nat :=
  (List.range truth.length).filter fun i => truth[i]? = some .holds

/-- **`firstAt rows truth`** -- the positions on which a filter holds and whose row stands at no earlier
such position, in order. Rows are compared with all of their cells. -/
def firstAt (rows : List Row) (truth : TruthColumn) : List Nat :=
  (heldAt truth).filter fun i => ∀ j ∈ heldAt truth, j < i → rows[j]? ≠ rows[i]?

/-- The rows at some positions, as they are shown. -/
def shown (p : Projection) (rows : List Row) (positions : List Nat) : List Row :=
  positions.map fun i => p.apply (rows.getD i [])

theorem map_shown (p : Projection) (rows : List Row) (positions : List Nat) :
    (shown .fullRow rows positions).map p.apply = shown p rows positions := by
  rw [shown, shown, List.map_map]
  rfl

theorem mem_heldAt_iff {truth : TruthColumn} {i : Nat} :
    i ∈ heldAt truth ↔ truth[i]? = some .holds := by
  rw [heldAt, List.mem_filter, List.mem_range, decide_eq_true_eq]
  exact ⟨And.right, fun h => ⟨(List.getElem?_eq_some_iff.mp h).1, h⟩⟩

theorem pairwise_heldAt (truth : TruthColumn) : (heldAt truth).Pairwise (· < ·) :=
  List.pairwise_lt_range.sublist List.filter_sublist

/-! ## Rows -/

/-- The positions in a longer column are those behind its first one, moved by one. -/
theorem heldAt_cons (t : Truth) (ts : TruthColumn) :
    heldAt (t :: ts) =
      if t = .holds then 0 :: (heldAt ts).map (· + 1) else (heldAt ts).map (· + 1) := by
  have hrest : ((List.range ts.length).map (· + 1)).filter
      (fun i => (t :: ts)[i]? = some .holds) = (heldAt ts).map (· + 1) := by
    rw [List.filter_map]
    rfl
  rw [heldAt, List.length_cons, List.range_succ_eq_map, List.filter_cons]
  simp only [List.getElem?_cons_zero, Option.some.injEq, decide_eq_true_eq]
  rw [show Nat.succ = (· + 1) from rfl, hrest]

/-- The kept rows are those at the positions on which the filter holds. -/
theorem kept_eq {rows : List Row} {truth : TruthColumn} (h : rows.length = truth.length) :
    kept rows truth = shown .fullRow rows (heldAt truth) := by
  induction rows generalizing truth with
  | nil =>
    obtain rfl := List.length_eq_zero_iff.mp h.symm
    rfl
  | cons r rows ih =>
    cases truth with
    | nil => cases h
    | cons t ts =>
      have hrest : kept rows ts = shown .fullRow (r :: rows) ((heldAt ts).map (· + 1)) := by
        rw [ih (Nat.succ.inj h), shown, shown, List.map_map]
        rfl
      rw [kept, heldAt_cons, hrest]
      by_cases ht : t = .holds
      · rw [if_pos ((Truth.kept_iff t).mpr ht), if_pos ht]
        rfl
      · rw [if_neg (mt (Truth.kept_iff t).mp ht), if_neg ht]

/-- Of values at increasing positions, those stay whose value is at no earlier position. -/
theorem eraseDups_map_of_lt [BEq α] [LawfulBEq α] [DecidableEq α] (f : Nat → α) (positions : List Nat)
    (h : positions.Pairwise (· < ·)) :
    (positions.map f).eraseDups =
      (positions.filter fun i => ∀ j ∈ positions, j < i → f j ≠ f i).map f := by
  match positions with
  | [] => rfl
  | a :: rest =>
    obtain ⟨hhead, hrest⟩ := List.pairwise_cons.mp h
    have hothers : ((rest.map f).filter fun b => !b == f a) =
        (rest.filter fun i => f i ≠ f a).map f := by
      rw [List.filter_map]
      refine congrArg _ (List.filter_congr fun i _ => ?_)
      rw [Bool.eq_iff_iff]
      simp
    have hfirst : ((a :: rest).filter fun i => ∀ j ∈ a :: rest, j < i → f j ≠ f i) =
        a :: rest.filter fun i => ∀ j ∈ a :: rest, j < i → f j ≠ f i := by
      refine List.filter_cons_of_pos (decide_eq_true fun j hj hlt => ?_)
      rcases List.mem_cons.mp hj with rfl | hj
      · exact absurd hlt (Nat.lt_irrefl j)
      · exact absurd hlt (Nat.lt_asymm (hhead j hj))
    rw [List.map_cons, List.eraseDups_cons, hothers,
      eraseDups_map_of_lt f _ (hrest.sublist List.filter_sublist), hfirst, List.map_cons,
      List.filter_filter]
    -- A value like the first one is dropped on the left at once, on the right for the first position.
    refine congrArg _ (congrArg _ (List.filter_congr fun i hi => ?_))
    rw [← Bool.decide_and, decide_eq_decide]
    constructor
    · rintro ⟨hnone, hne⟩ j hj hlt
      rcases List.mem_cons.mp hj with rfl | hj
      · exact fun heq => hne heq.symm
      · by_cases hja : f j = f a
        · exact fun heq => hne (heq.symm.trans hja)
        · exact hnone j (List.mem_filter.mpr ⟨hj, decide_eq_true hja⟩) hlt
    · intro hnone
      refine ⟨fun j hj hlt => ?_, fun heq => hnone a List.mem_cons_self (hhead i hi) heq.symm⟩
      exact hnone j (List.mem_cons_of_mem a (List.mem_of_mem_filter hj)) hlt
termination_by positions.length
decreasing_by exact Nat.lt_succ_of_le (List.length_filter_le _ _)

/-- The kept rows without duplicates are those at the first positions. -/
theorem eraseDups_kept {rows : List Row} {truth : TruthColumn} (h : rows.length = truth.length) :
    (kept rows truth).eraseDups = shown .fullRow rows (firstAt rows truth) := by
  rw [kept_eq h, shown, eraseDups_map_of_lt _ _ (pairwise_heldAt truth), firstAt]
  have hlt : ∀ i ∈ heldAt truth, i < rows.length := fun i hi =>
    h ▸ (List.getElem?_eq_some_iff.mp (mem_heldAt_iff.mp hi)).1
  refine congrArg _ (List.filter_congr fun i hi => ?_)
  rw [decide_eq_decide]
  refine forall₂_congr fun j hj => imp_congr_right fun _ => ?_
  rw [List.getElem?_eq_getElem (hlt i hi), List.getElem?_eq_getElem (hlt j hj)]
  simp [Projection.apply, hlt i hi, hlt j hj]

/-! ## Projections -/

theorem ordered_eq (rows : List Row) (truth : TruthColumn) (p : Projection) :
    ordered rows truth p =
      if rows.length = truth.length then .ok (shown p rows (heldAt truth))
      else .error (.columnLength truth.length rows.length) := by
  unfold ordered matching
  split
  · rename_i h
    change Except.ok _ = _
    rw [kept_eq h, map_shown]
  · rfl

theorem distinct_eq (rows : List Row) (truth : TruthColumn) (p : Projection) :
    distinct rows truth p =
      if rows.length = truth.length then .ok (shown p rows (firstAt rows truth))
      else .error (.columnLength truth.length rows.length) := by
  unfold distinct matching
  split
  · rename_i h
    change Except.ok _ = _
    rw [eraseDups_kept h, map_shown]
  · rfl

/-- **Exactly the expected rows are projected.** A truth column that is not as long as the snapshot is
refused by both ways of projecting. Otherwise the rows shown are those on whose positions the filter
holds, and without duplicates those at the first such position of their row, in the order of the
snapshot. So the full rows without duplicates are different from each other, stand in the order of all
kept rows and are the same rows; and whether all cells or only the first is shown does not change how
many rows there are. -/
theorem projection_exact (rows : List Row) (truth : TruthColumn) (p : Projection) :
    (ordered rows truth p =
      if rows.length = truth.length then .ok (shown p rows (heldAt truth))
      else .error (.columnLength truth.length rows.length)) ∧
    (distinct rows truth p =
      if rows.length = truth.length then .ok (shown p rows (firstAt rows truth))
      else .error (.columnLength truth.length rows.length)) ∧
    match ordered rows truth .fullRow, distinct rows truth .fullRow,
      distinct rows truth .firstColumn with
    | .ok all, .ok once, .ok first =>
      once.Nodup ∧ once.Sublist all ∧ (∀ r, r ∈ once ↔ r ∈ all) ∧ first.length = once.length
    | _, _, _ => rows.length ≠ truth.length := by
  refine ⟨ordered_eq rows truth p, distinct_eq rows truth p, ?_⟩
  rw [ordered_eq, distinct_eq, distinct_eq]
  by_cases h : rows.length = truth.length
  · rw [if_pos h, if_pos h, if_pos h]
    dsimp only
    refine ⟨?_, List.filter_sublist.map _, fun r => ?_, ?_⟩
    · rw [← eraseDups_kept h]
      exact nodup_eraseDups _
    · rw [← eraseDups_kept h, ← kept_eq h, List.mem_eraseDups]
    · rw [shown, shown, List.length_map, List.length_map]
  · rw [if_neg h, if_neg h, if_neg h]
    exact h

/-- A row on which the filter is unknown does not keep the same row from being shown later on, and two
rows that differ in a cell that is not shown are both shown. -/
example :
    distinct [[some "a", none], [some "a", none], [some "a", some "x"], [some "a", none]]
      [.unknown, .holds, .holds, .holds] .firstColumn = .ok [[some "a"], [some "a"]] := by decide

end PredicateOracle.Expected
