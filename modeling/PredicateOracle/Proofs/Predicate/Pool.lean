import PredicateOracle.Predicate.Pool
import PredicateOracle.Proofs.Random.Draw

/-!
# PredicateOracle.Proofs.Predicate.Pool -- choosing from a pool

Every group of a pool that has a predicate holds positions of predicates and is not empty. A choice
therefore comes to a predicate of the pool under either way of choosing, whatever the stream.
-/

namespace PredicateOracle.Pool

open Gen (Yields)

variable {p : Pool} {F : Fault → Prop}

/-! ## Groups -/

theorem mem_patterns_iff {pattern : TruthColumn} :
    pattern ∈ p.patterns ↔ ∃ k ∈ p.predicates, k.truth = pattern := by
  rw [patterns, List.mem_eraseDups, List.mem_map]

theorem mem_positionsOf_iff {pattern : TruthColumn} {i : Nat} :
    i ∈ p.positionsOf pattern ↔ ∃ k, p.predicates[i]? = some k ∧ k.truth = pattern := by
  rw [positionsOf, List.mem_filter, List.mem_range, Option.any_eq_true]
  constructor
  · rintro ⟨_, k, hk, hpattern⟩
    exact ⟨k, hk, of_decide_eq_true hpattern⟩
  · rintro ⟨k, hk, hpattern⟩
    exact ⟨(List.getElem?_eq_some_iff.mp hk).1, k, hk, decide_eq_true hpattern⟩

/-- A position of a group is one of the pool. -/
theorem lt_of_mem_group {group : List Nat} {i : Nat} (hgroup : group ∈ p.groups)
    (hi : i ∈ group) : i < p.predicates.length := by
  obtain ⟨pattern, -, rfl⟩ := List.mem_map.mp hgroup
  obtain ⟨k, hk, -⟩ := mem_positionsOf_iff.mp hi
  exact (List.getElem?_eq_some_iff.mp hk).1

theorem group_ne_nil {group : List Nat} (hgroup : group ∈ p.groups) : group ≠ [] := by
  obtain ⟨pattern, hpattern, rfl⟩ := List.mem_map.mp hgroup
  obtain ⟨k, hk, hk'⟩ := mem_patterns_iff.mp hpattern
  obtain ⟨i, hi⟩ := List.mem_iff_getElem?.mp hk
  exact List.ne_nil_of_mem (mem_positionsOf_iff.mpr ⟨k, hi, hk'⟩)

theorem groups_ne_nil (hne : p.predicates ≠ []) : p.groups ≠ [] := by
  obtain ⟨k, hk⟩ := List.exists_mem_of_ne_nil _ hne
  have hpattern : k.truth ∈ p.patterns := mem_patterns_iff.mpr ⟨k, hk, rfl⟩
  exact List.ne_nil_of_mem (List.mem_map_of_mem hpattern)

/-! ## Choices -/

theorem yields_position (hne : p.predicates ≠ []) (how : Selection) :
    Yields F (p.position how) (· < p.predicates.length) := by
  cases how with
  | uniform => exact Gen.yields_index (List.length_pos_iff.mpr hne)
  | byPattern =>
    refine .bind (Gen.yields_pick (groups_ne_nil hne)) fun group hgroup => ?_
    exact (Gen.yields_pick (group_ne_nil hgroup)).weaken fun i hi => lt_of_mem_group hgroup hi

/-- A choice comes to a predicate of the pool, and to none exactly if there is none. -/
theorem yields_select (p : Pool) (how : Selection) :
    Yields F (p.select how) fun chosen =>
      match chosen with
      | none => p.predicates = []
      | some k => k ∈ p.predicates := by
  unfold select
  refine .ite (fun hempty => .pure (List.isEmpty_iff.mp hempty)) fun hne => ?_
  rw [List.isEmpty_eq_false_iff] at hne
  refine .bind (yields_position hne how) fun i hi => ?_
  rw [List.getElem?_eq_getElem hi]
  exact .pure (List.getElem_mem hi)

end PredicateOracle.Pool
