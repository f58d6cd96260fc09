import PredicateOracle.Generate.RowSource
import PredicateOracle.Proofs.Random.Draw
import PredicateOracle.Proofs.Sql.Scope

/-!
# PredicateOracle.Proofs.Generate.RowSource -- which tables a query is about

Target tables are a selection of the schema's tables in their order: at least one, no more than the
maximum, and each of them with a column. A row source for them is found whenever the conditions of
its joins are; it names every table once, and its conditions are what the predicates are.
-/

namespace PredicateOracle

open Sql
open PredicateOracle.Random (Stream)

/-! ## Usable tables -/

theorem Sql.Schema.usable_eq_nil_iff (s : Schema) :
    s.usable = [] ↔ ∀ t ∈ s.tables, t.columns = [] := by
  simp [usable]

/-- A usable table has a column, so some usable tables have one. -/
theorem Sql.columnsOf_ne_nil {tables : List Table} {s : Schema} (hsub : tables.Sublist s.usable)
    (hne : tables ≠ []) : columnsOf tables ≠ [] := by
  obtain ⟨t, ht⟩ := List.exists_mem_of_ne_nil _ hne
  have husable := List.mem_filter.mp (hsub.mem ht)
  have hcolumns : t.columns ≠ [] := by simpa using husable.2
  intro hnil
  exact hcolumns (List.flatMap_eq_nil_iff.mp hnil t ht)

namespace Generate

open Gen (Yields)

variable {α : Type} {F : Fault → Prop}

/-! ## Target tables -/

/-- Taking elements out leaves a selection of at most `bound` elements, given enough steps, and does
not leave an empty one as long as the bound allows an element. -/
theorem yields_thinOut {bound : Nat} (hbound : 0 < bound) (n : Nat) (items : List α) :
    Yields F (thinOut bound n items) fun kept =>
      kept.Sublist items ∧ (items ≠ [] → kept ≠ []) ∧
        (items.length ≤ bound + n → kept.length ≤ bound) := by
  induction n generalizing items with
  | zero => exact .pure ⟨.refl _, id, id⟩
  | succ n ih =>
    unfold thinOut
    split
    · rename_i hle
      exact .pure ⟨.refl _, id, fun _ => hle⟩
    · rename_i hgt
      refine .bind (Gen.yields_index (by omega)) fun i hi => ?_
      have hlength : (items.eraseIdx i).length = items.length - 1 := List.length_eraseIdx_of_lt hi
      refine .bind (Gen.yields_remove hi) fun rest hrest => ?_
      subst hrest
      refine (ih _).weaken fun kept hkept => ?_
      obtain ⟨hsub, hne, hfew⟩ := hkept
      refine ⟨hsub.trans (List.eraseIdx_sublist _ _), fun _ => hne fun hnil => ?_, fun h => ?_⟩
      · rw [hnil, List.length_nil] at hlength
        omega
      · exact hfew (by omega)

/-- **The targets are usable tables of the schema in their order**: at least one and no more than
the maximum. There are none exactly if the schema has no usable table. -/
theorem yields_targets (s : Schema) (maxTables : Nat) :
    Yields F (targets s maxTables) fun chosen =>
      match chosen with
      | none => s.usable = []
      | some tables =>
        tables.Sublist s.usable ∧ tables ≠ [] ∧ tables.length ≤ max 1 maxTables := by
  unfold targets
  split
  · rename_i hnone
    exact .pure hnone
  · rename_i husable
    refine .bind (Gen.yields_subset s.usable) fun chosen hchosen => ?_
    obtain ⟨hsub, hne⟩ := hchosen
    refine .bind (yields_thinOut (by omega) _ chosen) fun kept hkept => .pure ?_
    obtain ⟨hsub', hne', hfew⟩ := hkept
    exact ⟨hsub'.trans hsub, hne' (hne husable), hfew (by omega)⟩

/-- **Which tables a query is about.** There are none exactly if no table of the schema has a column,
and then the stream is left as it was. If some table has a column, every stream gives tables at
increasing positions of the schema: at least one, no more than the maximum, which counts as one if it
is zero, and each of them with a column. Their columns are what stands in these tables, one after the
other, and so there is at least one. -/
theorem targets_selected (s : Schema) (maxTables : Nat) (r : Stream) :
    ((targets s maxTables).runOn r = (.ok none, r) ↔ ∀ t ∈ s.tables, t.columns = []) ∧
    ((∃ t ∈ s.tables, t.columns ≠ []) →
      ∃ (positions : List (Fin s.tables.length)) (r' : Stream),
        (targets s maxTables).runOn r = (.ok (some (positions.map (s.tables[·]))), r') ∧
        positions.Pairwise (· < ·) ∧ positions ≠ [] ∧ positions.length ≤ max 1 maxTables ∧
        (∀ i ∈ positions, s.tables[i].columns ≠ []) ∧
        columnsOf (positions.map (s.tables[·])) = positions.flatMap (s.tables[·].columns) ∧
        columnsOf (positions.map (s.tables[·])) ≠ []) := by
  have hyields : Yields (fun _ => False) (targets s maxTables) _ := yields_targets s maxTables
  rw [← s.usable_eq_nil_iff]
  refine ⟨⟨fun hrun => ?_, fun hnone => ?_⟩, fun husable => ?_⟩
  · exact (hyields.of_runOn_ok hrun).1
  · rw [targets, hnone]
    rfl
  · obtain ⟨_ | chosen, r', hrun, hchosen⟩ := hyields.exists_value r
    · obtain ⟨t, ht, hcolumns⟩ := husable
      exact absurd (s.usable_eq_nil_iff.mp hchosen t ht) hcolumns
    · obtain ⟨hsub, hne, hfew⟩ := hchosen
      -- A part of the usable tables is a part of all tables, and so it has positions there.
      obtain ⟨positions, rfl, hpositions⟩ :=
        List.sublist_eq_map_getElem (hsub.trans List.filter_sublist)
      refine ⟨positions, r', hrun, hpositions, ?_, ?_, fun i hi => ?_, ?_, columnsOf_ne_nil hsub hne⟩
      · exact mt List.map_eq_nil_iff.mpr hne
      · rwa [List.length_map] at hfew
      · have husable := List.mem_filter.mp (hsub.mem (List.mem_map_of_mem hi))
        simpa using husable.2
      · show (positions.map (s.tables[·])).flatMap (·.columns) = _
        rw [List.flatMap_map]

/-- Two tables of four may be chosen, and one of them has no column. -/
theorem targets_selected_two_of_four :
    let s : Schema := ⟨[⟨"t0", [⟨"t0", "c0", .integer, true⟩]⟩, ⟨"t1", []⟩,
      ⟨"t2", [⟨"t2", "c0", .varchar, true⟩]⟩, ⟨"t3", [⟨"t3", "c0", .boolean, true⟩]⟩]⟩
    ∃ (positions : List (Fin 4)) (r' : Stream),
      (targets s 2).runOn (.ofSeed 5) = (.ok (some (positions.map (s.tables[·]))), r') ∧
      positions.Pairwise (· < ·) ∧ positions ≠ [] ∧ positions.length ≤ 2 ∧ 1 ∉ positions := by
  intro s
  obtain ⟨positions, r', hrun, hpositions, hne, hfew, hcolumns, -⟩ :=
    (targets_selected s 2 (.ofSeed 5)).2 ⟨_, List.mem_cons_self, by decide⟩
  exact ⟨positions, r', hrun, hpositions, hne, hfew, fun h => hcolumns 1 h rfl⟩

/-! ## Row sources -/

/-- **A row source is made of all the tables, each once and in their order**, and the condition of a
join is a predicate over the columns of its two tables. It is found whenever the conditions are. -/
theorem yields_rowSource {joinProbability : Float}
    (hjoin : Yields F (Gen.chance joinProbability) fun _ => True)
    {predicate : List Column → Gen Expr} {P : List Column → Expr → Prop}
    (hpredicate : ∀ columns, Yields F (predicate columns) (P columns)) (tables : List Table) :
    Yields F (rowSource predicate joinProbability tables) (RowSource.Over P tables) := by
  induction tables using rowSource.induct with
  | case1 left right rest ih =>
    unfold rowSource
    refine .bind hjoin fun joined _ => .ite (fun _ => ?_) fun _ => .pure (.single _)
    refine .bind (Gen.yields_pick (by decide)) fun kind _ => ?_
    refine .bind (hpredicate _) fun on hon => ?_
    exact .bind ih fun source hsource => .pure (hsource.join kind hon)
  | case2 tables hshort =>
    unfold rowSource
    split
    · exact absurd rfl (hshort _ _ _)
    · exact .pure (.single _)

end Generate
end PredicateOracle
