import PredicateOracle.Proofs.Workload.Populate

/-!
# PredicateOracle.Proofs.Workload.Accounting -- the counts of a filled database and its failures

What filling a database comes to can be read off its log. Counts are the numbers of granted and of
skipped statements in the phases after the tables (`Accounted`). An error is the last thing in the log,
and everything before it was granted or skipped (`Aborted`).
-/

namespace PredicateOracle.Populate

open Generate (Action Workload)
open Sql

variable {σ : Type} {w : Workload} {o : Generate.Options}

/-- **`Accounted w blocks phase counts`** -- the counts are right for a database that was filled by
these blocks of attempts, one for each table, and then a phase of statements for each action. -/
structure Accounted (w : Workload) (blocks : List (List Attempt)) (phase : Action → List Attempt)
    (counts : Counts) : Prop where
  tables : 1 ≤ counts.tables ∧ counts.tables ≤ max 1 w.maxTables
  /-- The blocks make the tables of the first so many numbers, in order. -/
  blocks : List.Forall₂ (MakesTable w) ((List.range counts.tables).map (numbered "t")) blocks
  /-- Each phase is of one kind, and a statement that was not executed was skipped. -/
  kinds : ∀ a, ∀ x ∈ phase a,
    x.statement.action? = some a ∧ x.skipped = !x.granted
  limits : ∀ a, (phase a).length ≤ w.limit a
  indexes : w.indexes = false → phase .createIndex = []
  executed : counts.executed = (Action.all.flatMap phase).countP (·.granted)
  skipped : counts.skipped = (Action.all.flatMap phase).countP (·.skipped)
  views : counts.views = (phase .createView).countP (·.granted)

/-- Only the last phase has statements that make views. -/
theorem countP_views {phase : Action → List Attempt}
    (hkinds : ∀ a, ∀ x ∈ phase a, x.statement.action? = some a) :
    (Action.all.flatMap phase).countP
        (fun x => x.granted && x.statement.action? = some .createView) =
      (phase .createView).countP (·.granted) := by
  have hnone (a : Action) (ha : a ≠ .createView) : (phase a).countP
      (fun x => x.granted && x.statement.action? = some .createView) = 0 := by
    refine List.countP_eq_zero.mpr fun x hx => ?_
    simp [hkinds a x hx, ha]
  have hall : (phase .createView).countP
      (fun x => x.granted && x.statement.action? = some .createView) =
        (phase .createView).countP (·.granted) := by
    refine List.countP_congr fun x hx => ?_
    simp [hkinds _ x hx]
  simp [Action.all, hnone, hall]

/-- **Filling a database is accounted for.** What is said is a log of statements and answers. If the
work is done, the log has a block of attempts for each table and then a phase for each action, and
the counts are the numbers of statements that were granted and skipped in these phases. If there is
an error, the log ends with the reason for it and nothing before that is fatal. Only a probability
or a maximum that is out of range is a fault. -/
theorem populate_accounted (c : Client σ) (w : Workload) (o : Generate.Options) (world : World σ) :
    ∃ log, transcript c w o world = log.map Attempt.exchange ∧
      match ((populate c w o).runOn world).1 with
      | .ok counts => ∃ blocks phase, log = blocks.flatten ++ Action.all.flatMap phase ∧
          Accounted w blocks phase counts
      | .error (.raised e) => Aborted log e
      | .error (.fault f) => f.OfPopulate w o := by
  obtain ⟨log, htranscript, hends, hlog⟩ := populate_log c w o world
  refine ⟨log, htranscript, ?_⟩
  rcases hr : ((populate c w o).runOn world).1 with (f | e) | counts
  · rw [hr] at hends
    exact hends.2
  · rw [hr] at hends
    exact hends
  · rw [hr] at hends hlog
    obtain @⟨n, hn, blocks, hblocks, phase, hphase⟩ := hlog
    have hkinds : ∀ a, ∀ x ∈ phase a, x.statement.action? = some a :=
      fun a x hx => ((hphase a).drawn x hx).action?
    have hbenign : ∀ a, ∀ x ∈ phase a, x.fatal = false := fun a x hx =>
      hends x (List.mem_append_right _ (List.mem_flatMap.mpr ⟨a, by cases a <;> decide, hx⟩))
    refine ⟨blocks, phase, rfl, hn, ?_, ?_, fun a => (hphase a).length, fun hindexes => ?_, ?_, ?_, ?_⟩
    · rw [List.range_eq_range']
      exact hblocks
    · exact fun a x hx => ⟨hkinds a x hx, Attempt.skipped_eq_not_granted (hbenign a x hx)⟩
    · have hlimit := (hphase .createIndex).length
      rw [Workload.limit, hindexes] at hlimit
      exact List.length_eq_zero_iff.mp (Nat.le_zero.mp hlimit)
    · exact Nat.zero_add _
    · exact Nat.zero_add _
    · exact (Nat.zero_add _).trans (countP_views hkinds)

end PredicateOracle.Populate
