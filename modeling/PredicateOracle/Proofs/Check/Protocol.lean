import PredicateOracle.Proofs.Check.Trace

/-!
# PredicateOracle.Proofs.Check.Protocol -- what a check says to an engine

The conversation of a check has a fixed shape. A release may come first, then the schema is read,
then the first query of a plan for that schema is asked and then the second one; each of these only
after everything before it was granted. The mode of the check shows in nothing but the word DISTINCT
of the second query.
-/

namespace PredicateOracle

open Sql Check
open PredicateOracle.Random (Odds)

variable {σ : Type}

/-- **`Protocol o mode said`** -- `said` is a conversation of a check: how far it came, what it asked,
and that every request but the last was granted. No statement is ever executed in it. -/
inductive Protocol (o : Oracle) (mode : Mode) : List Exchange → Prop
  /-- Not even the first coin could be tossed. -/
  | silent (h : Odds.ofProbability o.options.releaseProbability = .undefined) : Protocol o mode []
  | release (e : EngineError) : Protocol o mode [.release (.error e)]
  | schema {opening : List Exchange} (h : IsOpening opening) (answer : Answer Schema) :
    Protocol o mode (opening ++ [.readSchema answer])
  | fetch {opening : List Exchange} (h : IsOpening opening) {schema : Schema} {plan : Plan}
    (hplan : plan.Suits o.options schema) {q : Select} (hq : plan.Fetches q)
    (answer : Answer (Option (List Row))) :
    Protocol o mode (opening ++ [.readSchema (.ok schema), .query q.sql answer])
  | verify {opening : List Exchange} (h : IsOpening opening) {schema : Schema} {plan : Plan}
    (hplan : plan.Suits o.options schema) {q q' : Select} (hq : plan.Fetches q)
    (hq' : plan.Verifies mode q q') (rows : List Row) (answer : Answer (Option (List Row))) :
    Protocol o mode (opening ++
      [.readSchema (.ok schema), .query q.sql (.ok (some rows)), .query q'.sql answer])

namespace Protocol

variable {o : Oracle} {mode : Mode}

/-- The conversation of a check that ends before its second query. -/
theorem of_endsEarly {halt : Halt Interruption} {said : List Exchange}
    (h : EndsEarly o halt said) : Protocol o mode said := by
  rcases h with hends | ⟨plan, before, answer, hends, -, rfl⟩
  · cases hends with
    | releaseChance hf =>
      obtain ⟨-, p, hp, hodds⟩ := hf
      rw [List.mem_singleton.mp hp] at hodds
      exact .silent hodds
    | refusedRelease e => exact .release e
    | refusedSchema h e => exact .schema h _
    | planChance h schema hf _ => exact .schema h _
    | noRoom h schema hf _ => exact .schema h _
    | emptySchema h hempty => exact .schema h _
  · cases hends with
    | planned h hplan =>
      rw [List.append_assoc]
      exact .fetch h hplan plan.fetches_fetch answer

/-- The conversation of a check that asks its second query. -/
theorem of_planned {plan : Plan} {before : List Exchange} (h : PlanningEnds o (.ok plan) before)
    (rows : List Row) (φ : Formula (Fin plan.predicates.length))
    (answer : Answer (Option (List Row))) :
    Protocol o mode (before ++ [.query plan.fetch.sql (.ok (some rows)),
      .query (plan.verification mode (plan.compoundOf φ)).sql answer]) := by
  cases h with
  | planned h hplan =>
    rw [List.append_assoc]
    exact .verify h hplan plan.fetches_fetch (plan.verifies_verification mode φ) rows answer

end Protocol

/-- **The protocol of a check.** On every engine and every stream a check talks to the engine as the
protocol says, in either mode. From the same engine and the same stream the two modes leave the same
stream and have the same conversation, up to the DISTINCT of the second query and its answer. -/
theorem Oracle.check_protocol (o : Oracle) (c : Client σ) (w : World σ) :
    (∀ mode, Protocol o mode (o.transcript c mode w)) ∧
      (o.check c .plain w).2.2.stream = (o.check c .distinct w).2.2.stream ∧
      (o.transcript c .plain w = o.transcript c .distinct w ∨
        ∃ (before : List Exchange) (q : Select) (answer answer' : Answer (Option (List Row))),
          q.distinct = false ∧
          o.transcript c .plain w = before ++ [.query q.sql answer] ∧
          o.transcript c .distinct w =
            before ++ [.query (Select.sql { q with distinct := true }) answer']) := by
  obtain ⟨halt, said, w', hends, h⟩ | ⟨plan, before, rows, φ, w₂, hends, -, h⟩ :=
    o.trial_traced c w
  · refine ⟨fun mode => ?_, ?_, .inl ?_⟩
    · rw [transcript_of_traced (h mode)]
      exact .of_endsEarly hends
    · rw [check_of_traced (h .plain), check_of_traced (h .distinct)]
    · rw [transcript_of_traced (h .plain), transcript_of_traced (h .distinct)]
  · let q (mode : Mode) : Select := plan.verification mode (plan.compoundOf φ)
    let answer (mode : Mode) := (Id.run ((c.query (q mode).sql).run w₂.engine)).1
    have h' := fun mode => h mode (answer mode) _ rfl
    refine ⟨fun mode => ?_, ?_, .inr ⟨before ++ [.query plan.fetch.sql (.ok (some rows))],
      q .plain, answer .plain, answer .distinct, rfl, ?_, ?_⟩⟩
    · rw [transcript_of_traced (h' mode)]
      exact .of_planned hends rows φ _
    · rw [check_of_traced (h' .plain), check_of_traced (h' .distinct)]
    · rw [transcript_of_traced (h' .plain), List.append_assoc]
      rfl
    · rw [transcript_of_traced (h' .distinct), List.append_assoc]
      rfl

end PredicateOracle
