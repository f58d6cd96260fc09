import PredicateOracle.Proofs.Check.Trace

/-!
# PredicateOracle.Proofs.Check.Verdict -- the verdict on two answers

Once its first query is answered with well-formed rows, a check asks the second query, and if that is
answered with rows as well there are two outcomes. The answer agrees with the one worked out from the
first answer and the check is passed, or a bug is reported, and the report states the two queries, the
two answers and where they came from.
-/

namespace PredicateOracle

open Sql Check
open PredicateOracle.Random (Odds Stream)

variable {σ : Type}

/-! ## Text of the second query -/

/-- A query with a filter is the query up to its filter, then the filter, then the order. -/
theorem Sql.Select.sql_filter (q : Select) {e : Expr} (h : q.filter = some e) :
    ∃ order, q.sql = Select.sql { q with filter := none, orderBy := [] } ++ " WHERE " ++ e.sql
      ++ order := by
  cases horder : q.orderBy with
  | nil =>
    refine ⟨"", ?_⟩
    simp only [Select.sql, h, horder, String.append_assoc, String.append_empty]
  | cons a as =>
    refine ⟨" ORDER BY " ++ Expr.listSql (a :: as), ?_⟩
    simp only [Select.sql, h, horder, String.append_assoc, String.append_empty]

/-! ## The verdict -/

/-- **`o.Verdict c mode w plan rows`** -- after the rows `rows` in answer to the first query of the
plan, the check asks the second query for some compound of the predicates. If that is answered with
rows, they are judged against the rows of the first answer on which the compound holds. -/
def Oracle.Verdict (o : Oracle) (c : Client σ) (mode : Mode) (w : World σ) (plan : Plan)
    (rows : List Row) : Prop :=
  ∃ (opening : List Exchange) (schema : Schema) (φ : Formula (Fin plan.predicates.length))
      (query : String) (answer : Answer (Option (List Row))),
    IsOpening opening ∧
    query = (plan.verification mode (plan.compoundOf φ)).sql ∧
    (∃ head tail, query = head ++ " WHERE " ++ (plan.compoundOf φ).sql ++ tail) ∧
    o.transcript c mode w = opening ++ [.readSchema (.ok schema),
      .query plan.fetch.sql (.ok (some rows)), .query query answer] ∧
    ∀ actual, answer = .ok (some actual) →
      let expected := mode.answer (plan.kept rows φ)
      if mode.Agrees plan.ordered expected actual then
        (o.check c mode w).1 = .ok (.passed expected.length)
      else
        ∃ mismatch, (o.check c mode w).1 = .error (.raised (.logicBug {
          seed := w.stream.seed
          query := query
          fetchQuery := plan.fetch.sql
          predicates := plan.predicates.map Expr.sql
          compound := (plan.compoundOf φ).sql
          expected := expected
          actual := actual
          mismatch := mismatch }))

/-- **Every wrong answer is caught, and no right one is reported.** On every engine and every stream,
well-formed rows in answer to the first query lead to a verdict on the second answer: passed if it
agrees with the expected one, and else a report with all that is needed to look into it. The only
way around the verdict is a leaf probability that is not a number. -/
theorem Oracle.check_verdict (o : Oracle) (c : Client σ) (mode : Mode) (w : World σ) {plan : Plan}
    {w₁ : World σ} {rows : List Row} {e : σ} (hpredicates : 0 < o.options.predicates)
    (hplan : (o.planning c).runOn w = (.ok plan, w₁))
    (hanswer : Id.run ((c.query plan.fetch.sql).run w₁.engine) = (.ok (some rows), e))
    (hrows : plan.WellFormed rows) :
    o.Verdict c mode w plan rows ∨
      Odds.ofProbability o.options.compound.leafProbability = .undefined ∧
        (o.check c mode w).1 = .error (.fault .undefinedProbability) := by
  obtain ⟨before, hplanning, hends, s, ⟨hodds, hsurvey⟩ | ⟨φ, hsurvey⟩⟩ :=
    trial_of_rows o c w hpredicates hplan hanswer hrows
  · refine .inr ⟨hodds, ?_⟩
    rw [check_of_traced (hplanning.bind hsurvey.bind_error)]
    rfl
  · left
    cases hends with
    | @planned opening hopening schema _ hsuits =>
      let query := (plan.verification mode (plan.compoundOf φ)).sql
      rcases hanswer' : Id.run ((c.query query).run e) with ⟨answer, e'⟩
      have htrial := trial_of_survey mode hplanning hsurvey hanswer'
      obtain ⟨order, horder⟩ := Select.sql_filter (plan.verification mode (plan.compoundOf φ)) rfl
      refine ⟨opening, schema, φ, query, answer, hopening, rfl, ⟨_, order, horder⟩, ?_, ?_⟩
      · rw [transcript_of_traced htrial, List.append_assoc]
        rfl
      · rintro actual rfl expected
        rw [check_of_traced htrial]
        by_cases hagrees : mode.Agrees plan.ordered expected actual
        · rw [if_pos hagrees, judgement_of_agrees o _ hagrees]
          rfl
        · obtain ⟨mismatch, hreport⟩ := judgement_of_not_agrees o w.stream.seed hagrees
          rw [if_neg hagrees, hreport]
          exact ⟨mismatch, rfl⟩

/-! ## A sample -/

namespace Sample

/-- A table with one integer column. -/
def schema : Schema := ⟨[⟨"t0", [⟨"t0", "c0", .integer, true⟩]⟩]⟩

/-- An engine that holds the table and answers queries by their text. -/
def client (answer : String → List Row) : Client Unit where
  query sql := return .ok (some (answer sql))
  execute _ := return .ok 0
  release := return .ok ()
  readSchema := return .ok schema

/-- A checker with two predicates a check and compounds of one level. -/
def oracle : Oracle :=
  .new ⟨2, ⟨1, 0.1, .uniform⟩, 1, 0.1, 0.5, 0.1, Mode.all⟩ ⟨0, false, 0.05⟩ .empty

/-- The world at the beginning of a check. -/
def world : World Unit := ⟨(), .ofSeed 112⟩

/-- The plan that is drawn there: the predicates `FALSE` and `c0 = c0`, both queries ordered. -/
def plan : Plan where
  tables := schema.tables
  fetched := [⟨"t0", "c0", .integer, true⟩]
  source := ⟨["t0"], []⟩
  predicates := [.literal (.boolean false),
    .comparison .eq (.column ⟨"t0", "c0"⟩) (.column ⟨"t0", "c0"⟩)]
  ordered := true

/-- The first answer if the table holds NULL, 1 and 2. -/
def rows : List Row :=
  [[none, some "false", none], [some "1", some "false", some "true"],
    [some "2", some "false", some "true"]]

end Sample

/-- An engine that loses the row of the 2 gets its verdict. -/
theorem Oracle.check_verdict_lost_row :
    let c := Sample.client fun query =>
      if query = Sample.plan.fetch.sql then Sample.rows else [[some "1"]]
    0 < Sample.oracle.options.predicates ∧
      ((Sample.oracle.planning c).runOn Sample.world).1 = .ok Sample.plan ∧
      Sample.plan.WellFormed Sample.rows ∧
      Sample.oracle.Verdict c .plain Sample.world Sample.plan Sample.rows := by
  intro c
  have hpredicates : 0 < Sample.oracle.options.predicates := by decide
  have hplan : ((Sample.oracle.planning c).runOn Sample.world).1 = .ok Sample.plan := by
    decide +kernel
  have hrows : Sample.plan.WellFormed Sample.rows := by decide
  have hanswer : ∀ e, Id.run ((c.query Sample.plan.fetch.sql).run e) =
      (.ok (some Sample.rows), e) := fun e => by simp [c, Sample.client]
  have hleaf : Odds.ofProbability Sample.oracle.options.compound.leafProbability ≠ .undefined := by
    decide +kernel
  refine ⟨hpredicates, hplan, hrows, ?_⟩
  obtain hverdict | ⟨hodds, -⟩ := Sample.oracle.check_verdict c .plain Sample.world hpredicates
    (Prod.ext hplan rfl) (hanswer _) hrows
  · exact hverdict
  · exact absurd hodds hleaf

end PredicateOracle
