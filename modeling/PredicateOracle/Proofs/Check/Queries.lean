import PredicateOracle.Proofs.Check.Failures
import PredicateOracle.Proofs.Generate.Statement

/-!
# PredicateOracle.Proofs.Check.Queries -- generated queries make sense

The two queries of a check and the query behind a view are put together from parts that are drawn one
after the other. They fit because all of them are drawn for the same target tables: the row source is
made of these tables, and every expression is over their columns. So each query is sound
(`Select.Sound`) over any coherent schema that it is made for.
-/

namespace PredicateOracle

open Sql Check
open PredicateOracle.Random (Stream)

variable {σ : Type}

/-! ## Queries of a plan -/

/-- A formula over booleans is a boolean. -/
theorem Formula.isBoolean_expr {α : Type} {columns : List Column} {e : α → Expr}
    (he : ∀ a, IsBoolean columns (e a)) (φ : Formula α) : IsBoolean columns (φ.expr e) := by
  induction φ with
  | atom a => exact he a
  | not φ ih => exact .not ih
  | join op φ ψ ihφ ihψ => exact .logical ihφ ihψ

namespace Check.Plan

variable {p : Plan} {o : Options} {s : Schema}

theorem Suits.tables_subset (h : p.Suits o s) : p.tables ⊆ s.tables := fun _ ht =>
  List.mem_of_mem_filter (h.tables.mem ht)

/-- What is projected and ordered by are columns of the target tables. -/
theorem Suits.projection_typed (h : p.Suits o s) :
    ∀ e ∈ p.projection, ∃ t, HasType (columnsOf p.tables) e t := by
  intro e he
  obtain ⟨c, hc, rfl⟩ := List.mem_map.mp he
  exact ⟨c.type, .column (h.fetched.mem hc) rfl rfl⟩

theorem Suits.orderBy_typed (h : p.Suits o s) :
    ∀ e ∈ p.orderBy, ∃ t, HasType (columnsOf p.tables) e t := by
  unfold orderBy
  cases p.ordered with
  | true => exact h.projection_typed
  | false => exact fun _ he => absurd he List.not_mem_nil

/-- The first query of a plan is sound. -/
theorem WellTyped.fetch_sound (h : p.WellTyped) (hsuits : p.Suits o s) (hs : s.Coherent) :
    p.fetch.Sound s := by
  refine .of_over hs hsuits.tables_subset h.source (fun e he => ?_) nofun hsuits.orderBy_typed
  rcases List.mem_append.mp he with he | he
  · exact hsuits.projection_typed e he
  · exact ⟨.boolean, h.predicates e he⟩

/-- The second query of a plan is sound, whatever compound of the predicates it filters by. -/
theorem WellTyped.verification_sound (h : p.WellTyped) (hsuits : p.Suits o s) (hs : s.Coherent)
    (mode : Mode) (φ : Formula (Fin p.predicates.length)) :
    (p.verification mode (p.compoundOf φ)).Sound s := by
  refine .of_over hs hsuits.tables_subset h.source hsuits.projection_typed (fun e he => ?_)
    hsuits.orderBy_typed
  obtain rfl := Option.some.inj he
  exact φ.isBoolean_expr fun j => h.predicates _ (List.getElem_mem j.isLt)

/-- The predicates of a plan are booleans in the scope of both queries. -/
theorem WellTyped.types_predicates (h : p.WellTyped) (hsuits : p.Suits o s) (hs : s.Coherent) :
    ∀ e ∈ p.predicates, s.Types p.source.names e .boolean := fun e he =>
  .of_hasType hs (h.source.scope hsuits.tables_subset) (h.predicates e he)

end Check.Plan

/-! ## Queries of a check -/

namespace Oracle

variable {o : Oracle} {c : Client σ} {mode : Mode} {w : World σ}

/-- Every plan that a check finds is grown. -/
theorem planning_grown (o : Oracle) (c : Client σ) :
    (o.planning c).Returns (Plan.GrownBy · o.generator) := by
  refine .bind (.any _) fun _ _ => .bind (.any _) fun schema _ => ?_
  have hplan := @Plan.yields_draw o.options o.generator o.planChances
    (by simp [planChances]) (by simp [planChances]) (by simp [planChances]) schema
  refine .bind (.draw hplan) fun plan hplan => ?_
  cases plan with
  | none => exact .raise _
  | some plan => exact .pure hplan.2

/-- Every plan that a check finds is well typed. -/
theorem planning_returns (o : Oracle) (c : Client σ) : (o.planning c).Returns Plan.WellTyped :=
  fun w plan w' h => (o.planning_grown c w plan w' h).wellTyped

/-- **A check asks nothing but the two queries of its plan**, and the plan suits the schema that was
read. -/
theorem plan_of_query {schema : Schema} (hread : .readSchema (.ok schema) ∈ o.transcript c mode w)
    {query : String} {answer : Answer (Option (List Row))}
    (hquery : .query query answer ∈ o.transcript c mode w) :
    ∃ plan, ((o.planning c).runOn w).1 = .ok plan ∧ plan.Suits o.options schema ∧
      (query = plan.fetch.sql ∨
        ∃ φ, query = (plan.verification mode (plan.compoundOf φ)).sql) := by
  obtain ⟨r, before, w₁, hplanning, hends⟩ := o.planning_traced c w
  have hunasked := hends.unasked
  cases r with
  | error halt =>
    rw [transcript_of_traced hplanning.bind_error] at hquery
    exact absurd hquery (hunasked query answer)
  | ok plan =>
    refine ⟨plan, congrArg Prod.fst hplanning.run, ?_⟩
    rcases hanswer : Id.run ((c.query plan.fetch.sql).run w₁.engine) with ⟨answer₁, e⟩
    obtain ⟨r, s, hsurvey, hends'⟩ := o.survey_traced c plan hanswer
    -- The schema is read once, before the queries, so the plan is one for it.
    have hsuits : ∀ {queries : List Exchange}, (∀ x ∈ queries, ∃ q a, x = .query q a) →
        .readSchema (.ok schema) ∈ before ++ queries → plan.Suits o.options schema := by
      intro queries hqueries hmem
      cases hends with
      | @planned opening hopening schema' _ hsuits =>
        have hsame : schema = schema' := by
          rcases List.mem_append.mp hmem with hmem | hmem
          · rcases hopening with rfl | rfl <;> simpa using hmem
          · obtain ⟨q, a, hx⟩ := hqueries _ hmem
            cases hx
        exact hsame ▸ hsuits
    cases r with
    | error halt =>
      rw [transcript_of_traced (hplanning.bind hsurvey.bind_error)] at hread hquery
      refine ⟨hsuits (by simp) hread, .inl ?_⟩
      rcases List.mem_append.mp hquery with hmem | hmem
      · exact absurd hmem (hunasked query answer)
      · exact (Exchange.query.inj (List.mem_singleton.mp hmem)).1
    | ok known =>
      cases hends' with
      | surveyed hrows hsome φ =>
        have htrial := trial_of_survey mode hplanning hsurvey rfl
        rw [transcript_of_traced htrial] at hread hquery
        refine ⟨hsuits (by simp) hread, ?_⟩
        rcases List.mem_append.mp hquery with hmem | hmem
        · exact absurd hmem (hunasked query answer)
        · rcases List.mem_pair.mp hmem with h | h
          · exact .inl (Exchange.query.inj h).1
          · exact .inr ⟨φ, (Exchange.query.inj h).1⟩

/-- No query is asked before a schema is read. -/
theorem readSchema_of_query {query : String} {answer : Answer (Option (List Row))}
    (hquery : .query query answer ∈ o.transcript c mode w) :
    ∃ schema, .readSchema (.ok schema) ∈ o.transcript c mode w := by
  obtain ⟨halt, said, w', hends, h⟩ | ⟨plan, before, rows, φ, w₂, hends, -, h⟩ :=
    o.trial_traced c w
  · rw [transcript_of_traced (h mode)] at hquery ⊢
    rcases hends with hends | ⟨plan, before, answer₁, hends, -, rfl⟩
    · exact absurd hquery (hends.unasked query answer)
    · cases hends with
      | @planned opening _ schema _ _ => exact ⟨schema, by simp⟩
  · rw [transcript_of_traced (h mode _ _ rfl)]
    cases hends with
    | @planned opening _ schema _ _ => exact ⟨schema, by simp⟩

end Oracle

/-! ## Generated queries -/

/-- **Every generated query makes sense.** Over a coherent schema both queries of a check are sound
and the predicates of the check are booleans, on every engine and every stream. Over coherent tables
the query of a view is sound, and it projects one expression for each column of the view, of the
type of that column. -/
theorem generated_queries_sound :
    (∀ (σ : Type) (o : Oracle) (c : Client σ) (mode : Mode) (w : World σ) (schema : Schema),
      schema.Coherent → .readSchema (.ok schema) ∈ o.transcript c mode w →
      ∀ query answer, .query query answer ∈ o.transcript c mode w →
      ∃ (plan : Plan) (q : Select), ((o.planning c).runOn w).1 = .ok plan ∧
        (q = plan.fetch ∨ ∃ φ, q = plan.verification mode (plan.compoundOf φ)) ∧
        query = q.sql ∧ q.Sound schema ∧
        ∀ e ∈ plan.predicates, schema.Types q.source.names e .boolean) ∧
    ∀ (w : Generate.Workload) (g : Generate.Options) (a a' : Generate.Author)
      (tables : List Table), Schema.Coherent ⟨tables⟩ →
      ∀ (s s' : Stream) (view : Table) (q : Select),
        (Generate.createView w g a tables).runOn s = (.ok (some (view, q), a'), s') →
        q.Sound ⟨tables⟩ ∧ q.projection.length = view.columns.length ∧
          ∀ (i : Nat) (c : Column) (e : Expr), view.columns[i]? = some c →
            q.projection[i]? = some e → Schema.Types ⟨tables⟩ q.source.names e c.type := by
  constructor
  · intro σ o c mode w schema hs hread query answer hquery
    obtain ⟨plan, hplan, hsuits, hq⟩ := Oracle.plan_of_query hread hquery
    have htyped : plan.WellTyped := o.planning_returns c w plan _ (Prod.ext hplan rfl)
    have hpredicates := htyped.types_predicates hsuits hs
    rcases hq with rfl | ⟨φ, rfl⟩
    · exact ⟨plan, plan.fetch, hplan, .inl rfl, rfl, htyped.fetch_sound hsuits hs, hpredicates⟩
    · exact ⟨plan, plan.verification mode (plan.compoundOf φ), hplan, .inr ⟨φ, rfl⟩, rfl,
        htyped.verification_sound hsuits hs mode φ, hpredicates⟩
  · intro w g a a' tables hs s s' view q hrun
    obtain ⟨⟨-, chosen, hchosen, hview⟩, -⟩ :=
      (Generate.yields_createView w g a tables).of_runOn_ok hrun
    have hsub : chosen ⊆ tables := fun t ht => List.mem_of_mem_filter (hchosen.mem ht)
    obtain ⟨hsound, htypes⟩ := hview.sound hs hsub
    refine ⟨hsound, htypes.length_eq.symm, fun i c e hc he => ?_⟩
    obtain ⟨hi, rfl⟩ := List.getElem?_eq_some_iff.mp hc
    obtain ⟨hj, rfl⟩ := List.getElem?_eq_some_iff.mp he
    exact htypes.get hi hj

/-- The second of two tables is the target: of a check with one predicate, and of a view with two
columns of different types. -/
theorem generated_queries_sound_one_target :
    let schema : Schema := ⟨[⟨"t0", [⟨"t0", "c0", .integer, true⟩]⟩,
      ⟨"t1", [⟨"t1", "c0", .varchar, true⟩, ⟨"t1", "c1", .integer, false⟩]⟩]⟩
    let c : Client Unit :=
      ⟨fun _ => return .ok (some []), fun _ => return .ok 0, return .ok (), return .ok schema⟩
    let o : Oracle := .new ⟨1, ⟨0, 0.1, .uniform⟩, 2, 1, 1, 0, Mode.all⟩ ⟨0, false, 0.05⟩ .empty
    let w : World Unit := ⟨(), .ofSeed 13⟩
    let query := "SELECT t1.c0, t1.c1, (t1.c1 <= -10) FROM t1 ORDER BY t1.c0, t1.c1"
    let c1 : Expr := .column ⟨"t1", "c1"⟩
    let view : Table := ⟨"v0", [⟨"v0", "c0", .varchar, true⟩, ⟨"v0", "c1", .integer, true⟩]⟩
    let body : Select := ⟨true, [.column ⟨"t1", "c0"⟩, .arithmetic .subtract c1 c1], ⟨["t1"], []⟩,
      some (.between true (.literal (.integer (-65))) c1 c1), []⟩
    (schema.Coherent ∧ .readSchema (.ok schema) ∈ o.transcript c .plain w ∧
      .query query (.ok (some [])) ∈ o.transcript c .plain w ∧
      ∃ q : Select, query = q.sql ∧ q.Sound schema) ∧
    ((Generate.createView ⟨2, 2, 1, 1, 1, 1, 1, true, true⟩ o.generator .fresh
        schema.tables).runOn (.ofSeed 144)).1 = .ok (some (view, body), ⟨0, 1⟩) ∧
      body.Sound schema ∧ schema.Types ["t1"] (.arithmetic .subtract c1 c1) .integer := by
  intro schema c o w query c1 view body
  have hs : schema.Coherent := by decide
  have hread : .readSchema (.ok schema) ∈ o.transcript c .plain w := by decide +kernel
  have hquery : .query query (.ok (some [])) ∈ o.transcript c .plain w := by decide +kernel
  have hview : ((Generate.createView ⟨2, 2, 1, 1, 1, 1, 1, true, true⟩ o.generator .fresh
      schema.tables).runOn (.ofSeed 144)).1 = .ok (some (view, body), ⟨0, 1⟩) := by decide +kernel
  obtain ⟨hchecks, hviews⟩ := generated_queries_sound
  obtain ⟨plan, q, -, -, hq, hsound, -⟩ := hchecks Unit o c .plain w schema hs hread _ _ hquery
  obtain ⟨hbody, -, htypes⟩ :=
    hviews _ _ _ _ schema.tables hs _ _ view body (Prod.ext hview rfl)
  exact ⟨⟨hs, hread, hquery, q, hq, hsound⟩, hview, hbody, htypes 1 _ _ rfl rfl⟩

end PredicateOracle
