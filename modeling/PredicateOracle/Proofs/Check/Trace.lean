import PredicateOracle.Proofs.Check.Comparison
import PredicateOracle.Proofs.Check.Plan
import PredicateOracle.Proofs.Engine.Session

/-!
# PredicateOracle.Proofs.Check.Trace -- every way in which a check can go

For each of the three parts of a check this module says, on every engine and every stream, what is
said to the engine and what the part comes to. Finding a plan has six ends (`PlanningEnds`), the
first query has five, given its answer (`SurveyEnds`), and the second query has one, a function of
its answer (`Oracle.confront_traced`). What is proved of whole checks elsewhere is put together from
these three results; none of it looks into the steps again.
-/

namespace PredicateOracle

open Sql Check
open PredicateOracle.Random (Odds)
open Session (Traced)

variable {σ : Type}

/-! ## Queries -/

/-- What the answer to a query means for the check. -/
def Allowlist.rowsOf (a : Allowlist) (query : String) :
    Answer (Option (List Row)) → Except Interruption (List Row)
  | .ok (some rows) => .ok rows
  | .ok none => .error (.inconclusive (.noResult query))
  | .error e => .error (a.classify query e)

/-- Only rows count as rows. -/
theorem Allowlist.rowsOf_eq_ok {a : Allowlist} {query : String}
    {answer : Answer (Option (List Row))} {rows : List Row}
    (h : a.rowsOf query answer = .ok rows) : answer = .ok (some rows) := by
  rcases answer with e | _ | rows'
  · cases h
  · cases h
  · cases h
    rfl

theorem Client.rows_traced {c : Client σ} {a : Allowlist} {query : String} {w : World σ}
    {answer : Answer (Option (List Row))} {e : σ}
    (h : Id.run ((c.query query).run w.engine) = (answer, e)) :
    Traced (c.rows a query) (c.recorded.rows a query) w
      ((a.rowsOf query answer).mapError .raised) [.query query answer] ⟨e, w.stream⟩ := by
  cases answer with
  | error error => exact (Traced.ask_error h).bind_error
  | ok result =>
    cases result with
    | none => exact (Traced.ask_ok h).bind (.raise _ _)
    | some rows => exact (Traced.ask_ok h).bind (.pure _ _)

theorem Trial.settle_traced {α : Type} (r : Except Defect α) (w : World σ) :
    Traced (Trial.settle r) (Trial.settle r) w (r.mapError fun d => .raised (.defect d)) [] w := by
  cases r with
  | ok a => exact .pure a w
  | error d => exact .raise _ w

theorem Trial.verdict_traced (r : Except Interruption Nat) (w : World σ) :
    Traced (match r with | .ok rows => pure rows | .error i => Session.raise i)
      (match r with | .ok rows => pure rows | .error i => Session.raise i) w
      (r.mapError .raised) [] w := by
  cases r with
  | ok rows => exact .pure rows w
  | error i => exact .raise i w

/-! ## Finding a plan -/

/-- What may be said before the schema is read: nothing, or a granted release. -/
def IsOpening (said : List Exchange) : Prop := said = [] ∨ said = [.release (.ok ())]

/-- The probabilities that decide about a plan. -/
def Oracle.planChances (o : Oracle) : List Float :=
  [o.options.joinProbability, o.options.orderedProbability, o.generator.nullProbability]

/-- **`PlanningEnds o r said`** -- the ways in which finding a plan can end: its outcome and what was
said to the engine. -/
inductive PlanningEnds (o : Oracle) : Except (Halt Interruption) Plan → List Exchange → Prop
  | releaseChance {f : Fault} (h : f.OfChance [o.options.releaseProbability]) :
    PlanningEnds o (.error (.fault f)) []
  | refusedRelease (e : EngineError) :
    PlanningEnds o (.error (.raised (.database e))) [.release (.error e)]
  | refusedSchema {opening : List Exchange} (h : IsOpening opening) (e : EngineError) :
    PlanningEnds o (.error (.raised (.database e))) (opening ++ [.readSchema (.error e)])
  | planChance {opening : List Exchange} (h : IsOpening opening) (schema : Schema) {f : Fault}
    (hf : f.OfChance o.planChances) (husable : schema.usable ≠ []) :
    PlanningEnds o (.error (.fault f)) (opening ++ [.readSchema (.ok schema)])
  | noRoom {opening : List Exchange} (h : IsOpening opening) (schema : Schema) {f : Fault}
    (hf : f.OfRoom .expression o.options.predicates) (husable : schema.usable ≠ []) :
    PlanningEnds o (.error (.fault f)) (opening ++ [.readSchema (.ok schema)])
  | emptySchema {opening : List Exchange} (h : IsOpening opening) {schema : Schema}
    (hempty : schema.usable = []) :
    PlanningEnds o (.error (.raised (.inconclusive .emptySchema)))
      (opening ++ [.readSchema (.ok schema)])
  | planned {opening : List Exchange} (h : IsOpening opening) {schema : Schema} {plan : Plan}
    (hplan : plan.Suits o.options schema) :
    PlanningEnds o (.ok plan) (opening ++ [.readSchema (.ok schema)])

namespace Oracle

variable (o : Oracle) (c : Client σ)

/-- The engine is asked for a release or not, and if it refuses, nothing more is done. -/
theorem opening_traced (w : World σ) :
    ∃ r said w', Traced (o.opening c) (o.opening c.recorded) w r said w' ∧
      (r = .ok () ∧ IsOpening said ∨
        ∃ halt, r = .error halt ∧ PlanningEnds o (.error halt) said) := by
  have hchance := Gen.yields_chance (List.mem_singleton_self o.options.releaseProbability)
  obtain ⟨b, s, -, hdraw⟩ | ⟨f, s, hf, hdraw⟩ := Traced.draw (ε := Interruption) hchance w
  · cases b with
    | false => exact ⟨_, _, _, hdraw.bind (.pure () _), .inl ⟨rfl, .inl rfl⟩⟩
    | true =>
      rcases hrelease : Id.run (c.release.run w.engine) with ⟨e | ⟨⟩, engine⟩
      · exact ⟨_, _, _, hdraw.bind (.ask_error hrelease), .inr ⟨_, rfl, .refusedRelease e⟩⟩
      · exact ⟨_, _, _, hdraw.bind (.ask_ok hrelease), .inl ⟨rfl, .inr rfl⟩⟩
  · exact ⟨_, _, _, hdraw.bind_error, .inr ⟨_, rfl, .releaseChance hf⟩⟩

/-- **Finding a plan has no other ends than those listed.** -/
theorem planning_traced (w : World σ) :
    ∃ r said w', Traced (o.planning c) (o.planning c.recorded) w r said w' ∧
      PlanningEnds o r said := by
  obtain ⟨r, said, w₁, hopening, ⟨rfl, hsaid⟩ | ⟨halt, rfl, hends⟩⟩ := o.opening_traced c w
  -- From here on every exchange follows a granted opening.
  · rcases hschema : Id.run (c.readSchema.run w₁.engine) with ⟨e | schema, engine⟩
    · exact ⟨_, _, _, hopening.bind (Traced.ask_error hschema).bind_error, .refusedSchema hsaid e⟩
    · have hplan := @Plan.yields_draw o.options o.generator o.planChances
        (by simp [planChances]) (by simp [planChances]) (by simp [planChances]) schema
      have hread : Traced (Session.ask c.readSchema Interruption.database)
          (Session.ask c.recorded.readSchema Interruption.database) w₁ (.ok schema)
          [.readSchema (.ok schema)] ⟨engine, w₁.stream⟩ := .ask_ok hschema
      obtain ⟨plan, s, hplan, hdraw⟩ | ⟨f, s, hf, hdraw⟩ := Traced.draw (ε := Interruption) hplan _
      · cases plan with
        | none =>
          exact ⟨_, _, _, hopening.bind (hread.bind (hdraw.bind (.raise _ _))),
            .emptySchema hsaid hplan⟩
        | some plan =>
          exact ⟨_, _, _, hopening.bind (hread.bind (hdraw.bind (.pure _ _))),
            .planned hsaid hplan.1⟩
      · refine ⟨_, _, _, hopening.bind (hread.bind hdraw.bind_error), ?_⟩
        obtain ⟨hchance | hroom, husable⟩ := hf
        · exact .planChance hsaid schema hchance husable
        · exact .noRoom hsaid schema hroom husable
  · exact ⟨_, _, _, hopening.bind_error, hends⟩

end Oracle

/-! ## The first query -/

/-- **`SurveyEnds o plan answer r`** -- the ways in which the first query of a plan can end, given its
answer. -/
inductive SurveyEnds (o : Oracle) (plan : Plan) :
    Answer (Option (List Row)) → Except (Halt Interruption) (Snapshot × Known) → Prop
  | unanswered {answer : Answer (Option (List Row))} {i : Interruption}
    (h : o.allowlist.rowsOf plan.fetch.sql answer = .error i) :
    SurveyEnds o plan answer (.error (.raised i))
  | malformed {rows : List Row} {d : Defect} (h : ¬ plan.WellFormed rows)
    (hd : Snapshot.ofRows rows plan.projection.length plan.predicates plan.fetch.sql = .error d) :
    SurveyEnds o plan (.ok (some rows)) (.error (.raised (.defect d)))
  | leafChance {rows : List Row} (h : plan.WellFormed rows) {f : Fault}
    (hf : f.OfChance [o.options.compound.leafProbability]) :
    SurveyEnds o plan (.ok (some rows)) (.error (.fault f))
  | noPredicates {rows : List Row} (h : plan.WellFormed rows) (hnone : plan.predicates = []) :
    SurveyEnds o plan (.ok (some rows)) (.error (.raised (.defect .noPredicates)))
  | surveyed {rows : List Row} (h : plan.WellFormed rows) (hsome : plan.predicates ≠ [])
    (φ : Formula (Fin plan.predicates.length)) :
    SurveyEnds o plan (.ok (some rows)) (.ok (plan.snapshot rows, plan.known rows φ))

namespace Oracle

variable (o : Oracle) (c : Client σ)

/-- Rows in answer to the first query are split into a snapshot. -/
theorem snapshot_traced {plan : Plan} {w : World σ} {rows : List Row} {e : σ}
    (h : Id.run ((c.query plan.fetch.sql).run w.engine) = (.ok (some rows), e)) :
    Traced (c.snapshot o.allowlist plan.projection plan.predicates plan.source plan.orderBy)
      (c.recorded.snapshot o.allowlist plan.projection plan.predicates plan.source plan.orderBy) w
      ((Snapshot.ofRows rows plan.projection.length plan.predicates plan.fetch.sql).mapError
        fun d => .raised (.defect d))
      [.query plan.fetch.sql (.ok (some rows))] ⟨e, w.stream⟩ := by
  have hrows := Client.rows_traced (a := o.allowlist) h
  exact hrows.bind (Trial.settle_traced _ _)

/-- **The first query has no other ends than those listed.** It is the only thing that is said. -/
theorem survey_traced (plan : Plan) {w : World σ} {answer : Answer (Option (List Row))} {e : σ}
    (h : Id.run ((c.query plan.fetch.sql).run w.engine) = (answer, e)) :
    ∃ r s, Traced (o.survey c plan) (o.survey c.recorded plan) w r
      [.query plan.fetch.sql answer] ⟨e, s⟩ ∧ SurveyEnds o plan answer r := by
  rcases hanswer : o.allowlist.rowsOf plan.fetch.sql answer with i | rows
  · have hrows := Client.rows_traced (a := o.allowlist) h
    rw [hanswer] at hrows
    exact ⟨_, _, hrows.bind_error.bind_error, .unanswered hanswer⟩
  · obtain rfl := Allowlist.rowsOf_eq_ok hanswer
    have hsnapshot := o.snapshot_traced c h
    rcases hsplit : Snapshot.ofRows rows plan.projection.length plan.predicates plan.fetch.sql
      with d | snapshot
    · have hmalformed : ¬ plan.WellFormed rows := by
        intro hrows
        rw [Plan.ofRows_eq_ok_iff.mpr ⟨hrows, rfl⟩] at hsplit
        cases hsplit
      rw [hsplit] at hsnapshot
      exact ⟨_, _, hsnapshot.bind_error, .malformed hmalformed hsplit⟩
    · obtain ⟨hrows, rfl⟩ := Plan.ofRows_eq_ok_iff.mp hsplit
      rw [hsplit] at hsnapshot
      have hcompound := plan.yields_compound rows o.options.compound
      obtain ⟨compound, s, hcompound, hdraw⟩ | ⟨f, s, hf, hdraw⟩ :=
        Traced.draw (ε := Interruption) hcompound _
      · cases compound with
        | none =>
          exact ⟨_, _, hsnapshot.bind (hdraw.bind (.raise _ _)), .noPredicates hrows hcompound⟩
        | some compound =>
          obtain ⟨hsome, φ, rfl⟩ := hcompound
          exact ⟨_, _, hsnapshot.bind (hdraw.bind (.pure _ _)), .surveyed hrows hsome φ⟩
      · exact ⟨_, _, hsnapshot.bind hdraw.bind_error, .leafChance hrows hf⟩

end Oracle

/-! ## The second query -/

namespace Oracle

/-- What the answer to the second query comes to: a refusal or a missing result counts as for every
query, and rows are judged against the rows of the first answer on which the formula holds. -/
def judgement (o : Oracle) (mode : Mode) (plan : Plan) (rows : List Row)
    (φ : Formula (Fin plan.predicates.length)) (seed : UInt64)
    (answer : Answer (Option (List Row))) : Except (Halt Interruption) Nat :=
  let query := (plan.verification mode (plan.compoundOf φ)).sql
  match o.allowlist.rowsOf query answer with
  | .error i => .error (.raised i)
  | .ok actual =>
    (judge plan mode seed query (plan.snapshot rows) (plan.known rows φ)
      (mode.answer (plan.kept rows φ)) actual).mapError .raised

variable {mode : Mode} {plan : Plan} {rows actual : List Row}
  {φ : Formula (Fin plan.predicates.length)}

/-- An answer that agrees with the expected one is passed with the number of expected rows. -/
theorem judgement_of_agrees (o : Oracle) (seed : UInt64)
    (h : mode.Agrees plan.ordered (mode.answer (plan.kept rows φ)) actual) :
    o.judgement mode plan rows φ seed (.ok (some actual)) =
      .ok (mode.answer (plan.kept rows φ)).length := by
  rw [← Mode.mismatch?_eq_none_iff] at h
  show (judge plan mode seed _ _ _ (mode.answer (plan.kept rows φ)) actual).mapError _ = _
  rw [judge, h]
  rfl

/-- Any other answer is reported, with the queries and answers of the check. -/
theorem judgement_of_not_agrees (o : Oracle) (seed : UInt64)
    (h : ¬ mode.Agrees plan.ordered (mode.answer (plan.kept rows φ)) actual) :
    ∃ mismatch, o.judgement mode plan rows φ seed (.ok (some actual)) =
      .error (.raised (.logicBug {
        seed := seed
        query := (plan.verification mode (plan.compoundOf φ)).sql
        fetchQuery := plan.fetch.sql
        predicates := plan.predicates.map Expr.sql
        compound := (plan.compoundOf φ).sql
        expected := mode.answer (plan.kept rows φ)
        actual := actual
        mismatch := mismatch })) := by
  rw [← Mode.mismatch?_eq_none_iff] at h
  obtain ⟨m, hm⟩ := Option.ne_none_iff_exists'.mp h
  refine ⟨m.message, ?_⟩
  show (judge plan mode seed _ _ _ (mode.answer (plan.kept rows φ)) actual).mapError _ = _
  rw [judge, hm, ← plan.snapshot_texts rows]
  rfl

/-- **The second query has one end for each answer.** -/
theorem confront_traced (o : Oracle) (c : Client σ) (mode : Mode) (plan : Plan) (rows : List Row)
    (φ : Formula (Fin plan.predicates.length)) {w : World σ} {answer : Answer (Option (List Row))} {e : σ}
    (h : Id.run ((c.query (plan.verification mode (plan.compoundOf φ)).sql).run w.engine) =
      (answer, e)) :
    Traced (o.confront c mode plan (plan.snapshot rows) (plan.known rows φ))
      (o.confront c.recorded mode plan (plan.snapshot rows) (plan.known rows φ)) w
      (o.judgement mode plan rows φ w.stream.seed answer)
      [.query (plan.verification mode (plan.compoundOf φ)).sql answer] ⟨e, w.stream⟩ := by
  have hexpected : expectedRows mode (plan.snapshot rows) (plan.known rows φ) =
      .ok (mode.answer (plan.kept rows φ)) := expectedRows_eq mode rfl rfl
  have hsettle := Trial.settle_traced (expectedRows mode (plan.snapshot rows) (plan.known rows φ)) w
  have hrows := Client.rows_traced (a := o.allowlist) h
  rw [hexpected] at hsettle
  rw [judgement]
  unfold confront
  rw [hexpected]
  rcases hanswer : o.allowlist.rowsOf _ answer with i | actual
  · rw [hanswer] at hrows
    exact hsettle.bind hrows.bind_error
  · rw [hanswer] at hrows
    let verdict (seed : UInt64) : Except Interruption Nat :=
      judge plan mode seed (plan.verification mode (plan.compoundOf φ)).sql (plan.snapshot rows)
        (plan.known rows φ) (mode.answer (plan.kept rows φ)) actual
    have hverdict := Trial.verdict_traced (verdict w.stream.seed) ⟨e, w.stream⟩
    -- The seed is read from the world, which the recording twin shares up to its engine.
    exact hsettle.bind (hrows.bind ⟨hverdict.run, hverdict.recorded, rfl⟩)

end Oracle

/-! ## Whole checks -/

/-- **`EndsEarly o halt said`** -- a check ends with `halt` before its second query. -/
def EndsEarly (o : Oracle) (halt : Halt Interruption) (said : List Exchange) : Prop :=
  PlanningEnds o (.error halt) said ∨
    ∃ plan before answer, PlanningEnds o (.ok plan) before ∧
      SurveyEnds o plan answer (.error halt) ∧ said = before ++ [.query plan.fetch.sql answer]

namespace Oracle

/-- What a check says to the engine, with the answers. -/
def transcript (o : Oracle) (c : Client σ) (mode : Mode) (w : World σ) : List Exchange :=
  (o.check c.recorded mode ⟨(w.engine, []), w.stream⟩).2.2.engine.2

variable {o : Oracle} {c : Client σ} {mode : Mode} {w w' : World σ}
  {r : Except (Halt Interruption) Nat} {said : List Exchange}

theorem check_of_traced (h : Traced (o.trial c mode) (o.trial c.recorded mode) w r said w') :
    o.check c mode w = (Outcome.ofTrial r, { o with stats := o.stats.count r }, w') := by
  rw [check, h.run]

theorem transcript_of_traced
    (h : Traced (o.trial c mode) (o.trial c.recorded mode) w r said w') :
    o.transcript c mode w = said := by
  rw [transcript, check, h.recorded []]
  rfl

/-- A check that has its plan and its compound asks the second query. -/
theorem trial_of_survey (mode : Mode) {plan : Plan} {before : List Exchange} {w₁ w₂ : World σ}
    {rows : List Row} {φ : Formula (Fin plan.predicates.length)}
    {answer : Answer (Option (List Row))} {e : σ}
    (hplanning : Traced (o.planning c) (o.planning c.recorded) w (.ok plan) before w₁)
    (hsurvey : Traced (o.survey c plan) (o.survey c.recorded plan) w₁
      (.ok (plan.snapshot rows, plan.known rows φ)) [.query plan.fetch.sql (.ok (some rows))] w₂)
    (h : Id.run ((c.query (plan.verification mode (plan.compoundOf φ)).sql).run w₂.engine) =
      (answer, e)) :
    Traced (o.trial c mode) (o.trial c.recorded mode) w
      (o.judgement mode plan rows φ w.stream.seed answer)
      (before ++ [.query plan.fetch.sql (.ok (some rows)),
        .query (plan.verification mode (plan.compoundOf φ)).sql answer]) ⟨e, w₂.stream⟩ := by
  have hconfront := o.confront_traced c mode plan rows φ h
  rw [← hsurvey.seed.trans hplanning.seed]
  exact hplanning.bind (hsurvey.bind hconfront)

variable (o c w)

/-- **Only the last step of a check depends on the mode.** In every mode a check either ends early in
the same way, or comes to the same plan, the same first answer and the same compound, and then asks
the second query. -/
theorem trial_traced :
    (∃ halt said w', EndsEarly o halt said ∧
      ∀ mode, Traced (o.trial c mode) (o.trial c.recorded mode) w (.error halt) said w') ∨
    ∃ (plan : Plan) (before : List Exchange) (rows : List Row)
        (φ : Formula (Fin plan.predicates.length)) (w₂ : World σ),
      PlanningEnds o (.ok plan) before ∧ plan.WellFormed rows ∧
      ∀ mode answer e,
        Id.run ((c.query (plan.verification mode (plan.compoundOf φ)).sql).run w₂.engine) =
          (answer, e) →
        Traced (o.trial c mode) (o.trial c.recorded mode) w
          (o.judgement mode plan rows φ w.stream.seed answer)
          (before ++ [.query plan.fetch.sql (.ok (some rows)),
            .query (plan.verification mode (plan.compoundOf φ)).sql answer]) ⟨e, w₂.stream⟩ := by
  obtain ⟨r, before, w₁, hplanning, hends⟩ := o.planning_traced c w
  cases r with
  | error halt => exact .inl ⟨halt, before, w₁, .inl hends, fun mode => hplanning.bind_error⟩
  | ok plan =>
    rcases hanswer : Id.run ((c.query plan.fetch.sql).run w₁.engine) with ⟨answer, e⟩
    obtain ⟨r, s, hsurvey, hends'⟩ := o.survey_traced c plan hanswer
    cases r with
    | error halt =>
      exact .inl ⟨halt, _, _, .inr ⟨plan, before, answer, hends, hends', rfl⟩,
        fun mode => hplanning.bind hsurvey.bind_error⟩
    | ok known =>
      cases hends' with
      | surveyed hrows hsome φ =>
        exact .inr ⟨plan, before, _, φ, _, hends, hrows,
          fun mode answer' e' => trial_of_survey mode hplanning hsurvey⟩

/-- **Well-formed rows in answer to the first query lead to the second one**, unless the leaf
probability of compounds is not a number. -/
theorem trial_of_rows {plan : Plan} {w₁ : World σ} {rows : List Row} {e : σ}
    (hpredicates : 0 < o.options.predicates)
    (hplan : (o.planning c).runOn w = (.ok plan, w₁))
    (hanswer : Id.run ((c.query plan.fetch.sql).run w₁.engine) = (.ok (some rows), e))
    (hrows : plan.WellFormed rows) :
    ∃ before, Traced (o.planning c) (o.planning c.recorded) w (.ok plan) before w₁ ∧
      PlanningEnds o (.ok plan) before ∧
      ∃ s, (Odds.ofProbability o.options.compound.leafProbability = .undefined ∧
          Traced (o.survey c plan) (o.survey c.recorded plan) w₁
            (.error (.fault .undefinedProbability))
            [.query plan.fetch.sql (.ok (some rows))] ⟨e, s⟩) ∨
        ∃ φ, Traced (o.survey c plan) (o.survey c.recorded plan) w₁
          (.ok (plan.snapshot rows, plan.known rows φ))
          [.query plan.fetch.sql (.ok (some rows))] ⟨e, s⟩ := by
  obtain ⟨r, before, w', hplanning, hends⟩ := o.planning_traced c w
  -- Finding a plan has one outcome, so the plan at hand is the one that is traced.
  obtain ⟨rfl, rfl⟩ := Prod.mk.inj (hplanning.run.symm.trans hplan)
  obtain ⟨r, s, hsurvey, hends'⟩ := o.survey_traced c plan hanswer
  refine ⟨before, hplanning, hends, s, ?_⟩
  cases hends' with
  | unanswered h => cases h
  | malformed h hd => exact absurd hrows h
  | leafChance h hf =>
    obtain ⟨rfl, p, hp, hodds⟩ := hf
    rw [List.mem_singleton.mp hp] at hodds
    exact .inl ⟨hodds, hsurvey⟩
  | noPredicates h hnone =>
    cases hends with
    | planned hopening hsuits =>
      have hcount := hsuits.predicates
      rw [hnone, List.length_nil] at hcount
      omega
  | surveyed h hsome φ => exact .inr ⟨φ, hsurvey⟩

end Oracle
end PredicateOracle
