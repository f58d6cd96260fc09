import PredicateOracle.Proofs.Check.Failures
import PredicateOracle.Proofs.Check.Faithful

/-!
# PredicateOracle.Proofs.Check.Defects -- what a check can be blamed for itself

Most outcomes of a check are about the engine. Two kinds are about the check: a fault, when a step asked
for the impossible, and a defect, when data did not fit. Here it is shown where they can come from.
A fault is a coin whose probability is not a number, or a lack of room for the predicates; the latter is
met by every check that finds a column (`Oracle.fault_iff`). The only defect of a check that has
predicates is an answer to its first query that is not well formed, and every such answer is one
(`Oracle.defect_iff`).
-/

namespace PredicateOracle

open Sql Check
open PredicateOracle.Random (Odds)
open Session (Traced)

variable {σ : Type}

/-- **`o.FirstAnswer c w plan rows`** -- a check that begins in the world `w` finds the plan, and its
first query is answered with these rows. -/
def Oracle.FirstAnswer (o : Oracle) (c : Client σ) (w : World σ) (plan : Plan) (rows : List Row) :
    Prop :=
  ∃ w₁ e, (o.planning c).runOn w = (.ok plan, w₁) ∧
    Id.run ((c.query plan.fetch.sql).run w₁.engine) = (.ok (some rows), e)

/-- **`Fault.OfCheck o f`** -- the fault `f` can be met in a check: a probability is not a number, or
there is no room for the predicates. -/
def Fault.OfCheck (o : Oracle) (f : Fault) : Prop :=
  f.OfChance o.chances ∨ f.OfRoom .expression o.options.predicates

/-- A planning that comes to nothing lacks room exactly if it has read a column, provided that all
probabilities are numbers. -/
theorem PlanningEnds.lacksRoom_iff {o : Oracle} {halt : Halt Interruption} {said : List Exchange}
    (h : PlanningEnds o (.error halt) said)
    (hchances : ∀ p ∈ o.chances, Odds.ofProbability p ≠ .undefined) :
    halt = .fault .capacityOverflow ↔
      ∃ schema, .readSchema (.ok schema) ∈ said ∧ schema.usable ≠ [] := by
  cases h with
  | releaseChance hf =>
    obtain ⟨-, p, hp, hodds⟩ := hf
    exact absurd hodds (hchances p (by simp [Oracle.chances, List.mem_singleton.mp hp]))
  | refusedRelease e => exact iff_of_false (by simp) (by simp)
  | refusedSchema hopening e =>
    exact iff_of_false (by simp) (by rcases hopening with rfl | rfl <;> simp)
  | planChance hopening schema hf husable =>
    obtain ⟨-, p, hp, hodds⟩ := hf
    exact absurd hodds (hchances p (by simp [Oracle.chances, hp]))
  | noRoom hopening schema hf husable =>
    obtain ⟨rfl, -⟩ := hf
    exact iff_of_true rfl ⟨schema, by simp, husable⟩
  | emptySchema hopening hempty =>
    exact iff_of_false (by simp) (by rcases hopening with rfl | rfl <;> simpa using hempty)

/-- A check meets the faults of its trial. -/
theorem Outcome.eq_fault_of_ofTrial {halt : Halt Interruption} {f : Fault}
    (h : ofTrial (.error halt) = .error (.fault f)) : halt = .fault f := by
  cases halt with
  | fault f => cases h; rfl
  | raised i => cases i <;> cases h

/-- **`CheckEnds o c w outcome`** -- the ways in which a check can end. -/
inductive CheckEnds (o : Oracle) (c : Client σ) (w : World σ) :
    Except (Halt Interruption) Outcome → Prop
  | fault {f : Fault} (hf : f.OfCheck o) : CheckEnds o c w (.error (.fault f))
  | database (e : EngineError) : CheckEnds o c w (.error (.raised (.database e)))
  | emptySchema : CheckEnds o c w (.ok (.inconclusive .emptySchema))
  | abandoned {query : String} {answer : Answer (Option (List Row))}
    {outcome : Except (Halt Interruption) Outcome}
    (h : Abandons o.allowlist query answer outcome) : CheckEnds o c w outcome
  | malformed {plan : Plan} {rows : List Row} (hfirst : o.FirstAnswer c w plan rows)
    (hrows : ¬ plan.WellFormed rows) {d : Defect} (hd : Snapshot.OfRows d) :
    CheckEnds o c w (.error (.raised (.defect d)))
  | noPredicates (h : o.options.predicates = 0) :
    CheckEnds o c w (.error (.raised (.defect .noPredicates)))
  | verdict {outcome : Except (Halt Interruption) Outcome} (h : IsVerdict outcome) :
    CheckEnds o c w outcome

namespace CheckEnds

variable {o : Oracle} {c : Client σ} {w : World σ} {plan : Plan} {rows : List Row}

/-- A check that finds no plan. -/
theorem of_planning {halt : Halt Interruption} {said : List Exchange}
    (h : PlanningEnds o (.error halt) said) : CheckEnds o c w (Outcome.ofTrial (.error halt)) := by
  cases h with
  | releaseChance hf => exact .fault (.inl (hf.mono (by simp [Oracle.chances])))
  | refusedRelease e => exact .database e
  | refusedSchema _ e => exact .database e
  | planChance _ _ hf _ => exact .fault (.inl (hf.mono fun p hp => by simp [Oracle.chances, hp]))
  | noRoom _ _ hf _ => exact .fault (.inr hf)
  | emptySchema _ _ => exact .emptySchema

/-- A check that ends with its first query. -/
theorem of_survey {answer : Answer (Option (List Row))} {halt : Halt Interruption}
    (hcount : plan.predicates.length = o.options.predicates)
    (hfirst : ∀ rows, answer = .ok (some rows) → o.FirstAnswer c w plan rows)
    (h : SurveyEnds o plan answer (.error halt)) :
    CheckEnds o c w (Outcome.ofTrial (.error halt)) := by
  cases h with
  | unanswered hi => exact .abandoned (.of_rowsOf hi)
  | malformed hrows hd => exact .malformed (hfirst _ rfl) hrows (Snapshot.ofRows_error hd)
  | leafChance _ hf => exact .fault (.inl (hf.mono (by simp [Oracle.chances])))
  | noPredicates _ hnone =>
    -- A plan has as many predicates as the options say.
    rw [hnone, List.length_nil] at hcount
    exact .noPredicates hcount.symm

/-- A check that comes to its second query. -/
theorem of_judgement (mode : Mode) (φ : Formula (Fin plan.predicates.length)) (seed : UInt64)
    (answer : Answer (Option (List Row))) :
    CheckEnds o c w (Outcome.ofTrial (o.judgement mode plan rows φ seed answer)) := by
  rcases hrows : o.allowlist.rowsOf (plan.verification mode (plan.compoundOf φ)).sql answer
    with i | actual
  · rw [o.judgement_of_rowsOf_error seed hrows]
    exact .abandoned (.of_rowsOf hrows)
  · obtain rfl := Allowlist.rowsOf_eq_ok hrows
    refine .verdict ?_
    by_cases hagrees : mode.Agrees plan.ordered (mode.answer (plan.kept rows φ)) actual
    · rw [Oracle.judgement_of_agrees o seed hagrees]
      exact trivial
    · obtain ⟨mismatch, hreport⟩ := Oracle.judgement_of_not_agrees o seed hagrees
      rw [hreport]
      exact trivial

end CheckEnds

namespace Oracle

variable (o : Oracle) (c : Client σ) (mode : Mode) (w : World σ)

/-- **A check has no other ends than those listed.** -/
theorem check_ends : CheckEnds o c w (o.check c mode w).1 := by
  obtain ⟨r, before, w₁, hplanning, hends⟩ := o.planning_traced c w
  cases r with
  | error halt =>
    have htrial : Traced (o.trial c mode) (o.trial c.recorded mode) w (.error halt) before w₁ :=
      hplanning.bind_error
    rw [check_of_traced htrial]
    exact .of_planning hends
  | ok plan =>
    have hcount : plan.predicates.length = o.options.predicates := by
      cases hends with
      | planned _ hplan => exact hplan.predicates
    rcases hanswer : Id.run ((c.query plan.fetch.sql).run w₁.engine) with ⟨answer, e⟩
    obtain ⟨r, s, hsurvey, hends'⟩ := o.survey_traced c plan hanswer
    cases r with
    | error halt =>
      have htrial : Traced (o.trial c mode) (o.trial c.recorded mode) w (.error halt)
          (before ++ [.query plan.fetch.sql answer]) ⟨e, s⟩ := hplanning.bind hsurvey.bind_error
      rw [check_of_traced htrial]
      refine .of_survey hcount (fun rows hrows => ?_) hends'
      exact ⟨w₁, e, hplanning.run, hrows ▸ hanswer⟩
    | ok known =>
      cases hends' with
      | surveyed hrows hsome φ =>
        rw [check_of_traced (trial_of_survey mode hplanning hsurvey rfl)]
        exact .of_judgement mode φ _ _

variable {o c w}

/-- Every answer to the first query that is not well formed is a defect. -/
theorem defect_of_malformed {plan : Plan} {rows : List Row} (hfirst : o.FirstAnswer c w plan rows)
    (hrows : ¬ plan.WellFormed rows) :
    ∃ d, (o.check c mode w).1 = .error (.raised (.defect d)) := by
  obtain ⟨w₁, e, hplan, hanswer⟩ := hfirst
  obtain ⟨r, before, w', hplanning, hends⟩ := o.planning_traced c w
  -- Finding a plan has one outcome, so the plan at hand is the one that is traced.
  obtain ⟨rfl, rfl⟩ := Prod.mk.inj (hplanning.run.symm.trans hplan)
  obtain ⟨r, s, hsurvey, hends'⟩ := o.survey_traced c plan hanswer
  cases hends' with
  | unanswered h => cases h
  | malformed _ _ =>
    have htrial : Traced (o.trial c mode) (o.trial c.recorded mode) w _
        (before ++ [.query plan.fetch.sql (.ok (some rows))]) ⟨e, s⟩ :=
      hplanning.bind hsurvey.bind_error
    rw [check_of_traced htrial]
    exact ⟨_, rfl⟩
  | leafChance h _ => exact absurd h hrows
  | noPredicates h _ => exact absurd h hrows
  | surveyed h _ _ => exact absurd h hrows

/-- The only faults of a check are coins whose probability is not a number, and a lack of room. -/
theorem ofCheck_of_fault {f : Fault} (h : (o.check c mode w).1 = .error (.fault f)) :
    f.OfCheck o := by
  -- No other end is a fault: not what a query without rows comes to, and no verdict.
  have hends := o.check_ends c mode w
  rw [h] at hends
  cases hends with
  | fault hf => exact hf
  | abandoned habandons => cases habandons
  | verdict hverdict => exact hverdict.elim

/-- Without room for the predicates no plan is found, so a check is over with its planning. -/
theorem planning_of_not_hasRoom (hroom : ¬ Record.expression.HasRoom o.options.predicates)
    (c : Client σ) (w : World σ) :
    ∃ halt said w', PlanningEnds o (.error halt) said ∧
      ∀ mode, Traced (o.trial c mode) (o.trial c.recorded mode) w (.error halt) said w' := by
  obtain ⟨r, said, w', hplanning, hends⟩ := o.planning_traced c w
  cases r with
  | error halt => exact ⟨halt, said, w', hends, fun _ => hplanning.bind_error⟩
  | ok plan =>
    cases hends with
    | planned _ hsuits => exact absurd hsuits.room hroom

/-- **Without room for the predicates a check meets a fault as soon as it has read a column**, and if all
probabilities are numbers it never meets another fault, nor this one in another case. -/
theorem fault_iff (hchances : ∀ p ∈ o.chances, Odds.ofProbability p ≠ .undefined) {f : Fault} :
    (o.check c mode w).1 = .error (.fault f) ↔ f.OfRoom .expression o.options.predicates ∧
      ∃ schema, .readSchema (.ok schema) ∈ o.transcript c mode w ∧ schema.usable ≠ [] := by
  constructor
  · intro h
    obtain ⟨-, p, hp, hodds⟩ | ⟨rfl, hroom⟩ := ofCheck_of_fault mode h
    · exact absurd hodds (hchances p hp)
    obtain ⟨halt, said, w', hends, htraced⟩ := planning_of_not_hasRoom hroom c w
    rw [check_of_traced (htraced mode)] at h
    rw [transcript_of_traced (htraced mode)]
    exact ⟨⟨rfl, hroom⟩, (hends.lacksRoom_iff hchances).mp (Outcome.eq_fault_of_ofTrial h)⟩
  · rintro ⟨⟨rfl, hroom⟩, hread⟩
    obtain ⟨halt, said, w', hends, htraced⟩ := planning_of_not_hasRoom hroom c w
    rw [transcript_of_traced (htraced mode)] at hread
    rw [check_of_traced (htraced mode), (hends.lacksRoom_iff hchances).mpr hread]
    rfl

/-- A check that has predicates blames nothing but the rows of its first answer. -/
theorem malformed_of_defect (hpredicates : 0 < o.options.predicates) {d : Defect}
    (h : (o.check c mode w).1 = .error (.raised (.defect d))) :
    Snapshot.OfRows d ∧ ∃ plan rows, o.FirstAnswer c w plan rows ∧ ¬ plan.WellFormed rows := by
  have hends := o.check_ends c mode w
  rw [h] at hends
  cases hends with
  | malformed hfirst hrows hd => exact ⟨hd, _, _, hfirst, hrows⟩
  | noPredicates hnone => omega
  | abandoned habandons => cases habandons
  | verdict hverdict => exact hverdict.elim

/-- **A check that has predicates is defective exactly if its first answer is not well formed.** -/
theorem defect_iff (hpredicates : 0 < o.options.predicates) :
    (∃ d, (o.check c mode w).1 = .error (.raised (.defect d))) ↔
      ∃ plan rows, o.FirstAnswer c w plan rows ∧ ¬ plan.WellFormed rows := by
  constructor
  · rintro ⟨d, hd⟩
    exact (malformed_of_defect mode hpredicates hd).2
  · rintro ⟨plan, rows, hfirst, hrows⟩
    exact defect_of_malformed mode hfirst hrows

end Oracle
end PredicateOracle
