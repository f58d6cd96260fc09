import PredicateOracle.Proofs.Check.Trace

/-!
# PredicateOracle.Proofs.Check.Failures -- what a failed request does to a check

Requests can fail at four places: at the release, at the schema and at the two queries. Only at the
queries is a failure looked at more closely. A refused release or schema is reported as it is, whatever
the allowlist says; a query without rows ends the check there and then, and the outcome names that
query. `Classified` states this of a conversation and an outcome, and every check is classified
(`Oracle.check_classified`).
-/

namespace PredicateOracle

open Sql Check

variable {σ : Type}

/-! ## Queries without rows -/

/-- **`a.Marks message`** -- the message contains a text of the allowlist. -/
def Allowlist.Marks (a : Allowlist) (message : String) : Prop :=
  ∃ text ∈ a.texts, text.toList <:+: message.toList

theorem Allowlist.expects_iff (a : Allowlist) (message : String) :
    a.expects message = true ↔ a.Marks message := by
  simp [expects, Marks, occursIn_iff]

/-- **`Abandons a query answer outcome`** -- `answer` is not rows, and `outcome` is what it means for a
check whose allowlist is `a`. -/
inductive Abandons (a : Allowlist) (query : String) :
    Answer (Option (List Row)) → Except (Halt Interruption) Outcome → Prop
  | noResult : Abandons a query (.ok none) (.ok (.inconclusive (.noResult query)))
  | expected {message : String} (h : a.Marks message) :
    Abandons a query (.error ⟨message⟩) (.ok (.inconclusive (.expectedError query message)))
  | unexpected {message : String} (h : ¬ a.Marks message) :
    Abandons a query (.error ⟨message⟩) (.error (.raised (.unexpected query message)))

theorem Abandons.of_rowsOf {a : Allowlist} {query : String} {answer : Answer (Option (List Row))}
    {i : Interruption} (h : a.rowsOf query answer = .error i) :
    Abandons a query answer (Outcome.ofTrial (.error (.raised i))) := by
  rcases answer with ⟨⟨message⟩⟩ | _ | rows
  · obtain rfl := Except.error.inj h
    unfold Allowlist.classify
    split
    · rename_i hexpected
      exact .expected ((a.expects_iff message).mp hexpected)
    · rename_i hunexpected
      exact .unexpected (mt (a.expects_iff message).mpr hunexpected)
  · obtain rfl := Except.error.inj h
    exact .noResult
  · cases h

/-! ## Conversations up to a query -/

/-- **`Unasked said`** -- there is no query in the conversation. -/
def Unasked (said : List Exchange) : Prop := ∀ query answer, .query query answer ∉ said

/-- **`NextQuery mode before query`** -- after the conversation `before`, `query` is one that a
check in this mode asks: the first one of a plan, or the second one after rows in answer to the
first. -/
inductive NextQuery (mode : Mode) : List Exchange → String → Prop
  | fetch {before : List Exchange} (hbefore : Unasked before) {plan : Plan} {q : Select}
    (hq : plan.Fetches q) : NextQuery mode before q.sql
  | verification {before : List Exchange} (hbefore : Unasked before) {plan : Plan} {q q' : Select}
    (hq : plan.Fetches q) (hq' : plan.Verifies mode q q') (rows : List Row) :
    NextQuery mode (before ++ [.query q.sql (.ok (some rows))]) q'.sql

/-- **`Prepared said`** -- nothing in the conversation keeps a check from its first query. -/
structure Prepared (said : List Exchange) : Prop where
  unasked : Unasked said
  released : ∀ e, .release (.error e) ∉ said
  read : ∀ e, .readSchema (.error e) ∉ said
  usable : ∀ schema, .readSchema (.ok schema) ∈ said → schema.usable ≠ []

/-- No query is asked before there is a plan. -/
theorem PlanningEnds.unasked {o : Oracle} {r : Except (Halt Interruption) Plan}
    {said : List Exchange} (h : PlanningEnds o r said) : Unasked said := by
  cases h with
  | releaseChance _ => simp [Unasked]
  | refusedRelease e => simp [Unasked]
  | refusedSchema hopening e => rcases hopening with rfl | rfl <;> simp [Unasked]
  | planChance hopening schema hf _ => rcases hopening with rfl | rfl <;> simp [Unasked]
  | noRoom hopening schema hf _ => rcases hopening with rfl | rfl <;> simp [Unasked]
  | emptySchema hopening hempty => rcases hopening with rfl | rfl <;> simp [Unasked]
  | planned hopening hplan => rcases hopening with rfl | rfl <;> simp [Unasked]

/-- What is said before a plan is found prepares its first query. -/
theorem PlanningEnds.prepared {o : Oracle} {plan : Plan} {before : List Exchange}
    (h : PlanningEnds o (.ok plan) before) : Prepared before := by
  cases h with
  | planned hopening hplan =>
    have husable := hplan.usable_ne
    rcases hopening with rfl | rfl <;> constructor <;> simp [Unasked, husable]

/-- A query in a conversation that begins without queries is in the rest of it. -/
theorem Unasked.split {before rest front after : List Exchange} {query : String}
    {answer : Answer (Option (List Row))} (h : Unasked before)
    (heq : before ++ rest = front ++ .query query answer :: after) :
    ∃ between, front = before ++ between ∧ rest = between ++ .query query answer :: after := by
  rcases List.append_eq_append_iff.mp heq with ⟨between, hfront, hrest⟩ | ⟨between, hbefore, hrest⟩
  · exact ⟨between, hfront, hrest⟩
  · -- The query would have to stand in `before`, unless nothing of `before` is left.
    cases between with
    | nil => exact ⟨[], by simpa using hbefore.symm, by simpa using hrest.symm⟩
    | cons x xs =>
      obtain ⟨hx, -⟩ := List.cons.inj hrest
      exact absurd (by rw [hbefore, hx]; simp) (h query answer)

/-! ## The classification -/

/-- Whether an outcome says of the engine that it answered rightly or wrongly. -/
def IsVerdict : Except (Halt Interruption) Outcome → Prop
  | .ok (.passed _) | .error (.raised (.logicBug _)) => True
  | _ => False

theorem Abandons.not_isVerdict {a : Allowlist} {query : String}
    {answer : Answer (Option (List Row))} {outcome : Except (Halt Interruption) Outcome}
    (h : Abandons a query answer outcome) : ¬ IsVerdict outcome := by
  cases h <;> exact id

/-- **`Classified a mode said outcome`** -- the outcome of a check is the right one for the failures in
its conversation. -/
structure Classified (a : Allowlist) (mode : Mode) (said : List Exchange)
    (outcome : Except (Halt Interruption) Outcome) : Prop where
  /-- A refused release or schema is fatal, whatever the message, and comes before all queries. -/
  refused : ∀ e, .release (.error e) ∈ said ∨ .readSchema (.error e) ∈ said →
    outcome = .error (.raised (.database e)) ∧ Unasked said
  /-- Without a column there is no verdict and no query. -/
  emptySchema : ∀ schema, .readSchema (.ok schema) ∈ said → (∀ t ∈ schema.tables, t.columns = []) →
    outcome = .ok (.inconclusive .emptySchema) ∧ Unasked said
  /-- The first query without rows is the last request, and the outcome tells what became of it. -/
  unanswered : ∀ before query answer after, said = before ++ .query query answer :: after →
    (∀ rows, answer ≠ .ok (some rows)) →
    after = [] ∧ NextQuery mode before query ∧ Abandons a query answer outcome
  /-- A verdict rests on two answers with rows. -/
  verdict : IsVerdict outcome → ∃ before query query' rows rows',
    said = before ++ [.query query (.ok (some rows)), .query query' (.ok (some rows'))] ∧
      NextQuery mode before query ∧
      NextQuery mode (before ++ [.query query (.ok (some rows))]) query'
  /-- A missing verdict is never an error. -/
  conclusive : ∀ reason, outcome ≠ .error (.raised (.inconclusive reason))

theorem Outcome.ofTrial_ne_inconclusive (r : Except (Halt Interruption) Nat) (reason : Reason) :
    Outcome.ofTrial r ≠ .error (.raised (.inconclusive reason)) := by
  rcases r with (_ | i) | _
  · nofun
  · cases i <;> nofun
  · nofun

/-- Without rows in answer to the second query nothing is judged. -/
theorem Oracle.judgement_of_rowsOf_error (o : Oracle) {mode : Mode} {plan : Plan} {rows : List Row}
    {φ : Formula (Fin plan.predicates.length)} (seed : UInt64)
    {answer : Answer (Option (List Row))} {i : Interruption}
    (h : o.allowlist.rowsOf (plan.verification mode (plan.compoundOf φ)).sql answer = .error i) :
    o.judgement mode plan rows φ seed answer = .error (.raised i) := by
  unfold judgement
  dsimp only
  rw [h]

namespace Classified

variable {a : Allowlist} {o : Oracle} {mode : Mode} {plan : Plan} {before said : List Exchange}
  {halt : Halt Interruption}

/-- A check that finds no plan. -/
theorem of_planning (h : PlanningEnds o (.error halt) said) :
    Classified a mode said (Outcome.ofTrial (.error halt)) := by
  have hunasked := h.unasked
  refine ⟨fun e he => ⟨?_, hunasked⟩, fun schema hread hempty => ⟨?_, hunasked⟩, ?_, ?_,
    Outcome.ofTrial_ne_inconclusive _⟩
  · cases h with
    | releaseChance _ => simp at he
    | refusedRelease e' =>
      obtain rfl : e = e' := by simpa using he
      rfl
    | refusedSchema hopening e' =>
      obtain rfl : e = e' := by rcases hopening with rfl | rfl <;> simpa using he
      rfl
    | planChance hopening schema hf _ => rcases hopening with rfl | rfl <;> simp at he
    | noRoom hopening schema hf _ => rcases hopening with rfl | rfl <;> simp at he
    | emptySchema hopening hempty => rcases hopening with rfl | rfl <;> simp at he
  · -- A schema without columns leads to no coin and to no predicates.
    rw [← Schema.usable_eq_nil_iff] at hempty
    cases h with
    | releaseChance _ => simp at hread
    | refusedRelease e => simp at hread
    | refusedSchema hopening e => rcases hopening with rfl | rfl <;> simp at hread
    | planChance hopening schema' hf husable | noRoom hopening schema' hf husable =>
      obtain rfl : schema = schema' := by rcases hopening with rfl | rfl <;> simpa using hread
      exact absurd hempty husable
    | emptySchema hopening hempty' => rfl
  · rintro before query answer after rfl
    exact absurd (by simp) (hunasked query answer)
  · intro hverdict
    cases h <;> exact hverdict.elim

/-- After a plan is found, only the queries can fail. -/
theorem of_prepared {rest : List Exchange} {outcome : Except (Halt Interruption) Outcome}
    (hbefore : Prepared before) (hqueries : ∀ x ∈ rest, ∃ query answer, x = .query query answer)
    (unanswered : ∀ between query answer after, rest = between ++ .query query answer :: after →
      (∀ rows, answer ≠ .ok (some rows)) →
      after = [] ∧ NextQuery mode (before ++ between) query ∧ Abandons a query answer outcome)
    (verdict : IsVerdict outcome → ∃ query query' rows rows',
      rest = [.query query (.ok (some rows)), .query query' (.ok (some rows'))] ∧
        NextQuery mode before query ∧
        NextQuery mode (before ++ [.query query (.ok (some rows))]) query')
    (conclusive : ∀ reason, outcome ≠ .error (.raised (.inconclusive reason))) :
    Classified a mode (before ++ rest) outcome := by
  have hrelease : ∀ answer, .release answer ∉ rest := by
    intro answer hmem
    obtain ⟨_, _, hx⟩ := hqueries _ hmem
    cases hx
  have hread : ∀ answer, .readSchema answer ∉ rest := by
    intro answer hmem
    obtain ⟨_, _, hx⟩ := hqueries _ hmem
    cases hx
  refine ⟨fun e he => ?_, fun schema hmem hempty => ?_, ?_, ?_, conclusive⟩
  · rw [List.mem_append, List.mem_append] at he
    rcases he with (he | he) | (he | he)
    · exact absurd he (hbefore.released e)
    · exact absurd he (hrelease _)
    · exact absurd he (hbefore.read e)
    · exact absurd he (hread _)
  · rcases List.mem_append.mp hmem with hmem | hmem
    · exact absurd (schema.usable_eq_nil_iff.mpr hempty) (hbefore.usable schema hmem)
    · exact absurd hmem (hread _)
  · intro front query answer after heq hanswer
    obtain ⟨between, rfl, hrest⟩ := hbefore.unasked.split heq
    exact unanswered between query answer after hrest hanswer
  · intro hverdict
    obtain ⟨query, query', rows, rows', rfl, hnext⟩ := verdict hverdict
    exact ⟨before, query, query', rows, rows', rfl, hnext⟩

/-- A check that ends with its first query. -/
theorem of_survey {answer : Answer (Option (List Row))} (hplan : PlanningEnds o (.ok plan) before)
    (h : SurveyEnds o plan answer (.error halt)) :
    Classified o.allowlist mode (before ++ [.query plan.fetch.sql answer])
      (Outcome.ofTrial (.error halt)) := by
  have hbefore := hplan.prepared
  have hnext : NextQuery mode before plan.fetch.sql := .fetch hbefore.unasked plan.fetches_fetch
  refine of_prepared hbefore (by simp) ?_ ?_ (Outcome.ofTrial_ne_inconclusive _)
  · intro between query answer' after heq hanswer
    -- There is one query only, so it is the one without rows and the last request.
    cases between with
    | cons x xs => simp at heq
    | nil =>
      obtain ⟨hx, rfl⟩ := List.cons.inj heq
      obtain ⟨rfl, rfl⟩ := Exchange.query.inj hx
      rw [List.append_nil]
      refine ⟨rfl, hnext, ?_⟩
      cases h with
      | unanswered hi => exact .of_rowsOf hi
      | malformed _ _ => exact absurd rfl (hanswer _)
      | leafChance _ _ => exact absurd rfl (hanswer _)
      | noPredicates _ _ => exact absurd rfl (hanswer _)
  · intro hverdict
    cases h with
    | unanswered hi => exact absurd hverdict (Abandons.of_rowsOf hi).not_isVerdict
    | malformed _ _ => exact hverdict.elim
    | leafChance _ _ => exact hverdict.elim
    | noPredicates _ _ => exact hverdict.elim

/-- A check that comes to its second query. -/
theorem of_judgement {rows : List Row} (hplan : PlanningEnds o (.ok plan) before)
    (φ : Formula (Fin plan.predicates.length)) (seed : UInt64) (answer : Answer (Option (List Row))) :
    Classified o.allowlist mode (before ++ [.query plan.fetch.sql (.ok (some rows)),
        .query (plan.verification mode (plan.compoundOf φ)).sql answer])
      (Outcome.ofTrial (o.judgement mode plan rows φ seed answer)) := by
  have hbefore := hplan.prepared
  have hfirst : NextQuery mode before plan.fetch.sql := .fetch hbefore.unasked plan.fetches_fetch
  have hsecond : NextQuery mode (before ++ [.query plan.fetch.sql (.ok (some rows))])
      (plan.verification mode (plan.compoundOf φ)).sql :=
    .verification hbefore.unasked plan.fetches_fetch (plan.verifies_verification mode φ) rows
  refine of_prepared hbefore (by simp) ?_ ?_ (Outcome.ofTrial_ne_inconclusive _)
  · intro between query answer' after heq hanswer
    rcases between with _ | ⟨x, _ | ⟨y, ys⟩⟩
    · -- The first query was answered with rows, so it is not the one in question.
      obtain ⟨hx, -⟩ := List.cons.inj heq
      obtain ⟨-, rfl⟩ := Exchange.query.inj hx
      exact absurd rfl (hanswer rows)
    · -- It is the second query.
      obtain ⟨rfl, hrest⟩ := List.cons.inj heq
      obtain ⟨hy, rfl⟩ := List.cons.inj hrest
      obtain ⟨rfl, rfl⟩ := Exchange.query.inj hy
      refine ⟨rfl, hsecond, ?_⟩
      rcases hrows : o.allowlist.rowsOf _ answer with i | actual
      · rw [o.judgement_of_rowsOf_error seed hrows]
        exact .of_rowsOf hrows
      · exact absurd (Allowlist.rowsOf_eq_ok hrows) (hanswer actual)
    · simp at heq
  · intro hverdict
    rcases hrows : o.allowlist.rowsOf _ answer with i | actual
    · rw [o.judgement_of_rowsOf_error seed hrows] at hverdict
      exact absurd hverdict (Abandons.of_rowsOf hrows).not_isVerdict
    · obtain rfl := Allowlist.rowsOf_eq_ok hrows
      exact ⟨_, _, rows, actual, rfl, hfirst, hsecond⟩

end Classified

/-- **Every check is classified.** On every engine and every stream, whatever the options and the
allowlist are, the outcome of a check is the right one for the failures in its conversation. -/
theorem Oracle.check_classified (o : Oracle) (c : Client σ) (mode : Mode) (w : World σ) :
    Classified o.allowlist mode (o.transcript c mode w) (o.check c mode w).1 := by
  obtain ⟨halt, said, w', hends, h⟩ | ⟨plan, before, rows, φ, w₂, hends, -, h⟩ :=
    o.trial_traced c w
  · rw [transcript_of_traced (h mode), check_of_traced (h mode)]
    rcases hends with hends | ⟨plan, before, answer, hplan, hsurvey, rfl⟩
    · exact .of_planning hends
    · exact .of_survey hplan hsurvey
  · have h' := h mode _ _ rfl
    rw [transcript_of_traced h', check_of_traced h']
    exact .of_judgement hends φ _ _

end PredicateOracle
