import PredicateOracle.Proofs.Check.Verdict
import Mathlib.Data.List.Lex
import Mathlib.Data.List.Sort
import Mathlib.Data.String.Basic
import Mathlib.Order.WithBot

/-!
# PredicateOracle.Proofs.Check.Faithful -- no false alarms

A faithful engine answers both queries of a check from one list of source rows: every row has its
contents, and every expression a truth on it that respects the connectives. Nothing else is assumed.
The answers may come in any order, and what the predicates mean is up to the engine. On such an
engine a check never reports a bug (`Oracle.no_false_alarm`): the rows that it works out are the rows
that the second query returns, because a compound is on both sides the same formula over the truths
that the first query returned.
-/

namespace PredicateOracle

open Sql Check
open PredicateOracle.Random (Odds Stream)

/-! ## Source rows -/

/-- **`Source ι`** -- what two queries are answered from: source rows, the text of every column on
them, the truth of every expression on them, and an order of result rows. -/
structure Source (ι : Type) where
  items : List ι
  cell : ι → ColumnRef → Option String
  interpretation : ι → Interpretation
  order : LinearOrder Row

namespace Source

variable {ι σ : Type} (db : Source ι)

/-- The fetched columns of a source row. -/
def contents (plan : Plan) (i : ι) : Row := plan.fetched.map fun c => db.cell i c.ref

/-- What the first query returns for a source row. -/
def fetchRow (plan : Plan) (i : ι) : Row :=
  db.contents plan i ++ plan.predicates.map fun e => ((db.interpretation i).truth e).cell

/-- The fetched columns of the source rows on which an expression holds. -/
def filtered (plan : Plan) (e : Expr) : List Row :=
  (db.items.filter fun i => (db.interpretation i).truth e = .holds).map (db.contents plan)

/-- **`db.Faithful o c mode w`** -- the engine answers the two queries of the check from the source
rows, in whatever order or, if the queries are ordered, in that of the source. -/
structure Faithful (o : Oracle) (c : Client σ) (mode : Mode) (w : World σ) : Prop where
  /-- The first query returns one row for each source row. -/
  fetch {plan : Plan} {w₁ : World σ} (hplan : (o.planning c).runOn w = (.ok plan, w₁)) :
    ∃ rows e, Id.run ((c.query plan.fetch.sql).run w₁.engine) = (.ok (some rows), e) ∧
      rows.Perm (db.items.map (db.fetchRow plan)) ∧
      (plan.ordered = true → (rows.map (·.take plan.fetched.length)).Pairwise db.order.le)
  /-- The second query returns the rows on which its filter holds, as the mode asks for them. -/
  verify {plan : Plan} {w₁ w₂ : World σ} {s : Snapshot} {k : Known}
    (hplan : (o.planning c).runOn w = (.ok plan, w₁))
    (hsurvey : (o.survey c plan).runOn w₁ = (.ok (s, k), w₂)) :
    ∃ rows e, Id.run ((c.query (plan.verification mode k.expression).sql).run w₂.engine) =
        (.ok (some rows), e) ∧
      rows.Perm (mode.answer (db.filtered plan k.expression)) ∧
      (plan.ordered = true → rows.Pairwise db.order.le)

/-! ## Rows of the first answer -/

variable {db} {plan : Plan}

theorem length_contents (i : ι) : (db.contents plan i).length = plan.fetched.length :=
  List.length_map _

theorem take_fetchRow (i : ι) :
    (db.fetchRow plan i).take plan.fetched.length = db.contents plan i :=
  List.take_left' (length_contents i)

theorem wellFormed_of_perm {rows : List Row} (h : rows.Perm (db.items.map (db.fetchRow plan))) :
    plan.WellFormed rows := by
  intro row hrow
  obtain ⟨i, -, rfl⟩ := List.mem_map.mp (h.mem_iff.mp hrow)
  refine ⟨?_, fun c hc => ?_⟩
  · rw [fetchRow, List.length_append, length_contents, List.length_map]
  · rw [fetchRow, List.drop_left' (length_contents i)] at hc
    obtain ⟨e, -, rfl⟩ := List.mem_map.mp hc
    exact Snapshot.isTruthCell_cell _

/-- A row of the first answer states the truth of each predicate. -/
theorem stated_fetchRow (i : ι) (j : Fin plan.predicates.length) :
    plan.stated j (db.fetchRow plan i) =
      (db.interpretation i).truth (plan.predicates.get j) := by
  have hcell : (db.fetchRow plan i).getD (plan.fetched.length + j) none =
      ((db.interpretation i).truth (plan.predicates.get j)).cell := by
    have hlength : plan.fetched.length = (db.contents plan i).length := (length_contents i).symm
    rw [fetchRow, hlength, List.getD_eq_getElem?_getD,
      List.getElem?_append_right (Nat.le_add_right _ _), Nat.add_sub_cancel_left,
      List.getElem?_map, List.getElem?_eq_getElem j.isLt]
    rfl
  rw [Plan.stated, Snapshot.stated, hcell, Snapshot.cellTruth_cell]

/-- The value of a formula on a row of the first answer is the truth of its compound. -/
theorem valueOn_fetchRow (i : ι) (φ : Formula (Fin plan.predicates.length)) :
    plan.valueOn φ (db.fetchRow plan i) = (db.interpretation i).truth (plan.compoundOf φ) := by
  rw [Plan.compoundOf, Interpretation.truth_expr, Plan.valueOn]
  simp only [stated_fetchRow]
  rfl

/-- **The rows worked out from the first answer are those that the filter keeps.** -/
theorem kept_perm {rows : List Row} (h : rows.Perm (db.items.map (db.fetchRow plan)))
    (φ : Formula (Fin plan.predicates.length)) :
    (plan.kept rows φ).Perm (db.filtered plan (plan.compoundOf φ)) := by
  have hcomp : Relation.Comp (· = List.map (db.fetchRow plan) ·) List.Perm rows db.items := by
    rw [List.eq_map_comp_perm]
    exact h
  obtain ⟨items, rfl, hitems⟩ := hcomp
  rw [Plan.kept, filtered, List.filter_map, List.map_map]
  simp only [Function.comp_def, valueOn_fetchRow, take_fetchRow]
  exact (hitems.filter _).map _

/-- The answer of the second query agrees with the one worked out from the first. -/
theorem agrees {mode : Mode} {rows actual : List Row} {φ : Formula (Fin plan.predicates.length)}
    (hrows : rows.Perm (db.items.map (db.fetchRow plan)))
    (hsorted : plan.ordered = true →
      (rows.map (·.take plan.fetched.length)).Pairwise db.order.le)
    (hactual : actual.Perm (mode.answer (db.filtered plan (plan.compoundOf φ))))
    (hsorted' : plan.ordered = true → actual.Pairwise db.order.le) :
    mode.Agrees plan.ordered (mode.answer (plan.kept rows φ)) actual := by
  have hperm : actual.Perm (mode.answer (plan.kept rows φ)) :=
    hactual.trans (mode.answer_perm (kept_perm hrows φ).symm)
  cases mode with
  | distinct => exact hperm
  | plain =>
    cases hordered : plan.ordered with
    | false => exact hperm
    | true =>
      -- Both are sorted by one order, and a list is the only sorted one among its permutations.
      have hkept : (plan.kept rows φ).Pairwise db.order.le :=
        (hsorted hordered).sublist (List.filter_sublist.map _)
      exact hperm.eq_of_pairwise (fun a b _ _ => db.order.le_antisymm a b) (hsorted' hordered) hkept

end Source

/-! ## No false alarms -/

/-- The probabilities that decide about a check. -/
def Oracle.chances (o : Oracle) : List Float :=
  o.options.releaseProbability :: o.options.compound.leafProbability :: o.planChances

variable {ι σ : Type}

/-- **`o.Excused c mode w`** -- the check ends without a verdict for a reason that no answer to a query
can give it, and its outcome says so. -/
inductive Oracle.Excused (o : Oracle) (c : Client σ) (mode : Mode) (w : World σ) : Prop
  /-- The schema was read, and no table of it has a column. -/
  | emptySchema {schema : Schema} (hread : .readSchema (.ok schema) ∈ o.transcript c mode w)
    (hempty : schema.usable = [])
    (h : (o.check c mode w).1 = .ok (.inconclusive .emptySchema))
  /-- The engine refused to release its statements or to show its schema. -/
  | database {e : EngineError} (hrefused : .release (.error e) ∈ o.transcript c mode w ∨
      .readSchema (.error e) ∈ o.transcript c mode w)
    (h : (o.check c mode w).1 = .error (.raised (.database e)))
  /-- A probability of the options is not a number. -/
  | chance {p : Float} (hp : p ∈ o.chances) (hodds : Odds.ofProbability p = .undefined)
    (h : (o.check c mode w).1 = .error (.fault .undefinedProbability))
  /-- There is no room for as many predicates as the options ask for. -/
  | noRoom (hroom : ¬ Record.expression.HasRoom o.options.predicates)
    (h : (o.check c mode w).1 = .error (.fault .capacityOverflow))

/-- A check that finds no plan is excused. -/
theorem Oracle.excused_of_planning {o : Oracle} {c : Client σ} {mode : Mode} {w w' : World σ}
    {halt : Halt Interruption} {said : List Exchange}
    (h : Session.Traced (o.planning c) (o.planning c.recorded) w (.error halt) said w')
    (hends : PlanningEnds o (.error halt) said) : o.Excused c mode w := by
  have htrial : Session.Traced (o.trial c mode) (o.trial c.recorded mode) w (.error halt) said w' :=
    h.bind_error
  have hsaid := transcript_of_traced htrial
  have hcheck := congrArg Prod.fst (check_of_traced htrial)
  cases hends with
  | releaseChance hf =>
    obtain ⟨rfl, p, hp, hodds⟩ := hf
    rw [List.mem_singleton.mp hp] at hodds
    exact .chance (by simp [chances]) hodds hcheck
  | refusedRelease e => exact .database (.inl (by simp [hsaid])) hcheck
  | refusedSchema hopening e => exact .database (.inr (by simp [hsaid])) hcheck
  | planChance hopening schema hf _ =>
    obtain ⟨rfl, p, hp, hodds⟩ := hf
    exact .chance (by simp [chances, hp]) hodds hcheck
  | noRoom hopening schema hf _ =>
    obtain ⟨rfl, hroom⟩ := hf
    exact .noRoom hroom hcheck
  | emptySchema hopening hempty => exact .emptySchema (by simp [hsaid]) hempty hcheck

/-- **No false alarms.** On a faithful engine a check that is not excused finds a plan, makes a compound
of its predicates known by the first query, asks the second query with this compound as the last thing
it says, and is passed, with as many rows as the source has for the compound. -/
theorem Oracle.no_false_alarm (db : Source ι) (o : Oracle) (c : Client σ) (mode : Mode)
    (w : World σ) (hpredicates : 0 < o.options.predicates)
    (hfaithful : db.Faithful o c mode w) :
    (∃ plan w₁ s compound w₂ before answer,
      (o.planning c).runOn w = (.ok plan, w₁) ∧
      (o.survey c plan).runOn w₁ = (.ok (s, compound), w₂) ∧
      (∃ φ, compound.expression = plan.compoundOf φ) ∧
      o.transcript c mode w =
        before ++ [.query (plan.verification mode compound.expression).sql (.ok (some answer))] ∧
      (o.check c mode w).1 =
        .ok (.passed (mode.answer (db.filtered plan compound.expression)).length)) ∨
    o.Excused c mode w := by
  obtain ⟨r, said, w₁, hplanning, hends⟩ := o.planning_traced c w
  cases r with
  | error halt => exact .inr (excused_of_planning hplanning hends)
  | ok plan =>
    have hplan := hplanning.run
    obtain ⟨rows, e, hanswer, hrows, hsorted⟩ := hfaithful.fetch hplan
    obtain ⟨before, hplanning, -, s, ⟨hodds, hsurvey⟩ | ⟨φ, hsurvey⟩⟩ :=
      trial_of_rows o c w hpredicates hplan hanswer (Source.wellFormed_of_perm hrows)
    · refine .inr (.chance (by simp [chances]) hodds ?_)
      rw [check_of_traced (hplanning.bind hsurvey.bind_error)]
      rfl
    · obtain ⟨actual, e', hanswer', hactual, hsorted'⟩ := hfaithful.verify hplan hsurvey.run
      have hagrees := Source.agrees hrows hsorted hactual hsorted'
      have htrial := trial_of_survey mode hplanning hsurvey hanswer'
      refine .inl ⟨plan, w₁, _, _, _, before ++ [.query plan.fetch.sql (.ok (some rows))], actual,
        hplan, hsurvey.run, ⟨φ, rfl⟩, ?_, ?_⟩
      · rw [transcript_of_traced htrial, List.append_assoc]
        rfl
      · rw [check_of_traced htrial, judgement_of_agrees o _ hagrees,
          (mode.answer_perm (Source.kept_perm hrows φ)).length_eq]
        rfl

/-! ## A faithful sample -/

/-- Rows by their cells, NULL before every text. -/
@[reducible]
def Sample.order : LinearOrder Row :=
  @LinearOrder.lift' Row (List (WithBot String)) _ id (fun _ _ h => h)

/-- The source rows of a table that holds NULL, 1 and 2. A comparison with NULL is unknown. -/
def Sample.source : Source (Option Nat) where
  items := [none, some 1, some 2]
  cell i _ := i.map toString
  interpretation i := .ofAtoms fun e =>
    match e, i with
    | .literal (.boolean false), _ => .fails
    | _, none => .unknown
    | _, some _ => .holds
  order := Sample.order

/-- The compound that is drawn: `FALSE` negated and `c0 = c0`. -/
def Sample.formula : Formula (Fin Sample.plan.predicates.length) :=
  .join .and (.not (.atom ⟨0, by decide⟩)) (.atom ⟨1, by decide⟩)

/-- A check of the table with two ordered queries is passed with the rows of the 1 and the 2. -/
theorem Oracle.no_false_alarm_ordered :
    let c := Sample.client fun query =>
      if query = Sample.plan.fetch.sql then Sample.rows else [[some "1"], [some "2"]]
    let compound := Sample.plan.compoundOf Sample.formula
    0 < Sample.oracle.options.predicates ∧
      Sample.source.Faithful Sample.oracle c .plain Sample.world ∧
      (Sample.oracle.check c .plain Sample.world).1 = .ok (.passed 2) ∧
      ∃ before answer, Sample.oracle.transcript c .plain Sample.world = before ++
          [.query (Sample.plan.verification .plain compound).sql (.ok (some answer))] ∧
        (Sample.source.filtered Sample.plan compound).length = 2 := by
  intro c compound
  have hpredicates : 0 < Sample.oracle.options.predicates := by decide
  have hplan₀ : ((Sample.oracle.planning c).runOn Sample.world).1 = .ok Sample.plan := by
    decide +kernel
  have hsurvey₀ : ((Sample.oracle.survey c Sample.plan).runOn
      ((Sample.oracle.planning c).runOn Sample.world).2).1 =
        .ok (Sample.plan.snapshot Sample.rows, Sample.plan.known Sample.rows Sample.formula) := by
    decide +kernel
  have hcheck₀ : (Sample.oracle.check c .plain Sample.world).1 = .ok (.passed 2) := by
    decide +kernel
  have hne : (Sample.plan.verification .plain
      (Sample.plan.known Sample.rows Sample.formula).expression).sql ≠ Sample.plan.fetch.sql := by
    decide +kernel
  have hfaithful : Sample.source.Faithful Sample.oracle c .plain Sample.world := by
    constructor
    · intro plan w₁ hplan
      rw [hplan] at hplan₀
      obtain rfl := Except.ok.inj hplan₀
      refine ⟨Sample.rows, w₁.engine, by simp [c, Sample.client], ?_, fun _ => ?_⟩
      · decide +kernel
      · decide +kernel
    · intro plan w₁ w₂ s k hplan hsurvey
      rw [hplan] at hplan₀ hsurvey₀
      obtain rfl := Except.ok.inj hplan₀
      rw [hsurvey] at hsurvey₀
      obtain ⟨-, rfl⟩ := Prod.mk.inj (Except.ok.inj hsurvey₀)
      refine ⟨[[some "1"], [some "2"]], w₂.engine, ?_, ?_, fun _ => ?_⟩
      · simp [c, Sample.client, hne]
      · decide +kernel
      · decide +kernel
  refine ⟨hpredicates, hfaithful, hcheck₀, ?_⟩
  obtain ⟨plan, w₁, s, k, w₂, before, answer, hplan, hsurvey, -, hasked, hpassed⟩ | hexcused :=
    Sample.oracle.no_false_alarm Sample.source c .plain Sample.world hpredicates hfaithful
  · rw [hplan] at hplan₀ hsurvey₀
    obtain rfl := Except.ok.inj hplan₀
    rw [hsurvey] at hsurvey₀
    obtain ⟨-, rfl⟩ := Prod.mk.inj (Except.ok.inj hsurvey₀)
    rw [hcheck₀] at hpassed
    exact ⟨before, answer, hasked, (Outcome.passed.inj (Except.ok.inj hpassed)).symm⟩
  · cases hexcused with
    | emptySchema _ _ h | database _ h | chance _ _ h | noRoom _ h =>
      rw [hcheck₀] at h
      cases h

end PredicateOracle
