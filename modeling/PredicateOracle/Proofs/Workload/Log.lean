import PredicateOracle.Proofs.Engine.Session
import PredicateOracle.Workload.Populate

/-!
# PredicateOracle.Proofs.Workload.Log -- logs of statements and their answers

Filling a database is a sequence of attempts (`Attempt`), each a statement with its answer. An
attempt is granted, skipped or fatal, by the allowlist of its own kind of statement. `Logged F
before t t' P C` is a law of steps that go on after the log `before`: they come to a value and a log
with the property `P`, or end early with a log that has the property `C`. In either case the log
shows why it ended (`Ends`): work goes on after granted and skipped attempts only, so that is proved
here, once, for every way of putting steps together.
-/

namespace PredicateOracle

open Generate (Action)
open Sql
open Session (Traced)

/-- What is done by a statement; nothing of these if it makes a table. -/
def Sql.Statement.action? : Statement → Option Action
  | .createTable _ => none
  | .insert _ _ => some .insert
  | .update _ _ _ _ => some .update
  | .delete _ _ => some .delete
  | .createIndex _ _ _ _ => some .createIndex
  | .createView _ _ => some .createView

/-- The refusals that are expected of a statement of this kind. -/
def Sql.Statement.allowlist (s : Statement) : Allowlist :=
  match s.action? with
  | none => .table
  | some a => a.allowlist

namespace Populate

/-! ## Attempts -/

/-- A statement that was sent, and the answer to it. -/
structure Attempt where
  statement : Statement
  answer : Answer Nat
  deriving DecidableEq

namespace Attempt

/-- The request of an attempt and its answer, as a client says and hears them. -/
def exchange (x : Attempt) : Exchange := .execute x.statement.sql x.answer

/-- The statement was executed. -/
def granted (x : Attempt) : Bool := x.answer.isOk

/-- The statement was refused, as is expected of its kind. -/
def skipped (x : Attempt) : Bool :=
  match x.answer with
  | .ok _ => false
  | .error e => x.statement.allowlist.expects e.message

/-- The statement was refused, as is not expected of its kind. -/
def fatal (x : Attempt) : Bool :=
  match x.answer with
  | .ok _ => false
  | .error e => !x.statement.allowlist.expects e.message

/-- What an attempt comes to: whether the statement was executed and not skipped, or an error. -/
def outcome (x : Attempt) : Except (Halt PopulateError) Bool :=
  match x.answer with
  | .ok _ => .ok true
  | .error e =>
    if x.statement.allowlist.expects e.message then .ok false
    else .error (.raised (.rejected x.statement.sql e.message))

variable {x : Attempt}

/-- An attempt that is not fatal is either granted or skipped. -/
theorem skipped_eq_not_granted (h : x.fatal = false) : x.skipped = !x.granted := by
  obtain ⟨s, answer⟩ := x
  cases answer with
  | ok _ => rfl
  | error e => simpa [fatal, skipped, granted, Except.isOk, Except.toBool] using h

theorem granted_of_skipped (h : x.skipped = true) : x.granted = false := by
  obtain ⟨s, answer⟩ := x
  cases answer with
  | ok _ => cases h
  | error e => rfl

theorem outcome_of_benign (h : x.fatal = false) : x.outcome = .ok x.granted := by
  obtain ⟨s, answer⟩ := x
  cases answer with
  | ok _ => rfl
  | error e => exact if_pos (skipped_eq_not_granted h)

theorem outcome_of_fatal (h : x.fatal = true) : ∃ e, x.answer = .error e ∧
    x.granted = false ∧ x.outcome = .error (.raised (.rejected x.statement.sql e.message)) := by
  obtain ⟨s, answer⟩ := x
  cases answer with
  | ok _ => cases h
  | error e => exact ⟨e, rfl, rfl, if_neg (by simpa [fatal] using h)⟩

end Attempt

/-- **`Benign log`** -- no attempt is fatal. -/
def Benign (log : List Attempt) : Prop := ∀ x ∈ log, x.fatal = false

theorem Benign.concat {log : List Attempt} (h : Benign log) {x : Attempt} (hx : x.fatal = false) :
    Benign (log ++ [x]) :=
  List.forall_mem_append.mpr ⟨h, List.forall_mem_singleton.mpr hx⟩

/-- **`Aborted log e`** -- the log ends with the reason for the error `e`, and nothing before it is
fatal. -/
inductive Aborted (log : List Attempt) : PopulateError → Prop
  /-- The last attempt was refused in a way that is not expected. -/
  | rejected {earlier : List Attempt} {last : Attempt} {e : EngineError} (hlog : log = earlier ++ [last])
    (hbenign : Benign earlier) (hanswer : last.answer = .error e) (hfatal : last.fatal = true) :
    Aborted log (.rejected last.statement.sql e.message)
  /-- The last attempts, as many as there may be, were at one table, and each was skipped. -/
  | noTable {earlier last : List Attempt} {name : String} (hlog : log = earlier ++ last)
    (hbenign : Benign earlier) (hlength : last.length = maxAttempts)
    (hlast : ∀ x ∈ last, x.skipped = true ∧
      ∃ d : TableDefinition, d.name = name ∧ x.statement = .createTable d) :
    Aborted log (.noTable name)

/-- **`Ends F log r`** -- the log shows why steps came to the outcome `r`; faults are among `F`. -/
def Ends {α : Type} (F : Fault → Prop) (log : List Attempt) : Except (Halt PopulateError) α → Prop
  | .ok _ => Benign log
  | .error (.fault f) => Benign log ∧ F f
  | .error (.raised e) => Aborted log e

/-! ## Steps and their logs -/

variable {σ α β : Type} {F : Fault → Prop} {before : List Attempt}

/-- **`Logged F before t t' P C`** -- after the log `before`, the steps `t` and their recording twin
`t'` make it longer: a value comes with a log that has the property `P`, and an early end with one
that has the property `C`. -/
def Logged (F : Fault → Prop) (before : List Attempt) (t : Filling σ α)
    (t' : Filling (σ × List Exchange) α) (P : List Attempt → α → Prop)
    (C : List Attempt → Prop) : Prop :=
  Benign before → ∀ w, ∃ r log w', Traced t t' w r (log.map Attempt.exchange) w' ∧
    Ends F (before ++ log) r ∧
    match r with
    | .ok a => P (before ++ log) a
    | .error _ => C (before ++ log)

theorem execute_traced (c : Client σ) (s : Statement) {w : World σ} {answer : Answer Nat} {e : σ}
    (h : Id.run ((c.execute s.sql).run w.engine) = (answer, e)) :
    Traced (execute c s.allowlist s) (execute c.recorded s.allowlist s) w
      (Attempt.outcome ⟨s, answer⟩) [Attempt.exchange ⟨s, answer⟩] ⟨e, w.stream⟩ := by
  have hrequest := Traced.request (ε := PopulateError) (.execute s.sql) (c.execute s.sql) w
  rw [h] at hrequest
  refine hrequest.bind ?_
  cases answer with
  | ok _ => exact .pure true _
  | error error =>
    dsimp only [Attempt.outcome]
    split
    · exact .pure false _
    · exact .raise _ _

namespace Logged

variable {t : Filling σ α} {t' : Filling (σ × List Exchange) α} {k : α → Filling σ β}
  {k' : α → Filling (σ × List Exchange) β} {P : List Attempt → α → Prop} {Q : List Attempt → β → Prop}
  {C D : List Attempt → Prop}

theorem pure {a : α} (h : P before a) : Logged (σ := σ) F before (pure a) (pure a) P C := by
  intro hbefore w
  refine ⟨_, [], _, .pure a w, ?_, ?_⟩
  · rw [List.append_nil]
    exact hbefore
  · rw [List.append_nil]
    exact h

theorem raise {e : PopulateError} (h : Benign before → Aborted before e) (hcut : C before) :
    Logged (σ := σ) F before (Session.raise e) (Session.raise e) P C := by
  intro hbefore w
  refine ⟨_, [], _, .raise e w, ?_, ?_⟩
  · rw [List.append_nil]
    exact h hbefore
  · rw [List.append_nil]
    exact hcut

theorem mono {P' : List Attempt → α → Prop} (ht : Logged F before t t' P C)
    (hP : ∀ log a, P log a → P' log a) (hcut : ∀ log, C log → D log) :
    Logged F before t t' P' D := by
  intro hbefore w
  obtain ⟨r, log, w', htraced, hends, hlog⟩ := ht hbefore w
  refine ⟨r, log, w', htraced, hends, ?_⟩
  cases r with
  | ok a => exact hP _ a hlog
  | error _ => exact hcut _ hlog

/-- Steps after a value; an early end stays one. -/
theorem bind (ht : Logged F before t t' P C) (hk : ∀ log a, P log a → Logged F log (k a) (k' a) Q D)
    (hcut : ∀ log, C log → D log) : Logged F before (t >>= k) (t' >>= k') Q D := by
  intro hbefore w
  obtain ⟨r, log, w₁, htraced, hends, hlog⟩ := ht hbefore w
  cases r with
  | error halt =>
    exact ⟨.error halt, log, w₁, htraced.bind_error, by cases halt <;> exact hends, hcut _ hlog⟩
  | ok a =>
    obtain ⟨r, rest, w₂, hrest, hends', hlog'⟩ := hk _ a hlog hends w₁
    rw [List.append_assoc] at hends' hlog'
    refine ⟨r, log ++ rest, w₂, ?_, hends', hlog'⟩
    rw [List.map_append]
    exact htraced.bind hrest

/-- Steps after a draw, which says nothing. -/
theorem draw {g : Gen α} {R : α → Prop} (hg : Gen.Yields F g R) (hcut : D before)
    (hk : ∀ a, R a → Logged F before (k a) (k' a) Q D) :
    Logged F before (Session.draw g >>= k) (Session.draw g >>= k') Q D := by
  intro hbefore w
  rcases Traced.draw (ε := PopulateError) hg w with ⟨a, s, ha, htraced⟩ | ⟨f, s, hf, htraced⟩
  · obtain ⟨r, log, w', hrest, hends, hlog⟩ := hk a ha hbefore ⟨w.engine, s⟩
    exact ⟨r, log, w', htraced.bind hrest, hends, hlog⟩
  · refine ⟨_, [], _, htraced.bind_error, ?_, ?_⟩
    · rw [List.append_nil]
      exact ⟨hbefore, hf⟩
    · rw [List.append_nil]
      exact hcut

/-- Steps after a statement: they know whether it was executed or skipped. -/
theorem execute {c : Client σ} {s : Statement} {k : Bool → Filling σ β}
    {k' : Bool → Filling (σ × List Exchange) β}
    (hcut : ∀ x, x.statement = s → x.granted = false → D (before ++ [x]))
    (hk : ∀ x, x.statement = s → x.fatal = false →
      Logged F (before ++ [x]) (k x.granted) (k' x.granted) Q D) :
    Logged F before (Populate.execute c s.allowlist s >>= k)
      (Populate.execute c.recorded s.allowlist s >>= k') Q D := by
  intro hbefore w
  rcases hanswer : Id.run ((c.execute s.sql).run w.engine) with ⟨answer, e⟩
  have htraced := execute_traced c s hanswer
  let x : Attempt := ⟨s, answer⟩
  cases hfatal : x.fatal with
  | true =>
    -- The attempt is the last one.
    obtain ⟨error, herror, hrefused, houtcome⟩ := x.outcome_of_fatal hfatal
    rw [houtcome] at htraced
    exact ⟨_, [x], _, htraced.bind_error, .rejected rfl hbefore herror hfatal,
      hcut x rfl hrefused⟩
  | false =>
    rw [x.outcome_of_benign hfatal] at htraced
    obtain ⟨r, log, w', hrest, hends, hlog⟩ :=
      hk x rfl hfatal (hbefore.concat hfatal) ⟨e, w.stream⟩
    rw [List.append_assoc] at hends hlog
    exact ⟨r, x :: log, w', htraced.bind hrest, hends, hlog⟩

end Logged
end Populate
end PredicateOracle
