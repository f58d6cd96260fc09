import Mathlib.Logic.Function.Basic
import PredicateOracle.Proofs.Run.Worker
import PredicateOracle.Run.Summary

/-!
# PredicateOracle.Proofs.Run.Cluster -- workers side by side

The workers of a run go on independently of each other, and what they share is a stop flag and a
clock. Here a run is any sequence of events (`Event`): a worker takes a step, or the time is over.
Whatever touches the flag or the clock is a step of its own (`Stage`): a worker reads the flag, then
looks at the clock, and raises the flag after a failure and before its report. Between two such
steps it works on nothing but its own engine, stream and checker, so emptying, filling and checking
are one step each. A worker that meets a fault ends at once, without raising the flag. In a run that
has a fault at its opening all workers wait forever.
-/

namespace PredicateOracle

open PredicateOracle.Random (Stream)
open Worker (State Report Work)

variable {σ : Type}

/-! ## The parts of a turn -/

namespace Worker

/-- Empties the database. -/
def emptying (b : Backend σ) : Work σ Unit := onWorld (Session.ask b.reset id) .engine

/-- Fills the empty database. -/
def filling (config : Configuration) (b : Backend σ) (worker : Nat) : Work σ Unit := do
  let _ ← onWorld (populate b.toClient config.workload config.generator) (.populate worker)

/-- Runs the check of this number. -/
def checking (config : Configuration) (b : Backend σ) (k : Nat) : Work σ Unit :=
  runCheck b (modeOf config.oracle.modes k)

/-- **A turn is a check**, on a database that is emptied and filled if it is time for a new one. -/
theorem turn_eq (config : Configuration) (b : Backend σ) (worker k : Nat) :
    turn config b worker k =
      if isFresh config.run.checksPerDatabase k then
        emptying b >>= fun _ => filling config b worker >>= fun _ => checking config b k
      else checking config b k := by
  unfold turn
  split
  · show (prepare config b worker >>= fun _ => checking config b k) = _
    rw [prepare, bind_assoc]
    rfl
  · rfl

end Worker

namespace Run

/-- What a worker has of its own: an engine, which may fail to open, and a stream. -/
structure Kit (σ : Type) where
  backend : Backend σ
  engine : Answer σ
  stream : Stream

/-! ## Stages of a worker -/

/-- Where a worker is, with the state of its work; `k` is the number of the next check. -/
inductive Stage (σ : Type) where
  /-- It has not started. -/
  | waiting
  /-- It is about to read the stop flag. -/
  | asking (k : Nat) (s : State σ)
  /-- The flag was not raised, and it is about to look at the clock. -/
  | timing (k : Nat) (s : State σ)
  /-- It is about to empty the database. -/
  | emptying (k : Nat) (s : State σ)
  /-- It is about to fill the database. -/
  | filling (k : Nat) (s : State σ)
  /-- It is about to run the check. -/
  | checking (k : Nat) (s : State σ)
  /-- It has failed, and is about to raise the flag. There is no state if it had no engine. -/
  | failing (f : Failure) (s : Option (State σ))
  /-- It is done. -/
  | ended (report : Report) (s : Option (State σ))

namespace Stage

/-- The report of a worker, with the state that it leaves. -/
def finish (worker : Nat) (seed : UInt64) (result : Except (Halt Failure) Unit)
    (s : Option (State σ)) : Stage σ :=
  .ended (Worker.reportOf worker seed result ((s.map (·.oracle.stats)).getD .zero)) s

/-- What comes after steps: the next stage, the failure, or the end if there was a fault. -/
def after (worker : Nat) (seed : UInt64) (next : State σ → Stage σ) :
    Except (Halt Failure) Unit × State σ → Stage σ
  | (.ok (), s) => next s
  | (.error (.raised f), s) => .failing f (some s)
  | (.error (.fault f), s) => finish worker seed (.error (.fault f)) (some s)

/-- One step of a worker, for what the flag and the clock show now. -/
def next (config : Configuration) (worker : Nat) (kit : Kit σ) (stop expired : Bool) :
    Stage σ → Stage σ
  | .waiting =>
    if config.oracle.modes.isEmpty then .failing .noModes none
    else match kit.engine with
      | .error e => .failing (.engine e) none
      | .ok engine => .asking 0 (.start config kit.stream engine)
  | .asking k s =>
    if config.run.checksPerWorker ≤ k || stop then finish worker kit.stream.seed (.ok ()) (some s)
    else .timing k s
  | .timing k s =>
    if expired then finish worker kit.stream.seed (.ok ()) (some s)
    else if Worker.isFresh config.run.checksPerDatabase k then .emptying k s
    else .checking k s
  | .emptying k s =>
    after worker kit.stream.seed (.filling k) ((Worker.emptying kit.backend).runOn s)
  | .filling k s =>
    after worker kit.stream.seed (.checking k) ((Worker.filling config kit.backend worker).runOn s)
  | .checking k s =>
    after worker kit.stream.seed (.asking (k + 1)) ((Worker.checking config kit.backend k).runOn s)
  | .failing f s => finish worker kit.stream.seed (.error (.raised f)) s
  | .ended report s => .ended report s

/-- Whether the next step raises the stop flag. -/
def raises : Stage σ → Bool
  | .failing _ _ => true
  | _ => false

/-- The report of a worker that is done. -/
def report? : Stage σ → Option Report
  | .ended report _ => some report
  | _ => none

theorem report?_eq_some_iff {stage : Stage σ} {report : Report} :
    stage.report? = some report ↔ ∃ s, stage = .ended report s := by
  cases stage <;> simp [report?]

end Stage

/-! ## Runs -/

/-- The workers and what they share. -/
structure Cluster (σ : Type) where
  /-- Why no worker is ever started, if none is. -/
  fault : Option Fault
  stop : Bool
  /-- Whether the time is over. -/
  expired : Bool
  stage : Nat → Stage σ

/-- What can happen next. -/
inductive Event where
  | expire
  | step (worker : Nat)
  deriving DecidableEq, Repr

namespace Cluster

/-- No worker has taken a step; a clock shows `started`. -/
def start (config : Configuration) (started : Nat) : Cluster σ where
  fault := match opening config started with
    | .ok () => none
    | .error f => some f
  stop := false
  expired := Run.expired config
  stage := fun _ => .waiting

/-- **`c.Active config i`** -- the worker can take steps: it is one of the run, and the run had no fault
at its opening. -/
def Active (config : Configuration) (c : Cluster σ) (i : Nat) : Prop :=
  c.fault = none ∧ i < config.run.workers

instance (config : Configuration) (c : Cluster σ) (i : Nat) : Decidable (c.Active config i) :=
  inferInstanceAs (Decidable (_ ∧ _))

/-- One event. The time can be over only if there is a limit, and only active workers take steps. -/
def step (config : Configuration) (kits : Nat → Kit σ) (c : Cluster σ) : Event → Cluster σ
  | .expire => { c with expired := c.expired || config.run.timeoutSeconds.isSome }
  | .step i =>
    if c.Active config i then
      { c with
        stop := c.stop || (c.stage i).raises
        stage := Function.update c.stage i ((c.stage i).next config i (kits i) c.stop c.expired) }
    else c

/-- The cluster after some events. -/
def run (config : Configuration) (kits : Nat → Kit σ) (started : Nat) (events : List Event) :
    Cluster σ :=
  events.foldl (step config kits) (start config started)

variable {config : Configuration} {kits : Nat → Kit σ} {P : Nat → Stage σ → Prop}

/-- A step of an active worker changes its own stage and no other. -/
theorem stage_step (c : Cluster σ) (j i : Nat) :
    (c.step config kits (.step j)).stage i =
      if i = j ∧ c.Active config j then (c.stage i).next config i (kits i) c.stop c.expired
      else c.stage i := by
  by_cases hj : c.Active config j
  · by_cases hij : i = j
    · subst hij
      simp [step, hj]
    · simp [step, hj, hij]
  · simp [step, hj]

theorem step_keeps (hnext : ∀ i stop expired s, P i s → P i (s.next config i (kits i) stop expired))
    {c : Cluster σ} (hc : ∀ i, P i (c.stage i)) (e : Event) (i : Nat) :
    P i ((c.step config kits e).stage i) := by
  cases e with
  | expire => exact hc i
  | step j =>
    rw [stage_step]
    split
    · exact hnext i _ _ _ (hc i)
    · exact hc i

/-- **What every step of a worker keeps holds of all workers at any time**, in whatever order they take
their steps. -/
theorem run_keeps (hwaiting : ∀ i, P i .waiting)
    (hnext : ∀ i stop expired s, P i s → P i (s.next config i (kits i) stop expired))
    (started : Nat) (events : List Event) (i : Nat) :
    P i ((run config kits started events).stage i) := by
  have hfrom (c : Cluster σ) (hc : ∀ i, P i (c.stage i)) :
      ∀ i, P i ((events.foldl (step config kits) c).stage i) := by
    induction events generalizing c with
    | nil => exact hc
    | cons e events ih => exact ih _ fun i => step_keeps hnext hc e i
  exact hfrom (start config started) hwaiting i

/-- No event is a fault. -/
theorem fault_step (c : Cluster σ) (e : Event) : (c.step config kits e).fault = c.fault := by
  cases e with
  | expire => rfl
  | step i =>
    rw [step]
    split <;> rfl

/-- A fault of a run is one of its opening. -/
theorem fault_foldl (events : List Event) (c : Cluster σ) :
    (events.foldl (step config kits) c).fault = c.fault := by
  induction events generalizing c with
  | nil => rfl
  | cons e events ih => rw [List.foldl_cons, ih, fault_step]

/-- What is active stays active. -/
theorem active_step {c : Cluster σ} {e : Event} {i : Nat} :
    (c.step config kits e).Active config i ↔ c.Active config i := by
  rw [Active, fault_step, Active]

theorem active_foldl {c : Cluster σ} {events : List Event} {i : Nat} :
    (events.foldl (step config kits) c).Active config i ↔ c.Active config i := by
  rw [Active, fault_foldl, Active]

/-- A worker that is not active stays where it is. -/
theorem stage_foldl_of_not_active {c : Cluster σ} {i : Nat} (h : ¬ c.Active config i)
    (events : List Event) : (events.foldl (step config kits) c).stage i = c.stage i := by
  induction events generalizing c with
  | nil => rfl
  | cons e events ih =>
    rw [List.foldl_cons, ih (mt active_step.mp h)]
    cases e with
    | expire => rfl
    | step j =>
      rw [stage_step, if_neg]
      rintro ⟨rfl, hactive⟩
      exact h hactive

/-- A worker that has started is active. -/
theorem active_of_stage_ne {started : Nat} {events : List Event} {i : Nat}
    (h : (run config kits started events).stage i ≠ .waiting) :
    (run config kits started events).Active config i := by
  rw [run, active_foldl]
  by_contra hactive
  exact h (stage_foldl_of_not_active hactive events)

end Cluster
end Run
end PredicateOracle
