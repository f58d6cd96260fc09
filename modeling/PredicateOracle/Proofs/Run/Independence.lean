import PredicateOracle.Proofs.Run.Seed
import PredicateOracle.Proofs.Run.Solo

/-!
# PredicateOracle.Proofs.Run.Independence -- workers do not influence each other but by stopping

An engine answers by what it has been told so far (`Replies`), and what it has been told is its
state. So the state that a worker leaves holds all that it said, its counters and its stream. For
every way in which the workers of a run take turns, that state is the one that the worker leaves
alone, cut off before some check; a worker that fails is not cut off at all.
-/

namespace PredicateOracle

open PredicateOracle.Random (Stream)
open Worker (State Report Work)
open Run (Kit Stage never)

/-! ## Engines -/

/-- Anything that an engine can be told. -/
inductive Command where
  | call (call : Call)
  | reset
  deriving DecidableEq, Repr

/-- What an engine answers, to the last of the commands that it has been told. -/
structure Replies where
  /-- Whether it opens. -/
  opening : Answer Unit
  query : List Command → Answer (Option (List Row))
  execute : List Command → Answer Nat
  release : List Command → Answer Unit
  readSchema : List Command → Answer Sql.Schema
  reset : List Command → Answer Unit

namespace Replies

/-- Tells an engine one command more. -/
def tell {α : Type} (reply : List Command → Answer α) (x : Command) :
    StateM (List Command) (Answer α) :=
  fun told => (reply (told ++ [x]), told ++ [x])

/-- The engine that gives these answers. -/
def backend (r : Replies) : Backend (List Command) where
  query sql := tell r.query (.call (.query sql))
  execute sql := tell r.execute (.call (.execute sql))
  release := tell r.release (.call .release)
  readSchema := tell r.readSchema (.call .readSchema)
  reset := tell r.reset .reset

/-- The engine together with a stream; it has been told nothing yet. -/
def kit (r : Replies) (stream : Stream) : Kit (List Command) :=
  ⟨r.backend, r.opening.map fun () => [], stream⟩

end Replies

/-! ## Bugs of a worker by itself -/

namespace Worker

variable {σ : Type}

/-- **A worker reports a bug with the seed that it started from.** -/
theorem seed_of_solo {config : Configuration} {worker : Nat} {kit : Kit σ} {stops : Nat → Bool}
    {report : Report} {s : Option (State σ)} (h : solo config worker kit stops = (report, s))
    {bug : BugReport} (hbug : report.failure = some (.bug bug)) : bug.seed = kit.stream.seed := by
  unfold solo at h
  split at h
  · obtain ⟨rfl, -⟩ := Prod.mk.inj h
    cases hbug
  · cases hengine : kit.engine with
    | error e =>
      rw [hengine] at h
      obtain ⟨rfl, -⟩ := Prod.mk.inj h
      cases hbug
    | ok engine =>
      rw [hengine] at h
      obtain ⟨rfl, -⟩ := Prod.mk.inj h
      have hkeeps := keepsSeed_turns config kit.backend worker stops config.run.checksPerWorker 0
      refine hkeeps.bug (.start config kit.stream engine) bug ?_
      change (reportOf worker kit.stream.seed (Work.runOn _ (.start config kit.stream engine)).1
        _).failure = some (.bug bug) at hbug
      rcases hresult : (Work.runOn (turns config kit.backend worker stops
        config.run.checksPerWorker 0) (.start config kit.stream engine)).1 with (f | f) | _
      · rw [hresult] at hbug
        cases hbug
      · rw [hresult] at hbug
        obtain rfl := Option.some.inj hbug
        rfl
      · rw [hresult] at hbug
        cases hbug

end Worker

/-! ## Clusters -/

/-- The configuration of a run with so many workers. -/
def Configuration.withWorkers (config : Configuration) (workers : Nat) : Configuration :=
  { config with run := { config.run with workers := workers } }

namespace Worker

variable {σ : Type} (config : Configuration) (workers worker : Nat)

theorem turns_withWorkers (b : Backend σ) (stops : Nat → Bool) (n k : Nat) :
    turns (config.withWorkers workers) b worker stops n k = turns config b worker stops n k := by
  induction n generalizing k with
  | zero => rfl
  | succ n ih =>
    have hturn : turn (config.withWorkers workers) b worker k = turn config b worker k := rfl
    rw [turns, turns, hturn, ih]

/-- How many workers there are is nothing to a worker by itself. -/
theorem solo_withWorkers (kit : Kit σ) (stops : Nat → Bool) :
    solo (config.withWorkers workers) worker kit stops = solo config worker kit stops := by
  unfold solo drive
  rw [turns_withWorkers]
  rfl

end Worker

namespace Run

/-- The stream of a worker in a run with this seed. -/
def streamOf (seed : UInt64) (worker : Nat) : Stream :=
  (Stream.ofSeed seed).fork (UInt64.ofNat worker)

/-- A run of workers with these engines. -/
def cluster (config : Configuration) (engines : Nat → Replies) (seed : UInt64) (started : Nat)
    (events : List Event) : Cluster (List Command) :=
  .run config (fun i => (engines i).kit (streamOf seed i)) started events

/-- **Workers influence each other only by stopping.** Whatever the engines answer, in whatever
order the workers take their steps and whenever the time is over: what a worker has said to its
engine, its counters and its stream, before a check and at its end, are those of the worker alone,
cut off before some check, with any number of other workers. A worker that reports a failure is not
cut off: alone it does the same and fails in the same way at the same check. So a bug is found again
by a worker alone that starts from the seed in its report. -/
theorem worker_undisturbed (config : Configuration) (engines : Nat → Replies) (seed : UInt64)
    (started : Nat) (events : List Event) (i : Nat) :
    (∀ k s, (cluster config engines seed started events).stage i = .asking k s → ∀ workers,
      (Worker.solo (config.withWorkers workers) i ((engines i).kit (streamOf seed i)) (k ≤ ·)).2 =
        some s) ∧
    ∀ report s, (cluster config engines seed started events).stage i = .ended report s →
      (∃ k ≤ config.run.checksPerWorker, ∀ workers,
        Worker.solo (config.withWorkers workers) i ((engines i).kit (streamOf seed i)) (k ≤ ·) =
          (report, s)) ∧
      (report.failure ≠ none → ∀ workers,
        Worker.solo (config.withWorkers workers) i ((engines i).kit (streamOf seed i)) never =
          (report, s)) ∧
      ∀ bug, report.failure = some (.bug bug) → ∀ workers,
        Worker.solo (config.withWorkers workers) i ((engines i).kit (.ofSeed bug.seed)) never =
          (report, s) := by
  have hfollows : Follows config i _ ((cluster config engines seed started events).stage i) :=
    Cluster.follows config (fun i => (engines i).kit (streamOf seed i)) started events i
  simp only [Worker.solo_withWorkers]
  constructor
  · intro k s hasking _
    rw [hasking] at hfollows
    exact congrArg Prod.snd (Worker.Reaches.solo_eq hfollows)
  · intro report s hended
    rw [hended] at hfollows
    obtain ⟨⟨k, hk, hcut⟩, hwhole⟩ := hfollows
    refine ⟨⟨k, hk, fun _ => hcut⟩, fun hfailure _ => hwhole hfailure, fun bug hbug _ => ?_⟩
    have halone := hwhole (by rw [hbug]; exact nofun)
    rw [Worker.seed_of_solo halone hbug]
    exact halone

/-- Of two workers the first finds a bug: its engine has one row, and loses it as soon as it is
asked for the rows on which a predicate is true. The second worker has opened its engine before, asks
whether it should stop when the bug has been found, and does nothing more. Alone, from the seed in
its report, the first one finds the bug again. -/
theorem worker_undisturbed_lost_row :
    let config : Configuration :=
      ⟨⟨1, ⟨0, 0.1, .uniform⟩, 1, 0, 0, 0, [.plain]⟩, ⟨0, false, 0.05⟩,
        ⟨1, 1, 0, 0, 0, 0, 0, false, false⟩, ⟨none, 2, 1, 0, none, none⟩, none⟩
    let engine : Replies :=
      { opening := .ok ()
        query := fun told =>
          .ok (some (if told.length ≤ 4 then [[some "1", some "true"]] else []))
        execute := fun _ => .ok 0
        release := fun _ => .ok ()
        readSchema := fun _ => .ok ⟨[⟨"t0", [⟨"t0", "c0", .integer, true⟩]⟩]⟩
        reset := fun _ => .ok () }
    let events : List Event := .step 1 :: (List.replicate 7 (.step 0) ++ [.step 1])
    let c := cluster config (fun _ => engine) 24 0 events
    let bug : BugReport :=
      { seed := 15188352322396858982
        query := "SELECT t0.c0 FROM t0 WHERE (-66 <= t0.c0)"
        fetchQuery := "SELECT t0.c0, (-66 <= t0.c0) FROM t0"
        predicates := ["(-66 <= t0.c0)"]
        compound := "(-66 <= t0.c0)"
        expected := [[some "1"]]
        actual := []
        mismatch := "Row count mismatch: expected=1, actual=0" }
    let found : Report := ⟨0, bug.seed, ⟨1, 0, 0, 1⟩, some (.bug bug)⟩
    let stopped : Report := ⟨1, 1185981389982744873, .zero, none⟩
    (∃ s, c.stage 0 = .ended found s ∧
      Worker.solo (config.withWorkers 1) 0 (engine.kit (streamOf 24 0)) never = (found, s) ∧
      Worker.solo (config.withWorkers 1) 0 (engine.kit (.ofSeed bug.seed)) never = (found, s)) ∧
    (∃ s, c.stage 1 = .ended stopped s ∧ ∃ k ≤ 1,
      Worker.solo (config.withWorkers 2) 1 (engine.kit (streamOf 24 1)) (k ≤ ·) = (stopped, s)) ∧
    ∃ s, (cluster config (fun _ => engine) 24 0 [.step 1]).stage 1 = .asking 0 s ∧
      (Worker.solo (config.withWorkers 2) 1 (engine.kit (streamOf 24 1)) (0 ≤ ·)).2 = some s := by
  intro config engine events c bug found stopped
  have hfound : (c.stage 0).report? = some found := by decide +kernel
  have hstopped : (c.stage 1).report? = some stopped := by decide +kernel
  obtain ⟨s, hs⟩ := Stage.report?_eq_some_iff.mp hfound
  obtain ⟨s', hs'⟩ := Stage.report?_eq_some_iff.mp hstopped
  obtain ⟨-, hwhole, hbug⟩ :=
    (worker_undisturbed config (fun _ => engine) 24 0 events 0).2 found s hs
  obtain ⟨⟨k, hk, hcut⟩, -⟩ :=
    (worker_undisturbed config (fun _ => engine) 24 0 events 1).2 stopped s' hs'
  obtain ⟨hasking, -⟩ := worker_undisturbed config (fun _ => engine) 24 0 [.step 1] 1
  exact ⟨⟨s, hs, hwhole nofun 1, hbug bug rfl 1⟩, ⟨s', hs', k, hk, hcut 2⟩,
    _, rfl, hasking 0 _ rfl 2⟩

end Run
end PredicateOracle
