import Mathlib.Data.List.Induction
import PredicateOracle.Proofs.Run.Panic

/-!
# PredicateOracle.Proofs.Run.Flag -- who raises the stop flag, and who heeds it

The flag is up exactly if some worker has ended with a failure that is no panic: a worker raises it
in the step in which it ends so (`HasFailed.of_next`), and in no other. Once it is up it stays up, and a
worker that asks is told to stop, so the only checks that still go on are those that their workers had
begun before (`Stage.current?`). A worker that panics ends without raising the flag, and the others do
not hear of it.
-/

namespace PredicateOracle.Run

open PredicateOracle.Random (Stream)
open Worker (State Report)

variable {σ : Type} {config : Configuration} {kits : Nat → Kit σ} {started : Nat}

/-! ## Checks that go on -/

namespace Stage

variable {worker : Nat} {kit : Kit σ}

/-- The number of the check that the worker has begun, if it was not told to stop before it. -/
def current? : Stage σ → Option Nat
  | .timing k _ | .emptying k _ | .filling k _ | .checking k _ => some k
  | _ => none

theorem current?_after {seed : UInt64} {next : State σ → Stage σ} {k : Nat}
    {r : Except (Halt Failure) Unit × State σ} (h : (after worker seed next r).current? = some k) :
    ∃ s, (next s).current? = some k := by
  rcases r with ⟨(f | f) | _, s⟩
  · cases h
  · cases h
  · exact ⟨s, h⟩

/-- **A worker that is told to stop begins no check.** -/
theorem current?_next {stage : Stage σ} {expired : Bool} {k : Nat}
    (h : (stage.next config worker kit true expired).current? = some k) :
    stage.current? = some k := by
  cases stage with
  | waiting =>
    rw [next] at h
    split at h
    · cases h
    · cases hengine : kit.engine <;> (rw [hengine] at h; cases h)
  | asking j s =>
    rw [next, if_pos (Bool.or_true _)] at h
    cases h
  | timing j s =>
    rw [next] at h
    split at h
    · cases h
    · split at h <;> exact h
  | emptying j s =>
    obtain ⟨s', hs'⟩ := current?_after h
    exact hs'
  | filling j s =>
    obtain ⟨s', hs'⟩ := current?_after h
    exact hs'
  | checking j s =>
    obtain ⟨s', hs'⟩ := current?_after h
    cases hs'
  | failing f s => cases h
  | ended report s => cases h

/-- **`stage.HasFailed`** -- the worker has ended with a failure, and has not panicked. -/
def HasFailed : Stage σ → Prop
  | .ended report _ => report.failure ≠ none ∧ ¬ report.IsPanicked
  | _ => False

theorem hasFailed_iff {stage : Stage σ} : stage.HasFailed ↔
    ∃ report s, stage = .ended report s ∧ report.failure ≠ none ∧ ¬ report.IsPanicked := by
  constructor
  · intro h
    cases stage with
    | ended report s => exact ⟨report, s, rfl, h⟩
    | _ => exact h.elim
  · rintro ⟨report, s, rfl, h⟩
    exact h

namespace HasFailed

theorem not_finish_ok (seed : UInt64) (s : Option (State σ)) :
    ¬ (finish worker seed (.ok ()) s).HasFailed := fun h => h.1 rfl

theorem not_after {seed : UInt64} {next : State σ → Stage σ} (hnext : ∀ s, ¬ (next s).HasFailed)
    (r : Except (Halt Failure) Unit × State σ) : ¬ (after worker seed next r).HasFailed := by
  rcases r with ⟨(f | f) | _, s⟩
  · exact fun h => h.2 ⟨worker, rfl⟩
  · exact id
  · exact hnext s

/-- **A worker that ends with a failure raises the flag in that step.** -/
theorem of_next {stage : Stage σ} {stop expired : Bool}
    (h : (stage.next config worker kit stop expired).HasFailed) :
    stage.HasFailed ∨ stage.raises = true := by
  cases stage with
  | waiting =>
    rw [next] at h
    split at h
    · exact h.elim
    · cases hengine : kit.engine <;> (rw [hengine] at h; exact h.elim)
  | asking k s =>
    rw [next] at h
    split at h
    · exact absurd h (not_finish_ok _ _)
    · exact h.elim
  | timing k s =>
    rw [next] at h
    split at h
    · exact absurd h (not_finish_ok _ _)
    · split at h <;> exact h.elim
  | emptying k s => exact absurd h (not_after (fun _ => id) _)
  | filling k s => exact absurd h (not_after (fun _ => id) _)
  | checking k s => exact absurd h (not_after (fun _ => id) _)
  | failing f s => exact .inr rfl
  | ended report s => exact .inl h

/-- A worker that raises the flag ends with its failure. -/
theorem next_of_failing {f : Failure} (hf : ∀ w, f ≠ .fault w) {s : Option (State σ)}
    {stop expired : Bool} :
    ((failing f s).next config worker kit stop expired).HasFailed := by
  refine ⟨nofun, ?_⟩
  rintro ⟨w, hw⟩
  exact hf w (Option.some.inj hw)

end HasFailed
end Stage

/-! ## The flag -/

namespace Cluster

theorem run_append (events later : List Event) :
    run config kits started (events ++ later) = later.foldl (step config kits) (run config kits started events) :=
  List.foldl_append

theorem stop_step {c : Cluster σ} (h : c.stop = true) (e : Event) :
    (c.step config kits e).stop = true := by
  cases e with
  | expire => exact h
  | step i =>
    rw [step]
    split
    · exact Bool.or_eq_true_iff.mpr (.inl h)
    · exact h

/-- A flag that is up stays up. -/
theorem stop_foldl {c : Cluster σ} (hstop : c.stop = true) (later : List Event) :
    (later.foldl (step config kits) c).stop = true := by
  induction later generalizing c with
  | nil => exact hstop
  | cons e later ih => exact ih (stop_step hstop e)

/-- **No check is begun while the flag is up**: those that go on later went on before. -/
theorem current?_foldl {c : Cluster σ} (hstop : c.stop = true) {later : List Event} {i k : Nat}
    (h : ((later.foldl (step config kits) c).stage i).current? = some k) :
    (c.stage i).current? = some k := by
  induction later generalizing c with
  | nil => exact h
  | cons e later ih =>
    have hcurrent := ih (stop_step hstop e) h
    cases e with
    | expire => exact hcurrent
    | step j =>
      rw [stage_step, hstop] at hcurrent
      split at hcurrent
      · exact Stage.current?_next hcurrent
      · exact hcurrent

/-- No worker is about to raise the flag because of a fault. -/
theorem ne_fault_of_failing {events : List Event} {i : Nat} {f : Failure} {s : Option (State σ)}
    (h : (run config kits started events).stage i = .failing f s) (w : Nat) : f ≠ .fault w := by
  have htallied := tallied_run config kits started events i
  rw [h] at htallied
  rintro rfl
  exact htallied.1.ne_fault w rfl

/-- **The flag is up exactly if a worker has failed.** -/
theorem stop_iff_hasFailed (config : Configuration) (kits : Nat → Kit σ) (started : Nat)
    (events : List Event) :
    (run config kits started events).stop = true ↔
      ∃ i, ((run config kits started events).stage i).HasFailed := by
  -- From event to event: a worker fails in the step in which the flag goes up, and stays at its end.
  induction events using List.reverseRecOn with
  | nil => exact iff_of_false nofun fun ⟨_, h⟩ => h
  | append_singleton events e ih =>
    have hfault {i f s} (h : (run config kits started events).stage i = .failing f s) (w : Nat) :
        f ≠ .fault w := ne_fault_of_failing h w
    rw [run_append, List.foldl_cons, List.foldl_nil]
    generalize run config kits started events = c at ih hfault
    cases e with
    | expire => exact ih
    | step j =>
      by_cases hj : c.Active config j
      · have hstop : (c.step config kits (.step j)).stop = (c.stop || (c.stage j).raises) := by
          rw [step, if_pos hj]
        rw [hstop, Bool.or_eq_true, ih]
        constructor
        · rintro (⟨i, hi⟩ | hraises)
          · refine ⟨i, ?_⟩
            rw [stage_step]
            split
            · obtain ⟨report, s, hended, hfailed⟩ := Stage.hasFailed_iff.mp hi
              rw [hended]
              exact hfailed
            · exact hi
          · refine ⟨j, ?_⟩
            rw [stage_step, if_pos ⟨rfl, hj⟩]
            cases hstage : c.stage j with
            | failing f s => exact Stage.HasFailed.next_of_failing fun w => hfault hstage w
            | _ => rw [hstage] at hraises; cases hraises
        · rintro ⟨i, hi⟩
          rw [stage_step] at hi
          split at hi
          · rename_i hij
            obtain ⟨rfl, -⟩ := hij
            exact hi.of_next.imp_left fun h => ⟨i, h⟩
          · exact .inl ⟨i, hi⟩
      · rw [step, if_neg hj]
        exact ih

/-- A worker that asks while the flag is up ends without a failure. -/
theorem ended_of_asking {events : List Event} (hstop : (run config kits started events).stop = true)
    {i k : Nat} {s : State σ} (h : (run config kits started events).stage i = .asking k s) :
    ∃ report, (run config kits started (events ++ [.step i])).stage i = .ended report (some s) ∧
      report.failure = none := by
  have hactive : (run config kits started events).Active config i :=
    active_of_stage_ne (by rw [h]; exact nofun)
  rw [run_append, List.foldl_cons, List.foldl_nil, stage_step, if_pos ⟨rfl, hactive⟩, h, Stage.next,
    hstop, if_pos (Bool.or_true _)]
  exact ⟨_, rfl, rfl⟩

/-- **Every failure but a panic stops the run, and nothing else does.** However the workers take their
steps, the flag is up exactly if some worker has ended with a failure that is no panic. From then on
it stays up, no worker begins a check any more, and one that asks ends without a failure. Under a
valid configuration that is feasible no worker panics, so there the flag is up exactly if some worker
has ended with a failure. -/
theorem stop_heeded (config : Configuration) (kits : Nat → Kit σ) (started : Nat)
    (events : List Event) :
    ((run config kits started events).stop = true ↔
      ∃ i report s, (run config kits started events).stage i = .ended report s ∧
        report.failure ≠ none ∧ ¬ report.IsPanicked) ∧
    ((run config kits started events).stop = true → ∀ (later : List Event) (i : Nat),
      (run config kits started (events ++ later)).stop = true ∧
      (∀ k, ((run config kits started (events ++ later)).stage i).current? = some k →
        ((run config kits started events).stage i).current? = some k) ∧
      ∀ k s, (run config kits started (events ++ later)).stage i = .asking k s →
        ∃ report, (run config kits started (events ++ later ++ [.step i])).stage i =
          .ended report (some s) ∧ report.failure = none) ∧
    (config.validate = .ok () → config.Feasible →
      ((run config kits started events).stop = true ↔
        ∃ i report s, (run config kits started events).stage i = .ended report s ∧
          report.failure ≠ none)) := by
  have hflag := stop_iff_hasFailed config kits started events
  simp only [Stage.hasFailed_iff] at hflag
  refine ⟨hflag, fun hstop later i => ?heeded, fun hvalid hfeasible => ?valid⟩
  case heeded =>
    have hlater : (run config kits started (events ++ later)).stop = true := by
      rw [run_append]
      exact stop_foldl hstop later
    refine ⟨hlater, fun k hk => ?_, fun k s h => ended_of_asking hlater h⟩
    rw [run_append] at hk
    exact current?_foldl hstop hk
  case valid =>
    have hset := Configuration.validate_eq_ok_iff.mp hvalid
    rw [hflag]
    refine exists_congr fun i => exists_congr fun report => exists_congr fun s => ?_
    refine and_congr_right fun h => and_iff_left (not_isPanicked hset hfeasible h)

/-- Two workers with an engine each, of which the first may fail to open. -/
def sampleKits (first : Answer Unit) (i : Nat) : Kit Unit :=
  ⟨Sample.backend, if i = 0 then first else .ok (), (Stream.ofSeed 7).fork (UInt64.ofNat i)⟩

/-- The first worker has no engine, and the second one, which was about to ask, is told to stop. -/
theorem stop_heeded_no_engine :
    let config : Configuration :=
      { Configuration.standard with run := { RunOptions.standard with workers := 2 } }
    let kits := sampleKits (.error ⟨"no such file"⟩)
    let events := [Event.step 1, .step 0, .step 0]
    config.validate = .ok () ∧ config.Feasible ∧
    (run config kits 0 events).stop = true ∧
    (∃ report, (run config kits 0 (events ++ [.step 1])).stage 1 = .ended report
      (some (.start config (kits 1).stream ())) ∧ report.failure = none) ∧
    ∀ later k, ((run config kits 0 (events ++ later)).stage 1).current? ≠ some k := by
  intro config kits events
  have hvalid : config.validate = .ok () :=
    Configuration.validate_eq_ok_iff.mpr (Configuration.valid_standard.scaled _ (by decide))
  have hfeasible : config.Feasible := by decide
  obtain ⟨-, hheeded, hflag⟩ := stop_heeded config kits 0 events
  have hstop : (run config kits 0 events).stop = true :=
    (hflag hvalid hfeasible).mpr ⟨0, _, none, rfl, nofun⟩
  have hasking : (run config kits 0 events).stage 1 =
      .asking 0 (.start config (kits 1).stream ()) := rfl
  obtain ⟨-, -, hends⟩ := hheeded hstop [] 1
  refine ⟨hvalid, hfeasible, hstop, hends 0 _ hasking, fun later k hk => ?_⟩
  have hcurrent := (hheeded hstop later 1).2.1 k hk
  rw [hasking] at hcurrent
  cases hcurrent

/-- **A panic does not raise the flag.** The configuration is valid, and the first of two workers has
ended with a panic; the flag is down, and the second worker begins its first check after that. -/
theorem panic_unheeded :
    let config : Configuration :=
      { Configuration.uncountable with run := { RunOptions.standard with workers := 2 } }
    let kits := sampleKits (.ok ())
    let events := List.replicate 5 (Event.step 0)
    config.validate = .ok () ∧
    ((run config kits 0 events).stage 0).report?.bind (·.failure) = some (.fault 0) ∧
    (run config kits 0 events).stop = false ∧
    ((run config kits 0 events).stage 1).current? = none ∧
    ((run config kits 0 (events ++ [.step 1, .step 1])).stage 1).current? = some 0 := by
  intro config kits events
  have hvalid : config.validate = .ok () :=
    Configuration.validate_eq_ok_iff.mpr (Configuration.valid_standard.scaled _ (by decide))
  refine ⟨hvalid, ?_, ?_, ?_, ?_⟩
  · decide +kernel
  · decide +kernel
  · decide +kernel
  · decide +kernel

end Cluster
end PredicateOracle.Run
