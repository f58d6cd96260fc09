import PredicateOracle.Proofs.Run.Counters
import PredicateOracle.Proofs.Run.Independence

/-!
# PredicateOracle.Proofs.Run.Replay -- a bug of one worker is found again

How many checks a worker has counted when it finds a bug tells how far it had to go. With as many checks
to run or more, the worker does the same and finds the bug again; with fewer it does not get there
(`Worker.turns_of_bug`). Where the database is kept and where reports go does not matter, and neither
does how many checks were asked for at first: what counts is that the databases and the checks are made
in the same way (`Configuration.SameChecks`).
-/

namespace PredicateOracle

open PredicateOracle.Random (Stream)
open Worker (State Report Work)
open Run (Kit never)

variable {σ : Type}

/-- **`c.SameChecks c'`** -- under both configurations databases and checks are made in the same way. -/
structure Configuration.SameChecks (c c' : Configuration) : Prop where
  oracle : c'.oracle = c.oracle
  generator : c'.generator = c.generator
  workload : c'.workload = c.workload
  checksPerDatabase : c'.run.checksPerDatabase = c.run.checksPerDatabase

namespace Worker

/-! ## Counted checks -/

section Turns

variable {config : Configuration} {b : Backend σ} {worker : Nat}

theorem checks_runCheck (mode : Mode) (s : State σ) :
    ((runCheck b mode).runOn s).2.oracle.stats.checks = s.oracle.stats.checks + 1 := by
  have hstats := congrArg Stats.checks (s.oracle.check_stats b.toClient mode s.world)
  rw [Work.runOn_runCheck]
  rcases hrun : s.oracle.check b.toClient mode s.world with ⟨(f | i) | a, o, w⟩ <;>
    rw [hrun] at hstats <;> exact hstats

/-- A turn that succeeds, or finds a bug, has run its check. -/
theorem checks_turn {k : Nat} {s s' : State σ} {r : Except (Halt Failure) Unit}
    (h : (turn config b worker k).runOn s = (r, s'))
    (hr : r = .ok () ∨ ∃ bug, r = .error (.raised (.bug bug))) :
    s'.oracle.stats.checks = s.oracle.stats.checks + 1 := by
  have hcheck := checks_runCheck (b := b) (modeOf config.oracle.modes k)
  unfold turn at h
  split at h
  · rw [Work.runOn_bind] at h
    have horacle := keepsOracle_prepare config b worker s
    rcases hrun : (prepare config b worker).runOn s with ⟨halt | _, s₁⟩
    · -- To make a database never finds a bug.
      rw [hrun] at h
      obtain ⟨rfl, -⟩ := Prod.mk.inj h
      obtain hr | ⟨bug, hr⟩ := hr
      · cases hr
      · have hfails : Fails (fun f => f ≠ .bug bug) (prepare config b worker) :=
          fails_prepare nofun nofun
        exact absurd rfl (hfails s _ (by rw [hrun, hr]))
    · rw [hrun] at h horacle
      have hchecks := hcheck s₁
      rw [show (runCheck b _).runOn s₁ = _ from h, horacle] at hchecks
      exact hchecks
  · have hchecks := hcheck s
    rw [show (runCheck b _).runOn s = _ from h] at hchecks
    exact hchecks

/-- **Turns that find a bug, and other numbers of turns**: as many as were run find it again, and fewer
come to their end. -/
theorem turns_of_bug {n k : Nat} {s s' : State σ} {bug : BugReport}
    (h : (turns config b worker never n k).runOn s = (.error (.raised (.bug bug)), s')) (n' : Nat) :
    (s'.oracle.stats.checks ≤ s.oracle.stats.checks + n' →
      (turns config b worker never n' k).runOn s = (.error (.raised (.bug bug)), s')) ∧
    (s.oracle.stats.checks + n' < s'.oracle.stats.checks →
      ∃ s₁, (turns config b worker never n' k).runOn s = (.ok (), s₁)) := by
  induction n generalizing k s n' with
  | zero => cases h
  | succ n ih =>
    have hsplit (n : Nat) (k : Nat) : turns config b worker never (n + 1) k =
        turn config b worker k >>= fun _ => turns config b worker never n (k + 1) := by
      rw [turns, never]
      rfl
    rw [hsplit, Work.runOn_bind] at h
    rcases hturn : (turn config b worker k).runOn s with ⟨halt | _, s₁⟩
    · rw [hturn] at h
      obtain ⟨hhalt, rfl⟩ := Prod.mk.inj h
      have hchecks := checks_turn hturn (.inr ⟨bug, hhalt⟩)
      cases n' with
      | zero => exact ⟨fun hle => by omega, fun _ => ⟨s, rfl⟩⟩
      | succ n' =>
        rw [hsplit, Work.runOn_bind, hturn]
        exact ⟨fun _ => h, fun hlt => by omega⟩
    · rw [hturn] at h
      have hchecks := checks_turn hturn (.inl rfl)
      cases n' with
      | zero =>
        refine ⟨fun hle => ?_, fun _ => ⟨s, rfl⟩⟩
        -- Without turns no bug would be found after the first turn either.
        have hnone := (ih h 0).1 (by omega)
        cases hnone
      | succ n' =>
        rw [hsplit, Work.runOn_bind, hturn]
        obtain ⟨hagain, hearly⟩ := ih h n'
        exact ⟨fun hle => hagain (by omega), fun hlt => hearly (by omega)⟩

end Turns

/-! ## Workers -/

variable {c c' : Configuration} (h : c.SameChecks c')
include h

theorem turns_of_sameChecks (b : Backend σ) (worker : Nat) (stops : Nat → Bool) (n k : Nat) :
    turns c' b worker stops n k = turns c b worker stops n k := by
  induction n generalizing k with
  | zero => rfl
  | succ n ih =>
    have hturn : turn c' b worker k = turn c b worker k := by
      unfold turn prepare
      rw [h.oracle, h.generator, h.workload, h.checksPerDatabase]
    rw [turns, turns, hturn, ih]

/-- **A worker that finds a bug finds it again** with as many checks to run as it has counted, and
otherwise comes to its end. -/
theorem solo_of_bug {worker : Nat} {kit : Kit σ} {report : Report} {s : Option (State σ)}
    (hsolo : solo c worker kit never = (report, s)) {bug : BugReport}
    (hbug : report.failure = some (.bug bug)) :
    (report.stats.checks ≤ c'.run.checksPerWorker → solo c' worker kit never = (report, s)) ∧
    (c'.run.checksPerWorker < report.stats.checks →
      (solo c' worker kit never).1.failure = none) := by
  have hmodes : c.oracle.modes.isEmpty = false := by
    refine Bool.eq_false_iff.mpr fun hmodes => ?_
    rw [solo, if_pos hmodes] at hsolo
    obtain ⟨rfl, -⟩ := Prod.mk.inj hsolo
    cases hbug
  have hmodes' : c'.oracle.modes.isEmpty = false := h.oracle ▸ hmodes
  cases hengine : kit.engine with
  | error e =>
    simp only [solo, hmodes, hengine, Bool.false_eq_true, if_false, Prod.mk.injEq] at hsolo
    obtain ⟨rfl, -⟩ := hsolo
    cases hbug
  | ok engine =>
    rcases hrun : (turns c kit.backend worker never c.run.checksPerWorker 0).runOn
      (.start c kit.stream engine) with ⟨r, s'⟩
    obtain ⟨rfl, rfl⟩ := Prod.mk.inj (hsolo.symm.trans (solo_of_turns hmodes hengine hrun))
    have hr : r = .error (.raised (.bug bug)) := by
      rcases r with (f | f) | _
      · cases hbug
      · obtain rfl := Option.some.inj hbug
        rfl
      · cases hbug
    subst hr
    have hstart : State.start c' kit.stream engine = State.start c kit.stream engine := by
      unfold State.start
      rw [h.oracle, h.generator]
    obtain ⟨hagain, hearly⟩ := turns_of_bug hrun c'.run.checksPerWorker
    have hzero : (State.start c kit.stream engine).oracle.stats.checks = 0 := rfl
    rw [hzero, Nat.zero_add] at hagain hearly
    rw [← turns_of_sameChecks h, ← hstart] at hagain hearly
    refine ⟨fun hle => solo_of_turns hmodes' hengine (hagain hle), fun hlt => ?_⟩
    obtain ⟨s₁, hs₁⟩ := hearly hlt
    rw [solo_of_turns hmodes' hengine hs₁]
    rfl

end Worker

/-! ## Runs of one worker -/

/-- Engines that all give these answers, wherever their databases are. -/
def Replies.fleet (r : Replies) : Fleet (List Command) :=
  ⟨r.backend, fun _ => r.opening.map fun () => []⟩

namespace Summary

theorem bugs_of_worker {s : Summary} {report : Report} (h : s.workers = [report])
    {bug : BugReport} (hbug : report.failure = some (.bug bug)) : s.bugs = [(report, bug)] := by
  simp [Summary.bugs, h, hbug, Failure.bug?]

theorem mem_bugs_of_worker {s : Summary} {report w : Report} (h : s.workers = [report])
    {bug : BugReport} (hmem : (w, bug) ∈ s.bugs) :
    w = report ∧ report.failure = some (.bug bug) := by
  unfold Summary.bugs at hmem
  rw [h] at hmem
  simp only [List.mem_filterMap, List.mem_singleton, Option.map_eq_some_iff] at hmem
  obtain ⟨_, rfl, b, hb, heq⟩ := hmem
  obtain ⟨rfl, rfl⟩ := Prod.mk.inj heq
  obtain ⟨f, hf, hb⟩ := Option.bind_eq_some_iff.mp hb
  cases f with
  | bug report =>
    obtain rfl := Option.some.inj hb
    exact ⟨rfl, hf⟩
  | _ => cases hb

end Summary

namespace Run

variable {c c' : Configuration} {fleet : Fleet σ} {started : Nat} {seed : UInt64}

/-- The only worker of a run, by itself. -/
def onlyKit (c : Configuration) (fleet : Fleet σ) (seed : UInt64) : Kit σ :=
  ⟨fleet.backend, fleet.connect (databasePath c 0), streamOf seed 0⟩

/-- The only worker of a run without a timeout is by itself. -/
theorem workers_of_one (fleet : Fleet σ) (seed : UInt64) (hworkers : c.run.workers = 1)
    (htimeout : c.run.timeoutSeconds = none) :
    (workersFrom c fleet (Stream.ofSeed seed) c.run.workers 0 false).map (·.report) =
      [(Worker.solo c 0 (onlyKit c fleet seed) never).1] := by
  have hexpired : expired c = false := by
    unfold expired
    rw [htimeout]
    rfl
  rw [hworkers]
  simp only [workersFrom, hexpired, Bool.or_self, List.map_cons, List.map_nil]
  have hsolo := congrArg Prod.fst (Worker.run_eq_solo c 0 (onlyKit c fleet seed) never)
  exact congrArg (fun report => [report]) hsolo

theorem sums_singleton (r : Report) : sums [r] = r.stats := by simp [sums]

/-- **A run of one worker without a timeout has a summary exactly if the worker's counters are words**,
and then it has the worker's report. -/
theorem run_of_one (fleet : Fleet σ) (started : Nat) (seed : UInt64) (hworkers : c.run.workers = 1)
    (htimeout : c.run.timeoutSeconds = none) :
    let report := (Worker.solo c 0 (onlyKit c fleet seed) never).1
    (report.stats.fits = true → ∃ s remains, run c fleet started seed = .ok (s, remains)) ∧
      ∀ s remains, run c fleet started seed = .ok (s, remains) →
        s.workers = [report] ∧ report.stats.fits = true := by
  intro report
  have hone := workers_of_one fleet seed hworkers htimeout
  have hopening : opening c started = .ok () :=
    opening_eq_ok_iff.mpr ⟨inTime_of_timeout_eq_none htimeout, by rw [hworkers]; decide⟩
  have hroom : Record.report.HasRoom [report].length := by
    show Record.report.HasRoom 1
    decide
  constructor
  · intro hfits
    have hsummary : summarize seed (expired c) [report] = .ok ⟨seed, _, _, [report]⟩ :=
      summarize_eq_ok_iff.mpr ⟨hroom, by rwa [sums_singleton], rfl⟩
    rw [← hone] at hsummary
    exact ⟨_, _, run_eq_ok_iff.mpr ⟨hopening, rfl, hsummary⟩⟩
  · intro s remains h
    obtain ⟨-, rfl, hsummary⟩ := run_eq_ok_iff.mp h
    rw [hone] at hsummary
    obtain ⟨-, hfits, rfl⟩ := summarize_eq_ok_iff.mp hsummary
    rw [sums_singleton] at hfits
    exact ⟨rfl, hfits⟩

/-- **A bug of a run of one worker is found again** by a run with the same seed that makes databases and
checks in the same way, if it runs as many checks as the worker has counted, and by no other. -/
theorem bugs_replayed (started' : Nat) (hopens : ∀ p q, fleet.connect p = fleet.connect q)
    (h : c.SameChecks c') (hworkers : c.run.workers = 1) (hworkers' : c'.run.workers = 1)
    (htimeout : c.run.timeoutSeconds = none) (htimeout' : c'.run.timeoutSeconds = none)
    {s : Summary} {remains : List (Remains σ)} (hrun : run c fleet started seed = .ok (s, remains))
    {w : Report} {bug : BugReport} (hbug : (w, bug) ∈ s.bugs) :
    ∃ s' remains', run c' fleet started' seed = .ok (s', remains') ∧
      s'.bugs = if w.stats.checks ≤ c'.run.checksPerWorker then [(w, bug)] else [] := by
  obtain ⟨hone, hfits⟩ := (run_of_one fleet _ seed hworkers htimeout).2 s remains hrun
  obtain ⟨hsome, hone'⟩ := run_of_one fleet started' seed hworkers' htimeout'
  have hkit : onlyKit c' fleet seed = onlyKit c fleet seed := by
    rw [onlyKit, onlyKit, hopens (databasePath c' 0) (databasePath c 0)]
  have hbounded := Worker.bounded_solo c' 0 (onlyKit c' fleet seed) never
  rw [hkit] at hsome hone' hbounded
  generalize onlyKit c fleet seed = kit at hone hfits hsome hone' hbounded
  rcases hsolo : Worker.solo c 0 kit never with ⟨report, left⟩
  rw [hsolo] at hone hfits
  obtain ⟨rfl, hfailure⟩ := Summary.mem_bugs_of_worker hone hbug
  obtain ⟨hagain, hearly⟩ := Worker.solo_of_bug h hsolo hfailure
  by_cases hchecks : w.stats.checks ≤ c'.run.checksPerWorker
  · rw [if_pos hchecks]
    rw [hagain hchecks] at hsome hone'
    obtain ⟨s', remains', hrun'⟩ := hsome hfits
    exact ⟨s', remains', hrun', Summary.bugs_of_worker (hone' s' remains' hrun').1 hfailure⟩
  · rw [if_neg hchecks]
    -- The worker counts fewer checks than the one that found the bug, so its counters are words too.
    obtain ⟨hwords, -⟩ := Stats.fits_iff.mp hfits
    obtain ⟨s', remains', hrun'⟩ := hsome (hbounded.fits (by dsimp only at hwords; omega))
    refine ⟨s', remains', hrun', List.eq_nil_iff_forall_not_mem.mpr fun (w', bug') hmem => ?_⟩
    obtain ⟨-, hfailure'⟩ := Summary.mem_bugs_of_worker (hone' s' remains' hrun').1 hmem
    rw [hearly (Nat.lt_of_not_le hchecks)] at hfailure'
    cases hfailure'

end Run
end PredicateOracle
