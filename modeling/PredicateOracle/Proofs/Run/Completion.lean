import PredicateOracle.Proofs.Run.Counters
import PredicateOracle.Proofs.Run.Schedule

/-!
# PredicateOracle.Proofs.Run.Completion -- the summary of workers side by side

A run is over when every worker is done, or when it has met a fault (`Cluster.result?`). If there is a
summary, it has the reports in the order of the workers, and their counters together. Each step of a
worker leaves it fewer steps to take (`Stage.remaining`), so every run in which the workers get their
turns is over at some time (`result?_isSome`), and the run that takes the workers one after the other
ends as `Run.run` does (`run_result`).
-/

namespace PredicateOracle

open PredicateOracle.Random (Stream)
open Worker (State Report Work)

variable {σ : Type}

namespace Run

/-! ## Progress -/

/-- How many steps a worker takes at most from a stage on, if it is to run so many checks. Each check is
asking, timing, emptying, filling and checking; behind them there is a failure at most, and the end. -/
def Stage.remaining (checks : Nat) : Stage σ → Nat
  | .waiting => 5 * checks + 3
  | .asking k _ => 5 * (checks - k) + 2
  | .timing k _ => 5 * (checks - (k + 1)) + 6
  | .emptying k _ => 5 * (checks - (k + 1)) + 5
  | .filling k _ => 5 * (checks - (k + 1)) + 4
  | .checking k _ => 5 * (checks - (k + 1)) + 3
  | .failing _ _ => 1
  | .ended _ _ => 0

namespace Stage

variable {config : Configuration} {worker : Nat} {kit : Kit σ}

theorem remaining_after {seed : UInt64} {next : State σ → Stage σ} {checks m : Nat} (hm : 1 ≤ m)
    (hnext : ∀ s, (next s).remaining checks ≤ m) (r : Except (Halt Failure) Unit × State σ) :
    (after worker seed next r).remaining checks ≤ m := by
  rcases r with ⟨(f | f) | _, s⟩
  · exact Nat.zero_le m
  · exact hm
  · exact hnext s

/-- **A step leaves fewer steps to take**, until the worker is done. -/
theorem remaining_next (stop expired : Bool) (stage : Stage σ) :
    (stage.next config worker kit stop expired).remaining config.run.checksPerWorker ≤
      stage.remaining config.run.checksPerWorker - 1 := by
  cases stage with
  | waiting =>
    rw [next, remaining]
    split
    · show 1 ≤ _
      omega
    · cases kit.engine with
      | error e =>
        show 1 ≤ _
        omega
      | ok engine =>
        show 5 * (config.run.checksPerWorker - 0) + 2 ≤ _
        omega
  | asking k s =>
    rw [next, remaining]
    split
    · exact Nat.zero_le _
    · rename_i hgoes
      have hk : k < config.run.checksPerWorker := by
        by_contra hlast
        simp [Nat.le_of_not_lt hlast] at hgoes
      show 5 * (config.run.checksPerWorker - (k + 1)) + 6 ≤ _
      omega
  | timing k s =>
    rw [next, remaining]
    split
    · exact Nat.zero_le _
    · split
      · show 5 * (config.run.checksPerWorker - (k + 1)) + 5 ≤ _
        omega
      · show 5 * (config.run.checksPerWorker - (k + 1)) + 3 ≤ _
        omega
  | emptying k s =>
    rw [next, remaining]
    apply remaining_after
    · omega
    · intro s'
      show 5 * (config.run.checksPerWorker - (k + 1)) + 4 ≤ _
      omega
  | filling k s =>
    rw [next, remaining]
    apply remaining_after
    · omega
    · intro s'
      show 5 * (config.run.checksPerWorker - (k + 1)) + 3 ≤ _
      omega
  | checking k s =>
    rw [next, remaining]
    apply remaining_after
    · omega
    · intro s'
      show 5 * (config.run.checksPerWorker - (k + 1)) + 2 ≤ _
      omega
  | failing f s => exact Nat.le_refl 0
  | ended report s => exact Nat.le_refl 0

theorem report?_isSome_of_remaining {checks : Nat} {stage : Stage σ}
    (h : stage.remaining checks = 0) : stage.report?.isSome = true := by
  cases stage with
  | ended report s => rfl
  | _ => simp [remaining] at h

end Stage

namespace Cluster

variable {config : Configuration} {kits : Nat → Kit σ}

/-- Every step of its own brings a worker nearer to its end, and no other event takes it back. -/
theorem remaining_foldl {c : Cluster σ} {i : Nat} (hi : c.Active config i) (events : List Event) :
    ((events.foldl (step config kits) c).stage i).remaining config.run.checksPerWorker ≤
      (c.stage i).remaining config.run.checksPerWorker - events.count (.step i) := by
  -- The cluster changes from event to event, so the bound is stated for every cluster.
  induction events generalizing c with
  | nil => exact Nat.le_refl _
  | cons e events ih =>
    have hrest := ih (c := c.step config kits e) (active_step.mpr hi)
    cases e with
    | expire =>
      rw [List.count_cons_of_ne Event.noConfusion]
      exact hrest
    | step j =>
      rw [stage_step] at hrest
      by_cases hij : i = j
      · subst hij
        rw [if_pos ⟨rfl, hi⟩] at hrest
        have hnext : ((c.stage i).next config i (kits i) c.stop c.expired).remaining
            config.run.checksPerWorker ≤ _ := Stage.remaining_next c.stop c.expired (c.stage i)
        rw [List.count_cons_self, List.foldl_cons]
        omega
      · rw [if_neg fun h => hij h.1] at hrest
        rw [List.count_cons_of_ne fun h => hij (Event.step.inj h).symm]
        exact hrest

/-- A worker that takes steps enough is done. -/
theorem report?_isSome {started i : Nat}
    (hi : (start config started : Cluster σ).Active config i) {events : List Event}
    (hsteps : 5 * config.run.checksPerWorker + 3 ≤ events.count (.step i)) :
    ((run config kits started events).stage i).report?.isSome = true := by
  have h : ((run config kits started events).stage i).remaining config.run.checksPerWorker ≤
      5 * config.run.checksPerWorker + 3 - events.count (.step i) := remaining_foldl hi events
  have hnone : ((run config kits started events).stage i).remaining config.run.checksPerWorker = 0 := by
    omega
  exact Stage.report?_isSome_of_remaining hnone

end Cluster

/-! ## Summaries -/

/-- Every member of a list has an image, in the same order. -/
theorem mapM_eq_some_iff {α β : Type} {f : α → Option β} {as : List α} {bs : List β} :
    as.mapM f = some bs ↔ List.Forall₂ (fun a b => f a = some b) as bs := by
  induction as generalizing bs with
  | nil => simp [eq_comm]
  | cons a as ih =>
    rw [List.mapM_cons, List.forall₂_cons_left_iff]
    simp only [bind, Option.bind_eq_some_iff, pure, Option.some.injEq, ih]
    constructor
    · rintro ⟨b, hb, bs', hbs', rfl⟩
      exact ⟨b, bs', hb, hbs', rfl⟩
    · rintro ⟨b, bs', hb, hbs', rfl⟩
      exact ⟨b, hb, bs', hbs', rfl⟩

theorem mapM_isSome {α β : Type} {f : α → Option β} {as : List α}
    (h : ∀ a ∈ as, (f a).isSome = true) : (as.mapM f).isSome = true := by
  induction as with
  | nil => rfl
  | cons a as ih =>
    obtain ⟨b, hb⟩ := Option.isSome_iff_exists.mp (h a List.mem_cons_self)
    obtain ⟨bs, hbs⟩ := Option.isSome_iff_exists.mp (ih fun a ha => h a (List.mem_cons_of_mem _ ha))
    rw [List.mapM_cons, hb, hbs]
    rfl

namespace Cluster

variable {config : Configuration} {kits : Nat → Kit σ} {seed : UInt64}

/-- What came out of a run, if it is over: the fault of its opening, or what is made of the reports of
its workers when all of them are done. -/
def result? (config : Configuration) (seed : UInt64) (c : Cluster σ) :
    Option (Except Fault Summary) :=
  match c.fault with
  | some f => some (.error f)
  | none =>
    ((List.range config.run.workers).mapM fun i => (c.stage i).report?).map
      (summarize seed c.expired)

/-- A run is over with the fault of its opening, or when all workers are done. -/
theorem result?_eq_some_iff {c : Cluster σ} {r : Except Fault Summary} :
    c.result? config seed = some r ↔ (∃ f, c.fault = some f ∧ r = .error f) ∨
      (c.fault = none ∧ ∃ reports,
        List.Forall₂ (fun i r => (c.stage i).report? = some r) (List.range config.run.workers)
          reports ∧ r = summarize seed c.expired reports) := by
  unfold result?
  cases c.fault with
  | some f => simp [eq_comm]
  | none => simp only [Option.map_eq_some_iff, mapM_eq_some_iff, reduceCtorEq, false_and,
      exists_false, true_and, false_or, eq_comm (a := r)]

/-- The fault of a cluster is that of its opening. -/
theorem fault_run (config : Configuration) (kits : Nat → Kit σ) (started : Nat)
    (events : List Event) :
    (run config kits started events).fault =
      match opening config started with
      | .ok () => none
      | .error f => some f := fault_foldl events _

/-- **A run is over with a fault only for one of three reasons.** -/
theorem ofRun_of_result? {started : Nat} {events : List Event} {f : Fault}
    (h : (run config kits started events).result? config seed = some (.error f)) :
    f.OfRun config started := by
  rcases result?_eq_some_iff.mp h with ⟨f', hf', hf⟩ | ⟨-, reports, hreports, hsummary⟩
  · obtain rfl := Except.error.inj hf
    rw [fault_run] at hf'
    rcases hopening : opening config started with f' | _
    · rw [hopening] at hf'
      obtain rfl := Option.some.inj hf'
      exact ofRun_of_opening hopening
    · rw [hopening] at hf'
      cases hf'
  · refine ofRun_of_summarize hsummary.symm ?_ ?_
    · rw [← hreports.length_eq, List.length_range]
    · intro r hr
      obtain ⟨k, hk, rfl⟩ := List.mem_iff_getElem.mp hr
      obtain ⟨s, hs⟩ := Stage.report?_eq_some_iff.mp (hreports.get (hreports.length_eq ▸ hk) hk)
      exact bounded_of_ended hs

/-- **The deadline is the fault of a run exactly if it is not in time**, whatever the workers would do. -/
theorem result?_eq_clockOverflow_iff {started : Nat} {events : List Event} :
    (run config kits started events).result? config seed = some (.error .clockOverflow) ↔
      ¬ config.InTime started := by
  constructor
  · intro h
    rcases ofRun_of_result? h with ⟨-, hlate⟩ | ⟨hroom, -⟩ | ⟨hword, -⟩
    · exact hlate
    · cases hroom
    · cases hword
  · intro hlate
    rw [result?, fault_run, opening_of_not_inTime hlate]

/-- What is known of a summary: where its reports come from, and its counters. -/
theorem summary_of_result? {c : Cluster σ} {s : Summary}
    (h : c.result? config seed = some (.ok s)) :
    List.Forall₂ (fun i r => (c.stage i).report? = some r) (List.range config.run.workers)
        s.workers ∧
      s = ⟨seed, sums s.workers, c.expired, s.workers⟩ := by
  rcases result?_eq_some_iff.mp h with ⟨f, -, hf⟩ | ⟨-, reports, hreports, hsummary⟩
  · cases hf
  · obtain ⟨-, -, rfl⟩ := summarize_eq_ok_iff.mp hsummary.symm
    exact ⟨hreports, rfl⟩

/-- **The reports of a summary are those of the workers, in their order.** -/
theorem closes_of_result? {started : Nat} {events : List Event} {s : Summary}
    (h : (run config kits started events).result? config seed = some (.ok s)) :
    List.Forall₂ (fun i r => Closes i (kits i).stream.seed (checks config kits started events i) r)
      (List.range config.run.workers) s.workers := by
  refine (summary_of_result? h).1.imp fun i r hr => ?_
  obtain ⟨s, hs⟩ := Stage.report?_eq_some_iff.mp hr
  have htally := tallied_run config kits started events i
  rw [hs] at htally
  exact htally

/-- **A run in which every worker takes its steps is over.** -/
theorem result?_isSome {started : Nat} {events : List Event}
    (hsteps : ∀ i < config.run.workers,
      5 * config.run.checksPerWorker + 3 ≤ events.count (.step i)) :
    ((run config kits started events).result? config seed).isSome = true := by
  unfold result?
  cases hfault : (run config kits started events).fault with
  | some f => rfl
  | none =>
    rw [Option.isSome_map]
    refine mapM_isSome fun i hi => ?_
    rw [List.mem_range] at hi
    have hstart : (start config started : Cluster σ).fault = none :=
      (fault_foldl events _).symm.trans hfault
    exact report?_isSome ⟨hstart, hi⟩ (hsteps i hi)

end Cluster

/-- **The run that takes the workers in turn ends like one in which they take steps side by side.** -/
theorem run_result (config : Configuration) (f : Fleet σ) (started : Nat) (seed : UInt64) :
    ∃ events, (Cluster.run config (kitsOf config f (.ofSeed seed)) started events).result? config
      seed = some ((run config f started seed).map Prod.fst) := by
  cases hopening : opening config started with
  | error fault =>
    refine ⟨[], Cluster.result?_eq_some_iff.mpr (.inl ⟨fault, ?_, ?_⟩)⟩
    · rw [Cluster.fault_run, hopening]
    · rw [run, hopening]
      rfl
  | ok =>
    let reports := (workersFrom config f (Stream.ofSeed seed) config.run.workers 0 false).map (·.report)
    obtain ⟨events, hclock, hagrees⟩ := workers_scheduled f seed hopening
    refine ⟨events, Cluster.result?_eq_some_iff.mpr (.inr ⟨?_, reports, ?_, ?_⟩)⟩
    · rw [Cluster.fault_run, hopening]
    · apply List.forall₂_map_right_iff.mpr
      refine hagrees.imp fun i r h => ?_
      obtain ⟨s, hs, -⟩ := h
      rw [hs]
      rfl
    · rw [hclock, run, hopening]
      change (summarize seed (expired config) reports >>= fun s => .ok (s, _)).map Prod.fst = _
      cases summarize seed (expired config) reports <;> rfl

end Run

/-! ## Bugs and fatal failures -/

namespace Summary

/-- There are as many bugs as are counted, if every report counts its own. -/
theorem length_bugs (s : Summary)
    (h : ∀ r ∈ s.workers, r.stats.bugs = ((r.failure.bind Failure.bug?).toList).length) :
    s.bugs.length = (s.workers.map (·.stats.bugs)).sum := by
  unfold bugs
  generalize s.workers = reports at h
  induction reports with
  | nil => rfl
  | cons r reports ih =>
    have hr := h r List.mem_cons_self
    have hrest := ih fun r' hr' => h r' (List.mem_cons_of_mem _ hr')
    rw [List.map_cons, List.sum_cons, ← hrest, hr]
    cases hbug : r.failure.bind Failure.bug? with
    | none =>
      rw [List.filterMap_cons_none (by rw [hbug]; rfl)]
      exact (Nat.zero_add _).symm
    | some b =>
      rw [List.filterMap_cons_some (by rw [hbug]; rfl)]
      exact Nat.add_comm _ 1

theorem bugs_ne_nil_iff (s : Summary) : s.bugs ≠ [] ↔ ∃ r ∈ s.workers, r.FoundBug := by
  simp only [bugs, ne_eq, List.filterMap_eq_nil_iff, Option.map_eq_none_iff, not_forall,
    Report.foundBug_iff, ← Option.ne_none_iff_exists', exists_prop]

theorem fatal_ne_nil_iff (s : Summary) : s.fatal ≠ [] ↔ ∃ r ∈ s.workers, r.FailedFatally := by
  simp only [Report.failedFatally_iff]
  constructor
  · intro h
    obtain ⟨p, hp⟩ := List.exists_mem_of_ne_nil _ h
    obtain ⟨r, hr, hfailure⟩ := List.mem_filterMap.mp hp
    obtain ⟨f, hf, hfatal⟩ := Option.bind_eq_some_iff.mp hfailure
    by_cases hnone : f.bug?.isNone = true
    · exact ⟨r, hr, f, hf, hnone⟩
    · rw [if_neg hnone] at hfatal
      cases hfatal
  · rintro ⟨r, hr, f, hf, hnone⟩
    have hmem : (r, f) ∈ s.fatal :=
      List.mem_filterMap.mpr ⟨r, hr, by rw [hf, Option.bind_some, if_pos hnone]⟩
    exact List.ne_nil_of_mem hmem

end Summary

open Check (Result)

/-- **`s.Accounts config seed checks`** -- the summary has one report for each worker, in their order,
and the reports account for the checks of the workers. -/
structure Summary.Accounts (s : Summary) (config : Configuration) (seed : UInt64)
    (checks : Nat → List Result) : Prop where
  seed_eq : s.seed = seed
  length : s.workers.length = config.run.workers
  stats : s.stats = Run.sums s.workers
  bugs : s.stats.bugs = s.bugs.length
  worker : ∀ (i : Nat) (r : Report), s.workers[i]? = some r →
    r.worker = i ∧ r.seed = ((Stream.ofSeed seed).fork (UInt64.ofNat i)).seed
  /-- A worker that met a fault has lost its counters, and its failure is fatal. -/
  panicked : ∀ (i : Nat) (r : Report), s.workers[i]? = some r → r.IsPanicked → r.stats = .zero ∧ r.FailedFatally
  accounts : ∀ (i : Nat) (r : Report), s.workers[i]? = some r → ¬ r.IsPanicked → r.Accounts (checks i)

namespace Run

/-- **A summary accounts for all checks**, whatever the engines answer and in whatever order the
workers take their steps. -/
theorem accounts_of_result? {config : Configuration} {kits : Nat → Kit σ} {seed : UInt64}
    (hstreams : ∀ i, (kits i).stream = (Stream.ofSeed seed).fork (UInt64.ofNat i)) {started : Nat}
    {events : List Event} {s : Summary}
    (h : (Cluster.run config kits started events).result? config seed = some (.ok s)) :
    s.Accounts config seed (Cluster.checks config kits started events) := by
  have hcloses := Cluster.closes_of_result? h
  have hsummary := (Cluster.summary_of_result? h).2
  have hstats : s.stats = sums s.workers := congrArg Summary.stats hsummary
  have hreport (i : Nat) (r : Report) (hr : s.workers[i]? = some r) :
      Closes i (kits i).stream.seed (Cluster.checks config kits started events i) r := by
    obtain ⟨hi, rfl⟩ := List.getElem?_eq_some_iff.mp hr
    obtain ⟨hlength, hget⟩ := List.forall₂_iff_get.mp hcloses
    have hmember := hget i (by omega) hi
    simpa using hmember
  have hbugs : s.bugs.length = (s.workers.map (·.stats.bugs)).sum := by
    refine s.length_bugs fun r hr => ?_
    obtain ⟨i, hi⟩ := List.mem_iff_getElem?.mp hr
    exact (hreport i r hi).stats_bugs
  refine ⟨congrArg Summary.seed hsummary, ?_, hstats, ?_, ?_, ?_, ?_⟩
  · rw [← hcloses.length_eq, List.length_range]
  · rw [hstats, hbugs]
    rfl
  · intro i r hr
    rw [← hstreams i]
    exact ⟨(hreport i r hr).worker_eq, (hreport i r hr).seed_eq⟩
  · exact fun i r hr => (hreport i r hr).of_isPanicked
  · exact fun i r hr => (hreport i r hr).accounts

end Run
end PredicateOracle
