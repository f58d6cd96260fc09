import PredicateOracle.Proofs.Check.History
import PredicateOracle.Proofs.Run.Cluster

/-!
# PredicateOracle.Proofs.Run.Verdicts -- what the checks of a worker came to is in its report

A check comes to a result (`Check.Result`), and the results of a worker are read off the events of a
run (`Cluster.checks`); the worker itself keeps counters only. At every stage the counters are those
of the results so far, and every result so far let the worker go on (`Tallied`). A step that is no
check leaves the counters alone, and a check adds its own result to them. So a worker that ends
reports the counters of all its checks, with a failure that is the last result or no result at all
(`Closes`). The only exception is a fault, which takes the counters with it.
-/

namespace PredicateOracle

open PredicateOracle.Random (Stream)
open Worker (State Report Work Fails)
open Run (Kit Stage)

variable {σ : Type}

open Check (Result)

/-! ## Results -/

/-- A check that interrupts its worker does so for a fatal cause. -/
theorem Oracle.isFatal_of_check {o : Oracle} {c : Client σ} {mode : Mode} {w : World σ}
    {i : Interruption} (h : (o.check c mode w).1 = .error (.raised i)) : i.isFatal = true := by
  cases i with
  | inconclusive reason => exact absurd h (Outcome.ofTrial_ne_inconclusive _ reason)
  | _ => rfl

/-- **`Continuing results`** -- every check let the worker go on: it was passed, or there was no
verdict. -/
def Continuing (results : List Result) : Prop := ∀ r ∈ results, ∃ outcome, r = .ok outcome

namespace Continuing

variable {results : List Result}

theorem nil : Continuing [] := nofun

theorem concat (h : Continuing results) (outcome : Outcome) :
    Continuing (results ++ [.ok outcome]) := by
  intro r hr
  rcases List.mem_append.mp hr with hr | hr
  · exact h r hr
  · exact ⟨outcome, List.mem_singleton.mp hr⟩

theorem countP_isBug (h : Continuing results) : results.countP Result.isBug = 0 := by
  refine List.countP_eq_zero.mpr fun r hr => ?_
  obtain ⟨outcome, rfl⟩ := h r hr
  simp [Result.isBug]

/-- Every check that let the worker go on is counted by its outcome. -/
theorem countP_add (h : Continuing results) :
    results.countP Result.isPassed + results.countP Result.isInconclusive = results.length := by
  induction results with
  | nil => rfl
  | cons r results ih =>
    obtain ⟨outcome, rfl⟩ := h r List.mem_cons_self
    have hrest := ih fun r hr => h r (List.mem_cons_of_mem _ hr)
    simp only [List.countP_cons, List.length_cons]
    cases outcome <;> simp [Result.isPassed, Result.isInconclusive] <;> omega

theorem error_not_mem (h : Continuing results) (halt : Halt Interruption) :
    .error halt ∉ results := by
  intro hmem
  obtain ⟨outcome, houtcome⟩ := h _ hmem
  cases houtcome

theorem getLast?_ne_error (h : Continuing results) (halt : Halt Interruption) :
    results.getLast? ≠ some (.error halt) := fun hlast =>
  h.error_not_mem halt (List.mem_of_getLast? hlast)

end Continuing

/-! ## How a worker ends -/

/-- A failure that is neither a bug nor a fault. -/
def Failure.IsPlain (f : Failure) : Prop := f.bug? = none ∧ ∀ w, f ≠ .fault w

/-- **`EndsWith results failure`** -- after checks with these results a worker ends, and this is its
failure: between two checks, if at all, or in the last of them. -/
inductive EndsWith : List Result → Option Failure → Prop
  | between {results : List Result} {failure : Option Failure} (hgoes : Continuing results)
      (hplain : ∀ f ∈ failure, f.IsPlain) : EndsWith results failure
  | bug {results : List Result} (b : BugReport) (hgoes : Continuing results) :
      EndsWith (results ++ [.error (.raised (.logicBug b))]) (some (.bug b))
  | fatal {results : List Result} (i : Interruption) (hgoes : Continuing results)
      (hfatal : i.isFatal = true) (hbug : ∀ b, i ≠ .logicBug b) :
      EndsWith (results ++ [.error (.raised i)]) (some (.check i))

/-- A check that interrupts the worker is its last one. -/
theorem EndsWith.ofInterruption {results : List Result} (hgoes : Continuing results)
    {i : Interruption} (hfatal : i.isFatal = true) :
    EndsWith (results ++ [.error (.raised i)]) (some (.ofInterruption i)) := by
  cases i with
  | logicBug b => exact .bug b hgoes
  | _ => exact .fatal _ hgoes hfatal nofun

/-- No worker ends with a fault in this way. -/
theorem EndsWith.ne_fault {results : List Result} {failure : Option Failure}
    (h : EndsWith results failure) (w : Nat) : failure ≠ some (.fault w) := by
  cases h with
  | between _ hplain => exact fun hw => (hplain _ hw).2 w rfl
  | bug b _ => exact nofun
  | fatal i _ _ _ => exact nofun

/-- **`report.FoundBug`** -- a bug ended the worker. -/
def Worker.Report.FoundBug (report : Report) : Prop := ∃ b, report.failure = some (.bug b)

/-- **`report.FailedFatally`** -- something other than a bug ended the worker. -/
def Worker.Report.FailedFatally (report : Report) : Prop :=
  ∃ f, report.failure = some f ∧ ∀ b, f ≠ .bug b

/-- **`report.IsPanicked`** -- a fault of its own ended the worker. -/
def Worker.Report.IsPanicked (report : Report) : Prop := ∃ w, report.failure = some (.fault w)

namespace Worker.Report

theorem foundBug_iff {report : Report} :
    report.FoundBug ↔ ∃ b, report.failure.bind Failure.bug? = some b := by
  unfold FoundBug
  cases report.failure with
  | none => simp
  | some f => cases f <;> simp [Failure.bug?]

theorem failedFatally_iff {report : Report} :
    report.FailedFatally ↔ ∃ f, report.failure = some f ∧ f.bug?.isNone = true := by
  unfold FailedFatally
  refine exists_congr fun f => and_congr_right fun _ => ?_
  cases f <;> simp [Failure.bug?]

end Worker.Report

/-- The last check ended for a fatal reason that is no bug. -/
def EndsFatally (results : List Result) : Prop :=
  ∃ i, results.getLast? = some (.error (.raised i)) ∧ i.isFatal = true ∧ ∀ b, i ≠ .logicBug b

/-- **`report.Accounts results`** -- the counters of a report say what the checks came to, and its
failure is the bug that they found, if they found one. -/
structure Worker.Report.Accounts (report : Report) (results : List Result) : Prop where
  stats : report.stats = .ofResults results
  /-- No check met a fault. -/
  noFault : ∀ f, .error (.fault f) ∉ results
  bugs_le : report.stats.bugs ≤ 1
  /-- A bug is counted if and only if it is reported. -/
  bugs_eq : report.stats.bugs = 1 ↔ report.FoundBug
  /-- The bug that is reported is what the last check came to. -/
  bug : ∀ b, report.failure = some (.bug b) ↔
    results.getLast? = some (.error (.raised (.logicBug b)))
  /-- Every check has a verdict or none, unless the last one ended fatally. -/
  verdicts : ¬ EndsFatally results →
    report.stats.passed + report.stats.inconclusive + report.stats.bugs = report.stats.checks
  unjudged : EndsFatally results →
    report.stats.passed + report.stats.inconclusive + report.stats.bugs + 1 = report.stats.checks

namespace EndsWith

variable {results : List Result} {failure : Option Failure}

/-- A check that meets a fault is no part of a worker's end but one by the fault. -/
theorem fault_not_mem (h : EndsWith results failure) (f : Fault) : .error (.fault f) ∉ results := by
  cases h with
  | between hgoes _ => exact hgoes.error_not_mem _
  | bug b hgoes => simp [hgoes.error_not_mem]
  | fatal i hgoes _ _ => simp [hgoes.error_not_mem]

/-- **A worker that ends without a fault accounts for all its checks.** -/
theorem accounts (h : EndsWith results failure) (worker : Nat) (seed : UInt64) :
    Report.Accounts ⟨worker, seed, .ofResults results, failure⟩ results := by
  have hfault := h.fault_not_mem
  cases h with
  | between hgoes hplain =>
    have hbugs : results.countP Result.isBug = 0 := hgoes.countP_isBug
    have hsum := hgoes.countP_add
    have hlast := hgoes.getLast?_ne_error
    have hnone : ∀ b, failure ≠ some (.bug b) := fun b hb => nomatch (hplain _ hb).1
    refine ⟨rfl, hfault, ?_, ?_, ?_, ?_, ?_⟩
    · show results.countP Result.isBug ≤ 1
      omega
    · show results.countP Result.isBug = 1 ↔ _
      simp [Report.FoundBug, hbugs, hnone]
    · simp [hnone, hlast]
    · intro _
      show results.countP _ + results.countP _ + results.countP _ = results.length
      omega
    · rintro ⟨i, hi, -⟩
      exact absurd hi (hlast _)
  | @bug results b hgoes =>
    have hbugs : results.countP Result.isBug = 0 := hgoes.countP_isBug
    have hsum := hgoes.countP_add
    refine ⟨rfl, hfault, ?_, ?_, ?_, ?_, ?_⟩
    · simp [Stats.ofResults, Result.isBug, hbugs]
    · simp [Stats.ofResults, Report.FoundBug, Result.isBug, hbugs]
    · simp
    · intro _
      simp [Stats.ofResults, Result.isBug, Result.isPassed, Result.isInconclusive]
      omega
    · rintro ⟨i, hi, -, hbug⟩
      simp at hi
      exact absurd hi.symm (hbug b)
  | @fatal results i hgoes hfatal hbug =>
    have hbugs : results.countP Result.isBug = 0 := hgoes.countP_isBug
    have hsum := hgoes.countP_add
    have hi : Result.isBug (.error (.raised i)) = false := by
      cases i with
      | logicBug b => exact absurd rfl (hbug b)
      | _ => rfl
    refine ⟨rfl, hfault, ?_, ?_, ?_, ?_, ?_⟩
    · simp [Stats.ofResults, hi, hbugs]
    · simp [Stats.ofResults, Report.FoundBug, hi, hbugs]
    · simp [hbug]
    · intro hends
      exact absurd ⟨i, by simp, hfatal, hbug⟩ hends
    · intro _
      simp [Stats.ofResults, hi, Result.isPassed, Result.isInconclusive]
      omega

end EndsWith

/-! ## Stages -/

namespace Worker

/-- **`KeepsOracle t`** -- the steps `t` leave the checker and its counters as they are. -/
def KeepsOracle {α : Type} (t : Work σ α) : Prop := ∀ s, (Work.runOn t s).2.oracle = s.oracle

variable {α β ε : Type}

theorem keepsOracle_onWorld (t : Session ε σ α) (failed : ε → Failure) :
    KeepsOracle (onWorld t failed) := by
  intro s
  rw [Work.runOn_onWorld]
  rcases t.runOn s.world with ⟨(f | e) | a, w⟩ <;> rfl

theorem KeepsOracle.bind {t : Work σ α} {k : α → Work σ β} (ht : KeepsOracle t)
    (hk : ∀ a, KeepsOracle (k a)) : KeepsOracle (t >>= k) := by
  intro s
  have hfirst := ht s
  rw [Work.runOn_bind]
  rcases hrun : Work.runOn t s with ⟨halt | a, s'⟩
  · rw [hrun] at hfirst
    exact hfirst
  · rw [hrun] at hfirst
    exact (hk a s').trans hfirst

variable (config : Configuration) (b : Backend σ) (worker : Nat)

theorem keepsOracle_emptying : KeepsOracle (emptying b) := keepsOracle_onWorld _ _

theorem keepsOracle_filling : KeepsOracle (filling config b worker) :=
  .bind (keepsOracle_onWorld _ _) fun _ _ => rfl

theorem fails_emptying : Fails Failure.IsPlain (emptying b) :=
  .onWorld fun _ => ⟨rfl, nofun⟩

theorem fails_filling : Fails Failure.IsPlain (filling config b worker) :=
  .bind (.onWorld fun _ => ⟨rfl, nofun⟩) fun _ => .pure ()

end Worker

namespace Run

/-- **`Closes worker seed results report`** -- the report of a worker after checks with these results. A
fault takes the counters with it. -/
inductive Closes (worker : Nat) (seed : UInt64) (results : List Result) : Report → Prop
  | counted {failure : Option Failure} (hends : EndsWith results failure) :
      Closes worker seed results ⟨worker, seed, .ofResults results, failure⟩
  | panicked : Closes worker seed results ⟨worker, seed, .zero, some (.fault worker)⟩

namespace Closes

variable {worker : Nat} {seed : UInt64} {results : List Result} {report : Report}

theorem worker_eq (h : Closes worker seed results report) : report.worker = worker := by
  cases h <;> rfl

theorem seed_eq (h : Closes worker seed results report) : report.seed = seed := by
  cases h <;> rfl

theorem of_isPanicked (h : Closes worker seed results report) (hpanicked : report.IsPanicked) :
    report.stats = .zero ∧ report.FailedFatally := by
  obtain ⟨w, hw⟩ := hpanicked
  refine ⟨?_, .fault w, hw, nofun⟩
  cases h with
  | counted hends => exact absurd hw (hends.ne_fault w)
  | panicked => rfl

theorem accounts (h : Closes worker seed results report) (hpanicked : ¬ report.IsPanicked) :
    report.Accounts results := by
  cases h with
  | counted hends => exact hends.accounts worker seed
  | panicked => exact absurd ⟨worker, rfl⟩ hpanicked

/-- A report counts one bug if it has one, and else none. -/
theorem stats_bugs (h : Closes worker seed results report) :
    report.stats.bugs = ((report.failure.bind Failure.bug?).toList).length := by
  by_cases hpanicked : report.IsPanicked
  · rw [(h.of_isPanicked hpanicked).1]
    obtain ⟨w, hw⟩ := hpanicked
    rw [hw]
    rfl
  · have haccounts := h.accounts hpanicked
    have hone := haccounts.bugs_eq
    have hle := haccounts.bugs_le
    rw [Report.foundBug_iff] at hone
    cases hbug : report.failure.bind Failure.bug? with
    | none =>
      have hnot : report.stats.bugs ≠ 1 := by simp [hone, hbug]
      show report.stats.bugs = 0
      omega
    | some b => exact hone.mpr ⟨b, hbug⟩

end Closes

/-- **`Counts results s`** -- the worker goes on, and its counters are those of its checks. -/
def Counts (results : List Result) (s : State σ) : Prop :=
  Continuing results ∧ s.oracle.stats = .ofResults results

/-- **`Tallied worker seed results stage`** -- checks with these results lie behind a worker at this
stage. -/
def Tallied (worker : Nat) (seed : UInt64) (results : List Result) : Stage σ → Prop
  | .waiting => results = []
  | .asking _ s | .timing _ s | .emptying _ s | .filling _ s | .checking _ s => Counts results s
  | .failing f s =>
    EndsWith results (some f) ∧ (s.map (·.oracle.stats)).getD .zero = .ofResults results
  | .ended report _ => Closes worker seed results report

/-- What the next step comes to, if it is a check. -/
def Stage.checked? (config : Configuration) (kit : Kit σ) : Stage σ → Option Result
  | .checking k s =>
    some (s.oracle.check kit.backend.toClient (Worker.modeOf config.oracle.modes k) s.world).1
  | _ => none

section Step

variable {config : Configuration} {worker : Nat} {kit : Kit σ} {results : List Result}

/-- A worker that has no failure leaves the counters of its checks. -/
theorem tallied_done {seed : UInt64} {s : State σ} (h : Counts results s) :
    Tallied worker seed results (.finish worker seed (.ok ()) (some s)) := by
  show Closes worker seed results ⟨worker, seed, s.oracle.stats, none⟩
  rw [h.2]
  exact .counted (.between h.1 nofun)

/-- A failure goes into the report, with the counters. -/
theorem tallied_failed {seed : UInt64} {f : Failure} {s : Option (State σ)}
    (hends : EndsWith results (some f))
    (hstats : (s.map (·.oracle.stats)).getD .zero = .ofResults results) :
    Tallied worker seed results (.finish worker seed (.error (.raised f)) s) := by
  show Closes worker seed results ⟨worker, seed, (s.map (·.oracle.stats)).getD .zero, some f⟩
  rw [hstats]
  exact .counted hends

/-- Steps between two checks keep the counters, and what they raise is plain. -/
theorem tallied_after {seed : UInt64} {t : Work σ Unit} (hkeeps : Worker.KeepsOracle t)
    (hfails : Fails Failure.IsPlain t) {next : State σ → Stage σ} {s : State σ}
    (hnext : ∀ s', Counts results s' → Tallied worker seed results (next s'))
    (h : Counts results s) :
    Tallied worker seed results (.after worker seed next (t.runOn s)) := by
  have horacle := hkeeps s
  have hplain := hfails s
  rcases hrun : t.runOn s with ⟨(f | f) | _, s'⟩
  · exact .panicked
  · rw [hrun] at horacle hplain
    refine ⟨.between h.1 fun g hg => ?_, ?_⟩
    · obtain rfl := Option.some.inj hg
      exact hplain f rfl
    · exact (congrArg Oracle.stats horacle).trans h.2
  · rw [hrun] at horacle
    exact hnext s' ⟨h.1, (congrArg Oracle.stats horacle).trans h.2⟩

/-- **A check adds its own result to the counters.** -/
theorem tallied_checking {seed : UInt64} (k : Nat) {s : State σ} (h : Counts results s) :
    Tallied worker seed
      (results ++ [(s.oracle.check kit.backend.toClient (Worker.modeOf config.oracle.modes k)
        s.world).1])
      (.after worker seed (.asking (k + 1)) ((Worker.checking config kit.backend k).runOn s)) := by
  -- What the check counts is the result that is appended, whichever it is.
  have hstats := s.oracle.check_stats kit.backend.toClient (Worker.modeOf config.oracle.modes k)
    s.world
  rw [h.2, ← Stats.ofResults_append] at hstats
  rw [Worker.checking, Work.runOn_runCheck]
  rcases hcheck : s.oracle.check kit.backend.toClient (Worker.modeOf config.oracle.modes k) s.world
    with ⟨(f | i) | outcome, o, w⟩
  · exact .panicked
  · rw [hcheck] at hstats
    have hfatal : i.isFatal = true := Oracle.isFatal_of_check (congrArg Prod.fst hcheck)
    exact ⟨.ofInterruption h.1 hfatal, hstats⟩
  · rw [hcheck] at hstats
    exact ⟨h.1.concat outcome, hstats⟩

/-- **Every step keeps the tally.** -/
theorem tallied_next {stage : Stage σ} (stop expired : Bool)
    (h : Tallied worker kit.stream.seed results stage) :
    Tallied worker kit.stream.seed (results ++ (stage.checked? config kit).toList)
      (stage.next config worker kit stop expired) := by
  cases hchecked : stage.checked? config kit with
  | some r =>
    cases stage with
    | checking k s =>
      obtain rfl := Option.some.inj hchecked
      exact tallied_checking k h
    | _ => cases hchecked
  | none =>
    -- The step is no check, so it has to keep the counters.
    rw [Option.toList_none, List.append_nil]
    cases stage with
    | waiting =>
      obtain rfl : results = [] := h
      have hplain (f : Failure) (hf : f.IsPlain) : EndsWith [] (some f) :=
        .between .nil fun g hg => Option.some.inj hg ▸ hf
      rw [Stage.next]
      split
      · exact ⟨hplain _ ⟨rfl, nofun⟩, rfl⟩
      · cases kit.engine with
        | error e => exact ⟨hplain _ ⟨rfl, nofun⟩, rfl⟩
        | ok engine => exact ⟨.nil, rfl⟩
    | asking k s =>
      rw [Stage.next]
      split
      · exact tallied_done h
      · exact h
    | timing k s =>
      rw [Stage.next]
      split
      · exact tallied_done h
      · split <;> exact h
    | emptying k s =>
      exact tallied_after (Worker.keepsOracle_emptying _) (Worker.fails_emptying _) (fun _ => id) h
    | filling k s =>
      exact tallied_after (Worker.keepsOracle_filling _ _ _) (Worker.fails_filling _ _ _)
        (fun _ => id) h
    | checking k s => cases hchecked
    | failing f s => exact tallied_failed h.1 h.2
    | ended report s => exact h

end Step

/-! ## Runs -/

namespace Cluster

variable (config : Configuration) (kits : Nat → Kit σ)

/-- What the check of a worker comes to, if the event is one. -/
def checked? (i : Nat) (c : Cluster σ) : Event → Option Result
  | .expire => none
  | .step j => if i = j ∧ c.Active config j then (c.stage i).checked? config (kits i) else none

/-- What the checks of a worker come to while events go on. -/
def checksFrom (i : Nat) (c : Cluster σ) : List Event → List Result
  | [] => []
  | e :: events =>
    (c.checked? config kits i e).toList ++ checksFrom i (c.step config kits e) events

/-- What the checks of a worker came to in a run. -/
def checks (started : Nat) (events : List Event) (i : Nat) : List Result :=
  checksFrom config kits i (start config started) events

variable {config kits}

theorem tallied_step {i : Nat} {c : Cluster σ} {results : List Result} (e : Event)
    (h : Tallied i (kits i).stream.seed results (c.stage i)) :
    Tallied i (kits i).stream.seed (results ++ (c.checked? config kits i e).toList)
      ((c.step config kits e).stage i) := by
  cases e with
  | expire =>
    show Tallied _ _ (results ++ []) (c.stage i)
    rw [List.append_nil]
    exact h
  | step j =>
    rw [stage_step, checked?]
    split
    · exact tallied_next c.stop c.expired h
    · rw [Option.toList_none, List.append_nil]
      exact h

/-- **At any time the counters of a worker are those of its checks**, in whatever order the workers
take their steps. -/
theorem tallied_run (config : Configuration) (kits : Nat → Kit σ) (started : Nat)
    (events : List Event) (i : Nat) :
    Tallied i (kits i).stream.seed (checks config kits started events i)
      ((run config kits started events).stage i) := by
  -- From any cluster on, with whatever results lie behind the worker there.
  have hfrom (c : Cluster σ) (results : List Result)
      (hc : Tallied i (kits i).stream.seed results (c.stage i)) :
      Tallied i (kits i).stream.seed (results ++ checksFrom config kits i c events)
        ((events.foldl (step config kits) c).stage i) := by
    induction events generalizing c results with
    | nil =>
      rw [checksFrom, List.append_nil]
      exact hc
    | cons e events ih =>
      have hstep : Tallied i (kits i).stream.seed
          (results ++ (c.checked? config kits i e).toList) ((c.step config kits e).stage i) :=
        tallied_step e hc
      have hrest := ih _ _ hstep
      rw [List.append_assoc] at hrest
      exact hrest
  exact hfrom (start config started) [] rfl

end Cluster
end Run
end PredicateOracle
