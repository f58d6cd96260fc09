import Mathlib.Algebra.BigOperators.Group.List.Basic
import Mathlib.Algebra.Order.Ring.Nat
import PredicateOracle.Proofs.Run.Solo
import PredicateOracle.Proofs.Run.Verdicts

/-!
# PredicateOracle.Proofs.Run.Counters -- the faults of a run

A run has three faults that are not those of a worker: its deadline lies beyond the clock, there is no
room for its workers, or its counters are no machine words (`Fault.OfRun`). The first two are met before
any worker starts (`opening_eq_ok_iff`), and the third only when the counters of all workers are added up
(`totalStats_eq`). A worker counts no more checks than it has to run (`Worker.bounded_solo`), so the
counters are words whenever the number of all checks is one.
-/

namespace PredicateOracle

open PredicateOracle.Random (Stream)
open Check (Result)
open Worker (State Report Work)
open Run (Kit Cluster Event)

variable {σ : Type}

/-! ## Counters -/

namespace Stats

variable {a b s : Stats} {m n : Nat}

/-- **`s.Bounded n`** -- no more than `n` checks are counted, and no outcome more often than there are
checks. -/
structure Bounded (n : Nat) (s : Stats) : Prop where
  checks : s.checks ≤ n
  passed : s.passed ≤ s.checks
  inconclusive : s.inconclusive ≤ s.checks
  bugs : s.bugs ≤ s.checks

namespace Bounded

theorem zero (n : Nat) : Stats.zero.Bounded n :=
  ⟨Nat.zero_le n, Nat.le_refl 0, Nat.le_refl 0, Nat.le_refl 0⟩

theorem ofResults (results : List Result) : (Stats.ofResults results).Bounded results.length :=
  ⟨Nat.le_refl _, List.countP_le_length, List.countP_le_length, List.countP_le_length⟩

theorem merge (ha : a.Bounded m) (hb : b.Bounded n) : (a.merge b).Bounded (m + n) :=
  ⟨Nat.add_le_add ha.checks hb.checks, Nat.add_le_add ha.passed hb.passed,
    Nat.add_le_add ha.inconclusive hb.inconclusive, Nat.add_le_add ha.bugs hb.bugs⟩

end Bounded

theorem fits_iff : s.fits = true ↔ s.checks < 2 ^ (64 : Nat) ∧ s.passed < 2 ^ (64 : Nat) ∧
    s.inconclusive < 2 ^ (64 : Nat) ∧ s.bugs < 2 ^ (64 : Nat) := by
  simp [fits]

/-- If no more checks are counted than a machine word can say, all counters are words. -/
theorem Bounded.fits (h : s.Bounded n) (hn : n < 2 ^ (64 : Nat)) : s.fits = true := by
  obtain ⟨hchecks, hpassed, hinconclusive, hbugs⟩ := h
  exact fits_iff.mpr ⟨by omega, by omega, by omega, by omega⟩

/-- What fits together with more fits by itself. -/
theorem fits_of_merge (h : (a.merge b).fits = true) : a.fits = true := by
  obtain ⟨hchecks, hpassed, hinconclusive, hbugs⟩ := fits_iff.mp h
  simp only [merge] at hchecks hpassed hinconclusive hbugs
  exact fits_iff.mpr ⟨by omega, by omega, by omega, by omega⟩

theorem zero_fits : zero.fits = true := by decide

end Stats

/-! ## What a worker counts -/

namespace Worker

variable {α β : Type} {m n : Nat}

/-- A new database is nothing to the checker. -/
theorem keepsOracle_prepare (config : Configuration) (b : Backend σ) (worker : Nat) :
    KeepsOracle (prepare config b worker) :=
  .bind (keepsOracle_onWorld _ _) fun _ => .bind (keepsOracle_onWorld _ _) fun _ _ => rfl

/-- **`CountsUpTo n t`** -- the steps `t` count no more than `n` checks. -/
def CountsUpTo (n : Nat) (t : Work σ α) : Prop :=
  ∀ s m, s.oracle.stats.Bounded m → (t.runOn s).2.oracle.stats.Bounded (m + n)

namespace CountsUpTo

theorem of_keepsOracle {t : Work σ α} (h : KeepsOracle t) : CountsUpTo 0 t := by
  intro s m hs
  rw [h s]
  exact hs

theorem pure (n : Nat) (a : α) : CountsUpTo n (pure a : Work σ α) := fun _ _ hs =>
  { hs with checks := Nat.le_add_right_of_le hs.checks }

theorem bind {t : Work σ α} {k : α → Work σ β} (ht : CountsUpTo m t) (hk : ∀ a, CountsUpTo n (k a)) :
    CountsUpTo (m + n) (t >>= k) := by
  intro s j hs
  have hfirst := ht s j hs
  rw [Work.runOn_bind]
  rcases hrun : t.runOn s with ⟨halt | a, s'⟩
  · rw [hrun] at hfirst
    exact { hfirst with checks := Nat.le_trans hfirst.checks (by omega) }
  · rw [hrun] at hfirst
    rw [← Nat.add_assoc]
    exact hk a s' _ hfirst

theorem runCheck (b : Backend σ) (mode : Mode) : CountsUpTo 1 (runCheck b mode) := by
  intro s m hs
  have hstats := s.oracle.check_stats b.toClient mode s.world
  rw [Work.runOn_runCheck]
  rcases hrun : s.oracle.check b.toClient mode s.world with ⟨(f | i) | outcome, o, w⟩ <;>
  · rw [hrun] at hstats
    dsimp only at hstats ⊢
    rw [hstats]
    exact hs.merge (.ofResults [_])

/-- A turn counts its check. -/
theorem turn (config : Configuration) (b : Backend σ) (worker k : Nat) :
    CountsUpTo 1 (turn config b worker k) := by
  unfold Worker.turn
  split
  · have hprepare := (of_keepsOracle (keepsOracle_prepare config b worker)).bind fun _ =>
      runCheck b (modeOf config.oracle.modes k)
    rwa [Nat.zero_add] at hprepare
  · exact runCheck b _

theorem turns (config : Configuration) (b : Backend σ) (worker : Nat) (stops : Nat → Bool)
    (n k : Nat) : CountsUpTo n (turns config b worker stops n k) := by
  induction n generalizing k with
  | zero => exact .pure 0 ()
  | succ n ih =>
    rw [Worker.turns]
    split
    · exact .pure _ ()
    · rw [Nat.add_comm n 1]
      exact (turn config b worker k).bind fun _ => ih (k + 1)

end CountsUpTo

/-- **A worker counts no more checks than it has to run.** -/
theorem bounded_solo (config : Configuration) (worker : Nat) (kit : Kit σ) (stops : Nat → Bool) :
    (solo config worker kit stops).1.stats.Bounded config.run.checksPerWorker := by
  unfold solo
  split
  · exact .zero _
  · cases kit.engine with
    | error e => exact .zero _
    | ok engine =>
      have hturns := CountsUpTo.turns config kit.backend worker stops config.run.checksPerWorker 0
        (.start config kit.stream engine) 0 (.zero 0)
      rw [Nat.zero_add] at hturns
      change (reportOf worker kit.stream.seed ((turns config kit.backend worker stops
        config.run.checksPerWorker 0).runOn (.start config kit.stream engine)).1 _).stats.Bounded _
      rcases ((turns config kit.backend worker stops config.run.checksPerWorker 0).runOn
        (.start config kit.stream engine)).1 with (f | f) | _
      · exact .zero _
      · exact hturns
      · exact hturns

end Worker

/-- **A worker of a run counts no more checks than it has to run**, in whatever order the workers take
their steps. -/
theorem Run.Cluster.bounded_of_ended {config : Configuration} {kits : Nat → Kit σ} {started : Nat}
    {events : List Event} {i : Nat} {report : Report} {s : Option (State σ)}
    (h : (Cluster.run config kits started events).stage i = .ended report s) :
    report.stats.Bounded config.run.checksPerWorker := by
  have hfollows := Cluster.follows config kits started events i
  rw [h] at hfollows
  obtain ⟨⟨k, -, hsolo⟩, -⟩ := hfollows
  have hbounded := Worker.bounded_solo config i (kits i) (k ≤ ·)
  rw [hsolo] at hbounded
  exact hbounded

/-! ## The opening -/

/-- **`config.InTime started`** -- the deadline of a run that starts when the clock shows `started` is
shown by the clock as well, if there is one. -/
def Configuration.InTime (config : Configuration) (started : Nat) : Prop :=
  ∀ seconds ∈ config.run.timeoutSeconds, started + seconds < Run.clockEnd

/-- **`f.OfRun config started`** -- the fault `f` can end a run: its deadline is not in time, there is no
room for the reports of its workers, or they have more checks to run than a machine word can count. -/
def Fault.OfRun (config : Configuration) (started : Nat) (f : Fault) : Prop :=
  (f = .clockOverflow ∧ ¬ config.InTime started) ∨ f.OfRoom .report config.run.workers ∨
    (f = .wordOverflow ∧ 2 ^ (64 : Nat) ≤ config.run.workers * config.run.checksPerWorker)

/-- Where there is room for reports there is room for handles. -/
theorem Record.hasRoom_handle {n : Nat} (h : Record.report.HasRoom n) : Record.handle.HasRoom n :=
  Nat.lt_of_le_of_lt (Nat.mul_le_mul_left n (by decide)) h

namespace Run

variable {config : Configuration} {started : Nat}

/-- Without a timeout a run is always in time. -/
theorem inTime_of_timeout_eq_none (h : config.run.timeoutSeconds = none) :
    config.InTime started := by
  rw [Configuration.InTime, h]
  exact nofun

/-- A deadline is found exactly in time. -/
theorem deadline_eq (config : Configuration) (started : Nat) :
    (config.InTime started ∧
      deadline config started = .ok (config.run.timeoutSeconds.map (started + ·))) ∨
    (¬ config.InTime started ∧ deadline config started = .error .clockOverflow) := by
  unfold deadline Configuration.InTime
  cases config.run.timeoutSeconds with
  | none => exact .inl ⟨nofun, rfl⟩
  | some seconds =>
    dsimp only
    by_cases h : started + seconds < clockEnd
    · rw [if_pos h]
      refine .inl ⟨?_, rfl⟩
      rintro _ ⟨⟩
      exact h
    · rw [if_neg h]
      exact .inr ⟨fun hintime => h (hintime seconds rfl), rfl⟩

/-- **A run gets to its workers exactly if its deadline can be shown and there is room for what is kept
of them.** -/
theorem opening_eq_ok_iff : opening config started = .ok () ↔
    config.InTime started ∧ Record.handle.HasRoom config.run.workers := by
  unfold opening
  rcases deadline_eq config started with ⟨hintime, hdeadline⟩ | ⟨hlate, hdeadline⟩
  · rw [hdeadline]
    change Record.handle.reserve _ = _ ↔ _
    by_cases hroom : Record.handle.HasRoom config.run.workers
    · simp [Record.reserve_of_hasRoom, hintime, hroom]
    · simp [Record.reserve_of_not_hasRoom hroom, hroom]
  · rw [hdeadline]
    exact iff_of_false nofun fun h => hlate h.1

/-- The faults of an opening are faults of the run. -/
theorem ofRun_of_opening {f : Fault} (h : opening config started = .error f) :
    f.OfRun config started := by
  unfold opening at h
  rcases deadline_eq config started with ⟨hintime, hdeadline⟩ | ⟨hlate, hdeadline⟩
  · rw [hdeadline] at h
    change Record.handle.reserve _ = _ at h
    by_cases hroom : Record.handle.HasRoom config.run.workers
    · rw [Record.reserve_of_hasRoom hroom] at h
      cases h
    · rw [Record.reserve_of_not_hasRoom hroom] at h
      obtain rfl := Except.error.inj h
      exact .inr (.inl ⟨rfl, mt Record.hasRoom_handle hroom⟩)
  · rw [hdeadline] at h
    obtain rfl := Except.error.inj h
    exact .inl ⟨rfl, hlate⟩

/-- A deadline that is not in time is the first thing to be met. -/
theorem opening_of_not_inTime (h : ¬ config.InTime started) :
    opening config started = .error .clockOverflow := by
  unfold opening
  rcases deadline_eq config started with ⟨hintime, -⟩ | ⟨-, hdeadline⟩
  · exact absurd hintime h
  · rw [hdeadline]
    rfl

/-! ## Totals -/

/-- The counters of all workers together. -/
def sums (reports : List Report) : Stats :=
  ⟨(reports.map (·.stats.checks)).sum, (reports.map (·.stats.passed)).sum,
    (reports.map (·.stats.inconclusive)).sum, (reports.map (·.stats.bugs)).sum⟩

theorem sums_cons (r : Report) (reports : List Report) :
    sums (r :: reports) = r.stats.merge (sums reports) := by
  simp [sums, Stats.merge]

/-- Counters are added up one after the other, and that fails exactly if their sums are no words. -/
theorem totalStats_eq (reports : List Report) : totalStats reports =
    if (sums reports).fits then .ok (sums reports) else .error .wordOverflow := by
  -- Words so far stay words as long as what is added fits, and sums that do not fit do so to the end.
  have hfrom (s : Stats) (hs : s.fits = true) :
      reports.foldlM (fun s r => s.mergeWords r.stats) s =
        if (s.merge (sums reports)).fits then .ok (s.merge (sums reports))
        else .error .wordOverflow := by
    induction reports generalizing s with
    | nil =>
      have hnone : s.merge (sums []) = s := rfl
      rw [hnone, if_pos hs]
      rfl
    | cons r reports ih =>
      rw [List.foldlM_cons, sums_cons, ← Stats.merge_assoc, Stats.mergeWords]
      by_cases hr : (s.merge r.stats).fits = true
      · rw [if_pos hr]
        exact ih _ hr
      · rw [if_neg hr, if_neg (mt Stats.fits_of_merge hr)]
        rfl
  rw [totalStats, hfrom _ Stats.zero_fits, Stats.zero_merge]

theorem bounded_sums {n : Nat} {reports : List Report} (h : ∀ r ∈ reports, r.stats.Bounded n) :
    (sums reports).Bounded (reports.length * n) := by
  induction reports with
  | nil => exact .zero _
  | cons r reports ih =>
    rw [sums_cons, List.length_cons, Nat.succ_mul, Nat.add_comm]
    exact (h r List.mem_cons_self).merge (ih fun r' hr' => h r' (List.mem_cons_of_mem _ hr'))

/-- **There is a summary exactly if there is room for the reports and the sums of their counters are
words.** -/
theorem summarize_eq_ok_iff {seed : UInt64} {timedOut : Bool} {reports : List Report} {s : Summary} :
    summarize seed timedOut reports = .ok s ↔
      Record.report.HasRoom reports.length ∧ (sums reports).fits = true ∧
        s = ⟨seed, sums reports, timedOut, reports⟩ := by
  unfold summarize
  by_cases hroom : Record.report.HasRoom reports.length
  · rw [Record.reserve_of_hasRoom hroom, totalStats_eq]
    by_cases hfits : (sums reports).fits = true
    · rw [if_pos hfits]
      change Except.ok _ = Except.ok s ↔ _
      simp [hroom, hfits, eq_comm]
    · rw [if_neg hfits]
      exact iff_of_false nofun fun h => hfits h.2.1
  · rw [Record.reserve_of_not_hasRoom hroom]
    exact iff_of_false nofun fun h => hroom h.1

/-- The faults of a summary are faults of the run, if the reports are those of its workers. -/
theorem ofRun_of_summarize {seed : UInt64} {timedOut : Bool} {reports : List Report} {f : Fault}
    (h : summarize seed timedOut reports = .error f) (hlength : reports.length = config.run.workers)
    (hbounded : ∀ r ∈ reports, r.stats.Bounded config.run.checksPerWorker) :
    f.OfRun config started := by
  unfold summarize at h
  by_cases hroom : Record.report.HasRoom reports.length
  · rw [Record.reserve_of_hasRoom hroom, totalStats_eq] at h
    by_cases hfits : (sums reports).fits = true
    · rw [if_pos hfits] at h
      cases h
    · rw [if_neg hfits] at h
      obtain rfl := Except.error.inj h
      refine .inr (.inr ⟨rfl, Nat.le_of_not_lt fun hlt => hfits ?_⟩)
      exact (bounded_sums hbounded).fits (hlength ▸ hlt)
  · rw [Record.reserve_of_not_hasRoom hroom] at h
    obtain rfl := Except.error.inj h
    exact .inr (.inl ⟨rfl, hlength ▸ hroom⟩)

/-! ## Whole runs -/

/-- A run in turn has a summary if it gets to its workers and their reports make one. -/
theorem run_eq_ok_iff {f : Fleet σ} {seed : UInt64} {s : Summary} {remains : List (Remains σ)} :
    run config f started seed = .ok (s, remains) ↔ opening config started = .ok () ∧
      remains = workersFrom config f (Stream.ofSeed seed) config.run.workers 0 false ∧
      summarize seed (expired config) (remains.map (·.report)) = .ok s := by
  unfold run
  cases opening config started with
  | error fault => exact iff_of_false nofun fun h => nomatch h.1
  | ok =>
    generalize workersFrom config f (Stream.ofSeed seed) config.run.workers 0 false = left
    change (summarize seed (expired config) (left.map (·.report)) >>= fun s => .ok (s, left)) = _ ↔ _
    cases hsummary : summarize seed (expired config) (left.map (·.report)) with
    | error fault =>
      refine iff_of_false nofun ?_
      rintro ⟨-, rfl, h⟩
      rw [hsummary] at h
      cases h
    | ok s' =>
      change Except.ok (s', left) = _ ↔ _
      constructor
      · rintro ⟨⟩
        exact ⟨rfl, rfl, hsummary⟩
      · rintro ⟨-, rfl, h⟩
        rw [hsummary] at h
        rw [Except.ok.inj h]

/-- The summary of a run has its seed. -/
theorem seed_of_run {f : Fleet σ} {seed : UInt64} {s : Summary} {remains : List (Remains σ)}
    (h : run config f started seed = .ok (s, remains)) : s.seed = seed := by
  obtain ⟨-, -, hsummary⟩ := run_eq_ok_iff.mp h
  obtain ⟨-, -, rfl⟩ := summarize_eq_ok_iff.mp hsummary
  rfl

end Run
end PredicateOracle
