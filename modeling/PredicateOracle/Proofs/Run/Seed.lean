import PredicateOracle.Proofs.Check.Failures
import PredicateOracle.Proofs.Run.Worker
import PredicateOracle.Proofs.Workload.Populate

/-!
# PredicateOracle.Proofs.Run.Seed -- the seed of a worker, from its stream to its bug report

A bug is reported with the seed of the stream that the check drew from. Nothing that a worker does
changes that seed: drawing moves the position of the stream only. So the seed in a report is the one
that the worker started from, whatever it had done before the bug.
-/

namespace PredicateOracle

open Check

variable {σ : Type}

/-! ## Checks -/

/-- A check that ends before its second query says nothing about the engine. -/
theorem EndsEarly.not_isVerdict {o : Oracle} {halt : Halt Interruption} {said : List Exchange}
    (h : EndsEarly o halt said) : ¬ IsVerdict (Outcome.ofTrial (.error halt)) := by
  obtain hplanning | ⟨plan, before, answer, -, hsurvey, -⟩ := h
  · cases hplanning <;> exact id
  · cases hsurvey with
    | unanswered hi => exact (Abandons.of_rowsOf hi).not_isVerdict
    | malformed _ _ => exact id
    | leafChance _ _ => exact id
    | noPredicates _ _ => exact id

namespace Oracle

variable (o : Oracle) (c : Client σ) (mode : Mode) (w : World σ)

theorem check_seed : (o.check c mode w).2.2.stream.seed = w.stream.seed := by
  obtain ⟨halt, said, w', -, h⟩ | ⟨plan, before, rows, φ, w₂, -, -, h⟩ := o.trial_traced c w
  · rw [check_of_traced (h mode)]
    exact (h mode).seed
  · have htraced := h mode _ _ rfl
    rw [check_of_traced htraced]
    exact htraced.seed

/-- **A bug is reported with the seed of the check's stream.** -/
theorem seed_of_logicBug {report : BugReport}
    (hbug : (o.check c mode w).1 = .error (.raised (.logicBug report))) :
    report.seed = w.stream.seed := by
  have hverdict : IsVerdict (o.check c mode w).1 := by
    rw [hbug]
    trivial
  obtain ⟨halt, said, w', hends, h⟩ | ⟨plan, before, rows, φ, w₂, -, -, h⟩ := o.trial_traced c w
  · rw [check_of_traced (h mode)] at hverdict
    exact absurd hverdict hends.not_isVerdict
  · rcases hanswer : Id.run
      ((c.query (plan.verification mode (plan.compoundOf φ)).sql).run w₂.engine) with ⟨answer, e⟩
    rw [check_of_traced (h mode answer e hanswer)] at hbug hverdict
    rcases hrows : o.allowlist.rowsOf _ answer with i | actual
    · rw [o.judgement_of_rowsOf_error _ hrows] at hverdict
      exact absurd hverdict (Abandons.of_rowsOf hrows).not_isVerdict
    · obtain rfl := Allowlist.rowsOf_eq_ok hrows
      by_cases hagrees : mode.Agrees plan.ordered (mode.answer (plan.kept rows φ)) actual
      · rw [o.judgement_of_agrees _ hagrees] at hbug
        cases hbug
      · obtain ⟨mismatch, hreport⟩ := o.judgement_of_not_agrees w.stream.seed hagrees
        rw [hreport] at hbug
        obtain rfl := Interruption.logicBug.inj (Halt.raised.inj (Except.error.inj hbug))
        rfl

end Oracle

/-! ## Workers -/

namespace Worker

variable {α β ε : Type}

/-- **`KeepsSeed t`** -- the steps `t` do not change the seed of the stream, and a bug that they
find is reported with it. -/
structure KeepsSeed (t : Work σ α) : Prop where
  stream : ∀ s, (t.runOn s).2.world.stream.seed = s.world.stream.seed
  bug : ∀ s report, (t.runOn s).1 = .error (.raised (.bug report)) →
    report.seed = s.world.stream.seed

namespace KeepsSeed

variable {t u : Work σ α} {k : α → Work σ β}

theorem pure (a : α) : KeepsSeed (pure a : Work σ α) := ⟨fun _ => rfl, fun _ _ h => nomatch h⟩

theorem bind (ht : KeepsSeed t) (hk : ∀ a, KeepsSeed (k a)) : KeepsSeed (t >>= k) := by
  constructor
  · intro s
    have hseed := ht.stream s
    rw [Work.runOn_bind]
    rcases hrun : t.runOn s with ⟨halt | a, s'⟩
    · rw [hrun] at hseed
      exact hseed
    · rw [hrun] at hseed
      exact ((hk a).stream s').trans hseed
  · intro s report h
    have hseed := ht.stream s
    rw [Work.runOn_bind] at h
    rcases hrun : t.runOn s with ⟨halt | a, s'⟩
    · rw [hrun] at h
      exact ht.bug s report (by rw [hrun]; exact congrArg _ (Except.error.inj h))
    · rw [hrun] at h hseed
      exact ((hk a).bug s' report h).trans hseed

theorem ite {c : Bool} (ht : KeepsSeed t) (hu : KeepsSeed u) : KeepsSeed (if c then t else u) := by
  cases c with
  | true => exact ht
  | false => exact hu

/-- Steps on an engine and a stream raise no bug. -/
theorem onWorld {t : Session ε σ α} {failed : ε → Failure}
    (ht : ∀ w, (t.runOn w).2.stream.seed = w.stream.seed)
    (hfailed : ∀ e report, failed e ≠ .bug report) : KeepsSeed (onWorld t failed) := by
  constructor
  · intro s
    have hseed := ht s.world
    rw [Work.runOn_onWorld]
    rcases hrun : t.runOn s.world with ⟨(f | e) | a, w⟩ <;> rw [hrun] at hseed <;> exact hseed
  · intro s report h
    rw [Work.runOn_onWorld] at h
    rcases hrun : t.runOn s.world with ⟨(f | e) | a, w⟩
    · rw [hrun] at h
      cases h
    · rw [hrun] at h
      exact absurd (Halt.raised.inj (Except.error.inj h)) (hfailed e report)
    · rw [hrun] at h
      cases h

theorem runCheck (b : Backend σ) (mode : Mode) : KeepsSeed (runCheck b mode) := by
  constructor
  · intro s
    have hseed := s.oracle.check_seed b.toClient mode s.world
    rw [Work.runOn_runCheck]
    rcases hrun : s.oracle.check b.toClient mode s.world with ⟨(f | i) | a, o, w⟩ <;>
      rw [hrun] at hseed <;> exact hseed
  · intro s report h
    have hseed := @Oracle.seed_of_logicBug σ s.oracle b.toClient mode s.world
    rw [Work.runOn_runCheck] at h
    rcases hrun : s.oracle.check b.toClient mode s.world with ⟨(f | i) | a, o, w⟩
    · rw [hrun] at h
      cases h
    · rw [hrun] at h hseed
      have hi := Halt.raised.inj (Except.error.inj h)
      cases i with
      | logicBug found =>
        obtain rfl := Failure.bug.inj hi
        exact hseed rfl
      | _ => cases hi
    · rw [hrun] at h
      cases h

end KeepsSeed

variable (config : Configuration) (b : Backend σ) (worker : Nat)

theorem keepsSeed_prepare : KeepsSeed (prepare config b worker) := by
  refine .bind (.onWorld (fun w => ?_) nofun) fun _ => .bind (.onWorld (fun w => ?_) nofun) fun _ =>
    .pure ()
  · rw [Session.ask, Session.runOn_bind, Session.runOn_request]
    rcases (Id.run (b.reset.run w.engine)).1 with e | ⟨⟩ <;> rfl
  · obtain ⟨r, log, w', htraced, -⟩ :=
      Populate.populate_logged b.toClient config.workload config.generator nofun w
    rw [htraced.run]
    exact htraced.seed

/-- **No turn changes the seed**, and a bug is reported with it. -/
theorem keepsSeed_turns (stops : Nat → Bool) (n k : Nat) :
    KeepsSeed (turns config b worker stops n k) := by
  induction n generalizing k with
  | zero => exact .pure ()
  | succ n ih =>
    have hcheck : KeepsSeed (runCheck b (modeOf config.oracle.modes k)) := .runCheck b _
    refine .ite (.pure ()) (.bind (.ite ?_ hcheck) fun _ => ih (k + 1))
    exact .bind (keepsSeed_prepare config b worker) fun _ => hcheck

end Worker
end PredicateOracle
