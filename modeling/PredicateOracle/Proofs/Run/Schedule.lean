import PredicateOracle.Proofs.Run.Solo

/-!
# PredicateOracle.Proofs.Run.Schedule -- workers one after the other are workers side by side

`Run.run` takes the workers in turn and lets each of them finish. This is one of the ways in which the
steps of the workers can follow each other: from the cluster in which nobody has started, some events
lead to one in which every worker has ended with the report that it has there (`workers_scheduled`). So
whatever holds of all clusters holds of the runs that are carried out.
-/

namespace PredicateOracle.Run

open PredicateOracle.Random (Stream)
open Worker (State Report Work turns turn)

variable {σ : Type} {config : Configuration} {kits : Nat → Kit σ}

namespace Cluster

/-- The cluster in which one worker is at another stage. -/
def put (c : Cluster σ) (i : Nat) (stage : Stage σ) : Cluster σ :=
  { c with stage := Function.update c.stage i stage }

/-- The cluster in which one worker is done, and has raised the flag if its failure does. -/
def finished (c : Cluster σ) (i : Nat) (report : Report) (s : Option (State σ)) : Cluster σ :=
  { c.put i (.ended report s) with stop := c.stop || raisesFlag report.failure }

/-- The cluster after steps of one worker: it goes on, or it is done because the steps ended early. -/
def settle (c : Cluster σ) (i : Nat) (seed : UInt64) (next : State σ → Stage σ) :
    Except (Halt Failure) Unit × State σ → Cluster σ
  | (.ok (), s) => c.put i (next s)
  | (.error halt, s) =>
    c.finished i (Worker.reportOf i seed (.error halt) s.oracle.stats) (some s)

/-- **`Leads config kits c c'`** -- some events lead from the cluster `c` to the cluster `c'`. -/
def Leads (config : Configuration) (kits : Nat → Kit σ) (c c' : Cluster σ) : Prop :=
  ∃ events : List Event, events.foldl (step config kits) c = c'

namespace Leads

variable {c c' c'' : Cluster σ}

theorem refl (c : Cluster σ) : Leads config kits c c := ⟨[], rfl⟩

theorem trans (h : Leads config kits c c') (h' : Leads config kits c' c'') :
    Leads config kits c c'' := by
  obtain ⟨events, rfl⟩ := h
  obtain ⟨events', rfl⟩ := h'
  exact ⟨events ++ events', List.foldl_append⟩

variable {i : Nat} (hi : c.Active config i)
include hi

/-- One step of a worker. -/
theorem step (stage : Stage σ) :
    Leads config kits (c.put i stage)
      { c.put i (stage.next config i (kits i) c.stop c.expired) with
        stop := c.stop || stage.raises } :=
by
  have hput : (c.put i stage).Active config i := hi
  refine ⟨[.step i], ?_⟩
  rw [List.foldl_cons, List.foldl_nil, Cluster.step, if_pos hput]
  simp [put]

/-- A step that does not raise the flag. -/
theorem quiet {stage : Stage σ} (hquiet : stage.raises = false) :
    Leads config kits (c.put i stage)
      (c.put i (stage.next config i (kits i) c.stop c.expired)) := by
  have h : Leads config kits (c.put i stage) _ := step hi stage
  rw [hquiet, Bool.or_false] at h
  exact h

/-- A failure raises the flag, and then the worker is done. -/
theorem failing {f : Failure} (hf : ∀ w, f ≠ .fault w) (s : Option (State σ)) :
    Leads config kits (c.put i (.failing f s)) (c.finished i
      (Worker.reportOf i (kits i).stream.seed (.error (.raised f))
        ((s.map (·.oracle.stats)).getD .zero)) s) := by
  have hflag : raisesFlag (some f) = true := by
    cases f with
    | fault w => exact absurd rfl (hf w)
    | _ => rfl
  have h : Leads config kits (c.put i (.failing f s)) _ := step hi _
  rw [Stage.raises, Bool.or_true] at h
  simpa [finished, Worker.reportOf, Worker.failureOf, hflag, Stage.next, Stage.finish] using h

/-- What follows a part of a turn: the next stage, or the end of the worker. -/
theorem after {t : Work σ Unit} (ht : Worker.Fails (fun f => ∀ w, f ≠ .fault w) t)
    {next : State σ → Stage σ} (s : State σ) :
    Leads config kits (c.put i (.after i (kits i).stream.seed next (t.runOn s)))
      (c.settle i (kits i).stream.seed next (t.runOn s)) := by
  rcases hrun : t.runOn s with ⟨(f | f) | _, s'⟩
  · refine ⟨[], ?_⟩
    simp [Stage.after, settle, finished, Stage.finish, Worker.reportOf, Worker.failureOf,
      raisesFlag, put]
  · exact failing hi (ht s f (by rw [hrun])) (some s')
  · exact refl _

/-- A part of a turn that has another part after it. -/
theorem part {stage : Stage σ} {t u : Work σ Unit} {next last : State σ → Stage σ} {s : State σ}
    (hquiet : stage.raises = false)
    (hnext : stage.next config i (kits i) c.stop c.expired =
      .after i (kits i).stream.seed next (t.runOn s))
    (ht : Worker.Fails (fun f => ∀ w, f ≠ .fault w) t)
    (hu : ∀ s', Leads config kits (c.put i (next s'))
      (c.settle i (kits i).stream.seed last (u.runOn s'))) :
    Leads config kits (c.put i stage)
      (c.settle i (kits i).stream.seed last ((t >>= fun _ => u).runOn s)) := by
  have hstep : Leads config kits (c.put i stage) _ := quiet hi hquiet
  rw [hnext] at hstep
  refine hstep.trans ((after hi ht s).trans ?_)
  rw [Work.runOn_bind]
  rcases t.runOn s with ⟨halt | _, s'⟩
  · exact refl _
  · exact hu s'

/-- The last part of a turn. -/
theorem last {stage : Stage σ} {t : Work σ Unit} {next : State σ → Stage σ} {s : State σ}
    (hquiet : stage.raises = false)
    (hnext : stage.next config i (kits i) c.stop c.expired =
      .after i (kits i).stream.seed next (t.runOn s))
    (ht : Worker.Fails (fun f => ∀ w, f ≠ .fault w) t) :
    Leads config kits (c.put i stage) (c.settle i (kits i).stream.seed next (t.runOn s)) := by
  have hstep : Leads config kits (c.put i stage) _ := quiet hi hquiet
  rw [hnext] at hstep
  exact hstep.trans (after hi ht s)

/-- **A turn is some steps of a worker**, as long as there is time. -/
theorem turn (hexpired : c.expired = false) (k : Nat) (s : State σ) :
    Leads config kits (c.put i (.timing k s))
      (c.settle i (kits i).stream.seed (.asking (k + 1))
        ((turn config (kits i).backend i k).runOn s)) := by
  have hcheck : Worker.Fails (fun f => ∀ w, f ≠ .fault w)
      (Worker.checking config (kits i).backend k) :=
    .runCheck fun interruption => by cases interruption <;> exact nofun
  have hstart : Leads config kits (c.put i (.timing k s)) _ := quiet hi rfl
  rw [Stage.next, hexpired] at hstart
  refine hstart.trans ?_
  rw [Worker.turn_eq]
  cases Worker.isFresh config.run.checksPerDatabase k with
  | false => exact last hi rfl rfl hcheck
  | true =>
    refine part hi rfl rfl (.onWorld fun _ => nofun) fun s₁ => ?_
    refine part hi rfl rfl (.bind (.onWorld fun _ => nofun) fun _ => .pure ()) fun s₂ => ?_
    exact last hi rfl rfl hcheck

/-- **Turns are some steps of a worker**, which stops if it is told to. -/
theorem turns (n : Nat) {k : Nat} (hk : k + n = config.run.checksPerWorker) (s : State σ) :
    Leads config kits (c.put i (.asking k s))
      (match (turns config (kits i).backend i (fun _ => c.stop || c.expired) n k).runOn s with
        | (r, s') => c.finished i
            (Worker.reportOf i (kits i).stream.seed r s'.oracle.stats) (some s')) := by
  have hok (s : State σ) : c.put i (.finish i (kits i).stream.seed (.ok ()) (some s)) =
      c.finished i (Worker.reportOf i (kits i).stream.seed (.ok ()) s.oracle.stats) (some s) := by
    simp [finished, Stage.finish, Worker.reportOf, Worker.failureOf, raisesFlag, put]
  induction n generalizing k s with
  | zero =>
    have hstep : Leads config kits (c.put i (.asking k s)) _ := quiet hi rfl
    have hlast : config.run.checksPerWorker ≤ k := by omega
    rw [Stage.next, if_pos (by simp [hlast]), hok] at hstep
    exact hstep
  | succ n ih =>
    have hstep : Leads config kits (c.put i (.asking k s)) _ := quiet hi rfl
    rw [Stage.next] at hstep
    cases hstop : c.stop with
    | true =>
      rw [hstop, if_pos (Bool.or_true _), hok] at hstep
      rw [Worker.turns_stopped _ _ _ _ rfl]
      exact hstep
    | false =>
      rw [hstop, if_neg (by simp; omega)] at hstep
      refine hstep.trans ?_
      cases hexpired : c.expired with
      | true =>
        have htime : Leads config kits (c.put i (.timing k s)) _ := quiet hi rfl
        rw [Stage.next, hexpired, if_pos rfl, hok] at htime
        rw [Worker.turns_stopped _ _ _ _ rfl]
        exact htime
      | false =>
        refine (turn hi hexpired k s).trans ?_
        rw [Worker.turns, if_neg (by decide), Work.runOn_bind]
        rcases (Worker.turn config (kits i).backend i k).runOn s with ⟨halt | _, s'⟩
        · exact refl _
        · have hrest := ih (k := k + 1) (by omega) s'
          rw [hstop, hexpired] at hrest
          exact hrest

/-- **A worker that is alone in taking steps does what it does by itself.** -/
theorem solo (hwaiting : c.stage i = .waiting) :
    Leads config kits c
      (match Worker.solo config i (kits i) (fun _ => c.stop || c.expired) with
        | (report, s) => c.finished i report s) := by
  have hstart : Leads config kits c (c.put i .waiting) := by
    refine ⟨[], ?_⟩
    rw [put, ← hwaiting, Function.update_eq_self]
    rfl
  have hstep : Leads config kits (c.put i .waiting) _ := quiet hi rfl
  refine hstart.trans (hstep.trans ?_)
  unfold Worker.solo
  rw [Stage.next]
  split
  · exact failing (f := .noModes) hi nofun none
  · cases (kits i).engine with
    | error e => exact failing (f := .engine e) hi nofun none
    | ok engine => exact turns hi _ (Nat.zero_add _) _

end Leads
end Cluster

/-! ## The run -/

/-- What the workers of a run have of their own. -/
def kitsOf (config : Configuration) (f : Fleet σ) (master : Stream) (i : Nat) : Kit σ :=
  ⟨f.backend, f.connect (databasePath config i), master.fork (UInt64.ofNat i)⟩

/-- **`Agrees stage r`** -- the worker is done, and leaves its report and its engine as `r` says. -/
def Agrees (stage : Stage σ) (r : Remains σ) : Prop :=
  ∃ s, stage = .ended r.report s ∧ s.map (·.world.engine) = r.engine

/-- So many workers in turn, of which none has started. -/
theorem workersFrom_scheduled (f : Fleet σ) (master : Stream) (n : Nat) {i : Nat}
    (hn : i + n ≤ config.run.workers) {c : Cluster σ} (hfault : c.fault = none)
    (hwaiting : ∀ j, i ≤ j → c.stage j = .waiting) (hexpired : c.expired = expired config) :
    ∃ c', Cluster.Leads config (kitsOf config f master) c c' ∧ c'.expired = c.expired ∧
      (∀ j < i, c'.stage j = c.stage j) ∧
      List.Forall₂ (fun j r => Agrees (c'.stage j) r) (List.range' i n)
        (workersFrom config f master n i c.stop) := by
  induction n generalizing i c with
  | zero => exact ⟨c, .refl c, rfl, fun _ _ => rfl, .nil⟩
  | succ n ih =>
    have hi : c.Active config i := ⟨hfault, by omega⟩
    have hsolo : Cluster.Leads config (kitsOf config f master) c _ :=
      .solo hi (hwaiting i (Nat.le_refl i))
    have hrun : Worker.run config f.backend i (master.fork (UInt64.ofNat i))
        (fun _ => c.stop || c.expired) (f.connect (databasePath config i)) = _ :=
      Worker.run_eq_solo config i (kitsOf config f master i) _
    rcases hresult : Worker.solo config i (kitsOf config f master i) fun _ => c.stop || c.expired
      with ⟨report, s⟩
    rw [hresult] at hsolo hrun
    have hothers (j : Nat) (hj : j ≠ i) : (c.finished i report s).stage j = c.stage j :=
      Function.update_of_ne hj _ _
    obtain ⟨c', hleads, hclock, hbefore, hrest⟩ := ih (i := i + 1) (c := c.finished i report s)
      (by omega) hfault (fun j hj => (hothers j (by omega)).trans (hwaiting j (by omega))) hexpired
    refine ⟨c', hsolo.trans hleads, hclock, fun j hj => ?_, ?_⟩
    · rw [hbefore j (by omega), hothers j (by omega)]
    · have hended : c'.stage i = .ended report s :=
        (hbefore i (Nat.lt_succ_self i)).trans (Function.update_self _ _ _)
      have hlist : workersFrom config f master (n + 1) i c.stop =
          ⟨report, databasePath config i, s.map (·.world.engine)⟩ ::
            workersFrom config f master n (i + 1) (c.stop || raisesFlag report.failure) := by
        rw [hexpired] at hrun
        rw [workersFrom, hrun]
      rw [hlist]
      exact .cons ⟨s, hended, rfl⟩ hrest

/-- **The workers in turn are one of the ways in which they take steps side by side**, if the run gets to
them. Some events lead from the start to a cluster in which every worker is done, with the report and
the engine that it leaves in turn, and the time is over if it was over from the start. -/
theorem workers_scheduled (f : Fleet σ) (seed : UInt64) {started : Nat}
    (hopening : opening config started = .ok ()) :
    ∃ events,
      (Cluster.run config (kitsOf config f (.ofSeed seed)) started events).expired = expired config ∧
      List.Forall₂
        (fun j r =>
          Agrees ((Cluster.run config (kitsOf config f (.ofSeed seed)) started events).stage j) r)
        (List.range config.run.workers)
        (workersFrom config f (.ofSeed seed) config.run.workers 0 false) := by
  have hfault : (Cluster.start config started : Cluster σ).fault = none := by
    rw [Cluster.start, hopening]
  obtain ⟨c', ⟨events, hevents⟩, hclock, -, hagrees⟩ :=
    workersFrom_scheduled f (.ofSeed seed) config.run.workers (Nat.le_of_eq (Nat.zero_add _)) hfault
      (fun _ _ => rfl) rfl
  refine ⟨events, ?_⟩
  rw [Cluster.run, hevents, List.range_eq_range']
  exact ⟨hclock, hagrees⟩

end PredicateOracle.Run
