import PredicateOracle.Proofs.Check.Defects
import PredicateOracle.Proofs.Config.Basic
import PredicateOracle.Run.Worker

/-!
# PredicateOracle.Proofs.Run.Worker -- how a worker can fail

`Fails P t` says of the steps of a worker that every failure they raise has the property `P`, whatever the
state. The steps raise what their sessions and checks raise, so a property of a whole turn is put
together from the properties of its parts, and that of all turns follows by induction.
-/

namespace PredicateOracle

open PredicateOracle.Random (Stream)

variable {σ : Type}

namespace Worker

variable {α β ε : Type}

/-- The outcome of steps in a state, and the state that is left. -/
def Work.runOn (t : Work σ α) (s : State σ) : Except (Halt Failure) α × State σ :=
  Id.run (StateT.run (ExceptT.run t) s)

theorem Work.runOn_bind (t : Work σ α) (k : α → Work σ β) (s : State σ) :
    Work.runOn (t >>= k) s =
      match Work.runOn t s with
      | (.ok a, s) => Work.runOn (k a) s
      | (.error h, s) => (.error h, s) := by
  unfold Work.runOn
  rw [ExceptT.run_bind, StateT.run_bind]
  rcases hrun : (ExceptT.run t).run s with ⟨_ | a, s'⟩ <;> rfl

theorem Work.runOn_onWorld (t : Session ε σ α) (failed : ε → Failure) (s : State σ) :
    Work.runOn (onWorld t failed) s =
      match t.runOn s.world with
      | (.ok a, w) => (.ok a, { s with world := w })
      | (.error (.fault f), w) => (.error (.fault f), { s with world := w })
      | (.error (.raised e), w) => (.error (.raised (failed e)), { s with world := w }) := by
  unfold Work.runOn onWorld
  dsimp only [ExceptT.run, ExceptT.mk, StateT.run, Id.run]
  rcases t.runOn s.world with ⟨(f | e) | a, w⟩ <;> rfl

theorem Work.runOn_runCheck (b : Backend σ) (mode : Mode) (s : State σ) :
    Work.runOn (runCheck b mode) s =
      match s.oracle.check b.toClient mode s.world with
      | (.ok _, o, w) => (.ok (), ⟨o, w⟩)
      | (.error (.fault f), o, w) => (.error (.fault f), ⟨o, w⟩)
      | (.error (.raised i), o, w) => (.error (.raised (.ofInterruption i)), ⟨o, w⟩) := by
  unfold Work.runOn runCheck
  dsimp only [ExceptT.run, ExceptT.mk, StateT.run, Id.run]
  rcases s.oracle.check b.toClient mode s.world with ⟨(f | i) | a, o, w⟩ <;> rfl

/-- **`Fails P t`** -- in every state, a failure that the steps `t` raise has the property `P`. -/
def Fails (P : Failure → Prop) (t : Work σ α) : Prop :=
  ∀ s f, (Work.runOn t s).1 = .error (.raised f) → P f

namespace Fails

variable {P : Failure → Prop} {t u : Work σ α} {k : α → Work σ β}

theorem pure (a : α) : Fails P (pure a : Work σ α) := by
  intro s f h
  cases h

theorem bind (ht : Fails P t) (hk : ∀ a, Fails P (k a)) : Fails P (t >>= k) := by
  intro s f h
  rw [Work.runOn_bind] at h
  rcases hrun : Work.runOn t s with ⟨halt | a, s'⟩
  · rw [hrun] at h
    obtain rfl := Except.error.inj h
    exact ht s f (by rw [hrun])
  · rw [hrun] at h
    exact hk a s' f h

theorem ite {c : Bool} (ht : Fails P t) (hu : Fails P u) : Fails P (if c then t else u) := by
  cases c with
  | true => exact ht
  | false => exact hu

theorem onWorld {t : Session ε σ α} {failed : ε → Failure} (h : ∀ e, P (failed e)) :
    Fails P (onWorld t failed) := by
  intro s f hrun
  rw [Work.runOn_onWorld] at hrun
  rcases houtcome : t.runOn s.world with ⟨(f' | e) | a, w⟩
  · rw [houtcome] at hrun
    cases hrun
  · rw [houtcome] at hrun
    obtain rfl := Halt.raised.inj (Except.error.inj hrun)
    exact h e
  · rw [houtcome] at hrun
    cases hrun

theorem runCheck {b : Backend σ} {mode : Mode} (h : ∀ i, P (.ofInterruption i)) :
    Fails P (runCheck b mode) := by
  intro s f hrun
  rw [Work.runOn_runCheck] at hrun
  rcases houtcome : s.oracle.check b.toClient mode s.world with ⟨(f' | i) | a, o, w⟩
  · rw [houtcome] at hrun
    cases hrun
  · rw [houtcome] at hrun
    obtain rfl := Halt.raised.inj (Except.error.inj hrun)
    exact h i
  · rw [houtcome] at hrun
    cases hrun

end Fails

variable {P : Failure → Prop} {config : Configuration} {b : Backend σ} {worker : Nat}

section Turns

variable (hengine : ∀ e, P (.engine e)) (hpopulate : ∀ e, P (.populate worker e))
  (hcheck : ∀ i, P (.ofInterruption i))

include hengine hpopulate

theorem fails_prepare : Fails P (prepare config b worker) :=
  .bind (.onWorld hengine) fun _ => .bind (.onWorld hpopulate) fun _ => .pure ()

include hcheck

theorem fails_turn (k : Nat) : Fails P (turn config b worker k) := by
  unfold turn
  have hrun : Fails P (runCheck b (modeOf config.oracle.modes k)) := .runCheck hcheck
  exact .ite (.bind (fails_prepare hengine hpopulate) fun _ => hrun) hrun

theorem fails_turns (stops : Nat → Bool) (n k : Nat) :
    Fails P (turns config b worker stops n k) := by
  induction n generalizing k with
  | zero => exact .pure ()
  | succ n ih =>
    -- Told to stop, a worker does nothing more; else a turn comes before the turns that are left.
    refine .ite (.pure ()) ?_
    exact .bind (fails_turn hengine hpopulate hcheck k) fun _ => ih (k + 1)

end Turns

/-- **A worker that has modes to check in fails only like its parts**, or with a fault. -/
theorem failure_of_run (hmodes : config.oracle.modes ≠ []) (hengine : ∀ e, P (.engine e))
    (hpopulate : ∀ e, P (.populate worker e)) (hcheck : ∀ i, P (.ofInterruption i))
    (hfault : P (.fault worker)) (stream : Stream) (stops : Nat → Bool) (engine : Answer σ)
    {f : Failure} (h : (run config b worker stream stops engine).1.failure = some f) : P f := by
  unfold run at h
  rw [if_neg (by simpa using hmodes)] at h
  cases engine with
  | error e =>
    obtain rfl := Option.some.inj h
    exact hengine e
  | ok engine =>
    let work : Work σ Unit := turns config b worker stops config.run.checksPerWorker 0
    have hfails : Fails P work := fails_turns hengine hpopulate hcheck stops _ 0
    change (reportOf worker stream.seed (work.runOn (.start config stream engine)).1 _).failure =
      some f at h
    rcases hresult : (work.runOn (.start config stream engine)).1 with (_ | failure) | _
    · rw [hresult] at h
      obtain rfl := Option.some.inj h
      exact hfault
    · rw [hresult] at h
      obtain rfl := Option.some.inj h
      exact hfails _ _ hresult
    · rw [hresult] at h
      cases h

end Worker

/-! ## Validated configurations -/

namespace Configuration

open Check

/-- **With a validated configuration only malformed rows are defects.** On every engine and every
stream, a check in any mode is defective exactly if a row of the answer to its first query has the
wrong number of cells or states no truth where one is due. It never lacks predicates, and no truth
column is ever too short or too long; nor does a worker lack a mode. A check meets a fault exactly if it
has read a column and there is no room for its predicates. -/
theorem validated_defect_iff (config : Configuration) (hvalid : config.validate = .ok ()) :
    (∀ (σ : Type) (o : Oracle), o.options = config.oracle → o.generator = config.generator →
      ∀ (c : Client σ) (mode : Mode) (w : World σ),
        (∀ f, (o.check c mode w).1 = .error (.fault f) ↔
          f.OfRoom .expression config.oracle.predicates ∧
            ∃ schema, .readSchema (.ok schema) ∈ o.transcript c mode w ∧ schema.usable ≠ []) ∧
        (∀ d, (o.check c mode w).1 = .error (.raised (.defect d)) →
          d ≠ .noPredicates ∧ ∀ values rows, d ≠ .columnLength values rows) ∧
        ((∃ d, (o.check c mode w).1 = .error (.raised (.defect d))) ↔
          ∃ plan rows, o.FirstAnswer c w plan rows ∧ ∃ row ∈ rows,
            row.length ≠ plan.fetched.length + plan.predicates.length ∨
              ∃ cell ∈ row.drop plan.fetched.length,
                cell ≠ none ∧ cell ≠ some "true" ∧ cell ≠ some "false")) ∧
      ∀ (σ : Type) (b : Backend σ) (worker : Nat) (stream : Stream) (stops : Nat → Bool)
        (engine : Answer σ),
        (Worker.run config b worker stream stops engine).1.failure ≠ some .noModes := by
  have hset := validate_eq_ok_iff.mp hvalid
  constructor
  · intro σ o hoptions hgenerator c mode w
    have hpredicates : 0 < o.options.predicates := hoptions ▸ hset.predicates
    refine ⟨fun f => ?_, fun d hd => ?_, ?_⟩
    · rw [Oracle.fault_iff mode (hset.chances hoptions hgenerator), hoptions]
    · obtain ⟨hrows, -⟩ := Oracle.malformed_of_defect mode hpredicates hd
      cases hrows <;> exact ⟨nofun, nofun⟩
    · rw [Oracle.defect_iff mode hpredicates]
      simp only [Plan.WellFormed, Snapshot.not_wellFormed_iff, Snapshot.not_isTruthCell_iff]
  · intro σ b worker stream stops engine h
    refine Worker.failure_of_run (P := (· ≠ .noModes)) hset.modes nofun nofun ?_ nofun _ _ _ h rfl
    -- An interruption of a check becomes a bug or stays what it is.
    intro i
    cases i <;> nofun

/-- The sample checker calls an engine defective that leaves out the predicates of its first query. -/
theorem validated_defect_iff_missing_cells :
    let config : Configuration :=
      ⟨Sample.oracle.options, Sample.oracle.generator, .standard, .standard, none⟩
    let c := Sample.client fun _ => [[some "1"]]
    config.validate = .ok () ∧
      (∃ d, (Sample.oracle.check c .plain Sample.world).1 = .error (.raised (.defect d))) ∧
      (∀ f, (Sample.oracle.check c .plain Sample.world).1 ≠ .error (.fault f)) := by
  intro config c
  have hvalid : config.validate = .ok () :=
    validate_eq_ok_iff.mpr ⟨by decide +kernel, by decide, by decide, by decide⟩
  have hplan : ((Sample.oracle.planning c).runOn Sample.world).1 = .ok Sample.plan := by
    decide +kernel
  have hfirst : Sample.oracle.FirstAnswer c Sample.world Sample.plan [[some "1"]] :=
    ⟨_, (), Prod.ext hplan rfl, rfl⟩
  have hroom : Record.expression.HasRoom config.oracle.predicates := by decide
  obtain ⟨hfault, -, hdefect⟩ :=
    (config.validated_defect_iff hvalid).1 Unit Sample.oracle rfl rfl c .plain Sample.world
  refine ⟨hvalid, ?_, fun f hf => ((hfault f).mp hf).1.2 hroom⟩
  exact hdefect.mpr ⟨_, _, hfirst, [some "1"], by decide, .inl (by decide)⟩

/-- A configuration with more predicates a check than there is room for. -/
def roomless : Configuration :=
  { standard with oracle := { Options.standard with predicates := 2 ^ (63 : Nat) - 1 } }

/-- It is valid, and its checks meet a fault. -/
theorem roomless_check_faults :
    roomless.validate = .ok () ∧
      ((Oracle.new roomless.oracle roomless.generator .empty).check (Sample.client fun _ => [])
        .plain Sample.world).1 = .error (.fault .capacityOverflow) := by
  have hvalid : roomless.Valid :=
    ⟨valid_standard.probabilities, by decide, valid_standard.modes, valid_standard.workers⟩
  exact ⟨validate_eq_ok_iff.mpr hvalid, by decide +kernel⟩

end Configuration
end PredicateOracle
