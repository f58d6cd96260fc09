import PredicateOracle.Proofs.Run.Verdicts
import PredicateOracle.Proofs.Workload.Maxima

/-!
# PredicateOracle.Proofs.Run.Panic -- when a worker panics

A worker panics when it meets a fault. Under a valid configuration all probabilities are numbers, so a
fault is a number that is too large: a maximum without a successor, or more tables, columns or
predicates than there is room for. If there is no such number (`Configuration.Feasible`) no worker of any
run ends with a panic (`Cluster.not_isPanicked`). If a maximum has no successor, every worker panics at
its first database, unless its engine refuses something (`Worker.run_panics`). A valid configuration may
have any of these numbers.
-/

namespace PredicateOracle

open PredicateOracle.Random (Stream)
open Generate (Action Author)
open Gen (Yields)
open Worker (State Report Work Fails)
open Populate (Cause)
open Run (Kit Stage Event Cluster)
open Sql (Table)

variable {σ : Type} {config : Configuration}

/-! ## Valid configurations -/

namespace Configuration

/-- The coin for NULL of a valid configuration has odds. -/
theorem Valid.not_ofChance_null (hvalid : config.Valid) (f : Fault) :
    ¬ f.OfChance [config.generator.nullProbability] := by
  rintro ⟨-, p, hp, hodds⟩
  obtain rfl := List.mem_singleton.mp hp
  refine Random.Odds.ofProbability_ne_undefined ?_ hodds
  exact hvalid.probabilities ("generator.null_probability", _)
    (by simp [Configuration.probabilities])

/-- Under a valid configuration a database is not filled only for maxima that are too large. -/
theorem Valid.maximum_of_ofPopulate (hvalid : config.Valid) {f : Fault}
    (h : f.OfPopulate config.workload config.generator) :
    (f = .wordOverflow ∧ ¬ config.workload.Countable) ∨
      (f = .capacityOverflow ∧ ¬ config.workload.Roomy) := by
  rcases h with (hchance | ⟨hf, hcolumns⟩) | ⟨hf, htables⟩ | ⟨hf, a, ha⟩
  · exact absurd hchance (hvalid.not_ofChance_null f)
  · exact .inr ⟨hf, fun hroomy => hcolumns hroomy.columns⟩
  · exact .inr ⟨hf, fun hroomy => htables hroomy.tables⟩
  · exact .inl ⟨hf, fun hcountable => Nat.not_le_of_lt (hcountable a) ha⟩

theorem Valid.populate_ne_fault (hvalid : config.Valid) (hcountable : config.workload.Countable)
    (hroomy : config.workload.Roomy) (c : Client σ) (world : World σ) (f : Fault) :
    ((populate c config.workload config.generator).runOn world).1 ≠ .error (.fault f) := by
  intro hf
  have hcause : f.OfPopulate config.workload config.generator :=
    (Populate.populate_comes c config.workload config.generator).of_error hf
  rcases hvalid.maximum_of_ofPopulate hcause with ⟨-, h⟩ | ⟨-, h⟩
  · exact h hcountable
  · exact h hroomy

/-- **A maximum without a successor ends the work on every database**, as long as the engine refuses
nothing. The work gets there if there is room for the tables. -/
theorem Valid.populate_fault (hvalid : config.Valid) (hmaximum : ¬ config.workload.Countable)
    {c : Client σ} (hgrants : ¬ c.Refuses) (world : World σ) :
    ∃ f, ((populate c config.workload config.generator).runOn world).1 = .error (.fault f) ∧
      (config.workload.Roomy → f = .wordOverflow) := by
  have hcomes := Populate.populate_comes c config.workload config.generator
  rcases hrun : ((populate c config.workload config.generator).runOn world).1 with
    (f | e) | counts
  · refine ⟨f, rfl, fun hroomy => ?_⟩
    rcases hvalid.maximum_of_ofPopulate (hcomes.of_error hrun) with ⟨hf, -⟩ | ⟨-, h⟩
    · exact hf
    · exact absurd hroomy h
  · exact absurd (hcomes.of_error hrun) hgrants
  · exact absurd (hcomes.of_ok hrun) hmaximum

/-- **`config.Feasible`** -- no number in the configuration is too large for what is done with it: all
maxima of statements have successors, and there is room for the tables, the columns and the
predicates. -/
structure Feasible (config : Configuration) : Prop where
  countable : config.workload.Countable
  roomy : config.workload.Roomy
  predicates : Record.expression.HasRoom config.oracle.predicates

instance (config : Configuration) : Decidable config.Feasible :=
  decidable_of_iff (config.workload.Countable ∧ config.workload.Roomy ∧
      Record.expression.HasRoom config.oracle.predicates)
    ⟨fun ⟨hcountable, hroomy, hpredicates⟩ => ⟨hcountable, hroomy, hpredicates⟩,
      fun h => ⟨h.countable, h.roomy, h.predicates⟩⟩

end Configuration

/-! ## Workers -/

namespace Worker

variable {b : Backend σ} {worker : Nat}

/-- **`Steady config s`** -- the worker's checker goes by the configuration. -/
def Steady (config : Configuration) (s : State σ) : Prop :=
  s.oracle.options = config.oracle ∧ s.oracle.generator = config.generator

theorem steady_start (stream : Stream) (engine : σ) :
    Steady config (.start config stream engine) := ⟨rfl, rfl⟩

/-- **`Calm config t`** -- the steps `t` of a worker that goes by the configuration meet no fault, and
it goes by the configuration after them. -/
def Calm (config : Configuration) (t : Work σ Unit) : Prop :=
  ∀ s, Steady config s →
    (∀ f, (t.runOn s).1 ≠ .error (.fault f)) ∧ Steady config (t.runOn s).2

theorem calm_of_keepsOracle {t : Work σ Unit} (hkeeps : KeepsOracle t)
    (ht : ∀ s f, (t.runOn s).1 ≠ .error (.fault f)) : Calm config t := by
  intro s hs
  refine ⟨ht s, ?_⟩
  rw [Steady, hkeeps s]
  exact hs

theorem calm_emptying : Calm config (emptying b) := by
  refine calm_of_keepsOracle (keepsOracle_emptying b) fun s f hf => ?_
  rw [emptying, Work.runOn_onWorld, Session.runOn_ask] at hf
  rcases hreset : Id.run (b.reset.run s.world.engine) with ⟨_ | _, e⟩ <;>
    (rw [hreset] at hf; cases hf)

/-- What filling comes to is what the steps on the engine and the stream come to. -/
theorem runOn_filling (config : Configuration) (b : Backend σ) (worker : Nat) (s : State σ) :
    ((filling config b worker).runOn s).1 =
      match ((populate b.toClient config.workload config.generator).runOn s.world).1 with
      | .ok _ => .ok ()
      | .error (.fault f) => .error (.fault f)
      | .error (.raised e) => .error (.raised (.populate worker e)) := by
  rw [filling, Work.runOn_bind, Work.runOn_onWorld]
  rcases (populate b.toClient config.workload config.generator).runOn s.world with
    ⟨(f | e) | counts, w⟩ <;> rfl

theorem calm_filling (hvalid : config.Valid) (hfeasible : config.Feasible) :
    Calm config (filling config b worker) := by
  refine calm_of_keepsOracle (keepsOracle_filling config b worker) fun s f hf => ?_
  have hfault := hvalid.populate_ne_fault hfeasible.countable hfeasible.roomy b.toClient s.world
  rw [runOn_filling] at hf
  rcases hrun : ((populate b.toClient config.workload config.generator).runOn s.world).1 with
    (f' | e) | counts
  · exact hfault f' hrun
  · rw [hrun] at hf
    cases hf
  · rw [hrun] at hf
    cases hf

theorem calm_checking (hvalid : config.Valid) (hfeasible : config.Feasible) (k : Nat) :
    Calm config (checking config b k) := by
  intro s hs
  let mode := modeOf config.oracle.modes k
  have hfault (f : Fault) : (s.oracle.check b.toClient mode s.world).1 ≠ .error (.fault f) := by
    intro hf
    obtain ⟨⟨-, hroom⟩, -⟩ := (Oracle.fault_iff mode (hvalid.chances hs.1 hs.2)).mp hf
    rw [hs.1] at hroom
    exact hroom hfeasible.predicates
  have hsteady : (s.oracle.check b.toClient mode s.world).2.1.options = config.oracle ∧
      (s.oracle.check b.toClient mode s.world).2.1.generator = config.generator := hs
  rw [checking, Work.runOn_runCheck]
  rcases hcheck : s.oracle.check b.toClient mode s.world with ⟨(f | i) | outcome, o, w⟩
  · exact absurd (by rw [hcheck]) (hfault f)
  · rw [hcheck] at hsteady
    exact ⟨fun f hf => (by cases hf), hsteady⟩
  · rw [hcheck] at hsteady
    exact ⟨fun f hf => (by cases hf), hsteady⟩

/-- **A worker panics at its first database** if a maximum has no successor, unless it is told to stop
before or its engine refuses something. -/
theorem run_panics (hvalid : config.Valid) (hmaximum : ¬ config.workload.Countable)
    (hgrants : ¬ b.toClient.Refuses) (hreset : ∀ e, ∃ e', Id.run (b.reset.run e) = (.ok (), e'))
    (hchecks : 0 < config.run.checksPerWorker) {stops : Nat → Bool} (hstops : stops 0 = false)
    (stream : Stream) (engine : σ) :
    (run config b worker stream stops (.ok engine)).1 =
      ⟨worker, stream.seed, .zero, some (.fault worker)⟩ := by
  obtain ⟨n, hn⟩ := Nat.exists_eq_succ_of_ne_zero (Nat.ne_of_gt hchecks)
  let s : State σ := .start config stream engine
  obtain ⟨e, he⟩ := hreset engine
  have hempty : (emptying b).runOn s = (.ok (), { s with world := ⟨e, stream⟩ }) := by
    have hworld : s.world.engine = engine := rfl
    rw [emptying, Work.runOn_onWorld, Session.runOn_ask, hworld, he]
    rfl
  have hfill (s' : State σ) : ∃ f, ((filling config b worker).runOn s').1 = .error (.fault f) := by
    obtain ⟨f, hf, -⟩ := hvalid.populate_fault hmaximum hgrants s'.world
    exact ⟨f, by rw [runOn_filling, hf]⟩
  obtain ⟨f, hturn⟩ := hfill { s with world := ⟨e, stream⟩ }
  have hturns : ((turns config b worker stops (n + 1) 0).runOn s).1 = .error (.fault f) := by
    have hfresh : isFresh config.run.checksPerDatabase 0 = true := rfl
    rw [turns, hstops, if_neg Bool.false_ne_true, turn_eq, if_pos hfresh, bind_assoc,
      Work.runOn_bind, hempty]
    dsimp only
    rw [bind_assoc, Work.runOn_bind]
    rcases hrun : (filling config b worker).runOn { s with world := ⟨e, stream⟩ } with ⟨r, s'⟩
    rw [hrun] at hturn
    dsimp only at hturn
    rw [hturn]
  unfold run
  rw [if_neg (by simpa using hvalid.modes)]
  change reportOf worker stream.seed ((turns config b worker stops _ 0).runOn s).1 _ = _
  rw [hn, hturns]
  rfl

end Worker

/-! ## Stages -/

namespace Run

variable {worker : Nat} {kit : Kit σ}

/-- **`CalmStage config stage`** -- a worker at this stage has met no fault, and its checker goes by the
configuration. -/
def CalmStage (config : Configuration) : Stage σ → Prop
  | .waiting => True
  | .asking _ s | .timing _ s | .emptying _ s | .filling _ s | .checking _ s =>
    Worker.Steady config s
  | .failing f _ => ∀ w, f ≠ .fault w
  | .ended report _ => ¬ report.IsPanicked

namespace CalmStage

/-- A worker that ends without a failure has met no fault. -/
theorem finish_ok (seed : UInt64) (s : Option (State σ)) :
    CalmStage config (.finish worker seed (.ok ()) s) := by
  rintro ⟨w, hw⟩
  cases hw

theorem after {seed : UInt64} {t : Work σ Unit} {next : State σ → Stage σ} {s : State σ}
    (hcalm : Worker.Calm config t) (hfails : Fails (fun f => ∀ w, f ≠ .fault w) t)
    (hs : Worker.Steady config s)
    (hnext : ∀ s', Worker.Steady config s' → CalmStage config (next s')) :
    CalmStage config (.after worker seed next (t.runOn s)) := by
  obtain ⟨hfault, hsteady⟩ := hcalm s hs
  rcases hrun : t.runOn s with ⟨(f | f) | _, s'⟩
  · exact absurd (by rw [hrun]) (hfault f)
  · exact hfails s f (by rw [hrun])
  · rw [hrun] at hsteady
    exact hnext s' hsteady

/-- **No step of a worker meets a fault**, under a valid configuration that is feasible. -/
theorem next (hvalid : config.Valid) (hfeasible : config.Feasible) (stop expired : Bool)
    {stage : Stage σ} (h : CalmStage config stage) :
    CalmStage config (stage.next config worker kit stop expired) := by
  cases stage with
  | waiting =>
    rw [Stage.next]
    split
    · rintro w ⟨⟩
    · cases kit.engine with
      | error e => rintro w ⟨⟩
      | ok engine => exact Worker.steady_start kit.stream engine
  | asking k s =>
    rw [Stage.next]
    split
    · exact finish_ok _ _
    · exact h
  | timing k s =>
    rw [Stage.next]
    split
    · exact finish_ok _ _
    · split <;> exact h
  | emptying k s =>
    exact after Worker.calm_emptying (.onWorld fun e w hw => by cases hw) h
      fun _ hs' => hs'
  | filling k s =>
    exact after (Worker.calm_filling hvalid hfeasible)
      (.bind (.onWorld fun e w hw => by cases hw) fun _ => .pure ()) h fun _ hs' => hs'
  | checking k s =>
    exact after (Worker.calm_checking hvalid hfeasible k)
      (.runCheck fun i w hw => by cases i <;> cases hw) h fun _ hs' => hs'
  | failing f s =>
    rintro ⟨w, hw⟩
    exact h w (Option.some.inj hw)
  | ended report s => exact h

end CalmStage

/-- **No worker of a run panics**, under a valid configuration that is feasible. -/
theorem Cluster.not_isPanicked (hvalid : config.Valid) (hfeasible : config.Feasible)
    {kits : Nat → Kit σ} {started : Nat} {events : List Event} {i : Nat} {report : Report}
    {s : Option (State σ)} (h : (run config kits started events).stage i = .ended report s) :
    ¬ report.IsPanicked := by
  have hcalm : CalmStage config ((run config kits started events).stage i) :=
    run_keeps (P := fun _ => CalmStage config) (fun _ => trivial)
      (fun _ stop expired _ h => h.next hvalid hfeasible stop expired) started events i
  rw [h] at hcalm
  exact hcalm

end Run

/-! ## Maxima -/

/-- The sample engine, which can be emptied as often as one likes. -/
def Sample.backend : Backend Unit :=
  { Sample.client fun _ => [] with reset := return .ok () }

namespace Configuration

/-- **A valid configuration may have a maximum that no database can be filled under.** A number of
tables can always be drawn, and it lies between one and its maximum; if there is no room for so many, the
work ends there. So does a number of columns, for a table or a view, and a draw fails only for want of
room. A number of statements is at most its maximum, and it is drawn exactly if the maximum has a
successor. If all of them have and there is room for the maxima, filling a database meets no fault; and
if there is room for the predicates as well, no worker of a run panics. If one maximum has no successor,
no database is filled, and as long as the engine refuses nothing the work ends with a fault: a worker that
is not told to stop before panics at its first database. -/
theorem validated_workload (config : Configuration) (hvalid : config.validate = .ok ()) :
    (Yields (fun _ => False) (Generate.tableCount config.workload)
      fun n => 1 ≤ n ∧ n ≤ max 1 config.workload.maxTables) ∧
    (∀ (σ : Type) (c : Client σ) (world : World σ) (n : Nat) (s : Stream),
      (Generate.tableCount config.workload).runOn world.stream = (.ok n, s) →
      ¬ Record.table.HasRoom n →
      (populate c config.workload config.generator).runOn world =
        (.error (.fault .capacityOverflow), ⟨world.engine, s⟩)) ∧
    (∀ name, Yields (Fault.OfRoom .column (max 1 config.workload.maxColumns))
      (Generate.tableDefinition config.workload name)
      fun d => 1 ≤ d.columns.length ∧ d.columns.length ≤ max 1 config.workload.maxColumns) ∧
    (∀ (author : Author) (tables : List Table),
      Yields (Fault.OfRoom .column (max 1 config.workload.maxColumns))
        (Generate.createView config.workload config.generator author tables)
        fun (v, _) => ∀ view q, v = some (view, q) →
          1 ≤ view.columns.length ∧ view.columns.length ≤ max 1 config.workload.maxColumns) ∧
    (∀ a : Action, Yields
      (fun f => f = .wordOverflow ∧ 2 ^ (64 : Nat) ≤ config.workload.limit a + 1)
      (Generate.statementCount config.workload a)
      fun n => n ≤ config.workload.limit a ∧ config.workload.limit a + 1 < 2 ^ (64 : Nat)) ∧
    (config.workload.Countable → config.workload.Roomy →
      ∀ (σ : Type) (c : Client σ) (world : World σ) (f : Fault),
        ((populate c config.workload config.generator).runOn world).1 ≠ .error (.fault f)) ∧
    (config.Feasible → ∀ (σ : Type) (kits : Nat → Kit σ) (started : Nat) (events : List Event)
      (i : Nat) (report : Report) (s : Option (State σ)),
      (Cluster.run config kits started events).stage i = .ended report s → ¬ report.IsPanicked) ∧
    (¬ config.workload.Countable →
      (∀ (σ : Type) (c : Client σ) (world : World σ),
        (∀ counts, ((populate c config.workload config.generator).runOn world).1 ≠ .ok counts) ∧
        (¬ c.Refuses →
          ∃ f, ((populate c config.workload config.generator).runOn world).1 = .error (.fault f) ∧
            (config.workload.Roomy → f = .wordOverflow))) ∧
      ∀ (σ : Type) (b : Backend σ) (worker : Nat) (stream : Stream) (stops : Nat → Bool)
        (engine : σ), ¬ b.toClient.Refuses →
        (∀ e, ∃ e', Id.run (b.reset.run e) = (.ok (), e')) →
        0 < config.run.checksPerWorker → stops 0 = false →
        (Worker.run config b worker stream stops (.ok engine)).1 =
          ⟨worker, stream.seed, .zero, some (.fault worker)⟩) := by
  have hset := validate_eq_ok_iff.mp hvalid
  refine ⟨Generate.yields_oneTo _, ?tables, Generate.yields_tableDefinition_columns, ?views,
    Generate.yields_statementCount_iff, ?filled, ?calm, fun hmaximum => ?overflow⟩
  case tables =>
    intro σ c world n s hn hroom
    exact Populate.populate_of_not_hasRoom c _ _ world hn hroom
  case views =>
    intro author tables
    refine (Generate.yields_createView_columns author tables).mono ?_ fun _ h => h
    rintro f (hchance | hroom)
    · exact absurd hchance (hset.not_ofChance_null f)
    · exact hroom
  case filled =>
    intro hcountable hroomy σ c world f
    exact hset.populate_ne_fault hcountable hroomy c world f
  case calm =>
    intro hfeasible σ kits started events i report s h
    exact Cluster.not_isPanicked hset hfeasible h
  case overflow =>
    refine ⟨fun σ c world => ⟨fun counts hcounts => ?_, fun hgrants => ?_⟩, ?_⟩
    · exact hmaximum ((Populate.populate_comes c _ _).of_ok hcounts)
    · exact hset.populate_fault hmaximum hgrants world
    · intro σ b worker stream stops engine hgrants hreset hchecks hstops
      exact Worker.run_panics hset hmaximum hgrants hreset hchecks hstops stream engine

/-- The settings that hold where nothing else is said, but for as many inserts as a machine word can
count. -/
def uncountable : Configuration :=
  { standard with workload := { Generate.Workload.standard with maxInserts := 2 ^ (64 : Nat) - 1 } }

theorem valid_uncountable : uncountable.Valid := valid_standard.scaled _ (by decide)

/-- The sample engine never refuses a statement. -/
theorem not_refuses_sample (answer : String → List Row) : ¬ (Sample.client answer).Refuses := by
  rintro ⟨sql, e, error, h⟩
  cases h

/-- The usual settings can be worked with, the largest maximum cannot. -/
theorem validated_workload_standard :
    let c := Sample.client fun _ => []
    (standard.validate = .ok () ∧ standard.workload.Countable ∧ standard.workload.Roomy ∧
      ∀ f, ((populate c standard.workload standard.generator).runOn Sample.world).1 ≠
        .error (.fault f)) ∧
    uncountable.validate = .ok () ∧ ¬ uncountable.workload.Countable ∧
      ((populate c uncountable.workload uncountable.generator).runOn Sample.world).1 =
        .error (.fault .wordOverflow) := by
  intro c
  have hstandard : standard.validate = .ok () := validate_eq_ok_iff.mpr valid_standard
  have huncountable : uncountable.validate = .ok () := validate_eq_ok_iff.mpr valid_uncountable
  have hcountable : standard.workload.Countable := by decide
  have hroomy : standard.workload.Roomy := by decide
  have hmaximum : ¬ uncountable.workload.Countable := by decide
  obtain ⟨-, -, -, -, -, hfilled, -⟩ := validated_workload standard hstandard
  obtain ⟨-, -, -, -, -, -, -, hoverflow⟩ := validated_workload uncountable huncountable
  refine ⟨⟨hstandard, hcountable, hroomy, hfilled hcountable hroomy Unit c Sample.world⟩, huncountable,
    hmaximum, ?_⟩
  obtain ⟨f, hf, hword⟩ := ((hoverflow hmaximum).1 Unit c Sample.world).2 (not_refuses_sample _)
  rw [hf, hword (by decide)]

/-- **The largest maximum is accepted and panics**: every maximum is a machine word and the
configuration is valid, but filling a database overflows on every stream, and the worker says so. -/
theorem uncountable_panics :
    uncountable.validate = .ok () ∧ (∀ a, uncountable.workload.limit a < 2 ^ (64 : Nat)) ∧
    (∀ world, ((populate Sample.backend.toClient uncountable.workload
      uncountable.generator).runOn world).1 = .error (.fault .wordOverflow)) ∧
    ∀ stream, (Worker.run uncountable Sample.backend 0 stream (fun _ => false)
      (.ok ())).1.failure.map Failure.message = some "worker 0 panicked" := by
  have hmaximum : ¬ uncountable.workload.Countable := by decide
  have hgrants : ¬ Sample.backend.toClient.Refuses := not_refuses_sample fun _ => []
  refine ⟨validate_eq_ok_iff.mpr valid_uncountable, fun a => ?_, fun world => ?_, fun stream => ?_⟩
  · cases a <;> decide
  · obtain ⟨f, hf, hword⟩ := valid_uncountable.populate_fault hmaximum hgrants world
    rw [hf, hword (by decide)]
  · have hmessage : (Failure.fault 0).message = "worker 0 panicked" := by decide +kernel
    rw [Worker.run_panics valid_uncountable hmaximum hgrants (fun e => ⟨e, rfl⟩) (by decide) rfl]
    exact congrArg some hmessage

end Configuration
end PredicateOracle
