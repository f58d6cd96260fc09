import PredicateOracle.Proofs.CommandLine.Override
import PredicateOracle.Proofs.Number.Reader
import PredicateOracle.Proofs.Run.Replay

/-!
# PredicateOracle.Proofs.CommandLine.Reproduction -- the command that is printed for a bug

The command names the seed of the run and the number of its workers and nothing else. It is read as it was
meant (`ofArguments_replayArguments`), so it runs one worker from the same seed, in the configuration that
the layers come to by themselves. If that one asks for the same checks (`Configuration.SameChecks`) the
worker finds the bug again (`reproduction_replays`). Options for a mode, a number of checks or an explicit
file are lost, and then other checks may be run, or too few (`reproduction_misses_mode`).
-/

namespace PredicateOracle.CommandLine

open Worker (Report)

/-! ## Reading the command -/

section Digits

variable (n : Nat)

theorem head?_toDigits_ne {c : Char} (hc : c.isDigit = false) :
    (Nat.toDigits 10 n).head? ≠ some c := by
  intro h
  have hdigit := Number.isDigit_of_mem_toDigits (List.mem_of_mem_head? h)
  rw [hc] at hdigit
  cases hdigit

theorem looksLikeOption_toString : looksLikeOption (toString n) = false := by
  have hhead := head?_toDigits_ne n (c := '-') rfl
  simp [looksLikeOption, hhead]

theorem readWord?_toString (hn : n < 2 ^ (64 : Nat)) : readWord? (toString n) = some n := by
  have htext : (toString n).toList = Nat.toDigits 10 n := Nat.toList_repr
  unfold readWord?
  rw [htext]
  have hhead := head?_toDigits_ne n (c := '+') rfl
  split
  · rename_i cs hcs
    rw [hcs] at hhead
    exact absurd rfl hhead
  · dsimp only
    rw [Number.readNat?_toDigits]
    exact Option.filter_some_pos (decide_eq_true hn)

end Digits

/-- The options of the command: a seed, and the number of workers. -/
def replayOptions (seed workers : Nat) : RunFlags :=
  { RunFlags.none with seed := some seed, workers := some workers }

section Replay

variable {seed workers : String} (hseed : looksLikeOption seed = false)
  (hworkers : looksLikeOption workers = false)
include hseed hworkers

theorem scanAll_replay : scanAll runSwitches ["--seed", seed, "--workers", workers] =
    ⟨[("seed", seed), ("workers", workers)], none, true⟩ := by
  have hfirst : piece? (commonSwitches ++ runSwitches) "--seed" [seed, "--workers", workers] =
      nextValue? "seed" [seed, "--workers", workers] := rfl
  have hsecond : piece? (commonSwitches ++ runSwitches) "--workers" [workers] =
      nextValue? "workers" [workers] := rfl
  unfold scanAll
  simp only [List.length_cons, List.length_nil, scan, hfirst, hsecond, nextValue?, hseed, hworkers,
    Bool.false_eq_true, if_false]

theorem ofArguments_replay {n m : Nat} (hn : readWord? seed = some n)
    (hm : readWord? workers = some m) :
    Invocation.ofArguments ["run", "--seed", seed, "--workers", workers] =
      .ok ⟨false, .run (replayOptions n m)⟩ := by
  have hbranch : readBranch ["trivalent"] ["run", "--seed", seed, "--workers", workers] =
      .ok (false, "run", ["--seed", seed, "--workers", workers]) := rfl
  have hset : takeOptions ["trivalent", "run"] RunFlags.set?
      [("seed", seed), ("workers", workers)] false .none = .ok (false, replayOptions n m) := by
    simp [takeOptions, RunFlags.set?, hn, hm, setOnce, RunFlags.none, replayOptions]
  have hleaf : readLeaf ["trivalent", "run"] runSwitches RunFlags.set? .none
      ["--seed", seed, "--workers", workers] = .ok (false, replayOptions n m) := by
    unfold readLeaf
    rw [scanAll_replay hseed hworkers]
    dsimp only
    rw [hset]
    rfl
  unfold Invocation.ofArguments
  rw [hbranch]
  change (readLeaf ["trivalent", "run"] runSwitches RunFlags.set? .none _ >>= _) = _
  rw [hleaf]
  rfl

end Replay

/-- The arguments of the printed command. -/
def replayArguments (seed : UInt64) : List String :=
  ["run", "--seed", toString seed.toNat, "--workers", "1"]

theorem reproduction_eq {s : Summary} {report : Report} (h : s.workers = [report]) :
    reproduction s = Text.join " " (programName :: replayArguments s.seed) := by
  unfold reproduction replayArguments
  rw [h]
  simp only [Text.join, programName, List.length_singleton]
  apply String.toList_injective
  simp [String.toList_append]
  rfl

theorem ofArguments_replayArguments (seed : UInt64) :
    Invocation.ofArguments (replayArguments seed) = .ok ⟨false, .run (replayOptions seed.toNat 1)⟩ :=
  ofArguments_replay (looksLikeOption_toString _) (looksLikeOption_toString 1)
    (readWord?_toString _ seed.toNat_lt) (readWord?_toString 1 (by decide))

/-! ## Running the command -/

section Prepared

variable {s : Sources} {directory : String} {c c' : Configuration} {seed : UInt64}

theorem seedOf_replay (h : (replayOptions seed.toNat 1).prepare s directory = .ok c') :
    c'.run.workers = 1 ∧ ∀ fresh, seedOf c' fresh = seed := by
  obtain ⟨merged, -, -, -, rfl, -⟩ := RunFlags.prepare_eq_ok_iff.mp h
  exact ⟨rfl, fun _ => UInt64.ofNat_toNat⟩

/-- With no options for a mode or a number of checks the command asks for what was asked for. -/
theorem prepare_replay {f : RunFlags} (h : f.prepare s directory = .ok c) (hmodes : f.modes = [])
    (hchecks : f.checks = none) (htimeout : c.run.timeoutSeconds = none) :
    ∃ c', (replayOptions seed.toNat 1).prepare s directory = .ok c' ∧ c.SameChecks c' ∧
      c'.run.timeoutSeconds = none ∧ c'.run.checksPerWorker = c.run.checksPerWorker := by
  obtain ⟨merged, hread, hworkers, hnamed, rfl, hvalid⟩ := RunFlags.prepare_eq_ok_iff.mp h
  have hreplay : ((replayOptions seed.toNat 1).apply (merged.resolvePaths directory)).Valid :=
    ⟨hvalid.probabilities, hvalid.predicates, hnamed, Nat.one_pos⟩
  refine ⟨_, RunFlags.prepare_eq_ok_iff.mpr ⟨merged, hread, hworkers, hnamed, rfl, hreplay⟩,
    ⟨?_, rfl, rfl, rfl⟩, ?_, ?_⟩
  · simp [RunFlags.apply, hmodes, replayOptions, RunFlags.none]
  · exact (Option.or_eq_none_iff.mp htimeout).2
  · simp [RunFlags.apply, hchecks, replayOptions, RunFlags.none]

end Prepared

/-- **The printed command finds the bug again if it runs the same checks.** Whatever the layers and the
options of a run of one worker without a time limit, the command that is printed for its bug can be read.
If it runs the same checks it finds the same bug, query by query and row by row, as long as it runs as
many as the first run needed; with fewer it finds none. It does run the same checks, and enough of them,
if no option of the first run names a file, a mode or a number of checks. What the clock shows at the
start of a run does not matter. -/
theorem reproduction_replays (r : Replies) (d : Disk) (user directory : String)
    (environment : Environment) (f : RunFlags) (started : Nat) (fresh : UInt64) {c : Configuration}
    (hc : f.prepare (d.sources ⟨directory, user, f.config⟩ environment) directory = .ok c)
    (hworkers : c.run.workers = 1) (htimeout : c.run.timeoutSeconds = none) {s : Summary}
    {remains : List (Run.Remains (List PredicateOracle.Command))}
    (hrun : Run.run c r.fleet started (seedOf c fresh) = .ok (s, remains)) {w : Report}
    {b : BugReport} (hbug : (w, b) ∈ s.bugs) :
    (∀ plain, [paint plain .warning "Reproduce with:",
        "  " ++ paint plain .code
          (Text.join " " (programName :: replayArguments (seedOf c fresh)))] <:+
      bugLines plain s w b) ∧
    Invocation.ofArguments (replayArguments (seedOf c fresh)) =
      .ok ⟨false, .run (replayOptions (seedOf c fresh).toNat 1)⟩ ∧
    (∀ c' started' fresh', (replayOptions (seedOf c fresh).toNat 1).prepare
        (d.sources ⟨directory, user, none⟩ environment) directory = .ok c' →
      c.SameChecks c' → c'.run.timeoutSeconds = none →
      ∃ s' remains', Run.run c' r.fleet started' (seedOf c' fresh') = .ok (s', remains') ∧
        s'.bugs = if w.stats.checks ≤ c'.run.checksPerWorker then [(w, b)] else []) ∧
    (f.config = none → f.modes = [] → f.checks = none →
      ∃ c', (replayOptions (seedOf c fresh).toNat 1).prepare
          (d.sources ⟨directory, user, none⟩ environment) directory = .ok c' ∧
        c.SameChecks c' ∧
        ∀ started' fresh', ∃ s' remains',
          Run.run c' r.fleet started' (seedOf c' fresh') = .ok (s', remains') ∧
            s'.bugs = [(w, b)]) := by
  have hopens : ∀ p q, r.fleet.connect p = r.fleet.connect q := fun _ _ => rfl
  have hreplayed : ∀ c' started' fresh', (replayOptions (seedOf c fresh).toNat 1).prepare
      (d.sources ⟨directory, user, none⟩ environment) directory = .ok c' →
      c.SameChecks c' → c'.run.timeoutSeconds = none →
      ∃ s' remains', Run.run c' r.fleet started' (seedOf c' fresh') = .ok (s', remains') ∧
        s'.bugs = if w.stats.checks ≤ c'.run.checksPerWorker then [(w, b)] else [] := by
    intro c' started' fresh' hc' hsame htimeout'
    obtain ⟨hworkers', hseed⟩ := seedOf_replay hc'
    rw [hseed]
    exact Run.bugs_replayed _ hopens hsame hworkers hworkers' htimeout htimeout' hrun hbug
  refine ⟨fun plain => ?_, ofArguments_replayArguments _, hreplayed, fun hconfig hmodes hchecks => ?_⟩
  · obtain ⟨hone, -⟩ := (Run.run_of_one r.fleet _ (seedOf c fresh) hworkers htimeout).2 s remains hrun
    have hprinted := reproduction_eq hone
    rw [Run.seed_of_run hrun] at hprinted
    rw [← hprinted]
    exact ⟨["", errorLine plain (paint plain .error
      ("Logic bug found by worker " ++ toString w.worker)), b.message, ""], rfl⟩
  · rw [hconfig] at hc
    obtain ⟨c', hc', hsame, htimeout', hequal⟩ := prepare_replay hc hmodes hchecks htimeout
    refine ⟨c', hc', hsame, fun started' fresh' => ?_⟩
    obtain ⟨s', remains', hrun', hbugs⟩ := hreplayed c' started' fresh' hc' hsame htimeout'
    refine ⟨s', remains', hrun', ?_⟩
    rw [hbugs, hequal, if_pos]
    -- The first run itself had enough checks to run.
    by_contra hfew
    obtain ⟨_, _, hagain, hself⟩ := Run.bugs_replayed started hopens
      ⟨rfl, rfl, rfl, rfl⟩ hworkers hworkers htimeout htimeout hrun hbug
    obtain ⟨rfl, rfl⟩ := Prod.mk.inj (Except.ok.inj (hrun.symm.trans hagain))
    rw [if_neg hfew] at hself
    rw [hself] at hbug
    cases hbug

/-! ## A row that is lost -/

/-- An engine with a table of one column. To every second query, beginning with the first, it answers
with one row, for which one predicate is true, and to the others with none. -/
def forgetful : Replies where
  opening := .ok ()
  query told :=
    let queries := told.countP fun
      | .call (.query _) => true
      | _ => false
    .ok (some (if queries % 2 = 1 then [[some "1", some "true"]] else []))
  execute _ := .ok 0
  release _ := .ok ()
  readSchema _ := .ok ⟨[⟨"t0", [⟨"t0", "c0", .integer, true⟩]⟩]⟩
  reset _ := .ok ()

/-- A disk without files. -/
def bare : Disk := ⟨[], []⟩

theorem read_bare (cwd : Place) (path : String) : (bare.read cwd path).toOption = none := by
  unfold Disk.read
  cases bare.resolve cwd path with
  | error e => rfl
  | ok p =>
    change (if bare.isDirectory p then _ else _ : Except FileError String).toOption = none
    split <;> rfl

/-- An environment that asks for one predicate, and for databases without rows. -/
def frugal : Environment := [("TRV_ORACLE__NUM_PREDICATES", "1"), ("TRV_WORKLOAD__MAX_INSERTS", "0")]

/-- The defaults with one predicate and without rows. -/
def sparse : Configuration :=
  { Configuration.standard with
    oracle := { Check.Options.standard with predicates := 1 }
    workload := { Generate.Workload.standard with maxInserts := 0 } }

/-- The options for the seed 472 and some modes. -/
def seeded (modes : List Mode) : RunFlags := { RunFlags.none with seed := some 472, modes := modes }

section Frugal

variable (directory user : String)

/-- Without files the environment is all there is to the defaults. -/
theorem read_frugal : (bare.sources ⟨directory, user, none⟩ frugal).read = .ok sparse := by
  have hsources : bare.sources ⟨directory, user, none⟩ frugal = ⟨none, none, none, none, frugal⟩ := by
    simp [Disk.sources, read_bare]
  have henvironment : Layer.ofEnvironment frugal =
      [(["oracle", "num_predicates"], .int 1), (["workload", "max_inserts"], .int 0)] := by decide +kernel
  rw [hsources, Sources.read_of_environment henvironment]
  case hsectioned => unfold Layer.IsSectioned; decide
  case hplain => decide +kernel
  simp only [Configuration.IsSaidBy, Field.all, Field.oracle, Field.generator, Field.workload,
    Field.run, List.forall_mem_append, List.forall_mem_cons]
  and_intros
  all_goals first
    | exact List.forall_mem_nil _
    | refine (Field.read_some rfl).trans ?_
    | rfl
  · exact Configuration.take?_size Field.oraclePart "num_predicates" (·.oracle.predicates) sparse
      (by decide)
  · exact Configuration.take?_size Field.workloadPart "max_inserts" (·.workload.maxInserts) sparse
      (by decide)

theorem prepare_frugal {f : RunFlags} (hmodes : (f.apply sparse).oracle.modes ≠ [])
    (hworkers : 0 < (f.apply sparse).run.workers) :
    f.prepare (bare.sources ⟨directory, user, none⟩ frugal) directory = .ok (f.apply sparse) :=
  RunFlags.prepare_eq_ok_iff.mpr ⟨_, read_frugal directory user, by decide, by decide, rfl,
    Configuration.valid_standard.probabilities, Nat.one_pos, hmodes, hworkers⟩

end Frugal

/-- What a run with the seed 472 finds, with the mode that is asked for and without an option. -/
theorem queries_seeded :
    (∃ s remains, Run.run ((seeded [.distinct]).apply sparse) forgetful.fleet 1 472 =
        .ok (s, remains) ∧
      s.bugs.map (·.2.query) = ["SELECT DISTINCT t0.c0 FROM t0 WHERE (NOT (NOT TRUE))"]) ∧
    ∃ s remains, Run.run ((seeded []).apply sparse) forgetful.fleet 1 472 = .ok (s, remains) ∧
      s.bugs.map (·.2.query) = ["SELECT t0.c0 FROM t0 WHERE (NOT (NOT TRUE))"] := by
  have hfound {c : Configuration} {queries : List String}
      (h : (Run.run c forgetful.fleet 1 472).toOption.map (fun x => x.1.bugs.map (·.2.query)) =
        some queries) :
      ∃ s remains, Run.run c forgetful.fleet 1 472 = .ok (s, remains) ∧
        s.bugs.map (·.2.query) = queries := by
    rcases hrun : Run.run c forgetful.fleet 1 472 with f | ⟨s, remains⟩
    · rw [hrun] at h
      cases h
    · rw [hrun] at h
      exact ⟨s, remains, rfl, Option.some.inj h⟩
  exact ⟨hfound (by decide +kernel), hfound (by decide +kernel)⟩

/-- The command that is printed for the bug of a run with a seed finds it again. -/
theorem reproduction_replays_seeded :
    (seeded []).prepare (bare.sources ⟨"/project", "/user.toml", none⟩ frugal) "/project" =
      .ok ((seeded []).apply sparse) ∧
    ∃ s remains, Run.run ((seeded []).apply sparse) forgetful.fleet 1 472 = .ok (s, remains) ∧
    ∃ w b, (w, b) ∈ s.bugs ∧
      b.query = "SELECT t0.c0 FROM t0 WHERE (NOT (NOT TRUE))" ∧
      Invocation.ofArguments ["run", "--seed", "472", "--workers", "1"] =
        .ok ⟨false, .run (replayOptions 472 1)⟩ ∧
      ∃ c, (replayOptions 472 1).prepare (bare.sources ⟨"/project", "/user.toml", none⟩ frugal)
          "/project" = .ok c ∧
        ∃ s' remains', Run.run c forgetful.fleet 2 (seedOf c 8) = .ok (s', remains') ∧
          s'.bugs = [(w, b)] := by
  have hc := prepare_frugal "/project" "/user.toml" (f := seeded []) (by decide) (by decide)
  obtain ⟨-, s, remains, hrun, hqueries⟩ := queries_seeded
  obtain ⟨⟨w, b⟩, hbug, hquery⟩ := List.mem_map.mp (hqueries ▸ List.mem_singleton_self _)
  obtain ⟨-, hread, -, hreplayed⟩ := reproduction_replays forgetful bare "/user.toml" "/project"
    frugal (seeded []) 1 7 hc rfl rfl hrun hbug
  obtain ⟨c, hprepared, -, hbugs⟩ := hreplayed rfl rfl rfl
  exact ⟨hc, s, remains, hrun, w, b, hbug, hquery, hread, c, hprepared, hbugs 2 8⟩

/-- **The printed command leaves out the mode**: a run with the option for the mode `distinct` finds a
bug with a query for distinct rows. What is printed for it begins with another mode, and finds a bug with
another query. -/
theorem reproduction_misses_mode :
    Invocation.ofArguments ["run", "--seed", "472", "--mode", "distinct"] =
      .ok ⟨false, .run (seeded [.distinct])⟩ ∧
    (seeded [.distinct]).prepare (bare.sources ⟨"/project", "/user.toml", none⟩ frugal) "/project" =
      .ok ((seeded [.distinct]).apply sparse) ∧
    (∃ s remains, Run.run ((seeded [.distinct]).apply sparse) forgetful.fleet 1 472 =
        .ok (s, remains) ∧
      s.bugs.map (·.2.query) = ["SELECT DISTINCT t0.c0 FROM t0 WHERE (NOT (NOT TRUE))"] ∧
      reproduction s = "trivalent run --seed 472 --workers 1") ∧
    Invocation.ofArguments ["run", "--seed", "472", "--workers", "1"] =
      .ok ⟨false, .run (replayOptions 472 1)⟩ ∧
    (replayOptions 472 1).prepare (bare.sources ⟨"/project", "/user.toml", none⟩ frugal) "/project" =
      .ok ((replayOptions 472 1).apply sparse) ∧
    ∃ s remains, Run.run ((replayOptions 472 1).apply sparse) forgetful.fleet 1 472 =
        .ok (s, remains) ∧
      s.bugs.map (·.2.query) = ["SELECT t0.c0 FROM t0 WHERE (NOT (NOT TRUE))"] := by
  obtain ⟨⟨s, remains, hrun, hqueries⟩, hplain⟩ := queries_seeded
  obtain ⟨hone, -⟩ := (Run.run_of_one forgetful.fleet _ 472 rfl rfl).2 s remains hrun
  have hprinted : reproduction s = "trivalent run --seed 472 --workers 1" := by
    rw [reproduction_eq hone, Run.seed_of_run hrun]
    decide +kernel
  exact ⟨rfl, prepare_frugal _ _ (by decide) (by decide), ⟨s, remains, hrun, hqueries, hprinted⟩,
    ofArguments_replayArguments 472, prepare_frugal _ _ (by decide) (by decide), hplain⟩

end PredicateOracle.CommandLine
