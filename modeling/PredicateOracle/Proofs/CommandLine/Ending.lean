import PredicateOracle.CommandLine.Program
import PredicateOracle.Proofs.Run.Completion
import PredicateOracle.Proofs.Run.Independence

/-!
# PredicateOracle.Proofs.CommandLine.Ending -- from the verdicts of checks to the exit code

What is printed about a run, and the code that the program exits with, are worked out from the
summary. A bug is shown under a heading with the mark of an error, and the line that tells of no bugs
has the mark of a success; no other line of the output opens with a mark (`opensWith`). So headings
can be counted in what was printed. If the report files can be written, every action is carried out
(`performOn_of_storeAll`), and each verdict reaches the exit code (`verdicts_reach_exit_code`).
-/

namespace PredicateOracle

open PredicateOracle.Random (Stream)
open Worker (Report)

namespace CommandLine

/-! ## Carrying out actions -/

/-- The disk after all files of the actions are stored, if each of them can be. -/
def storeAll (cwd : Place) (d : Disk) : List Action → Except StoreError Disk
  | [] => .ok d
  | .store directory name content :: rest =>
    match storeOn d cwd directory name content with
    | .ok d => storeAll cwd d rest
    | .error e => .error e
  | _ :: rest => storeAll cwd d rest

/-- The lines that actions print. -/
def said : List Action → List String
  | [] => []
  | .say text :: rest => text :: said rest
  | _ :: rest => said rest

theorem said_append (as bs : List Action) : said (as ++ bs) = said as ++ said bs := by
  induction as with
  | nil => rfl
  | cons a as ih => cases a <;> simp [said, ih]

theorem said_map_say (texts : List String) : said (texts.map .say) = texts := by
  induction texts with
  | nil => rfl
  | cons text texts ih => simp [said, ih]

/-- **If all files can be stored, everything is printed and the exit code stays.** -/
theorem performOn_of_storeAll (plain : Bool) {cwd : Place} {d d' : Disk} (exit : Nat)
    {actions : List Action} (h : storeAll cwd d actions = .ok d') :
    (performOn plain cwd d exit actions).output = said actions ∧
      (performOn plain cwd d exit actions).disk = d' ∧
      (performOn plain cwd d exit actions).exit = exit := by
  fun_induction storeAll cwd d actions with
  | case1 d => exact ⟨rfl, Except.ok.inj h, rfl⟩
  | case2 d directory name content rest d₁ hstore ih =>
    rw [performOn, hstore]
    exact ih h
  | case3 d directory name content rest e hstore => cases h
  | case4 d action rest hother ih =>
    obtain ⟨houtput, hdisk, hexit⟩ := ih h
    cases action with
    | say text => exact ⟨congrArg (text :: ·) houtput, hdisk, hexit⟩
    | complain text => exact ⟨houtput, hdisk, hexit⟩
    | store directory name content => exact absurd rfl (hother directory name content)

/-! ## Marks -/

/-- **`opensWith plain tone mark text`** -- the line begins with the mark in the style of its meaning. -/
def opensWith (plain : Bool) (tone : Tone) (mark text : String) : Bool :=
  (paint plain tone mark).toList.isPrefixOf text.toList

/-- Whether a line tells of a success. -/
def isSuccess (plain : Bool) (text : String) : Bool := opensWith plain .success "✓" text

/-- Whether a line tells of an error. -/
def isError (plain : Bool) (text : String) : Bool := opensWith plain .error "✗" text

/-- **`IsUnmarked plain text`** -- the line tells of neither. -/
def IsUnmarked (plain : Bool) (text : String) : Prop :=
  isSuccess plain text = false ∧ isError plain text = false

/-- A line that opens with a blank is unmarked. -/
theorem isUnmarked_of_head {plain : Bool} {text : String} {c : Char}
    (hhead : text.toList.head? = some c) (hmark : c ≠ '✓' ∧ c ≠ '✗' ∧ c ≠ '\x1b') :
    IsUnmarked plain text := by
  obtain ⟨rest, hrest⟩ := List.head?_eq_some_iff.mp hhead
  obtain ⟨hsuccess, herror, hescape⟩ := hmark
  unfold IsUnmarked isSuccess isError opensWith
  cases plain <;>
    simp [paint, hrest, List.isPrefixOf, Ne.symm hsuccess, Ne.symm herror, Ne.symm hescape]

theorem isUnmarked_empty (plain : Bool) : IsUnmarked plain "" := by
  cases plain <;> exact ⟨by decide, by decide⟩

theorem isUnmarked_labeled (plain : Bool) (name value : String) :
    IsUnmarked plain (labeled plain name value) := by
  apply isUnmarked_of_head (c := ' ')
  · simp [labeled]
  · decide

theorem isUnmarked_openingLine (plain : Bool) (c : Configuration) (seed : UInt64) :
    IsUnmarked plain (openingLine plain c seed) := by
  apply isUnmarked_of_head (c := 'R')
  · simp [openingLine]
  · decide

theorem isUnmarked_message (plain : Bool) (b : BugReport) : IsUnmarked plain b.message := by
  apply isUnmarked_of_head (c := 'l')
  · simp [BugReport.message, BugReport.lines, Text.join]
  · decide

theorem isUnmarked_warning (plain : Bool) : IsUnmarked plain (paint plain .warning "Reproduce with:") := by
  cases plain <;> exact ⟨by decide, by decide⟩

theorem marks_successLine (plain : Bool) (text : String) :
    isSuccess plain (successLine plain text) = true ∧
      isError plain (successLine plain text) = false := by
  unfold isSuccess isError opensWith successLine
  cases plain <;> simp [paint, Tone.style, List.isPrefixOf]

theorem marks_errorLine (plain : Bool) (text : String) :
    isSuccess plain (errorLine plain text) = false ∧
      isError plain (errorLine plain text) = true := by
  unfold isSuccess isError opensWith errorLine
  cases plain <;> simp [paint, Tone.style, List.isPrefixOf]

/-! ## What is printed about a run -/

section Lines

variable (plain : Bool) (c : Configuration) (s : Summary)

/-- The line that tells of no bugs is the only marked one about the counters, if it is there. -/
theorem countP_summaryLines (elapsed : String) :
    (summaryLines plain s elapsed).countP (isSuccess plain) =
        (if s.stats.bugs = 0 && s.fatal.isEmpty then 1 else 0) ∧
      (summaryLines plain s elapsed).countP (isError plain) = 0 := by
  have hempty := isUnmarked_empty plain
  have hlabeled := isUnmarked_labeled plain
  have hsuccess := marks_successLine plain
  have hstopped : IsUnmarked plain ("  " ++ paint plain .warning "stopped by timeout") :=
    isUnmarked_of_head (c := ' ') (by simp) (by decide)
  unfold summaryLines
  constructor
  · cases hclean : s.stats.bugs = 0 && s.fatal.isEmpty <;> cases s.timedOut <;>
      simp [hempty.1, (hlabeled _ _).1, (hsuccess _).1, hstopped.1]
  · cases hclean : s.stats.bugs = 0 && s.fatal.isEmpty <;> cases s.timedOut <;>
      simp [hempty.2, (hlabeled _ _).2, (hsuccess _).2, hstopped.2]

/-- A bug is shown by its lines, and perhaps by one that says where its report is. -/
theorem said_bugActions (w : Report) (b : BugReport) :
    ∃ tail, said (bugActions plain c s w b) = bugLines plain s w b ++ tail ∧
      ∀ text ∈ tail, IsUnmarked plain text := by
  unfold bugActions
  cases c.run.reportDirectory with
  | none => exact ⟨[], by simp [said_map_say], nofun⟩
  | some directory =>
    refine ⟨[labeled plain "Report" (Path.join directory (reportName s w))], ?_, ?_⟩
    · rw [said_append, said_map_say]
      rfl
    · intro text htext
      rw [List.mem_singleton.mp htext]
      exact isUnmarked_labeled _ _ _

/-- **A bug is shown under one heading.** -/
theorem countP_said_bugActions (w : Report) (b : BugReport) :
    (said (bugActions plain c s w b)).countP (isSuccess plain) = 0 ∧
      (said (bugActions plain c s w b)).countP (isError plain) = 1 := by
  obtain ⟨tail, hsaid, htail⟩ := said_bugActions plain c s w b
  have hempty := isUnmarked_empty plain
  have herror := marks_errorLine plain
  have hmessage := isUnmarked_message plain b
  have hwarning := isUnmarked_warning plain
  have hcommand : IsUnmarked plain ("  " ++ paint plain .code (reproduction s)) :=
    isUnmarked_of_head (c := ' ') (by simp) (by decide)
  have hrest : tail.countP (isSuccess plain) = 0 ∧ tail.countP (isError plain) = 0 := by
    constructor
    · exact List.countP_eq_zero.mpr fun text htext => by simp [(htail text htext).1]
    · exact List.countP_eq_zero.mpr fun text htext => by simp [(htail text htext).2]
  rw [hsaid, bugLines]
  constructor
  · simp [hempty.1, (herror _).1, hmessage.1, hwarning.1, hcommand.1, hrest.1]
  · simp [hempty.2, (herror _).2, hmessage.2, hwarning.2, hcommand.2, hrest.2]

/-- Fatal failures are told of where errors go, and not in the output. -/
theorem said_fatalActions (failures : List (Report × Failure)) :
    said (failures.map fun (w, f) => fatalAction plain w f) = [] := by
  induction failures with
  | nil => rfl
  | cons p failures ih => exact ih

theorem said_flatMap {α : Type} (actions : α → List Action) (as : List α) :
    said (as.flatMap actions) = as.flatMap fun a => said (actions a) := by
  induction as with
  | nil => rfl
  | cons a as ih => rw [List.flatMap_cons, List.flatMap_cons, said_append, ih]

/-- What a run prints: a line before it, the counters, and the bugs one after the other. -/
theorem said_runEnding (elapsed : String) (seed : UInt64) :
    said ((runEnding plain c s elapsed).after (openingLine plain c seed)).actions =
      openingLine plain c seed :: (summaryLines plain s elapsed ++
        s.bugs.flatMap fun (w, b) => said (bugActions plain c s w b)) := by
  show openingLine plain c seed :: said (runEnding plain c s elapsed).actions = _
  rw [runEnding, said_append, said_append, said_map_say, said_fatalActions, said_flatMap,
    List.append_nil]

/-- **Every bug is printed once**, and the line that tells of no bugs is printed if there is nothing
to tell of. -/
theorem countP_said_runEnding (elapsed : String) (seed : UInt64) :
    let printed := said ((runEnding plain c s elapsed).after (openingLine plain c seed)).actions
    printed.countP (isSuccess plain) = (if s.stats.bugs = 0 && s.fatal.isEmpty then 1 else 0) ∧
      printed.countP (isError plain) = s.bugs.length := by
  intro printed
  have hopening := isUnmarked_openingLine plain c seed
  obtain ⟨hsuccess, herror⟩ := countP_summaryLines plain s elapsed
  have hbug := countP_said_bugActions plain c s
  have hprinted : printed = _ := said_runEnding plain c s elapsed seed
  rw [hprinted]
  constructor
  · rw [List.countP_cons_of_neg (by simp [hopening.1]), List.countP_append, hsuccess,
      List.countP_flatMap]
    simp [Function.comp_def, (hbug _ _).1]
  · rw [List.countP_cons_of_neg (by simp [hopening.2]), List.countP_append, herror,
      List.countP_flatMap]
    simp [Function.comp_def, (hbug _ _).2]

/-- Every bug is shown with all its lines. -/
theorem bugLines_infix_said (elapsed : String) (seed : UInt64) {w : Report} {b : BugReport}
    (hmem : (w, b) ∈ s.bugs) : bugLines plain s w b <:+:
      said ((runEnding plain c s elapsed).after (openingLine plain c seed)).actions := by
  obtain ⟨tail, hsaid, -⟩ := said_bugActions plain c s w b
  obtain ⟨before, after, hsplit⟩ := List.append_of_mem hmem
  rw [said_runEnding, hsplit]
  refine ⟨openingLine plain c seed :: (summaryLines plain s elapsed ++
      before.flatMap fun (w, b) => said (bugActions plain c s w b)),
    tail ++ after.flatMap fun (w, b) => said (bugActions plain c s w b), ?_⟩
  simp [hsaid]

/-- That there are no bugs is said of a run with neither a bug nor a fatal failure, and of no other. -/
theorem mem_said_clean_iff (elapsed : String) (seed : UInt64) :
    (∃ n : Nat, successLine plain (toString n ++ " checks, no logic bugs found") ∈
      said ((runEnding plain c s elapsed).after (openingLine plain c seed)).actions) ↔
    (s.stats.bugs = 0 && s.fatal.isEmpty) = true := by
  constructor
  · rintro ⟨n, hn⟩
    have hpos := List.countP_pos_iff.mpr ⟨_, hn, (marks_successLine plain _).1⟩
    rw [(countP_said_runEnding plain c s elapsed seed).1] at hpos
    by_contra hmarked
    rw [if_neg hmarked] at hpos
    exact absurd hpos (Nat.lt_irrefl 0)
  · intro hmarked
    refine ⟨s.stats.checks, ?_⟩
    rw [said_runEnding, summaryLines, if_pos hmarked]
    simp

end Lines

/-! ## The exit code -/

section ExitCode

variable (s : Summary)

theorem exitCode_eq_fatal_iff : exitCode s = 2 ↔ ∃ r ∈ s.workers, r.FailedFatally := by
  rw [← s.fatal_ne_nil_iff]
  unfold exitCode exitFatal exitBug
  cases s.fatal <;> cases s.bugs <;> simp

theorem exitCode_eq_bug_iff :
    exitCode s = 1 ↔ (¬ ∃ r ∈ s.workers, r.FailedFatally) ∧ ∃ r ∈ s.workers, r.FoundBug := by
  rw [← s.fatal_ne_nil_iff, ← s.bugs_ne_nil_iff]
  unfold exitCode exitFatal exitBug
  cases s.fatal <;> cases s.bugs <;> simp

theorem exitCode_eq_zero_iff :
    exitCode s = 0 ↔ (¬ ∃ r ∈ s.workers, r.FailedFatally) ∧ ¬ ∃ r ∈ s.workers, r.FoundBug := by
  rw [← s.fatal_ne_nil_iff, ← s.bugs_ne_nil_iff]
  unfold exitCode exitFatal exitBug
  cases s.fatal <;> cases s.bugs <;> simp

end ExitCode

/-- **`Tells plain s trace`** -- a program that ends in this way tells all that the summary says. -/
structure Tells (plain : Bool) (s : Summary) (trace : Trace) : Prop where
  /-- As many bugs are printed as were counted. -/
  bugs : trace.output.countP (isError plain) = s.stats.bugs
  /-- Each bug is printed, with the worker that found it. -/
  shown : ∀ r ∈ s.workers, ∀ b, r.failure = some (.bug b) →
    bugLines plain s r b <:+: trace.output
  /-- The exit code is 2 for a fatal failure, else 1 for a bug, and else 0. -/
  fatal : trace.exit = 2 ↔ ∃ r ∈ s.workers, r.FailedFatally
  bug : trace.exit = 1 ↔ (¬ ∃ r ∈ s.workers, r.FailedFatally) ∧ ∃ r ∈ s.workers, r.FoundBug
  zero : trace.exit = 0 ↔ (¬ ∃ r ∈ s.workers, r.FailedFatally) ∧ ¬ ∃ r ∈ s.workers, r.FoundBug
  /-- That there are no bugs is said if and only if nothing went wrong. -/
  clean : (∃ n : Nat, successLine plain (toString n ++ " checks, no logic bugs found") ∈
    trace.output) ↔ trace.exit = 0

/-- **The summary of a run is told**, if the report files can be written. -/
theorem tells_runEnding {plain : Bool} {c : Configuration} {s : Summary} {elapsed : String}
    {seed : UInt64} {cwd : Place} {d d' : Disk} {e : Ending}
    (he : e = (runEnding plain c s elapsed).after (openingLine plain c seed))
    (hcounted : s.stats.bugs = s.bugs.length) (hstored : storeAll cwd d e.actions = .ok d') :
    Tells plain s (performOn plain cwd d e.exit e.actions) := by
  obtain ⟨houtput, -, hexit⟩ := performOn_of_storeAll plain e.exit hstored
  have hcode : (performOn plain cwd d e.exit e.actions).exit = exitCode s := by
    rw [hexit, he]
    rfl
  have hclean : (s.stats.bugs = 0 && s.fatal.isEmpty) = true ↔ exitCode s = 0 := by
    rw [hcounted]
    unfold exitCode exitFatal exitBug
    cases s.fatal <;> cases s.bugs <;> simp
  refine ⟨?_, ?_, ?_, ?_, ?_, ?_⟩
  · rw [houtput, he, (countP_said_runEnding plain c s elapsed seed).2, hcounted]
  · intro r hr b hb
    have hmem : (r, b) ∈ s.bugs := List.mem_filterMap.mpr ⟨r, hr, by rw [hb]; rfl⟩
    rw [houtput, he]
    exact bugLines_infix_said plain c s elapsed seed hmem
  · rw [hcode]
    exact exitCode_eq_fatal_iff s
  · rw [hcode]
    exact exitCode_eq_bug_iff s
  · rw [hcode]
    exact exitCode_eq_zero_iff s
  · rw [hcode, ← hclean, houtput, he]
    exact mem_said_clean_iff plain c s elapsed seed

end CommandLine

namespace Run

open CommandLine

/-- **No verdict is lost between a check and the exit code**, if the run has a summary. Whatever the
engines answer, in whatever order the workers take their steps and whenever the time is over: once every
worker has taken steps enough the run is over. If it has a summary, this accounts for all checks, and a
program that prints it tells all that it says. If it has none, its deadline is not in time, or there is no
room for the reports of its workers, or the workers have more checks to run than a machine word can
count; then the program prints nothing but its opening line. A deadline that is not in time always is
such a fault. The run that takes the workers in turn is one of these runs. -/
theorem verdicts_reach_exit_code {σ : Type} (config : Configuration) (started : Nat) (seed : UInt64) :
    (∀ f : Fleet σ, ∃ events, (Cluster.run config (kitsOf config f (.ofSeed seed)) started
      events).result? config seed = some ((run config f started seed).map Prod.fst)) ∧
    ∀ (backends : Nat → Backend σ) (engines : Nat → Answer σ) (events : List Event),
      let kits : Nat → Kit σ := fun i => ⟨backends i, engines i, streamOf seed i⟩
      let c := Cluster.run config kits started events
      ((∀ i < config.run.workers,
          5 * config.run.checksPerWorker + 3 ≤ events.count (.step i)) →
        ∃ r, c.result? config seed = some r) ∧
      (∀ s, c.result? config seed = some (.ok s) →
        s.Accounts config seed (Cluster.checks config kits started events) ∧
        ∀ (plain : Bool) (elapsed : String) (cwd : Place) (d d' : Disk),
          let e := (resultEnding plain config (.ok s) elapsed).after (openingLine plain config seed)
          storeAll cwd d e.actions = .ok d' →
            Tells plain s (performOn plain cwd d e.exit e.actions)) ∧
      (∀ f, c.result? config seed = some (.error f) →
        f.OfRun config started ∧
        ∀ (plain : Bool) (elapsed : String) (cwd : Place) (d : Disk),
          let e := (resultEnding plain config (.error f) elapsed).after
            (openingLine plain config seed)
          let trace := performOn plain cwd d e.exit e.actions
          trace.output = [openingLine plain config seed] ∧ trace.exit = exitFault) ∧
      (c.result? config seed = some (.error .clockOverflow) ↔ ¬ config.InTime started) := by
  refine ⟨fun f => run_result config f started seed, fun backends engines events => ⟨?_, ?_, ?_, ?_⟩⟩
  · intro hsteps
    exact Option.isSome_iff_exists.mp (Cluster.result?_isSome hsteps)
  · intro s hs
    have haccounts : s.Accounts config seed _ := accounts_of_result? (fun _ => rfl) hs
    refine ⟨haccounts, fun plain elapsed cwd d d' => ?_⟩
    intro e hstored
    exact tells_runEnding rfl haccounts.bugs hstored
  · intro f hf
    exact ⟨Cluster.ofRun_of_result? hf, fun plain elapsed cwd d => ⟨rfl, rfl⟩⟩
  · exact Cluster.result?_eq_clockOverflow_iff

/-- Two workers with one check each: the engine of the first has one row and loses it as soon as it is
asked for the rows on which a predicate is true, and the second has no engine. The bug is printed and
its report is stored, and the exit code tells of the failure. -/
theorem verdicts_reach_exit_code_lost_row :
    let config : Configuration :=
      ⟨⟨1, ⟨0, 0.1, .uniform⟩, 1, 0, 0, 0, [.plain]⟩, ⟨0, false, 0.05⟩,
        ⟨1, 1, 0, 0, 0, 0, 0, false, false⟩, ⟨none, 2, 1, 0, none, some "bugs"⟩, none⟩
    let engine : Replies :=
      { opening := .ok ()
        query := fun told =>
          .ok (some (if told.length ≤ 4 then [[some "1", some "true"]] else []))
        execute := fun _ => .ok 0
        release := fun _ => .ok ()
        readSchema := fun _ => .ok ⟨[⟨"t0", [⟨"t0", "c0", .integer, true⟩]⟩]⟩
        reset := fun _ => .ok () }
    let engines : Nat → Answer (List PredicateOracle.Command) := fun i =>
      if i = 0 then .ok [] else .error ⟨"no engine"⟩
    let events : List Event := List.replicate 8 (.step 0) ++ List.replicate 8 (.step 1)
    let kits : Nat → Kit (List PredicateOracle.Command) := fun i =>
      ⟨engine.backend, engines i, streamOf 24 i⟩
    let bug : BugReport :=
      { seed := 15188352322396858982
        query := "SELECT t0.c0 FROM t0 WHERE (-66 <= t0.c0)"
        fetchQuery := "SELECT t0.c0, (-66 <= t0.c0) FROM t0"
        predicates := ["(-66 <= t0.c0)"]
        compound := "(-66 <= t0.c0)"
        expected := [[some "1"]]
        actual := []
        mismatch := "Row count mismatch: expected=1, actual=0" }
    let s : Summary :=
      { seed := 24
        stats := ⟨1, 0, 0, 1⟩
        timedOut := false
        workers := [⟨0, bug.seed, ⟨1, 0, 0, 1⟩, some (.bug bug)⟩,
          ⟨1, 1185981389982744873, .zero, some (.engine ⟨"no engine"⟩)⟩] }
    let e := (resultEnding true config (.ok s) "0.01s").after (openingLine true config 24)
    let trace := performOn true [] ⟨[], []⟩ e.exit e.actions
    (∀ i < config.run.workers, 5 * config.run.checksPerWorker + 3 ≤ events.count (.step i)) ∧
      (Cluster.run config kits 0 events).result? config 24 = some (.ok s) ∧
      s.Accounts config 24 (Cluster.checks config kits 0 events) ∧
      ∃ d', storeAll [] ⟨[], []⟩ e.actions = .ok d' ∧ Tells true s trace ∧
        trace.output.countP (isError true) = 1 ∧ trace.exit = 2 := by
  intro config engine engines events kits bug s e trace
  have hsteps : ∀ i < config.run.workers,
      5 * config.run.checksPerWorker + 3 ≤ events.count (.step i) := by decide
  have hs : (Cluster.run config kits 0 events).result? config 24 = some (.ok s) := by decide +kernel
  have hstored : (storeAll [] ⟨[], []⟩ e.actions).isOk = true := by decide +kernel
  have hdisk : ∃ d', storeAll [] ⟨[], []⟩ e.actions = .ok d' := by
    cases hresult : storeAll [] ⟨[], []⟩ e.actions with
    | error error =>
      rw [hresult] at hstored
      cases hstored
    | ok d' => exact ⟨d', rfl⟩
  obtain ⟨d', hd'⟩ := hdisk
  obtain ⟨-, htells, -⟩ :=
    (verdicts_reach_exit_code config 0 24).2 (fun _ => engine.backend) engines events
  obtain ⟨haccounts, htrace⟩ := htells s hs
  have hfinal : Tells true s trace := htrace true "0.01s" [] ⟨[], []⟩ d' hd'
  have hfatal : exitCode s = 2 := by decide
  exact ⟨hsteps, hs, haccounts, d', hd', hfinal, hfinal.bugs,
    hfinal.fatal.mpr ((exitCode_eq_fatal_iff s).mp hfatal)⟩

end Run

/-- The usual settings, with the longest timeout that a machine word can say. -/
def Configuration.endless : Configuration :=
  { standard with run := { RunOptions.standard with timeoutSeconds := some (2 ^ (64 : Nat) - 1) } }

open CommandLine in
/-- **A deadline beyond the clock ends the run without a summary.** The configuration is valid, and the
program prints its opening line and exits with a code that tells of no verdict. -/
theorem Configuration.endless_untold :
    let fleet : Fleet Unit := ⟨⟨Sample.client fun _ => [], return .ok ()⟩, fun _ => .ok ()⟩
    let result := (Run.run endless fleet 1 7).map Prod.fst
    let e := (resultEnding true endless result "0.01s").after (openingLine true endless 7)
    let trace := performOn true [] ⟨[], []⟩ e.exit e.actions
    endless.validate = .ok () ∧ result = .error .clockOverflow ∧
      trace.output = ["Running 1 worker(s) x 1000 checks (seed: 7)..."] ∧ trace.exit = 101 := by
  intro fleet result e trace
  have hvalid : endless.validate = .ok () :=
    validate_eq_ok_iff.mpr (valid_standard.scaled _ (by decide))
  have hlate : ¬ endless.InTime 1 := fun h => absurd (h _ rfl) (by decide)
  have hresult : result = .error .clockOverflow := by
    show (Run.run endless fleet 1 7).map Prod.fst = _
    rw [Run.run, Run.opening_of_not_inTime hlate]
    rfl
  have he : e = (Ending.fault .clockOverflow).after (openingLine true endless 7) := by
    show (resultEnding true endless result "0.01s").after _ = _
    rw [hresult]
    rfl
  have hline : openingLine true endless 7 = "Running 1 worker(s) x 1000 checks (seed: 7)..." := by
    decide +kernel
  have htrace : trace = performOn true [] ⟨[], []⟩ e.exit e.actions := rfl
  rw [htrace, he, ← hline]
  exact ⟨hvalid, hresult, rfl, rfl⟩

end PredicateOracle
