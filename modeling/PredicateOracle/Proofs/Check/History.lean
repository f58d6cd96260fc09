import PredicateOracle.Proofs.Check.Defects

/-!
# PredicateOracle.Proofs.Check.History -- one check after another

A checker is used again and again, and all that it keeps between two checks are its counters. A check
comes to a result (`Check.Result`) and adds it to them (`Stats.ofResults`), whatever the result is. So
after a history of checks (`Oracle.checkAll`) the counters are those of its results, and since no step
of a check looks at the counters, every check in the history is the one that a new checker would make.
-/

namespace PredicateOracle

variable {σ : Type}

/-! ## Results and their counters -/

namespace Check

/-- What a check came to. -/
abbrev Result := Except (Halt Interruption) Outcome

namespace Result

/-- The engine answered as it should. -/
def isPassed : Result → Bool
  | .ok (.passed _) => true
  | _ => false

/-- There was no verdict. -/
def isInconclusive : Result → Bool
  | .ok (.inconclusive _) => true
  | _ => false

/-- The engine has a bug. -/
def isBug : Result → Bool
  | .error (.raised (.logicBug _)) => true
  | _ => false

/-- A defect, an unexpected error or a refused request ended the check. -/
def isFailed : Result → Bool
  | .error (.raised (.defect _)) => true
  | .error (.raised (.unexpected _ _)) => true
  | .error (.raised (.database _)) => true
  | _ => false

/-- The check met a fault of its own, and nothing came back from it. -/
def isFault : Result → Bool
  | .error (.fault _) => true
  | _ => false

end Result
end Check

open Check (Result)

namespace Stats

/-- How many results there are, and how many of each kind. -/
def ofResults (results : List Result) : Stats :=
  ⟨results.length, results.countP Result.isPassed, results.countP Result.isInconclusive,
    results.countP Result.isBug⟩

theorem ofResults_append (rs ss : List Result) :
    ofResults (rs ++ ss) = (ofResults rs).merge (ofResults ss) := by
  simp [ofResults, merge]

theorem merge_assoc (a b c : Stats) : (a.merge b).merge c = a.merge (b.merge c) := by
  simp [merge, Nat.add_assoc]

theorem zero_merge (s : Stats) : zero.merge s = s := by simp [zero, merge]

/-- Counting the end of a check adds the counters of its result. -/
theorem count_eq_merge (s : Stats) (r : Except (Halt Interruption) Nat) :
    s.count r = s.merge (ofResults [Outcome.ofTrial r]) := by
  rcases r with (_ | i) | _
  · rfl
  · cases i <;> rfl
  · rfl

/-- **Every result is of one kind**, if none is a missing verdict that was raised. -/
theorem checks_ofResults {results : List Result}
    (h : ∀ r ∈ results, ∀ reason, r ≠ .error (.raised (.inconclusive reason))) :
    results.length = results.countP Result.isPassed + results.countP Result.isInconclusive
      + results.countP Result.isBug + results.countP Result.isFailed
      + results.countP Result.isFault := by
  induction results with
  | nil => rfl
  | cons r results ih =>
    obtain ⟨hr, hrest⟩ := List.forall_mem_cons.mp h
    have hlength := ih hrest
    simp only [List.length_cons, List.countP_cons, hlength]
    -- Whatever the result is, one of the five counts grows by one.
    rcases r with (f | i) | outcome
    · simp [Result.isPassed, Result.isInconclusive, Result.isBug, Result.isFailed, Result.isFault]
      omega
    · cases i with
      | inconclusive reason => exact absurd rfl (hr reason)
      | _ =>
        simp [Result.isPassed, Result.isInconclusive, Result.isBug, Result.isFailed, Result.isFault]
        omega
    · cases outcome <;>
        simp [Result.isPassed, Result.isInconclusive, Result.isBug, Result.isFailed,
          Result.isFault] <;>
        omega

end Stats

namespace Oracle

/-! ## One check -/

/-- **A check changes nothing but the counters**, to which it adds its result. -/
theorem check_oracle (o : Oracle) (c : Client σ) (mode : Mode) (w : World σ) :
    (o.check c mode w).2.1 =
      { o with stats := o.stats.merge (.ofResults [(o.check c mode w).1]) } := by
  show { o with stats := o.stats.count _ } = _
  rw [Stats.count_eq_merge]
  rfl

theorem check_stats (o : Oracle) (c : Client σ) (mode : Mode) (w : World σ) :
    (o.check c mode w).2.1.stats = o.stats.merge (.ofResults [(o.check c mode w).1]) :=
  congrArg Oracle.stats (o.check_oracle c mode w)

/-! ## Histories -/

/-- An occasion for a check: an engine, a mode, and the state of the engine with a stream. An engine
that goes on from check to check is on each occasion in the state that it was left in. -/
structure Occasion where
  State : Type
  client : Client State
  mode : Mode
  world : World State

/-- The check on an occasion. -/
def checkOn (o : Oracle) (x : Occasion) : Result × Oracle × World x.State :=
  o.check x.client x.mode x.world

/-- The requests of the check on an occasion, with their answers. -/
def transcriptOn (o : Oracle) (x : Occasion) : List Exchange := o.transcript x.client x.mode x.world

/-- Checks on one occasion after the other: their results, and the checker after them. -/
def checkAll : Oracle → List Occasion → List Result × Oracle
  | o, [] => ([], o)
  | o, x :: rest =>
    let (r, o, _) := o.checkOn x
    let (rs, o) := checkAll o rest
    (r :: rs, o)

variable (o : Oracle)

theorem checkAll_cons (x : Occasion) (rest : List Occasion) :
    o.checkAll (x :: rest) =
      ((o.checkOn x).1 :: ((o.checkOn x).2.1.checkAll rest).1,
        ((o.checkOn x).2.1.checkAll rest).2) := rfl

theorem checkAll_append (xs ys : List Occasion) :
    o.checkAll (xs ++ ys) =
      ((o.checkAll xs).1 ++ ((o.checkAll xs).2.checkAll ys).1,
        ((o.checkAll xs).2.checkAll ys).2) := by
  induction xs generalizing o with
  | nil => rfl
  | cons x xs ih => rw [List.cons_append, checkAll_cons, checkAll_cons, ih]; rfl

theorem length_checkAll (xs : List Occasion) : (o.checkAll xs).1.length = xs.length := by
  induction xs generalizing o with
  | nil => rfl
  | cons x xs ih => rw [checkAll_cons, List.length_cons, List.length_cons, ih]

/-- **After a history a checker is what it was but for the counters**, to which the results are
added. -/
theorem checkAll_oracle (xs : List Occasion) :
    (o.checkAll xs).2 = { o with stats := o.stats.merge (.ofResults (o.checkAll xs).1) } := by
  induction xs generalizing o with
  | nil => rfl
  | cons x xs ih =>
    have hstep : (o.checkOn x).2.1 = _ := o.check_oracle x.client x.mode x.world
    rw [checkAll_cons, ih, hstep]
    dsimp only
    rw [Stats.merge_assoc, ← Stats.ofResults_append]
    rfl

/-- No check of a history raises a missing verdict. -/
theorem conclusive_checkAll (xs : List Occasion) :
    ∀ r ∈ (o.checkAll xs).1, ∀ reason, r ≠ .error (.raised (.inconclusive reason)) := by
  induction xs generalizing o with
  | nil => nofun
  | cons x xs ih =>
    rw [checkAll_cons]
    exact List.forall_mem_cons.mpr ⟨Outcome.ofTrial_ne_inconclusive _, ih _⟩

/-- A fault in a history comes of a probability that is not a number, or of a lack of room. -/
theorem ofCheck_checkAll (xs : List Occasion) :
    ∀ f, .error (.fault f) ∈ (o.checkAll xs).1 → f.OfCheck o := by
  induction xs generalizing o with
  | nil => nofun
  | cons x xs ih =>
    intro f hf
    rw [checkAll_cons] at hf
    rcases List.mem_cons.mp hf with hfirst | hrest
    · exact ofCheck_of_fault x.mode hfirst.symm
    · -- A fault depends on the options alone, and a check leaves them as they were.
      exact ih (o.checkOn x).2.1 f hrest

/-- **A check does not look at the counters**: its result, its requests and what it leaves behind are
the same whatever they are. -/
theorem checkOn_stats (s : Stats) (x : Occasion) :
    (checkOn { o with stats := s } x).1 = (o.checkOn x).1 ∧
      transcriptOn { o with stats := s } x = o.transcriptOn x ∧
      (checkOn { o with stats := s } x).2.2 = (o.checkOn x).2.2 := ⟨rfl, rfl, rfl⟩

/-- **The counters tell the whole history, and nothing else survives a check.** After any checks of a
new checker, on whatever engines and streams, it has counted all of them, and the passed, inconclusive
and wrong ones among them; the others failed, or met a fault because a probability is not a number or
there is no room for the predicates. Its options and its allowlist are what they were. Each check of the
history comes to the result, makes the requests and leaves the engine and the stream of the same check by
a new checker. -/
theorem history_told (options : Check.Options) (generator : Generate.Options)
    (allowlist : Allowlist) :
    let new := Oracle.new options generator allowlist
    (∀ history : List Occasion,
      let (results, last) := new.checkAll history
      last.stats.checks = history.length ∧
      last.stats.passed = results.countP Result.isPassed ∧
      last.stats.inconclusive = results.countP Result.isInconclusive ∧
      last.stats.bugs = results.countP Result.isBug ∧
      last.stats.checks - (last.stats.passed + last.stats.inconclusive + last.stats.bugs) =
        results.countP Result.isFailed + results.countP Result.isFault ∧
      (∀ f, .error (.fault f) ∈ results → f.OfCheck new) ∧
      last.options = options ∧ last.generator = generator ∧ last.allowlist = allowlist) ∧
    ∀ (before : List Occasion) (x : Occasion) (after : List Occasion),
      let o := (new.checkAll before).2
      (new.checkAll (before ++ x :: after)).1[before.length]? = some (o.checkOn x).1 ∧
      (o.checkOn x).1 = (new.checkOn x).1 ∧
      o.transcriptOn x = new.transcriptOn x ∧
      (o.checkOn x).2.2 = (new.checkOn x).2.2 := by
  intro new
  refine ⟨fun history => ?counters, fun before x after => ?position⟩
  case counters =>
    have hlength := new.length_checkAll history
    have hkinds := Stats.checks_ofResults (new.conclusive_checkAll history)
    have hlast : (new.checkAll history).2 =
        { new with stats := .ofResults (new.checkAll history).1 } := by
      rw [new.checkAll_oracle, show new.stats = .zero from rfl, Stats.zero_merge]
    have hfaults := new.ofCheck_checkAll history
    rcases hrun : new.checkAll history with ⟨results, last⟩
    rw [hrun] at hlength hkinds hlast hfaults
    dsimp only at hlength hkinds hlast hfaults ⊢
    subst hlast
    refine ⟨hlength, rfl, rfl, rfl, ?_, hfaults, rfl, rfl, rfl⟩
    show results.length - (results.countP _ + results.countP _ + results.countP _) = _
    omega
  case position =>
    have hbefore := new.length_checkAll before
    have hplace : (new.checkAll (before ++ x :: after)).1[before.length]? =
        some ((new.checkAll before).2.checkOn x).1 := by
      rw [new.checkAll_append, checkAll_cons, ← hbefore]
      simp
    have hsame := new.checkOn_stats (new.checkAll before).2.stats x
    have ho : (new.checkAll before).2 = { new with stats := (new.checkAll before).2.stats } := by
      rw [new.checkAll_oracle]
    rw [← ho] at hsame
    exact ⟨hplace, hsame⟩

end Oracle
end PredicateOracle
