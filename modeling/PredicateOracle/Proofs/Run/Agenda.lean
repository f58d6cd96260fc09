import PredicateOracle.Proofs.Run.Solo

/-!
# PredicateOracle.Proofs.Run.Agenda -- what a worker does, and when

Emptying a database, filling it and checking it are the tasks of a worker (`Task`). Which tasks come
before which check is fixed beforehand by the configuration (`agenda`), and neither the engine nor the
stream can change that: they only decide how far the worker gets. Turn by turn, the loop of a worker is
its agenda up to the check before which it is told to stop. Of the agenda it does a part from the start
on (`Done`), in which a task that fails is the last. So what holds of single checks (`Followed`) is
proved of beginnings of agendas, without a look at engines.
-/

namespace PredicateOracle.Worker

open PredicateOracle.Random (Stream)
open Run (never)

variable {σ : Type}

/-! ## Tasks -/

/-- What a worker can have to do. -/
inductive Task where
  /-- To empty the database. -/
  | empty
  /-- To fill the empty database. -/
  | fill
  /-- To run check number `k` in a mode. -/
  | check (k : Nat) (mode : Mode)
  deriving DecidableEq, Repr

namespace Task

/-- The number and the mode of a check. -/
def check? : Task → Option (Nat × Mode)
  | .check k mode => some (k, mode)
  | _ => none

/-- The steps of a task. -/
def work (config : Configuration) (b : Backend σ) (worker : Nat) : Task → Work σ Unit
  | .empty => emptying b
  | .fill => filling config b worker
  | .check _ mode => runCheck b mode

end Task

/-! ## Agendas -/

/-- **`Due perDatabase k`** -- check number `k` needs a new database. -/
def Due (perDatabase k : Nat) : Prop := k = 0 ∨ 0 < perDatabase ∧ perDatabase ∣ k

instance (perDatabase k : Nat) : Decidable (Due perDatabase k) :=
  inferInstanceAs (Decidable (k = 0 ∨ 0 < perDatabase ∧ perDatabase ∣ k))

theorem isFresh_iff {perDatabase k : Nat} : isFresh perDatabase k = true ↔ Due perDatabase k := by
  simp [isFresh, Due, Nat.dvd_iff_mod_eq_zero]

section Agenda

variable (config : Configuration)

/-- The tasks that make the database for check number `k`, if it needs a new one. -/
def renewal (k : Nat) : List Task :=
  if Due config.run.checksPerDatabase k then [.empty, .fill] else []

/-- The tasks of the first so many checks. -/
def agenda : Nat → List Task
  | 0 => []
  | k + 1 => agenda k ++ renewal config k ++ [.check k (modeOf config.oracle.modes k)]

/-- The checks of an agenda are numbered without gaps. -/
theorem checks_agenda (m : Nat) : (agenda config m).filterMap Task.check? =
    (List.range m).map fun k => (k, modeOf config.oracle.modes k) := by
  induction m with
  | zero => rfl
  | succ m ih =>
    have hrenewal : (renewal config m).filterMap Task.check? = [] := by
      unfold renewal
      split <;> rfl
    simp [agenda, ih, hrenewal, List.range_succ, Task.check?]

/-- The tasks of a beginning of an agenda number their checks without gaps. -/
theorem checks_of_prefix {tasks : List Task} {m : Nat} (h : tasks <+: agenda config m) :
    ∃ n ≤ m, tasks.filterMap Task.check? =
      (List.range n).map fun k => (k, modeOf config.oracle.modes k) := by
  have hchecks := h.filterMap Task.check?
  rw [checks_agenda, List.prefix_iff_eq_take, ← List.map_take, List.take_range] at hchecks
  exact ⟨_, Nat.min_le_right _ _, hchecks⟩

/-- **`InPlace config before t`** -- the tasks `before` are those that come before the task `t` in an
agenda: a check comes after the checks before it and its new database if it needs one, and a database is
emptied, and then filled, where a check needs a new one. -/
def InPlace (before : List Task) : Task → Prop
  | .empty => ∃ k, Due config.run.checksPerDatabase k ∧ before = agenda config k
  | .fill => ∃ k, Due config.run.checksPerDatabase k ∧ before = agenda config k ++ [.empty]
  | .check k mode =>
    mode = modeOf config.oracle.modes k ∧ before = agenda config k ++ renewal config k

/-- **Every task of an agenda is in its place.** -/
theorem inPlace {before : List Task} {t : Task} {m : Nat}
    (h : before ++ [t] <+: agenda config m) : InPlace config before t := by
  induction m with
  | zero => simp [agenda] at h
  | succ m ih =>
    rcases List.prefix_concat_iff.mp h with hcheck | hearlier
    · obtain ⟨rfl, ht⟩ := List.append_inj' hcheck rfl
      cases ht
      exact ⟨rfl, rfl⟩
    · by_cases hdue : Due config.run.checksPerDatabase m
      · rw [renewal, if_pos hdue, List.append_cons (agenda config m), List.prefix_concat_iff,
          List.prefix_concat_iff] at hearlier
        rcases hearlier with hfill | hempty | hearlier
        · obtain ⟨rfl, ht⟩ := List.append_inj' hfill rfl
          cases ht
          exact ⟨m, hdue, rfl⟩
        · obtain ⟨rfl, ht⟩ := List.append_inj' hempty rfl
          cases ht
          exact ⟨m, hdue, rfl⟩
        · exact ih hearlier
      · rw [renewal, if_neg hdue, List.append_nil] at hearlier
        exact ih hearlier

/-- **Every check has a database that was made for it or for a check before it**: since the last
renewal there have been checks only. -/
theorem exists_renewal (k : Nat) : ∃ earlier checks,
    agenda config k ++ renewal config k = earlier ++ .empty :: .fill :: checks ∧
      ∀ t ∈ checks, t.check?.isSome := by
  have hnew (k : Nat) (hdue : Due config.run.checksPerDatabase k) : ∃ earlier checks,
      agenda config k ++ renewal config k = earlier ++ .empty :: .fill :: checks ∧
        ∀ t ∈ checks, t.check?.isSome :=
    ⟨agenda config k, [], by rw [renewal, if_pos hdue], nofun⟩
  induction k with
  | zero => exact hnew 0 (.inl rfl)
  | succ k ih =>
    by_cases hdue : Due config.run.checksPerDatabase (k + 1)
    · exact hnew (k + 1) hdue
    · obtain ⟨earlier, checks, hsplit, hchecks⟩ := ih
      refine ⟨earlier, checks ++ [.check k (modeOf config.oracle.modes k)], ?_, ?_⟩
      · rw [renewal, if_neg hdue, List.append_nil, agenda, hsplit]
        simp
      · rw [List.forall_mem_append]
        exact ⟨hchecks, by simp [Task.check?]⟩

/-- A new database comes right before the checks that need one. -/
theorem renewal_suffix_iff (k : Nat) :
    [.empty, .fill] <:+ agenda config k ++ renewal config k ↔
      Due config.run.checksPerDatabase k := by
  refine ⟨fun hsuffix => ?_, fun hdue => ?_⟩
  · by_contra hdue
    cases k with
    | zero => exact hdue (.inl rfl)
    | succ k =>
      -- Without a new database the task before the check is another check.
      rw [renewal, if_neg hdue, List.append_nil, agenda] at hsuffix
      obtain ⟨earlier, hearlier⟩ := hsuffix
      rw [List.append_cons] at hearlier
      cases (List.append_inj' hearlier rfl).2
  · rw [renewal, if_pos hdue]
    exact List.suffix_append _ _

end Agenda

/-! ## Remainders -/

/-- The remainder of a division. There is none by zero. -/
def remainder? (a b : Nat) : Option Nat := if b = 0 then none else some (a % b)

/-- Whether a new database is made before check number `k`, if no remainder by zero is needed to tell:
the conditions are looked at from left to right, and no further than necessary. -/
def isFresh? (perDatabase k : Nat) : Option Bool :=
  if k = 0 then some true
  else if 0 < perDatabase then (remainder? k perDatabase).map (· = 0)
  else some false

/-- The mode of check number `k`, if neither a remainder by zero nor a missing mode is needed to
tell. -/
def modeOf? (modes : List Mode) (k : Nat) : Option Mode :=
  (remainder? k modes.length).bind (modes[·]?)

theorem isFresh?_eq_some (perDatabase k : Nat) :
    isFresh? perDatabase k = some (isFresh perDatabase k) := by
  unfold isFresh? isFresh remainder?
  by_cases hk : k = 0
  · simp [hk]
  · by_cases hper : 0 < perDatabase
    · simp [hk, hper, Nat.ne_of_gt hper]
    · simp [hk, hper]

/-- The modes take turns. -/
theorem getElem?_modes {modes : List Mode} (h : modes ≠ []) (k : Nat) :
    modes[k % modes.length]? = some (modeOf modes k) := by
  have hlt : k % modes.length < modes.length := Nat.mod_lt k (List.length_pos_iff.mpr h)
  simp [modeOf, List.getElem?_eq_getElem hlt]

theorem modeOf?_eq_some {modes : List Mode} (h : modes ≠ []) (k : Nat) :
    modeOf? modes k = some (modeOf modes k) := by
  simp [modeOf?, remainder?, h, getElem?_modes h]

/-! ## Following an agenda -/

section Following

variable (config : Configuration) (b : Backend σ) (worker : Nat)

/-- **`Done config b worker tasks s r s'`** -- in the state `s` the worker begins with these tasks, one
after the other, and comes to the result `r` in the state `s'`. Each of them succeeds, but the last
one may fail, and then `r` is its failure. -/
inductive Done : List Task → State σ → Except (Halt Failure) Unit → State σ → Prop
  | none (s : State σ) : Done [] s (.ok ()) s
  | failed {t : Task} {s s' : State σ} {halt : Halt Failure}
      (h : (t.work config b worker).runOn s = (.error halt, s')) : Done [t] s (.error halt) s'
  | next {t : Task} {tasks : List Task} {s s' s'' : State σ} {r : Except (Halt Failure) Unit}
      (h : (t.work config b worker).runOn s = (.ok (), s')) (hrest : Done tasks s' r s'') :
      Done (t :: tasks) s r s''

variable {config b worker}

/-- What comes before a task has succeeded. -/
theorem Done.before {before after : List Task} {t : Task} {s s' : State σ}
    {r : Except (Halt Failure) Unit}
    (h : Done config b worker (before ++ t :: after) s r s') :
    ∃ s₁, Done config b worker before s (.ok ()) s₁ := by
  induction before generalizing s with
  | nil => exact ⟨s, .none s⟩
  | cons u before ih =>
    rw [List.cons_append] at h
    generalize hlater : before ++ t :: after = later at h
    cases h with
    | failed => simp at hlater
    | next hu hrest =>
      obtain ⟨s₁, hs₁⟩ := ih (hlater ▸ hrest)
      exact ⟨s₁, .next hu hs₁⟩

variable (config b worker)

/-- **Of tasks in a row a beginning is done**, and all of them if none fails. -/
theorem exists_done (tasks : List Task) (s : State σ) : ∃ done r s',
    Work.runOn (forM tasks (Task.work config b worker)) s = (r, s') ∧
      Done config b worker done s r s' ∧ done <+: tasks ∧ (r = .ok () → done = tasks) := by
  induction tasks generalizing s with
  | nil => exact ⟨[], .ok (), s, rfl, .none s, List.nil_prefix, fun _ => rfl⟩
  | cons t tasks ih =>
    rw [List.forM_cons, Work.runOn_bind]
    rcases ht : (t.work config b worker).runOn s with ⟨halt | _, s₁⟩
    · refine ⟨[t], .error halt, s₁, rfl, .failed ht, ?_, nofun⟩
      exact List.cons_prefix_cons.mpr ⟨rfl, List.nil_prefix⟩
    · obtain ⟨done, r, s', hrun, hdone, hbegin, hall⟩ := ih s₁
      refine ⟨t :: done, r, s', hrun, .next ht hdone, ?_, fun hr => by rw [hall hr]⟩
      exact List.cons_prefix_cons.mpr ⟨rfl, hbegin⟩

/-- A turn does the tasks of a check. -/
theorem turn_eq_tasks (k : Nat) : turn config b worker k =
    forM (renewal config k ++ [.check k (modeOf config.oracle.modes k)])
      (Task.work config b worker) := by
  rw [turn_eq]
  by_cases hdue : Due config.run.checksPerDatabase k
  · rw [if_pos (isFresh_iff.mpr hdue), renewal, if_pos hdue]
    simp [Task.work, checking]
  · rw [if_neg (mt isFresh_iff.mp hdue), renewal, if_neg hdue]
    simp [Task.work, checking]

/-- **Turns without a stop are the agenda of their checks.** -/
theorem turns_eq_agenda (m : Nat) : turns config b worker never m 0 =
    forM (agenda config m) (Task.work config b worker) := by
  induction m with
  | zero => rfl
  | succ m ih =>
    have hlast : turns config b worker never 1 (0 + m) = turn config b worker m := by
      rw [Nat.zero_add, turns, never]
      simp [turns]
    have hsplit : turns config b worker never (m + 1) 0 = _ :=
      turns_split config b worker m 1 fun _ _ _ => rfl
    rw [hsplit, ih, hlast, turn_eq_tasks, agenda, List.append_assoc, List.forM_append,
      List.forM_append, List.forM_append]

/-- There is a first check before which a worker is told to stop, or none. -/
theorem exists_stop (stops : Nat → Bool) (n : Nat) :
    ∃ m ≤ n, (∀ k < m, stops k = false) ∧ (m < n → stops m = true) := by
  by_cases h : ∃ k < n, stops k = true
  · obtain ⟨hm, hstop⟩ := Nat.find_spec h
    refine ⟨Nat.find h, Nat.le_of_lt hm, fun k hk => ?_, fun _ => hstop⟩
    refine Bool.eq_false_iff.mpr fun hk' => ?_
    exact Nat.find_min h hk ⟨Nat.lt_trans hk hm, hk'⟩
  · refine ⟨n, Nat.le_refl n, fun k hk => ?_, fun hn => absurd hn (Nat.lt_irrefl n)⟩
    exact Bool.eq_false_iff.mpr fun hk' => h ⟨k, hk, hk'⟩

/-- Turns up to a stop are those before it. -/
theorem turns_eq_of_stop {stops : Nat → Bool} {m n : Nat} (hm : m ≤ n)
    (hgoes : ∀ k < m, stops k = false) (hstops : m < n → stops m = true) :
    turns config b worker stops n 0 = turns config b worker never m 0 := by
  obtain ⟨d, rfl⟩ := Nat.exists_eq_add_of_le hm
  have hnothing : turns config b worker stops d (0 + m) = pure () := by
    cases d with
    | zero => rfl
    | succ d => exact turns_stopped config b worker _ (by rw [Nat.zero_add]; exact hstops (by omega))
  rw [turns_split config b worker m d fun k _ hk => hgoes k (by omega), hnothing]
  simp

/-- **`Followed config b worker stops s₀ m tasks r s`** -- from the state `s₀` the worker has followed the
agenda of `m` checks as far as it could: it has begun these tasks, and come to the result `r` in the
state `s`. -/
structure Followed (stops : Nat → Bool) (s₀ : State σ) (m : Nat) (tasks : List Task)
    (r : Except (Halt Failure) Unit) (s : State σ) : Prop where
  /-- Every task has succeeded but the last, which may have failed. -/
  done : Done config b worker tasks s₀ r s
  /-- There are no more than `m` checks to run. -/
  limit : m ≤ config.run.checksPerWorker
  /-- The worker is not told to stop before one of them. -/
  goes : ∀ k < m, stops k = false
  /-- If there are fewer than were asked for, it is told to stop after them. -/
  stopped : m < config.run.checksPerWorker → stops m = true
  /-- The tasks are those of the agenda, in its order. -/
  begun : tasks <+: agenda config m
  /-- Nothing is left out unless a task fails. -/
  whole : r = .ok () → tasks = agenda config m
  /-- The checks are numbered without gaps. -/
  numbered : ∃ n ≤ m, (r = .ok () → n = m) ∧ tasks.filterMap Task.check? =
    (List.range n).map fun k => (k, modeOf config.oracle.modes k)
  /-- Every task comes in its place, after tasks that have succeeded. -/
  placed : ∀ before t after, tasks = before ++ t :: after → InPlace config before t ∧
    ∃ s₁, Done config b worker before s₀ (.ok ()) s₁
  /-- The modes take turns. A check has a new database if one is due and only then, and since the last
  new database there have been checks only. -/
  checked : ∀ before k mode after, tasks = before ++ .check k mode :: after →
    config.oracle.modes[k % config.oracle.modes.length]? = some mode ∧
    ([.empty, .fill] <:+ before ↔ Due config.run.checksPerDatabase k) ∧
    ∃ earlier checks, before = earlier ++ .empty :: .fill :: checks ∧
      ∀ t ∈ checks, t.check?.isSome

/-- **The turns of a worker are its agenda, followed as far as it can be.** -/
theorem exists_followed (hmodes : config.oracle.modes ≠ []) (stops : Nat → Bool) (s₀ : State σ) :
    ∃ m tasks r s,
      (turns config b worker stops config.run.checksPerWorker 0).runOn s₀ = (r, s) ∧
        Followed config b worker stops s₀ m tasks r s := by
  obtain ⟨m, hm, hgoes, hstops⟩ := exists_stop stops config.run.checksPerWorker
  obtain ⟨tasks, r, s, hrun, hdone, hbegin, hall⟩ := exists_done config b worker (agenda config m) s₀
  rw [← turns_eq_agenda, ← turns_eq_of_stop config b worker hm hgoes hstops] at hrun
  have hplace (before : List Task) (t : Task) (after : List Task)
      (hsplit : tasks = before ++ t :: after) : InPlace config before t := by
    rw [hsplit, List.append_cons] at hbegin
    exact inPlace config ((List.prefix_append _ _).trans hbegin)
  refine ⟨m, tasks, r, s, hrun, hdone, hm, hgoes, hstops, hbegin, hall, ?numbered, ?placed, ?checked⟩
  case numbered =>
    obtain ⟨n, hn, hchecks⟩ := checks_of_prefix config hbegin
    refine ⟨n, hn, fun hr => ?_, hchecks⟩
    have hlength := congrArg List.length hchecks
    rw [hall hr, checks_agenda] at hlength
    simpa using hlength.symm
  case placed =>
    intro before t after hsplit
    exact ⟨hplace before t after hsplit, (hsplit ▸ hdone).before⟩
  case checked =>
    intro before k mode after hsplit
    obtain ⟨rfl, rfl⟩ := hplace before _ after hsplit
    exact ⟨getElem?_modes hmodes k, renewal_suffix_iff config k, exists_renewal config k⟩

end Following

/-- **A worker follows its agenda.** Let there be a mode, and whatever the engine answers, the stream
says and the polls show: a worker whose engine does not open does nothing, and any other does the tasks
of its agenda up to the check before which it is told to stop, or to the first task that fails
(`Followed`). The report of the worker, its stream, and the engine with all that it was sent are what
these tasks leave. To tell whether a database is due, and in what mode to check, no remainder by zero
is needed. -/
theorem agenda_followed (config : Configuration) (hmodes : config.oracle.modes ≠ [])
    (b : Backend σ) (worker : Nat) (stream : Stream) (stops : Nat → Bool) :
    (∀ e, run config b worker stream stops (.error e) =
      (⟨worker, stream.seed, .zero, some (.engine e)⟩, none)) ∧
    (∀ engine, ∃ m tasks r s,
      Followed config b worker stops (.start config stream engine) m tasks r s ∧
      drive config b worker stream stops engine =
        (reportOf worker stream.seed r s.oracle.stats, s) ∧
      run config b worker stream stops (.ok engine) =
        (reportOf worker stream.seed r s.oracle.stats, some s.world.engine)) ∧
    ∀ k, isFresh? config.run.checksPerDatabase k = some (isFresh config.run.checksPerDatabase k) ∧
      modeOf? config.oracle.modes k = some (modeOf config.oracle.modes k) := by
  refine ⟨fun e => ?closed, fun engine => ?opened, fun k => ?remainders⟩
  case closed => rw [run, if_neg (by simpa using hmodes)]
  case opened =>
    obtain ⟨m, tasks, r, s, hrun, hfollowed⟩ :=
      exists_followed config b worker hmodes stops (.start config stream engine)
    have hdrive : drive config b worker stream stops engine =
        (reportOf worker stream.seed r s.oracle.stats, s) := by
      unfold Work.runOn at hrun
      rw [drive, hrun]
    refine ⟨m, tasks, r, s, hfollowed, hdrive, ?_⟩
    rw [run, if_neg (by simpa using hmodes), hdrive]
  case remainders => exact ⟨isFresh?_eq_some _ k, modeOf?_eq_some hmodes k⟩

/-- A worker that makes a new database every two checks and is told to stop before its fourth check: it
has no more to do than three checks and two databases. -/
theorem agenda_followed_three_checks :
    let config : Configuration := { Configuration.standard with
      run := { RunOptions.standard with checksPerWorker := 5, checksPerDatabase := 2 } }
    let b : Backend Unit := { Sample.client fun _ => [] with reset := return .ok () }
    let stream := Stream.ofSeed 7
    config.oracle.modes ≠ [] ∧
    ∃ tasks r s, Done config b 0 tasks (.start config stream ()) r s ∧
      drive config b 0 stream (3 ≤ ·) () = (reportOf 0 stream.seed r s.oracle.stats, s) ∧
      tasks <+: [.empty, .fill, .check 0 .plain, .check 1 .distinct, .empty, .fill,
        .check 2 .plain] ∧
      (r = .ok () → tasks.length = 7) := by
  intro config b stream
  obtain ⟨-, hopened, -⟩ := agenda_followed config nofun b 0 stream (3 ≤ ·)
  obtain ⟨m, tasks, r, s, hfollowed, hdrive, -⟩ := hopened ()
  have hmoment : m = 3 := by
    have hbefore : m ≤ 3 := by
      by_contra hlater
      simpa using hfollowed.goes 3 (Nat.lt_of_not_le hlater)
    have hchecks : config.run.checksPerWorker = 5 := rfl
    have hafter : 3 ≤ m := of_decide_eq_true (hfollowed.stopped (by omega))
    omega
  have hagenda : agenda config m = [.empty, .fill, .check 0 .plain, .check 1 .distinct, .empty,
      .fill, .check 2 .plain] := by
    rw [hmoment]
    decide
  have hbegun := hfollowed.begun
  have hwhole := hfollowed.whole
  rw [hagenda] at hbegun hwhole
  exact ⟨nofun, tasks, r, s, hfollowed.done, hdrive, hbegun, fun hr => by rw [hwhole hr]; rfl⟩

end PredicateOracle.Worker
