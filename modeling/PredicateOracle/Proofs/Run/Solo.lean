import PredicateOracle.Proofs.Run.Cluster

/-!
# PredicateOracle.Proofs.Run.Solo -- a worker among others does what it does alone

`Worker.solo` is the run of one worker that nobody disturbs, up to a check before which it is told
to stop. `Follows` says of a stage that the worker has come to it as it would alone: before a check
it has done the turns up to that check (`Reaches`), within a turn it has a part of the turn left to
do (`Within`), and at its end it leaves what the worker leaves alone. Every step keeps this,
whatever the flag and the clock show, because they only decide whether there is a next turn.
-/

namespace PredicateOracle

open Worker (State Report Work turns turn)
open Run (Kit Stage)

variable {σ : Type}

/-- The answers of somebody who never says stop. -/
def Run.never : Nat → Bool := fun _ => false

open Run (never)

namespace Worker

/-- A worker by itself, which is told to stop where `stops` says so: its report, and the state that it
leaves if it had an engine. -/
def solo (config : Configuration) (worker : Nat) (kit : Kit σ) (stops : Nat → Bool) :
    Report × Option (State σ) :=
  if config.oracle.modes.isEmpty then
    (⟨worker, kit.stream.seed, .zero, some .noModes⟩, none)
  else
    match kit.engine with
    | .error e => (⟨worker, kit.stream.seed, .zero, some (.engine e)⟩, none)
    | .ok engine =>
      let (report, s) := drive config kit.backend worker kit.stream stops engine
      (report, some s)

/-- A worker of a run is one by itself, of which the last state of its engine is kept. -/
theorem run_eq_solo (config : Configuration) (worker : Nat) (kit : Kit σ) (stops : Nat → Bool) :
    run config kit.backend worker kit.stream stops kit.engine =
      ((solo config worker kit stops).1,
        (solo config worker kit stops).2.map (·.world.engine)) := by
  unfold run solo
  split
  · rfl
  · cases kit.engine <;> rfl

/-! ## Turns -/

section Turns

variable (config : Configuration) (b : Backend σ) (worker : Nat)

/-- Turns before which a worker is not told to stop come first, and then the others. -/
theorem turns_split {stops : Nat → Bool} (m n : Nat) {k : Nat}
    (h : ∀ j, k ≤ j → j < k + m → stops j = false) :
    turns config b worker stops (m + n) k =
      turns config b worker never m k >>= fun _ => turns config b worker stops n (k + m) := by
  induction m generalizing k with
  | zero =>
    rw [Nat.zero_add, turns, pure_bind]
    rfl
  | succ m ih =>
    have hrest := ih (k := k + 1) fun j hle hlt => h j (by omega) (by omega)
    have hk : stops k = false := h k (Nat.le_refl k) (by omega)
    rw [Nat.succ_add, turns, turns, hk, hrest, Nat.add_right_comm k 1 m]
    simp [never, Nat.add_assoc]

/-- A worker that is told to stop does nothing more. -/
theorem turns_stopped {stops : Nat → Bool} (n : Nat) {k : Nat} (h : stops k = true) :
    turns config b worker stops n k = pure () := by
  cases n with
  | zero => rfl
  | succ n => rw [turns, h]; rfl

/-- After so many turns comes the next one. -/
theorem runOn_turns_next (n : Nat) {k : Nat} {s s₀ : State σ}
    (h : (turns config b worker never k 0).runOn s = (.ok (), s₀)) :
    (turns config b worker never (k + (n + 1)) 0).runOn s =
      (turn config b worker k >>= fun _ => turns config b worker never n (k + 1)).runOn s₀ := by
  have hsplit : turns config b worker never (k + (n + 1)) 0 = _ :=
    turns_split config b worker k (n + 1) fun _ _ _ => rfl
  rw [hsplit, Work.runOn_bind, h, Nat.zero_add]
  rfl

end Turns

variable {config : Configuration} {worker : Nat} {kit : Kit σ}

/-- What a worker by itself does with an engine is its turns. -/
theorem solo_of_turns {stops : Nat → Bool} {engine : σ} {r : Except (Halt Failure) Unit}
    {s : State σ} (hmodes : config.oracle.modes.isEmpty = false) (hengine : kit.engine = .ok engine)
    (h : (turns config kit.backend worker stops config.run.checksPerWorker 0).runOn
      (.start config kit.stream engine) = (r, s)) :
    solo config worker kit stops =
      (reportOf worker kit.stream.seed r s.oracle.stats, some s) := by
  have hdrive : drive config kit.backend worker kit.stream stops engine =
      (reportOf worker kit.stream.seed r s.oracle.stats, s) := by
    unfold Work.runOn at h
    unfold drive
    dsimp only
    rw [h]
  simp only [solo, hmodes, hengine, hdrive, Bool.false_eq_true, if_false]

/-- To be told to stop after the last check makes no difference. -/
theorem solo_last : solo config worker kit (config.run.checksPerWorker ≤ ·) =
    solo config worker kit never := by
  have hturns : turns config kit.backend worker (config.run.checksPerWorker ≤ ·)
      config.run.checksPerWorker 0 =
        turns config kit.backend worker never config.run.checksPerWorker 0 := by
    rw [← Nat.add_zero config.run.checksPerWorker, turns_split, turns_split]
    · rfl
    · exact fun _ _ _ => rfl
    · exact fun j _ hj => decide_eq_false (by omega)
  unfold solo drive
  rw [hturns]

/-! ## On the way -/

/-- **`Reaches config worker kit k s`** -- alone, the worker is in the state `s` before check number
`k`. -/
structure Reaches (config : Configuration) (worker : Nat) (kit : Kit σ) (k : Nat) (s : State σ) :
    Prop where
  modes : config.oracle.modes.isEmpty = false
  due : k ≤ config.run.checksPerWorker
  turns : ∃ engine, kit.engine = .ok engine ∧
    (turns config kit.backend worker never k 0).runOn (.start config kit.stream engine) = (.ok (), s)

/-- **`Within config worker kit k t s`** -- alone, the worker is in the state `s` in the turn of
check number `k`, with `t` left to do of it. -/
def Within (config : Configuration) (worker : Nat) (kit : Kit σ) (k : Nat) (t : Work σ Unit)
    (s : State σ) : Prop :=
  k < config.run.checksPerWorker ∧ ∃ s₀, Reaches config worker kit k s₀ ∧
    (turn config kit.backend worker k).runOn s₀ = t.runOn s

namespace Reaches

variable {k : Nat} {s s' : State σ}

/-- The state before a check is what a worker leaves that is told to stop there. -/
theorem solo_eq (h : Reaches config worker kit k s) : solo config worker kit (k ≤ ·) =
    (reportOf worker kit.stream.seed (.ok ()) s.oracle.stats, some s) := by
  obtain ⟨hmodes, hdue, engine, hengine, hrun⟩ := h
  refine solo_of_turns hmodes hengine ?_
  obtain ⟨n, hn⟩ := Nat.exists_eq_add_of_le hdue
  rw [hn, turns_split, Work.runOn_bind, hrun]
  · dsimp only
    rw [turns_stopped _ _ _ _ (decide_eq_true (Nat.le_of_eq (Nat.zero_add k).symm))]
    rfl
  · exact fun j _ hj => decide_eq_false (by omega)

end Reaches

namespace Within

variable {k : Nat} {s s' : State σ} {t u : Work σ Unit}

/-- A part of the turn is done. -/
theorem advance (h : Within config worker kit k (t >>= fun _ => u) s)
    (ht : t.runOn s = (.ok (), s')) : Within config worker kit k u s' := by
  obtain ⟨hdue, s₀, hs₀, hturn⟩ := h
  refine ⟨hdue, s₀, hs₀, ?_⟩
  rw [hturn, Work.runOn_bind, ht]

/-- The turn is done. -/
theorem reaches (h : Within config worker kit k t s) (ht : t.runOn s = (.ok (), s')) :
    Reaches config worker kit (k + 1) s' := by
  obtain ⟨hdue, s₀, ⟨hmodes, -, engine, hengine, hrun⟩, hturn⟩ := h
  refine ⟨hmodes, hdue, engine, hengine, ?_⟩
  rw [runOn_turns_next _ _ _ 0 hrun, Work.runOn_bind, hturn, ht]
  rfl

/-- What is left of the turn fails, and nothing is done after that. -/
theorem solo_eq {halt : Halt Failure} (h : Within config worker kit k t s)
    (ht : t.runOn s = (.error halt, s')) : solo config worker kit never =
      (reportOf worker kit.stream.seed (.error halt) s'.oracle.stats, some s') := by
  obtain ⟨hdue, s₀, ⟨hmodes, -, engine, hengine, hrun⟩, hturn⟩ := h
  refine solo_of_turns hmodes hengine ?_
  obtain ⟨n, hn⟩ := Nat.exists_eq_add_of_lt hdue
  rw [hn, Nat.add_assoc, runOn_turns_next _ _ _ n hrun, Work.runOn_bind, hturn, ht]

end Within
end Worker

/-! ## Stages -/

namespace Run

/-- **`Follows config worker kit stage`** -- the worker has come to this stage as it would alone. -/
def Follows (config : Configuration) (worker : Nat) (kit : Kit σ) : Stage σ → Prop
  | .waiting => True
  | .asking k s => Worker.Reaches config worker kit k s
  | .timing k s => k < config.run.checksPerWorker ∧ Worker.Reaches config worker kit k s
  | .emptying k s => Worker.Within config worker kit k
      (Worker.emptying kit.backend >>= fun _ => Worker.filling config kit.backend worker >>= fun _ =>
        Worker.checking config kit.backend k) s
  | .filling k s => Worker.Within config worker kit k
      (Worker.filling config kit.backend worker >>= fun _ =>
        Worker.checking config kit.backend k) s
  | .checking k s => Worker.Within config worker kit k (Worker.checking config kit.backend k) s
  | .failing f s => Worker.solo config worker kit never =
      (Worker.reportOf worker kit.stream.seed (.error (.raised f))
        ((s.map (·.oracle.stats)).getD .zero), s)
  | .ended report s =>
      (∃ k ≤ config.run.checksPerWorker,
        Worker.solo config worker kit (k ≤ ·) = (report, s)) ∧
      (report.failure ≠ none → Worker.solo config worker kit never = (report, s))

namespace Follows

variable {config : Configuration} {worker : Nat} {kit : Kit σ}

/-- A worker that has come to the end of its run alone. -/
theorem ended_of_never {report : Report} {s : Option (State σ)}
    (h : Worker.solo config worker kit never = (report, s)) :
    Follows config worker kit (.ended report s) :=
  ⟨⟨_, Nat.le_refl _, Worker.solo_last.trans h⟩, fun _ => h⟩

/-- A worker that stops before a check. -/
theorem finish_of_reaches {k : Nat} {s : State σ} (h : Worker.Reaches config worker kit k s) :
    Follows config worker kit (.finish worker kit.stream.seed (.ok ()) (some s)) :=
  ⟨⟨k, h.due, h.solo_eq⟩, fun hfailure => absurd rfl hfailure⟩

/-- A part of a turn is one step: it leads to the next stage, or to what the turn fails with. -/
theorem after {t : Work σ Unit} {s : State σ} {next : State σ → Stage σ}
    (hok : ∀ s', t.runOn s = (.ok (), s') → Follows config worker kit (next s'))
    (herror : ∀ halt s', t.runOn s = (.error halt, s') → Worker.solo config worker kit never =
      (Worker.reportOf worker kit.stream.seed (.error halt) s'.oracle.stats, some s')) :
    Follows config worker kit (.after worker kit.stream.seed next (t.runOn s)) := by
  rcases hrun : t.runOn s with ⟨(f | f) | _, s'⟩
  · exact ended_of_never (herror _ s' hrun)
  · exact herror _ s' hrun
  · exact hok s' hrun

/-- A part of a turn that has another part after it. -/
theorem after_part {k : Nat} {t u : Work σ Unit} {s : State σ} {next : State σ → Stage σ}
    (h : Worker.Within config worker kit k (t >>= fun _ => u) s)
    (hnext : ∀ s', Worker.Within config worker kit k u s' → Follows config worker kit (next s')) :
    Follows config worker kit (.after worker kit.stream.seed next (t.runOn s)) := by
  refine after (fun s' hs' => hnext s' (h.advance hs')) fun halt s' hs' => h.solo_eq ?_
  rw [Work.runOn_bind, hs']

/-- **Every step of a worker is one that it takes alone**, whatever the flag and the clock show. -/
theorem next (stop expired : Bool) {stage : Stage σ} (h : Follows config worker kit stage) :
    Follows config worker kit (stage.next config worker kit stop expired) := by
  cases stage with
  | waiting =>
    dsimp only [Stage.next]
    split
    · rename_i hmodes
      simp [Follows, Worker.solo, hmodes, Worker.reportOf, Worker.failureOf]
    · rename_i hmodes
      have hmodes : config.oracle.modes.isEmpty = false := Bool.eq_false_iff.mpr hmodes
      cases hengine : kit.engine with
      | error e => simp [Follows, Worker.solo, hmodes, hengine, Worker.reportOf, Worker.failureOf]
      | ok engine => exact ⟨hmodes, Nat.zero_le _, engine, hengine, rfl⟩
  | asking k s =>
    dsimp only [Stage.next]
    split
    · exact finish_of_reaches h
    · rename_i hgo
      have hdue : k < config.run.checksPerWorker := by
        by_contra hk
        exact hgo (by simp [Nat.le_of_not_lt hk])
      exact ⟨hdue, h⟩
  | timing k s =>
    obtain ⟨hdue, hs⟩ := h
    have hturn := Worker.turn_eq config kit.backend worker k
    dsimp only [Stage.next]
    split
    · exact finish_of_reaches hs
    · split
      · rename_i hfresh
        rw [if_pos hfresh] at hturn
        exact ⟨hdue, s, hs, by rw [hturn]⟩
      · rename_i hstale
        rw [if_neg hstale] at hturn
        exact ⟨hdue, s, hs, by rw [hturn]⟩
  | emptying k s => exact after_part h fun _ hs' => hs'
  | filling k s => exact after_part h fun _ hs' => hs'
  | checking k s => exact after (fun s' hs' => h.reaches hs') fun halt s' hs' => h.solo_eq hs'
  | failing f s => exact ended_of_never h
  | ended report s => exact h

end Follows

/-- **In a run, every worker is where it would be alone**, however the workers take turns. -/
theorem Cluster.follows (config : Configuration) (kits : Nat → Kit σ) (started : Nat)
    (events : List Event) (i : Nat) :
    Follows config i (kits i) ((Cluster.run config kits started events).stage i) :=
  run_keeps (P := fun i => Follows config i (kits i)) (fun _ => trivial)
    (fun _ stop expired _ h => h.next stop expired) started events i

end Run
end PredicateOracle
