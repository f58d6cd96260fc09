import PredicateOracle.Proofs.Check.Verdict

/-!
# PredicateOracle.Proofs.Check.Allowlist -- what an allowlist can change

A check looks at its allowlist in one place only, when a query was refused, and whichever way it
decides there, the check is over. So two checks from one world that differ in their allowlists do the
same and say the same, and their ends differ in the name of that refusal at most. `Session.Recasts`
states this of steps: it holds of every part of a check, from the parts that have nothing to do with
allowlists up to the whole (`Oracle.trial_recasts`).
-/

namespace PredicateOracle

open Check

/-! ## Steps with other errors -/

namespace Session

variable {ε σ α β : Type}

/-- **`Recasts f t u`** -- in every world the steps `u` do what the steps `t` do, and where `t` ends
early, `u` ends with what `f` makes of that. -/
def Recasts (f : Halt ε → Halt ε) (t u : Session ε σ α) : Prop :=
  ∀ w, u.runOn w = ((t.runOn w).1.mapError f, (t.runOn w).2)

namespace Recasts

variable {f : Halt ε → Halt ε} {t u : Session ε σ α} {k l : α → Session ε σ β}

theorem pure (a : α) : Recasts f (pure a : Session ε σ α) (pure a) := by
  intro w
  rfl

theorem get : Recasts f (get : Session ε σ (World σ)) get := by
  intro w
  rfl

theorem raise {e e' : ε} (h : f (.raised e) = .raised e') :
    Recasts f (raise e : Session ε σ α) (raise e') := by
  intro w
  simp only [runOn_raise, Except.mapError, h]

theorem bind (ht : Recasts f t u) (hk : ∀ a, Recasts f (k a) (l a)) :
    Recasts f (t >>= k) (u >>= l) := by
  intro w
  rw [runOn_bind, runOn_bind, ht w]
  rcases t.runOn w with ⟨halt | a, w'⟩
  · rfl
  · exact hk a w'

/-- A draw can meet a fault, and that is no error. -/
theorem draw (hf : ∀ fault, f (.fault fault) = .fault fault) (g : Gen α) :
    Recasts f (draw g : Session ε σ α) (draw g) := by
  intro w
  rw [runOn_draw]
  rcases g.runOn w.stream with ⟨fault | a, s⟩
  · simp only [Except.mapError, hf]
  · rfl

theorem ask {refused refused' : EngineError → ε}
    (h : ∀ e, f (.raised (refused e)) = .raised (refused' e)) (r : StateM σ (Answer α)) :
    Recasts f (ask r refused) (ask r refused') := by
  refine bind (t := request r) (u := request r) (fun w => ?_) fun answer => ?_
  · rw [runOn_request]
    rfl
  · cases answer with
    | ok a => exact pure a
    | error e => exact raise (h e)

end Recasts
end Session

/-! ## Allowlists -/

namespace Allowlist

/-- **`b.Covers a`** -- every message that `a` expects is expected by `b`. -/
def Covers (b a : Allowlist) : Prop := ∀ message, a.expects message = true → b.expects message = true

theorem covers_empty (b : Allowlist) : b.Covers .empty := by
  intro message h
  exact absurd h (by simp [expects, empty])

theorem covers_extend (a b : Allowlist) : (a.extend b).Covers a := by
  intro message h
  simp only [expects, extend, List.any_append, Bool.or_eq_true] at h ⊢
  exact .inl h

theorem covers_add (a : Allowlist) (text : String) : (a.add text).Covers a :=
  covers_extend a ⟨[text]⟩

/-- What an allowlist makes of the end of a check: a refusal that was not expected is looked at
once more. -/
def excuse (b : Allowlist) : Halt Interruption → Halt Interruption
  | .raised (.unexpected query message) => .raised (b.classify query ⟨message⟩)
  | halt => halt

/-- A refusal that an allowlist expects is expected by every allowlist that covers it. -/
theorem Covers.excuse_classify {a b : Allowlist} (h : b.Covers a) (query : String)
    (e : EngineError) :
    b.excuse (.raised (a.classify query e)) = .raised (b.classify query e) := by
  by_cases ha : a.expects e.message = true
  · have hb : b.expects e.message = true := h e.message ha
    rw [classify, if_pos ha, classify, if_pos hb]
    rfl
  · rw [classify, if_neg ha]
    rfl

end Allowlist

/-! ## Checks -/

namespace Oracle

variable {σ : Type}

/-- The checker with another allowlist. -/
def withAllowlist (o : Oracle) (a : Allowlist) : Oracle := { o with allowlist := a }

open Session (Recasts)

variable (o : Oracle) {a b : Allowlist} (c : Client σ)

theorem settle_recasts {α : Type} (r : Except Defect α) :
    Recasts b.excuse (Trial.settle r : Trial σ α) (Trial.settle r) := by
  cases r with
  | ok value => exact .pure value
  | error d => exact .raise rfl

theorem planning_recasts :
    Recasts b.excuse ((o.withAllowlist a).planning c) ((o.withAllowlist b).planning c) := by
  have hopening : Recasts b.excuse ((o.withAllowlist a).opening c)
      ((o.withAllowlist b).opening c) := by
    refine .bind (.draw (fun _ => rfl) _) fun release => ?_
    cases release with
    | true => exact .ask (fun _ => rfl) _
    | false => exact .pure ()
  refine .bind hopening fun _ => .bind (.ask (fun _ => rfl) _) fun schema => ?_
  refine .bind (.draw (fun _ => rfl) _) fun plan => ?_
  cases plan with
  | none => exact .raise rfl
  | some plan => exact .pure plan

section Covered

variable (h : b.Covers a)
include h

theorem rows_recasts (query : String) : Recasts b.excuse (c.rows a query) (c.rows b query) := by
  refine .bind (.ask (h.excuse_classify query) _) fun result => ?_
  cases result with
  | none => exact .raise rfl
  | some rows => exact .pure rows

theorem survey_recasts (plan : Plan) :
    Recasts b.excuse ((o.withAllowlist a).survey c plan) ((o.withAllowlist b).survey c plan) := by
  refine .bind (.bind (rows_recasts c h _) fun rows => settle_recasts _) fun s => ?_
  refine .bind (.draw (fun _ => rfl) _) fun compound => ?_
  cases compound with
  | none => exact .raise rfl
  | some compound => exact .pure _

theorem confront_recasts (mode : Mode) (plan : Plan) (s : Snapshot) (compound : Known) :
    Recasts b.excuse ((o.withAllowlist a).confront c mode plan s compound)
      ((o.withAllowlist b).confront c mode plan s compound) := by
  refine .bind (settle_recasts _) fun expected => .bind (rows_recasts c h _) fun actual => ?_
  refine .bind .get fun w => ?_
  -- A judgement is no refusal: it passes the answer or reports it.
  unfold judge
  cases Comparison.mismatch? (.forQuery (mode = .distinct) plan.ordered) expected actual with
  | none => exact .pure expected.length
  | some m => exact .raise rfl

/-- **With an allowlist that covers another one a check does the same**, and only what was refused
unexpectedly is looked at once more. -/
theorem trial_recasts (mode : Mode) :
    Recasts b.excuse ((o.withAllowlist a).trial c mode) ((o.withAllowlist b).trial c mode) := by
  refine .bind (o.planning_recasts c) fun plan => .bind (o.survey_recasts c h plan) fun known => ?_
  exact o.confront_recasts c h mode plan known.1 known.2

end Covered

/-- **`IsRefusal outcome`** -- the outcome of a check tells of a refused query. -/
def IsRefusal : Except (Halt Interruption) Outcome → Prop
  | .ok (.inconclusive (.expectedError _ _)) | .error (.raised (.unexpected _ _)) => True
  | _ => False

/-- **`Excuses b r r'`** -- the outcome `r'` is `r`, unless `r` is an unexpected refusal whose
message `b` expects: then there is no verdict. -/
inductive Excuses (b : Allowlist) :
    Except (Halt Interruption) Outcome → Except (Halt Interruption) Outcome → Prop
  | excused {query message : String} (h : b.expects message = true) :
    Excuses b (.error (.raised (.unexpected query message)))
      (.ok (.inconclusive (.expectedError query message)))
  | same {r : Except (Halt Interruption) Outcome}
    (h : ∀ query message, r = .error (.raised (.unexpected query message)) →
      b.expects message = false) : Excuses b r r

theorem excuses_ofTrial (b : Allowlist) (r : Except (Halt Interruption) Nat) :
    Excuses b (Outcome.ofTrial r) (Outcome.ofTrial (r.mapError b.excuse)) := by
  rcases r with (f | i) | rows
  · exact .same nofun
  · cases i with
    | unexpected query message =>
      show Excuses b _ (Outcome.ofTrial (.error (.raised (b.classify query ⟨message⟩))))
      by_cases hb : b.expects message = true
      · rw [Allowlist.classify, if_pos hb]
        exact .excused hb
      · rw [Allowlist.classify, if_neg hb]
        refine .same fun query' message' hunexpected => ?_
        cases hunexpected
        exact Bool.eq_false_iff.mpr hb
    | _ => exact .same nofun
  · exact .same nofun

/-- What is no refusal after an excuse was the same before. -/
theorem Excuses.eq_of_not_isRefusal {b : Allowlist} {r r' : Except (Halt Interruption) Outcome}
    (h : Excuses b r r') (hr : ¬ IsRefusal r ∨ ¬ IsRefusal r') : r' = r := by
  cases h with
  | excused _ => exact hr.elim (absurd trivial) (absurd trivial)
  | same _ => rfl

theorem Excuses.of_expects {b : Allowlist} {query message : String}
    {r : Except (Halt Interruption) Outcome}
    (h : Excuses b (.error (.raised (.unexpected query message))) r)
    (hb : b.expects message = true) : r = .ok (.inconclusive (.expectedError query message)) := by
  cases h with
  | excused _ => rfl
  | same hnone => exact absurd hb (by rw [hnone query message rfl]; decide)

/-- Two checks whose allowlists differ leave one world, and their outcomes differ by an excuse. -/
theorem check_excuses (h : b.Covers a) (mode : Mode) (w : World σ) :
    ((o.withAllowlist b).check c mode w).2.2 = ((o.withAllowlist a).check c mode w).2.2 ∧
      Excuses b ((o.withAllowlist a).check c mode w).1 ((o.withAllowlist b).check c mode w).1 := by
  have htrial := o.trial_recasts c h mode w
  have hexcuses := excuses_ofTrial b (((o.withAllowlist a).trial c mode).runOn w).1
  unfold check
  rw [htrial]
  exact ⟨rfl, hexcuses⟩

/-- **An allowlist can neither hide nor make up a bug.** With an allowlist that covers another one
a check has the same conversation and leaves the same engine and the same stream, and its outcome is
the same but for a refusal that the greater allowlist alone expects. Whatever is not about a refusal
-- that a check is passed, a bug, a defect, a failure of the engine -- depends on no allowlist at all.
An allowlist that is added to covers what it was. -/
theorem allowlist_only_excuses (mode : Mode) (w : World σ) (a b : Allowlist) :
    (b.Covers a →
      (o.withAllowlist b).transcript c mode w = (o.withAllowlist a).transcript c mode w ∧
      ((o.withAllowlist b).check c mode w).2.2 = ((o.withAllowlist a).check c mode w).2.2 ∧
      Excuses b ((o.withAllowlist a).check c mode w).1 ((o.withAllowlist b).check c mode w).1) ∧
    (¬ IsRefusal ((o.withAllowlist a).check c mode w).1 →
      ((o.withAllowlist b).check c mode w).1 = ((o.withAllowlist a).check c mode w).1) ∧
    (a.extend b).Covers a ∧ ∀ text, (a.add text).Covers a := by
  refine ⟨fun h => ?_, fun ha => ?_, a.covers_extend b, a.covers_add⟩
  · obtain ⟨hworld, hexcuses⟩ := o.check_excuses c h mode w
    obtain ⟨hrecorded, -⟩ := o.check_excuses c.recorded h mode ⟨(w.engine, []), w.stream⟩
    refine ⟨?_, hworld, hexcuses⟩
    unfold transcript
    rw [hrecorded]
  · -- Both are compared with the check that expects nothing.
    obtain ⟨-, hexcuses⟩ := o.check_excuses c a.covers_empty mode w
    obtain ⟨-, hexcuses'⟩ := o.check_excuses c b.covers_empty mode w
    have hempty := hexcuses.eq_of_not_isRefusal (.inr ha)
    rw [hempty] at ha ⊢
    exact hexcuses'.eq_of_not_isRefusal (.inl ha)

/-- An engine refuses the first query of the sample check. Whoever expects nothing calls that
fatal; whoever expects that numbers can be too large gets no verdict, after the same conversation. -/
theorem allowlist_only_excuses_out_of_range :
    let c : Client Unit := { Sample.client fun _ => [] with
      query := fun _ => return .error ⟨"Out of Range Error: too large"⟩ }
    let query := Sample.plan.fetch.sql
    let strict := Sample.oracle.withAllowlist .empty
    let lenient := Sample.oracle.withAllowlist (Allowlist.empty.extend .check)
    (Allowlist.empty.extend .check).Covers .empty ∧
      (strict.check c .plain Sample.world).1 =
        .error (.raised (.unexpected query "Out of Range Error: too large")) ∧
      (lenient.check c .plain Sample.world).1 =
        .ok (.inconclusive (.expectedError query "Out of Range Error: too large")) ∧
      lenient.transcript c .plain Sample.world = strict.transcript c .plain Sample.world := by
  intro c query strict lenient
  have hcovers : (Allowlist.empty.extend .check).Covers .empty := Allowlist.covers_extend _ _
  have hstrict : (strict.check c .plain Sample.world).1 =
      .error (.raised (.unexpected query "Out of Range Error: too large")) := by decide +kernel
  obtain ⟨hsaid, -, hexcuses⟩ := (Sample.oracle.allowlist_only_excuses c .plain Sample.world .empty
    (Allowlist.empty.extend .check)).1 hcovers
  refine ⟨hcovers, hstrict, ?_, hsaid⟩
  rw [hstrict] at hexcuses
  exact hexcuses.of_expects (by decide +kernel)

end Oracle
end PredicateOracle
