import PredicateOracle.Engine.Session
import PredicateOracle.Proofs.Random.Draw

/-!
# PredicateOracle.Proofs.Engine.Session -- steps and what they say to an engine

Steps on a recording client do what they do on the client itself, and what they say is only added to
the record. `Traced t t' w r said w'` states both at once: the steps `t` come from the world `w` to the
outcome `r` and the world `w'`, and their recording twin `t'` says `said` on the way. There is one
lemma for each way of putting steps together, and a draw keeps the seed, so every sequence of steps
has a trace as soon as its parts have. `Returns t P` says less: what holds of a value that the steps `t`
come to. `Comes t H P` also says for which reasons they can end early.
-/

namespace PredicateOracle

open PredicateOracle.Random (Stream)

deriving instance DecidableEq for Exchange

namespace Session

variable {ε σ α β : Type}

/-! ## Running -/

@[simp] theorem runOn_pure (a : α) (w : World σ) :
    (pure a : Session ε σ α).runOn w = (.ok a, w) := rfl

@[simp] theorem runOn_raise (e : ε) (w : World σ) :
    (raise e : Session ε σ α).runOn w = (.error (.raised e), w) := rfl

@[simp] theorem runOn_get (w : World σ) : (get : Session ε σ (World σ)).runOn w = (.ok w, w) := rfl

theorem runOn_bind (t : Session ε σ α) (k : α → Session ε σ β) (w : World σ) :
    (t >>= k).runOn w =
      match t.runOn w with
      | (.ok a, w) => (k a).runOn w
      | (.error h, w) => (.error h, w) := by
  unfold runOn
  rw [ExceptT.run_bind, StateT.run_bind]
  rcases hrun : (ExceptT.run t).run w with ⟨_ | a, w'⟩ <;> rfl

theorem runOn_draw (g : Gen α) (w : World σ) :
    (draw g : Session ε σ α).runOn w =
      match g.runOn w.stream with
      | (.ok a, s) => (.ok a, ⟨w.engine, s⟩)
      | (.error f, s) => (.error (.fault f), ⟨w.engine, s⟩) := rfl

theorem runOn_request (r : StateM σ (Answer α)) (w : World σ) :
    (request r : Session ε σ (Answer α)).runOn w =
      (.ok (Id.run (r.run w.engine)).1, ⟨(Id.run (r.run w.engine)).2, w.stream⟩) := rfl

theorem runOn_ask (r : StateM σ (Answer α)) (refused : EngineError → ε) (w : World σ) :
    (ask r refused).runOn w =
      match Id.run (r.run w.engine) with
      | (.ok a, e) => (.ok a, ⟨e, w.stream⟩)
      | (.error error, e) => (.error (.raised (refused error)), ⟨e, w.stream⟩) := by
  unfold ask
  rw [runOn_bind, runOn_request]
  rcases Id.run (r.run w.engine) with ⟨_ | _, e⟩ <;> rfl

/-! ## Values -/

/-- **`t.Returns P`** -- in every world, a value that the steps `t` come to has the property `P`. -/
def Returns (t : Session ε σ α) (P : α → Prop) : Prop :=
  ∀ w a w', t.runOn w = (.ok a, w') → P a

namespace Returns

variable {t : Session ε σ α} {k : α → Session ε σ β} {P : α → Prop} {Q : β → Prop}

theorem any (t : Session ε σ α) : t.Returns fun _ => True := fun _ _ _ _ => trivial

theorem pure {a : α} (h : P a) : (pure a : Session ε σ α).Returns P := by
  intro w b w' hrun
  obtain rfl := Except.ok.inj (Prod.mk.inj hrun).1
  exact h

theorem raise (e : ε) : (raise e : Session ε σ α).Returns P := by
  intro w a w' hrun
  cases (Prod.mk.inj hrun).1

theorem draw {F : Fault → Prop} {g : Gen α} (hg : Gen.Yields F g P) :
    (draw g : Session ε σ α).Returns P := by
  intro w a w' hrun
  rw [runOn_draw] at hrun
  rcases hg' : g.runOn w.stream with ⟨f | b, s⟩
  · rw [hg'] at hrun
    cases (Prod.mk.inj hrun).1
  · rw [hg'] at hrun
    obtain rfl := Except.ok.inj (Prod.mk.inj hrun).1
    exact (hg.of_runOn_ok hg').1

theorem bind (ht : t.Returns P) (hk : ∀ a, P a → (k a).Returns Q) : (t >>= k).Returns Q := by
  intro w b w' hrun
  rw [runOn_bind] at hrun
  rcases ht' : t.runOn w with ⟨h | a, w₁⟩
  · rw [ht'] at hrun
    cases (Prod.mk.inj hrun).1
  · rw [ht'] at hrun
    exact hk a (ht w a w₁ ht') w₁ b w' hrun

end Returns

/-! ## Values and early ends -/

/-- **`t.Comes H P`** -- in every world, the steps `t` come to a value with the property `P`, or end
early for a reason with the property `H`. -/
def Comes (t : Session ε σ α) (H : Halt ε → Prop) (P : α → Prop) : Prop :=
  ∀ w, match (t.runOn w).1 with
    | .ok a => P a
    | .error h => H h

namespace Comes

variable {H : Halt ε → Prop} {t : Session ε σ α} {k : α → Session ε σ β} {P : α → Prop}
  {Q : β → Prop}

theorem pure {a : α} (h : P a) : (pure a : Session ε σ α).Comes H P := fun _ => h

theorem raise {e : ε} (h : H (.raised e)) : (raise e : Session ε σ α).Comes H P := fun _ => h

theorem draw {F : Fault → Prop} {g : Gen α} (hg : Gen.Yields F g P) (hF : ∀ f, F f → H (.fault f)) :
    (draw g : Session ε σ α).Comes H P := by
  intro w
  have hvalue := (hg w.stream).2
  rw [runOn_draw]
  rcases hrun : g.runOn w.stream with ⟨f | a, s⟩
  · rw [hrun] at hvalue
    exact hF f hvalue
  · rw [hrun] at hvalue
    exact hvalue

/-- The answer to a request is one that the engine gives in some state. -/
theorem request {r : StateM σ (Answer α)} {P : Answer α → Prop} (h : ∀ e, P (Id.run (r.run e)).1) :
    (request r : Session ε σ (Answer α)).Comes H P := fun w => h w.engine

theorem bind (ht : t.Comes H P) (hk : ∀ a, P a → (k a).Comes H Q) : (t >>= k).Comes H Q := by
  intro w
  have hfirst := ht w
  rw [runOn_bind]
  rcases hrun : t.runOn w with ⟨h | a, w'⟩
  · rw [hrun] at hfirst
    exact hfirst
  · rw [hrun] at hfirst
    exact hk a hfirst w'

theorem weaken {P' : α → Prop} (ht : t.Comes H P) (hP : ∀ a, P a → P' a) : t.Comes H P' := by
  intro w
  have houtcome := ht w
  rcases hrun : (t.runOn w).1 with h | a
  · rw [hrun] at houtcome
    exact houtcome
  · rw [hrun] at houtcome
    exact hP a houtcome

/-- A request that has to be granted ends early only with a refusal. -/
theorem ask {r : StateM σ (Answer α)} {refused : EngineError → ε}
    (h : ∀ error, H (.raised (refused error))) : (ask r refused).Comes H fun _ => True := by
  refine .bind (.request (P := fun _ => True) fun _ => trivial) fun answer _ => ?_
  cases answer with
  | ok a => exact .pure trivial
  | error error => exact .raise (h error)

/-- A value that the steps come to. -/
theorem of_ok (ht : t.Comes H P) {w : World σ} {a : α} (h : (t.runOn w).1 = .ok a) : P a := by
  have houtcome := ht w
  rw [h] at houtcome
  exact houtcome

/-- A reason for which the steps end early. -/
theorem of_error (ht : t.Comes H P) {w : World σ} {halt : Halt ε}
    (h : (t.runOn w).1 = .error halt) : H halt := by
  have houtcome := ht w
  rw [h] at houtcome
  exact houtcome

end Comes

/-! ## Traces -/

/-- **`Traced t t' w r said w'`** -- from the world `w` the steps `t` come to the outcome `r` and the
world `w'`, their recording twin `t'` does the same and adds `said` to its record, and the seed of
the stream stays what it was. -/
structure Traced (t : Session ε σ α) (t' : Session ε (σ × List Exchange) α) (w : World σ)
    (r : Except (Halt ε) α) (said : List Exchange) (w' : World σ) : Prop where
  run : t.runOn w = (r, w')
  recorded (log : List Exchange) :
    t'.runOn ⟨(w.engine, log), w.stream⟩ = (r, ⟨(w'.engine, log ++ said), w'.stream⟩)
  seed : w'.stream.seed = w.stream.seed

namespace Traced

variable {t : Session ε σ α} {t' : Session ε (σ × List Exchange) α} {k : α → Session ε σ β}
  {k' : α → Session ε (σ × List Exchange) β} {w w₁ w₂ : World σ} {said said₁ : List Exchange}
  {a : α}

theorem pure (a : α) (w : World σ) : Traced (ε := ε) (pure a) (pure a) w (.ok a) [] w :=
  ⟨rfl, fun log => by rw [List.append_nil]; rfl, rfl⟩

theorem raise (e : ε) (w : World σ) :
    Traced (α := α) (raise e) (raise e) w (.error (.raised e)) [] w :=
  ⟨rfl, fun log => by rw [List.append_nil]; rfl, rfl⟩

/-- Steps after steps that came to a value. -/
theorem bind {r : Except (Halt ε) β} (h : Traced t t' w (.ok a) said w₁)
    (hk : Traced (k a) (k' a) w₁ r said₁ w₂) :
    Traced (t >>= k) (t' >>= k') w r (said ++ said₁) w₂ := by
  refine ⟨?_, fun log => ?_, hk.seed.trans h.seed⟩
  · rw [runOn_bind, h.run]
    exact hk.run
  · rw [runOn_bind, h.recorded log, ← List.append_assoc]
    exact hk.recorded _

/-- Nothing is done after steps that ended early. -/
theorem bind_error {halt : Halt ε} (h : Traced t t' w (.error halt) said w₁) :
    Traced (t >>= k) (t' >>= k') w (.error halt) said w₁ := by
  refine ⟨?_, fun log => ?_, h.seed⟩
  · rw [runOn_bind, h.run]
  · rw [runOn_bind, h.recorded log]

/-- A draw says nothing. It comes to a value or a fault of which all is known that holds on every
stream. -/
theorem draw {F : Fault → Prop} {g : Gen α} {P : α → Prop} (hg : Gen.Yields F g P) (w : World σ) :
    (∃ a s, P a ∧ Traced (ε := ε) (draw g) (draw g) w (.ok a) [] ⟨w.engine, s⟩) ∨
      ∃ f s, F f ∧ Traced (ε := ε) (draw g) (draw g) w (.error (.fault f)) [] ⟨w.engine, s⟩ := by
  have hrun := runOn_draw (ε := ε) g w
  rcases hg' : g.runOn w.stream with ⟨f | a, s⟩
  · obtain ⟨hf, hseed⟩ := hg.of_runOn_error hg'
    rw [hg'] at hrun
    refine .inr ⟨f, s, hf, hrun, fun log => ?_, hseed⟩
    rw [runOn_draw, hg', List.append_nil]
  · obtain ⟨ha, hseed⟩ := hg.of_runOn_ok hg'
    rw [hg'] at hrun
    refine .inl ⟨a, s, ha, hrun, fun log => ?_, hseed⟩
    rw [runOn_draw, hg', List.append_nil]

/-- A request is said together with its answer, refused or not. -/
theorem request (exchange : Answer α → Exchange) (r : StateM σ (Answer α)) (w : World σ) :
    Traced (ε := ε) (request r) (request (Client.record exchange r)) w
      (.ok (Id.run (r.run w.engine)).1) [exchange (Id.run (r.run w.engine)).1]
      ⟨(Id.run (r.run w.engine)).2, w.stream⟩ :=
  ⟨rfl, fun _ => rfl, rfl⟩

/-- A granted request. -/
theorem ask_ok {exchange : Answer α → Exchange} {r : StateM σ (Answer α)} {e : σ}
    {refused : EngineError → ε} (h : Id.run (r.run w.engine) = (.ok a, e)) :
    Traced (ask r refused) (ask (Client.record exchange r) refused) w (.ok a) [exchange (.ok a)]
      ⟨e, w.stream⟩ := by
  have hrequest := request (ε := ε) exchange r w
  rw [h] at hrequest
  exact hrequest.bind (pure a _)

/-- A refused request. -/
theorem ask_error {exchange : Answer α → Exchange} {r : StateM σ (Answer α)} {e : σ}
    {refused : EngineError → ε} {error : EngineError}
    (h : Id.run (r.run w.engine) = (.error error, e)) :
    Traced (ask r refused) (ask (Client.record exchange r) refused) w
      (.error (.raised (refused error))) [exchange (.error error)] ⟨e, w.stream⟩ := by
  have hrequest := request (ε := ε) exchange r w
  rw [h] at hrequest
  exact hrequest.bind (raise (refused error) _)

/-- Steps in a world have one trace. -/
theorem unique {r r₁ : Except (Halt ε) α} (h : Traced t t' w r said w₁)
    (h' : Traced t t' w r₁ said₁ w₂) : r = r₁ ∧ said = said₁ ∧ w₁ = w₂ := by
  have hrun := h.run.symm.trans h'.run
  have hrecorded := (h.recorded []).symm.trans (h'.recorded [])
  simp only [Prod.mk.injEq, World.mk.injEq, List.nil_append] at hrun hrecorded
  exact ⟨hrun.1, hrecorded.2.1.2, hrun.2⟩

end Traced
end Session
end PredicateOracle
