import PredicateOracle.Engine.Script
import PredicateOracle.Proofs.Sql.Quoted

/-!
# PredicateOracle.Proofs.Engine.Connection -- what a connection is told

Steps on a connection end at the first refusal. A recording connection answers like the other one and
keeps what it was told, so what steps say is part of their outcome. Statements that are run one after
the other say a beginning of themselves (`Told`): all of them if none is refused, and else no more than
up to the first refused one.

Emptying a database is the one place where such a run depends on what the engine reports. It reads the
relations first and does nothing if it cannot; then it flushes once and drops the views and after them
everything else, each under its exact name (`Connection.reset_drops_all`).
-/

namespace PredicateOracle

open Sql

namespace Connection

variable {κ α β : Type}

/-! ## Running -/

namespace Steps

/-- The outcome of steps from a state, and the state that is left. -/
def runOn (t : Steps κ α) (e : κ) : Answer α × κ := Id.run (StateT.run (ExceptT.run t) e)

@[simp] theorem runOn_pure (a : α) (e : κ) : runOn (pure a) e = (.ok a, e) := rfl

@[simp] theorem runOn_mk (request : StateM κ (Answer α)) (e : κ) :
    runOn (ExceptT.mk request) e = Id.run (request.run e) := rfl

theorem runOn_bind (t : Steps κ α) (k : α → Steps κ β) (e : κ) :
    runOn (t >>= k) e =
      match runOn t e with
      | (.ok a, e) => runOn (k a) e
      | (.error error, e) => (.error error, e) := by
  unfold runOn
  rw [ExceptT.run_bind, StateT.run_bind]
  rcases hrun : (ExceptT.run t).run e with ⟨_ | a, e'⟩ <;> rfl

end Steps

/-! ## Recording -/

/-- What is said to a connection, a statement together with its answer. -/
inductive Message where
  | query (sql : String)
  | execute (sql : String) (answer : Answer Nat)
  | flush

/-- Makes a request and writes it down. -/
def record (message : α → Message) (request : StateM κ α) : StateM (κ × List Message) α :=
  fun (e, log) => let (a, e) := Id.run (request.run e); (a, e, log ++ [message a])

/-- The connection that also keeps what it is told, in order. -/
def recorded (c : Connection κ) : Connection (κ × List Message) where
  query sql := record (fun _ => .query sql) (c.query sql)
  execute sql := record (.execute sql) (c.execute sql)
  flush := record (fun _ => .flush) c.flush

section

variable (c : Connection κ) (sql : String) (e : κ) (log : List Message)

theorem recorded_query :
    Id.run ((c.recorded.query sql).run (e, log)) =
      ((Id.run ((c.query sql).run e)).1, (Id.run ((c.query sql).run e)).2, log ++ [.query sql]) :=
  rfl

theorem recorded_execute :
    Id.run ((c.recorded.execute sql).run (e, log)) =
      ((Id.run ((c.execute sql).run e)).1, (Id.run ((c.execute sql).run e)).2,
        log ++ [.execute sql (Id.run ((c.execute sql).run e)).1]) := rfl

end

/-! ## Statements in turn -/

/-- A statement and what the engine answered to it. -/
abbrev Sent := String × Answer Nat

/-- What was said with a statement. -/
def Sent.message (s : Sent) : Message := .execute s.1 s.2

/-- **`Granted answer`** -- the engine did what it was asked. -/
def Granted (answer : Answer Nat) : Prop := ∃ affected, answer = .ok affected

/-- **`Told statements sent outcome`** -- of these statements those were sent, and it came to this:
each of them is sent if the one before it was granted, and a refusal ends the run. -/
inductive Told : List String → List Sent → Answer Unit → Prop
  | done : Told [] [] (.ok ())
  | refused (sql : String) (rest : List String) (error : EngineError) :
      Told (sql :: rest) [(sql, .error error)] (.error error)
  | granted {rest : List String} {sent : List Sent} {outcome : Answer Unit} (sql : String)
      (affected : Nat) (h : Told rest sent outcome) :
      Told (sql :: rest) ((sql, .ok affected) :: sent) outcome

namespace Told

variable {statements : List String} {sent : List Sent} {outcome : Answer Unit}

/-- What is sent is a beginning of the statements. -/
theorem inOrder (h : Told statements sent outcome) : sent.map Prod.fst <+: statements := by
  induction h with
  | done => exact List.prefix_rfl
  | refused sql rest error => exact ⟨rest, rfl⟩
  | granted sql affected h ih => exact (List.prefix_cons_inj sql).mpr ih

/-- The run succeeds exactly if every statement is sent and granted. -/
theorem ok_iff (h : Told statements sent outcome) :
    outcome = .ok () ↔ sent.map Prod.fst = statements ∧ ∀ s ∈ sent, Granted s.2 := by
  induction h with
  | done => simp
  | refused sql rest error =>
    -- The refused statement was sent, but it was not granted.
    constructor
    · intro hok
      cases hok
    · rintro ⟨-, hgranted⟩
      obtain ⟨affected, haffected⟩ := hgranted _ (List.mem_singleton_self _)
      cases haffected
  | granted sql affected h ih =>
    rw [ih, List.map_cons, List.cons_inj_right, List.forall_mem_cons]
    exact and_congr_right fun _ => (and_iff_right ⟨affected, rfl⟩).symm

/-- A run that fails ends with the first refused statement, and with its message. -/
theorem ends_refused (h : Told statements sent outcome) {error : EngineError}
    (herror : outcome = .error error) :
    ∃ before sql, sent = before ++ [(sql, .error error)] ∧ ∀ s ∈ before, Granted s.2 := by
  induction h with
  | done => cases herror
  | refused sql rest error' =>
    obtain rfl := Except.error.inj herror
    exact ⟨[], sql, rfl, by simp⟩
  | granted sql affected h ih =>
    obtain ⟨before, last, rfl, hbefore⟩ := ih herror
    refine ⟨(sql, .ok affected) :: before, last, rfl, ?_⟩
    intro s hs
    rcases List.mem_cons.mp hs with rfl | hs
    · exact ⟨affected, rfl⟩
    · exact hbefore s hs

end Told

/-- **Statements are run up to the first refusal**, on a recording connection as on the other one. -/
theorem executeAll_told (c : Connection κ) (statements : List String) (e : κ) :
    ∃ sent outcome e', Told statements sent outcome ∧
      Steps.runOn (c.executeAll statements) e = (outcome, e') ∧
      ∀ log, Steps.runOn (c.recorded.executeAll statements) (e, log) =
        (outcome, e', log ++ sent.map Sent.message) := by
  induction statements generalizing e with
  | nil => exact ⟨[], .ok (), e, .done, rfl, fun log => by simp [executeAll]⟩
  | cons sql rest ih =>
    rcases hanswer : Id.run ((c.execute sql).run e) with ⟨error | affected, e₁⟩
    · -- The rest is not sent.
      refine ⟨[(sql, .error error)], .error error, e₁, .refused sql rest error, ?_, fun log => ?_⟩
      · rw [executeAll, Steps.runOn_bind, Steps.runOn_mk, hanswer]
      · rw [executeAll, Steps.runOn_bind, Steps.runOn_mk, recorded_execute, hanswer]
        rfl
    · obtain ⟨sent, outcome, e', htold, hrun, hrecorded⟩ := ih e₁
      refine ⟨(sql, .ok affected) :: sent, outcome, e', .granted sql affected htold, ?_,
        fun log => ?_⟩
      · rw [executeAll, Steps.runOn_bind, Steps.runOn_mk, hanswer]
        exact hrun
      · rw [executeAll, Steps.runOn_bind, Steps.runOn_mk, recorded_execute, hanswer]
        simp [hrecorded, Sent.message]

/-! ## Rows of texts -/

/-- Rows that can all be read are read one after the other. -/
theorem readRows_map (f : List Cell → Answer α) (cells : β → List Cell) {value : β → α}
    (h : ∀ b, f (cells b) = .ok (value b)) (bs : List β) :
    readRows f (bs.map fun b => .ok (cells b)) = .ok (bs.map value) := by
  induction bs with
  | nil => rfl
  | cons b bs ih =>
    rw [List.map_cons, readRows, ih]
    show (do let a ← f (cells b); return a :: bs.map value) = _
    rw [h]
    rfl

/-! ## Emptying a database -/

/-- The row of the catalog that reports a relation. -/
def Relation.cells (r : Relation) : List Cell := [.text r.1, .text r.2]

/-- The relations that a result reports, or why they cannot all be read. -/
def readRelations (result : Answer (List (Answer (List Cell)))) : Answer (List Relation) := do
  return relationsOf (← readRows (names 2) (← result))

/-- All relations can be read that are reported with a name and a kind. -/
theorem readRelations_cells (relations : List Relation) :
    readRelations (.ok (relations.map fun r => .ok r.cells)) = .ok relations := by
  have hread : readRows (names 2) (relations.map fun r => .ok r.cells) =
      .ok (relations.map fun r => [r.1, r.2]) :=
    readRows_map (names 2) Relation.cells (fun _ => rfl) relations
  have hrelations : relationsOf (relations.map fun r => [r.1, r.2]) = relations := by
    rw [relationsOf, List.filterMap_map]
    exact List.filterMap_some
  show (readRows (names 2) _ >>= fun rows => pure (relationsOf rows)) = _
  rw [hread]
  exact congrArg Except.ok hrelations

/-- The statement that drops a relation. -/
def dropStatement (r : Relation) : String :=
  (if isView r then "DROP VIEW IF EXISTS " else "DROP TABLE IF EXISTS ") ++ quoted '"' r.1

/-- The views come first, and within each kind relations keep their order. -/
theorem dropStatements_eq (relations : List Relation) :
    dropStatements relations =
      (relations.filter isView).map dropStatement ++
        (relations.filter (!isView ·)).map dropStatement := by
  unfold dropStatements
  congr 1
  · refine List.map_congr_left fun r hr => ?_
    rw [dropStatement, if_pos (List.mem_filter.mp hr).2]
  · refine List.map_congr_left fun r hr => ?_
    have hview : isView r = false := by simpa using (List.mem_filter.mp hr).2
    simp [dropStatement, hview]

/-- **A statement names its relation**: different names, and views and other relations of one name,
are dropped by different statements. -/
theorem dropStatement_eq_iff {r r' : Relation} :
    dropStatement r = dropStatement r' ↔ r.1 = r'.1 ∧ isView r = isView r' := by
  constructor
  · intro h
    have hkind : isView r = isView r' := by
      -- The sixth character tells the kind.
      have hsixth : (dropStatement r).toList[5]? = (dropStatement r').toList[5]? := by rw [h]
      cases hr : isView r <;> cases hr' : isView r' <;> simp [dropStatement, hr, hr'] at hsixth ⊢
    rw [dropStatement, dropStatement, hkind, String.append_right_inj] at h
    exact ⟨quoted_injective '"' h, hkind⟩
  · rintro ⟨hname, hkind⟩
    rw [dropStatement, dropStatement, hname, hkind]

/-- If the relations cannot be read, nothing else is done; if they can, they are dropped after a
flush. -/
theorem runOn_reset (c : Connection κ) (e : κ) :
    Steps.runOn c.reset e =
      let (result, e₁) := Id.run ((c.query relationsQuery).run e)
      match readRelations result with
      | .error error => (.error error, e₁)
      | .ok relations =>
        Steps.runOn (c.executeAll (dropStatements relations)) (Id.run (c.flush.run e₁)).2 := by
  rw [reset, Steps.runOn_bind, Steps.runOn_mk]
  rcases Id.run ((c.query relationsQuery).run e) with ⟨refusal | result, e₁⟩
  · rfl
  · show Steps.runOn (ExceptT.mk (pure (readRows (names 2) result)) >>= fun rows => _) e₁ =
      match (readRows (names 2) result >>= fun rows => pure (relationsOf rows)) with
      | .error error => (.error error, e₁)
      | .ok relations => _
    rw [Steps.runOn_bind, Steps.runOn_mk]
    rcases readRows (names 2) result with refusal | rows <;> rfl

/-- **A database is emptied views first, and up to the first refusal.** If the relations cannot be
read, the connection is told nothing else. If they can, whatever their names and kinds are, it is told
to flush once and then a beginning of the statements that drop the views in the order in which they
are reported and then everything else in that order. Nothing fails exactly if all of them are sent and
granted; else the last one sent is the first that was refused, and its message is what is returned.
Each name can be read back from its statement as a whole, so different names are dropped by different
statements. -/
theorem reset_drops_all :
    (∀ (κ : Type) (c : Connection κ) (e : κ),
      let (result, e₁) := Id.run ((c.query relationsQuery).run e)
      match readRelations result with
      | .error error =>
        Steps.runOn c.reset e = (.error error, e₁) ∧
          Steps.runOn c.recorded.reset (e, []) = (.error error, e₁, [.query relationsQuery])
      | .ok relations =>
        ∃ sent outcome e₂, Steps.runOn c.reset e = (outcome, e₂) ∧
          Steps.runOn c.recorded.reset (e, []) =
            (outcome, e₂, [.query relationsQuery, .flush] ++ sent.map Sent.message) ∧
          sent.map Prod.fst <+: (relations.filter isView).map dropStatement ++
            (relations.filter (!isView ·)).map dropStatement ∧
          (outcome = .ok () ↔
            sent.map Prod.fst = (relations.filter isView).map dropStatement ++
              (relations.filter (!isView ·)).map dropStatement ∧ ∀ s ∈ sent, Granted s.2) ∧
          ∀ error, outcome = .error error →
            ∃ before sql, sent = before ++ [(sql, .error error)] ∧ ∀ s ∈ before, Granted s.2) ∧
    (∀ relations : List Relation,
      readRelations (.ok (relations.map fun r => .ok r.cells)) = .ok relations) ∧
    (∀ name, unquote '"' (quoted '"' name).toList = some (name, [])) ∧
    ∀ r r' : Relation, dropStatement r = dropStatement r' ↔ r.1 = r'.1 ∧ isView r = isView r' := by
  refine ⟨fun κ c e => ?run, readRelations_cells, fun name => ?quoted,
    fun r r' => dropStatement_eq_iff⟩
  case quoted =>
    have hend : ∀ c ∈ ([] : List Char).head?, c ≠ '"' := nofun
    have hread := unquote_quoted '"' name hend
    rwa [List.append_nil] at hread
  case run =>
    have hrun := runOn_reset c e
    have hrecorded := runOn_reset c.recorded (e, [])
    rw [recorded_query] at hrecorded
    rcases hanswer : Id.run ((c.query relationsQuery).run e) with ⟨result, e₁⟩
    rw [hanswer] at hrun hrecorded
    dsimp only at hrun hrecorded ⊢
    rcases hread : readRelations result with error | relations
    · rw [hread] at hrun hrecorded
      exact ⟨hrun, hrecorded⟩
    · rw [hread] at hrun hrecorded
      obtain ⟨sent, outcome, e₂, htold, hexecuted, hrecording⟩ :=
        c.executeAll_told (dropStatements relations) (Id.run (c.flush.run e₁)).2
      refine ⟨sent, outcome, e₂, hrun.trans hexecuted, hrecorded.trans (hrecording _), ?_⟩
      rw [← dropStatements_eq]
      exact ⟨htold.inOrder, htold.ok_iff, fun error => htold.ends_refused⟩

/-- An engine that reports some relations and refuses every statement with one of some texts in it. -/
def sampleScript (relations : List Relation) (refused : List String) : Script :=
  { Script.empty with
    relations := relations.map fun r => .ok r.cells
    rules := refused.map fun text => ⟨text, "still in use", 0, none⟩ }

/-- A table whose name is a quote and a view without a name: the view goes first. -/
theorem reset_drops_all_hostile_names :
    let e := (sampleScript [("\"", "BASE TABLE"), ("", "VIEW")] []).start
    ∃ (sent : List Sent) (e' : Script.State),
      Steps.runOn Script.connection.recorded.reset (e, []) =
        (.ok (), e', [.query relationsQuery, .flush] ++ sent.map Sent.message) ∧
      sent.map Prod.fst = ["DROP VIEW IF EXISTS \"\"", "DROP TABLE IF EXISTS \"\"\"\""] := by
  intro e
  have hgranted : (Steps.runOn Script.connection.reset e).1 = .ok () := rfl
  obtain ⟨sent, outcome, e₂, hrun, hrecorded, -, hok, -⟩ :=
    reset_drops_all.1 Script.State Script.connection e
  rw [hrun] at hgranted
  obtain rfl : outcome = .ok () := hgranted
  exact ⟨sent, e₂, hrecorded, (hok.mp rfl).1⟩

/-- **All statements may be sent although one is refused**: the last one. Of the only table the
statement is sent, so nothing is missing, and the refusal is what is returned. -/
theorem reset_complete_yet_refused :
    let relations : List Relation := [("t0", "BASE TABLE")]
    let e := (sampleScript relations ["DROP"]).start
    ∃ (sent : List Sent) (outcome : Answer Unit) (e' : Script.State),
      readRelations (Id.run ((Script.connection.query relationsQuery).run e)).1 = .ok relations ∧
      Steps.runOn Script.connection.recorded.reset (e, []) =
        (outcome, e', [.query relationsQuery, .flush] ++ sent.map Sent.message) ∧
      sent.map Prod.fst = ["DROP TABLE IF EXISTS \"t0\""] ∧
      outcome = .error ⟨"still in use"⟩ ∧
      ¬ (sent.map Prod.fst = dropStatements relations ↔ outcome = .ok ()) := by
  intro relations e
  refine ⟨[("DROP TABLE IF EXISTS \"t0\"", .error ⟨"still in use"⟩)], .error ⟨"still in use"⟩, _,
    rfl, rfl, rfl, rfl, fun hcomplete => ?_⟩
  cases hcomplete.mp rfl

end Connection
end PredicateOracle
