import PredicateOracle.Proofs.Config.Basic
import PredicateOracle.Proofs.Workload.Populate

/-!
# PredicateOracle.Proofs.Workload.Maxima -- the maxima that a database can be filled under

A number of tables or columns is drawn below its maximum and then increased, which is always possible, but
there must be room for so many. A number of statements is drawn below the successor of its maximum, and
the largest machine word has none. So workloads are divided twice: with a countable one (`Countable`)
for whose tables and columns there is room (`Roomy`) filling a database never meets a fault, and with
one that is not countable no database is ever filled, because the work gets to that draw unless it has
ended before (`populate_comes`).
-/

namespace PredicateOracle

open Generate (Action Author Workload)
open Gen (Yields)
open Session (Comes)
open Sql

variable {σ : Type}

/-- **`w.Countable`** -- the successor of every maximum number of statements is a machine word. -/
def Generate.Workload.Countable (w : Workload) : Prop := ∀ a, w.limit a + 1 < 2 ^ (64 : Nat)

instance (w : Workload) : Decidable w.Countable :=
  decidable_of_iff (∀ a ∈ Action.all, w.limit a + 1 < 2 ^ (64 : Nat))
    ⟨fun h a => h a (by cases a <;> decide), fun h a _ => h a⟩

/-- **`w.Roomy`** -- there is room for as many tables, and for as many columns of a table, as there can
be. -/
structure Generate.Workload.Roomy (w : Workload) : Prop where
  tables : Record.table.HasRoom (max 1 w.maxTables)
  columns : Record.column.HasRoom (max 1 w.maxColumns)

instance (w : Workload) : Decidable w.Roomy :=
  decidable_of_iff
    (Record.table.HasRoom (max 1 w.maxTables) ∧ Record.column.HasRoom (max 1 w.maxColumns))
    ⟨fun ⟨htables, hcolumns⟩ => ⟨htables, hcolumns⟩, fun h => ⟨h.tables, h.columns⟩⟩

/-- **`c.Refuses`** -- the engine refuses some statement in some state. -/
def Client.Refuses (c : Client σ) : Prop :=
  ∃ sql e error, (Id.run ((c.execute sql).run e)).1 = .error error

/-! ## Draws -/

namespace Generate

variable {w : Workload} {o : Options}

/-- A number of statements is drawn exactly if its maximum has a successor. -/
theorem yields_statementCount_iff (a : Action) :
    Yields (fun f => f = .wordOverflow ∧ 2 ^ (64 : Nat) ≤ w.limit a + 1) (statementCount w a)
      (fun n => n ≤ w.limit a ∧ w.limit a + 1 < 2 ^ (64 : Nat)) := by
  unfold statementCount
  split
  · rename_i h
    exact fun _ => ⟨rfl, rfl, h⟩
  · rename_i h
    exact (Gen.yields_index (Nat.succ_pos _)).weaken fun n hn =>
      ⟨Nat.le_of_lt_succ hn, Nat.lt_of_not_le h⟩

/-- A table has at least one column and no more than the maximum. -/
theorem yields_tableDefinition_columns (name : String) :
    Yields (Fault.OfRoom .column (max 1 w.maxColumns)) (tableDefinition w name) fun d =>
      1 ≤ d.columns.length ∧ d.columns.length ≤ max 1 w.maxColumns :=
  (yields_drafted name).weaken fun _ hd => hd.length

/-- A view has at least one column and no more than the maximum. -/
theorem yields_createView_columns (author : Author) (tables : List Table) :
    Yields (StatementFault w o) (createView w o author tables) fun (v, _) =>
      ∀ view q, v = some (view, q) →
        1 ≤ view.columns.length ∧ view.columns.length ≤ max 1 w.maxColumns := by
  refine (yields_nextView w o author tables).weaken fun r hr => ?_
  rcases hr with ⟨rfl, -⟩ | ⟨view, q, rfl, hview⟩
  · exact nofun
  · rintro _ _ ⟨⟩
    exact hview.length

end Generate

/-! ## Filling -/

namespace Populate

variable {w : Workload} {o : Generate.Options}

/-- **`Cause c w o halt`** -- a reason for which filling a database can end early: a draw that has no
value, or a refusal of the engine. -/
def Cause (c : Client σ) (w : Workload) (o : Generate.Options) : Halt PopulateError → Prop
  | .fault f => f.OfPopulate w o
  | .raised _ => c.Refuses

theorem execute_comes (c : Client σ) (a : Allowlist) (s : Statement) :
    (execute c a s).Comes (Cause c w o) fun executed => executed = false → c.Refuses := by
  refine .bind (.request (P := fun answer => ∀ e, answer = .error e → c.Refuses) ?_) ?_
  · exact fun e error herror => ⟨s.sql, e, error, herror⟩
  · intro answer hanswer
    cases answer with
    | ok n => exact .pure nofun
    | error e =>
      have hrefuses : c.Refuses := hanswer e rfl
      dsimp only
      split
      · exact .pure fun _ => hrefuses
      · exact .raise hrefuses

/-- Attempts at a table run out only if the engine refuses some of them. -/
theorem createTable_comes (c : Client σ) (name : String) (n : Nat) (hn : n = 0 → c.Refuses) :
    (createTable c w name n).Comes (Cause c w o) fun _ => True := by
  induction n with
  | zero => exact .raise (hn rfl)
  | succ n ih =>
    refine .bind (.draw (Generate.yields_tableDefinition name) fun f hf => .inl (.inr hf)) fun d _ => ?_
    refine .bind (execute_comes c .table (.createTable d)) fun executed hrefuses => ?_
    cases executed with
    | true => exact .pure trivial
    | false => exact ih fun _ => hrefuses rfl

theorem createTables_comes (c : Client σ) (n i : Nat) :
    (createTables c w n i).Comes (Cause c w o) fun _ => True := by
  induction n generalizing i with
  | zero => exact .pure trivial
  | succ n ih =>
    refine .bind (createTable_comes c _ maxAttempts nofun) fun t _ => ?_
    exact .bind (ih (i + 1)) fun tables _ => .pure trivial

theorem repeatAction_comes (c : Client σ) (tables : List Table) (a : Action) (n : Nat)
    (counts : Counts) (author : Author) :
    (repeatAction c w o tables a n (counts, author)).Comes (Cause c w o) fun _ => True := by
  induction n generalizing counts author with
  | zero => exact .pure trivial
  | succ n ih =>
    refine .bind (.draw (Gen.yields_choose? tables) fun f hf => hf) fun t ht => ?_
    cases t with
    | none => exact .pure trivial
    | some t =>
      refine .bind (.draw (yields_statement (ht t rfl) author a) fun f hf => hf) ?_
      rintro ⟨s, author'⟩ -
      cases s with
      | none => exact ih counts author'
      | some s => exact .bind (execute_comes c a.allowlist s) fun executed _ => ih _ author'

/-- Actions are done only if all of their maxima have successors. -/
theorem doActions_comes (c : Client σ) (tables : List Table) (actions : List Action)
    (done : Counts × Author) :
    (doActions c w o tables actions done).Comes (Cause c w o) fun _ =>
      ∀ a ∈ actions, w.limit a + 1 < 2 ^ (64 : Nat) := by
  induction actions generalizing done with
  | nil => exact .pure nofun
  | cons a rest ih =>
    refine .bind (.draw (Generate.yields_statementCount_iff a) ?_) fun n hn => ?_
    · exact fun f hf => .inr (.inr ⟨hf.1, a, hf.2⟩)
    refine .bind (repeatAction_comes c tables a n done.1 done.2) fun done' _ => ?_
    exact (ih done').weaken fun _ hrest => List.forall_mem_cons.mpr ⟨hn.2, hrest⟩

/-- **A database is filled only under a countable workload**, and the work ends early only for a draw
that has no value or a refusal of the engine. -/
theorem populate_comes (c : Client σ) (w : Workload) (o : Generate.Options) :
    (populate c w o).Comes (Cause c w o) fun _ => w.Countable := by
  refine .bind (.draw (Generate.yields_oneTo _) fun f hf => hf) fun n hn => ?_
  refine .bind (.draw (Gen.yields_reserve .table n) fun f hf => ?_) fun _ _ => ?_
  · exact .inr (.inl (hf.mono hn.2))
  refine .bind (createTables_comes c n 0) fun tables _ => ?_
  refine .bind (doActions_comes c tables Action.all _) fun done hmaxima => .pure fun a => ?_
  exact hmaxima a (by cases a <;> decide)

/-- **Where more tables are drawn than there is room for, the work ends before the first of them.** -/
theorem populate_of_not_hasRoom (c : Client σ) (w : Workload) (o : Generate.Options)
    (world : World σ) {n : Nat} {s : Random.Stream}
    (hn : (Generate.tableCount w).runOn world.stream = (.ok n, s))
    (hroom : ¬ Record.table.HasRoom n) :
    (populate c w o).runOn world = (.error (.fault .capacityOverflow), ⟨world.engine, s⟩) := by
  unfold populate
  rw [Session.runOn_bind, Session.runOn_draw, hn]
  dsimp only
  rw [Session.runOn_bind, Session.runOn_draw, Gen.runOn_reserve, Record.reserve_of_not_hasRoom hroom]

end Populate
end PredicateOracle
