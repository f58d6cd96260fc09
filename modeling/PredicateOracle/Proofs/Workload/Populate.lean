import PredicateOracle.Proofs.Generate.Statement
import PredicateOracle.Proofs.Workload.Log

/-!
# PredicateOracle.Proofs.Workload.Populate -- the log of filling a database

The log of a filled database has two parts. First there is a block of attempts for each table
(`MakesTable`): some that were skipped and the one that was granted. Then there is a phase for each
action: statements that were drawn for the tables just made (`Drawn`). If the work ends early, the
log is such a log up to some point. Every part of the work has a lemma that says so for its part of
the log, and `populate_log` puts them together.
-/

namespace PredicateOracle

open Generate (Action Author Workload Storable Filter ViewOver columnNames)
open Gen (Yields)
open Sql

/-- **`Fault.OfPopulate w o f`** -- the fault `f` can be met while a database is filled: by a statement,
because there is no room for as many tables as there can be, or because a number of statements has a
maximum that cannot be increased. -/
def Fault.OfPopulate (w : Workload) (o : Generate.Options) (f : Fault) : Prop :=
  Generate.StatementFault w o f ∨ f.OfRoom .table (max 1 w.maxTables) ∨
    f = .wordOverflow ∧ ∃ a, 2 ^ (64 : Nat) ≤ w.limit a + 1

namespace Populate

variable {σ : Type} {w : Workload} {o : Generate.Options}

/-! ## Tables -/

/-- **`Defines w name d`** -- `d` is a definition that can be drawn for a table of this name. -/
structure Defines (w : Workload) (name : String) (d : TableDefinition) : Prop where
  name : d.name = name
  columns : ∃ n, 1 ≤ n ∧ n ≤ max 1 w.maxColumns ∧ d.columns.map (·.name) = columnNames n

/-- **`Tries w name x`** -- the attempt `x` is one at the table of this name. -/
def Tries (w : Workload) (name : String) (x : Attempt) : Prop :=
  ∃ d, Defines w name d ∧ x.statement = .createTable d

/-- **`MakesTable w name block`** -- the block is all attempts at the table of this name: some that
were skipped, fewer than there may be, and one that was granted. -/
inductive MakesTable (w : Workload) (name : String) : List Attempt → Prop
  | intro {skipped : List Attempt} {last : Attempt} {d : TableDefinition}
    (hlength : skipped.length < maxAttempts)
    (hskipped : ∀ x ∈ skipped, Tries w name x ∧ x.skipped = true) (hd : Defines w name d)
    (hlast : last.statement = .createTable d) (hgranted : last.granted = true) :
    MakesTable w name (skipped ++ [last])

/-- The names of so many tables from number `i` on. -/
def tableNames (i n : Nat) : List String := (List.range' i n).map (numbered "t")

/-- The definition that an attempt made a table of, if it did. -/
def Attempt.created? (x : Attempt) : Option TableDefinition :=
  match x.statement with
  | .createTable d => if x.granted then some d else none
  | _ => none

/-- The definitions of the tables that were made, in order. -/
def created (log : List Attempt) : List TableDefinition := log.filterMap Attempt.created?

theorem created_append (log log' : List Attempt) :
    created (log ++ log') = created log ++ created log' := List.filterMap_append

theorem created_of_refused {log : List Attempt} (h : ∀ x ∈ log, x.granted = false) :
    created log = [] := by
  refine List.filterMap_eq_nil_iff.mpr fun x hx => ?_
  unfold Attempt.created?
  split
  · rw [h x hx]
    rfl
  · rfl

/-- Refused attempts and one that is granted make one table. -/
theorem created_concat {log : List Attempt} (h : ∀ x ∈ log, x.granted = false) {last : Attempt}
    {d : TableDefinition} (hlast : last.statement = .createTable d) (hgranted : last.granted = true) :
    created (log ++ [last]) = [d] := by
  rw [created_append, created_of_refused h]
  simp [created, Attempt.created?, hlast, hgranted]

theorem MakesTable.created {name : String} {block : List Attempt} (h : MakesTable w name block) :
    ∃ d, created block = [d] ∧ Defines w name d := by
  obtain ⟨-, hskipped, hd, hlast, hgranted⟩ := h
  have hrefused := fun x hx => Attempt.granted_of_skipped (hskipped x hx).2
  exact ⟨_, created_concat hrefused hlast hgranted, hd⟩

theorem MakesTable.tries {name : String} {block : List Attempt} (h : MakesTable w name block) :
    ∀ x ∈ block, Tries w name x := by
  obtain ⟨-, hskipped, hd, hlast, -⟩ := h
  exact List.forall_mem_append.mpr
    ⟨fun x hx => (hskipped x hx).1, List.forall_mem_singleton.mpr ⟨_, hd, hlast⟩⟩

section Blocks

variable {names : List String} {blocks : List (List Attempt)}
  (h : List.Forall₂ (MakesTable w) names blocks)

include h

theorem tries_blocks : ∀ x ∈ blocks.flatten, ∃ name, Tries w name x := by
  induction h with
  | nil => exact nofun
  | cons hblock _ ih =>
    rw [List.flatten_cons]
    exact List.forall_mem_append.mpr ⟨fun x hx => ⟨_, hblock.tries x hx⟩, ih⟩

/-- The tables that are made have the names that were asked for. -/
theorem created_blocks : List.Forall₂ (Defines w) names (created blocks.flatten) := by
  induction h with
  | nil => exact .nil
  | cons hblock _ ih =>
    obtain ⟨d, hcreated, hd⟩ := hblock.created
    rw [List.flatten_cons, created_append, hcreated]
    exact .cons hd ih

end Blocks

/-- A table, after so many attempts at it that were skipped. -/
theorem attempts_logged (c : Client σ) (name : String) (n : Nat) (before skipped : List Attempt)
    (hlength : skipped.length + n = maxAttempts)
    (hskipped : ∀ x ∈ skipped, Tries w name x ∧ x.skipped = true) :
    Logged (Fault.OfPopulate w o) (before ++ skipped) (createTable c w name n)
      (createTable c.recorded w name n)
      (fun log t => ∃ block, log = before ++ block ∧ MakesTable w name block ∧
        (created block).map (·.table) = [t])
      (fun log => ∃ tried, log = before ++ tried ∧
        ∀ x ∈ tried, Tries w name x ∧ x.granted = false) := by
  have hrefused {log : List Attempt} (h : ∀ x ∈ log, Tries w name x ∧ x.skipped = true) :
      ∀ x ∈ log, Tries w name x ∧ x.granted = false :=
    fun x hx => ⟨(h x hx).1, Attempt.granted_of_skipped (h x hx).2⟩
  induction n generalizing skipped with
  | zero =>
    refine .raise (fun hbenign => ?_) ⟨skipped, rfl, hrefused hskipped⟩
    refine .noTable rfl (fun x hx => hbenign x (List.mem_append_left _ hx)) hlength fun x hx => ?_
    obtain ⟨⟨d, hd, hx⟩, hskip⟩ := hskipped x hx
    exact ⟨hskip, d, hd.name, hx⟩
  | succ n ih =>
    have hdefinition : Yields (Fault.OfPopulate w o) (Generate.tableDefinition w name) _ :=
      (Generate.yields_tableDefinition name).mono (fun _ hf => .inl (.inr hf)) fun _ h => h
    refine .draw hdefinition ⟨skipped, rfl, hrefused hskipped⟩ ?_
    intro d hd
    have hd : Defines w name d := ⟨hd.1, hd.2⟩
    refine .execute (s := .createTable d) (fun x hx hx' => ?_) fun x hx hbenign => ?_
    · refine ⟨skipped ++ [x], List.append_assoc _ _ _, ?_⟩
      exact List.forall_mem_append.mpr
        ⟨hrefused hskipped, List.forall_mem_singleton.mpr ⟨⟨d, hd, hx⟩, hx'⟩⟩
    · cases hgranted : x.granted with
      | true =>
        have hblock : MakesTable w name (skipped ++ [x]) :=
          .intro (by omega) hskipped hd hx hgranted
        refine .pure ⟨skipped ++ [x], List.append_assoc _ _ _, hblock, ?_⟩
        rw [created_concat (fun x hx => (hrefused hskipped x hx).2) hx hgranted]
        rfl
      | false =>
        rw [List.append_assoc]
        refine ih (skipped ++ [x]) (by rw [List.length_append, List.length_singleton]; omega) ?_
        have hskip : x.skipped = true := by rw [Attempt.skipped_eq_not_granted hbenign, hgranted]; rfl
        exact List.forall_mem_append.mpr
          ⟨hskipped, List.forall_mem_singleton.mpr ⟨⟨d, hd, hx⟩, hskip⟩⟩

/-- **Tables are made one after the other**, each in a block of attempts. -/
theorem createTables_logged (c : Client σ) (n i : Nat) (before : List Attempt) :
    Logged (Fault.OfPopulate w o) before (createTables c w n i) (createTables c.recorded w n i)
      (fun log tables => ∃ blocks, log = before ++ blocks.flatten ∧
        List.Forall₂ (MakesTable w) (tableNames i n) blocks ∧
        tables = (created blocks.flatten).map (·.table))
      (fun log => ∃ m blocks tried, log = before ++ (blocks.flatten ++ tried) ∧
        List.Forall₂ (MakesTable w) (tableNames i m) blocks ∧
        ∀ x ∈ tried, x.granted = false ∧ ∃ name, Tries w name x) := by
  induction n generalizing i before with
  | zero => exact .pure ⟨[], (List.append_nil _).symm, .nil, rfl⟩
  | succ n ih =>
    have htable := attempts_logged (w := w) (o := o) c (numbered "t" i) maxAttempts before [] rfl
      nofun
    rw [List.append_nil] at htable
    refine htable.bind ?_ ?_
    · rintro _ t ⟨block, rfl, hblock, ht⟩
      refine (ih (i + 1) (before ++ block)).bind ?_ ?_
      · rintro _ tables ⟨blocks, rfl, hblocks, rfl⟩
        refine .pure ⟨block :: blocks, List.append_assoc _ _ _, .cons hblock hblocks, ?_⟩
        rw [List.flatten_cons, created_append, List.map_append, ht]
        rfl
      · rintro _ ⟨m, blocks, tried, rfl, hblocks, htried⟩
        refine ⟨m + 1, block :: blocks, tried, ?_, .cons hblock hblocks, htried⟩
        simp only [List.flatten_cons, List.append_assoc]
    · rintro _ ⟨tried, rfl, htried⟩
      exact ⟨0, [], tried, rfl, .nil, fun x hx => ⟨(htried x hx).2, _, (htried x hx).1⟩⟩

/-! ## Statements -/

/-- **`Drawn o tables a s`** -- `s` is a statement of this kind that can be drawn for these tables. -/
inductive Drawn (o : Generate.Options) (tables : List Table) : Action → Statement → Prop
  | insert {t : Table} (ht : t ∈ tables) {rows : List (List Literal)}
    (hsome : 1 ≤ rows.length ∧ rows.length ≤ 3)
    (hrows : ∀ row ∈ rows, List.Forall₂ Storable t.columns row) :
    Drawn o tables .insert (.insert t.name rows)
  | update {t : Table} (ht : t ∈ tables) {c : Column} (hc : c ∈ t.columns) {v : Literal}
    (hv : Storable c v) {f : Option Expr} (hf : Filter o t.columns f) :
    Drawn o tables .update (.update t.name c.name v f)
  | delete {t : Table} (ht : t ∈ tables) {f : Option Expr} (hf : Filter o t.columns f) :
    Drawn o tables .delete (.delete t.name f)
  | createIndex {t : Table} (ht : t ∈ tables) (unique : Bool) (i : Nat) {columns : List Column}
    (hcolumns : columns.Sublist t.columns) (hne : columns ≠ []) :
    Drawn o tables .createIndex (.createIndex unique (numbered "i" i) t.name (columns.map (·.name)))
  | createView {view : Table} {k : Nat} (hname : view.name = numbered "v" k) {chosen : List Table}
    (hchosen : chosen.Sublist (Schema.usable ⟨tables⟩)) {q : Select}
    (hview : ViewOver o chosen view q) : Drawn o tables .createView (.createView view q)

theorem Drawn.action? {tables : List Table} {a : Action} {s : Statement} (h : Drawn o tables a s) :
    s.action? = some a := by
  cases h <;> rfl

theorem Drawn.allowlist {tables : List Table} {a : Action} {s : Statement}
    (h : Drawn o tables a s) : s.allowlist = a.allowlist := by
  rw [Statement.allowlist, h.action?]

/-- What is drawn for a table is a statement of the right kind. -/
theorem yields_statement {tables : List Table} {t : Table} (ht : t ∈ tables) (author : Author)
    (a : Action) :
    Yields (Fault.OfPopulate w o) (statement w o author tables t a) fun (s?, _) =>
      ∀ s ∈ s?, Drawn o tables a s := by
  have hp : o.nullProbability ∈ [o.nullProbability] := List.mem_singleton_self _
  have hfault (f : Fault) (hf : f.OfChance [o.nullProbability]) : f.OfPopulate w o := .inl (.inl hf)
  cases a with
  | insert =>
    refine .bind ((Generate.yields_insert hp t).mono hfault fun _ h => h) fun s hs => .pure ?_
    rintro _ ⟨⟩
    obtain ⟨rows, rfl, hmin, hmax, hrows⟩ := hs
    exact .insert ht ⟨hmin, hmax⟩ hrows
  | createIndex =>
    refine (Generate.yields_createIndex author t).weaken fun _ h s hs => ?_
    obtain ⟨unique, columns, rfl, hcolumns, hne⟩ := h s hs
    exact .createIndex ht unique _ hcolumns hne
  | update =>
    refine .bind ((Generate.yields_update hp t).mono hfault fun _ h => h) fun u hu => .pure ?_
    intro s hs
    obtain ⟨c, hc, v, f, rfl, hv, hf⟩ := hu s hs
    exact .update ht hc hv hf
  | delete =>
    refine .bind ((Generate.yields_delete hp t).mono hfault fun _ h => h) fun s hs => .pure ?_
    rintro _ ⟨⟩
    obtain ⟨f, rfl, hf⟩ := hs
    exact .delete ht hf
  | createView =>
    refine .bind ((Generate.yields_createView w o author tables).mono (fun _ => .inl) fun _ h => h) ?_
    rintro ⟨v, author'⟩ hv
    refine .pure ?_
    cases v with
    | none => exact nofun
    | some v =>
      rintro _ ⟨⟩
      obtain ⟨hname, chosen, hchosen, hview⟩ := hv
      exact .createView hname hchosen hview

/-! ## Phases -/

/-- What has been done after a log of statements, if so much had been done before. -/
def Counts.after (c : Counts) (log : List Attempt) : Counts :=
  { c with
    executed := c.executed + log.countP (·.granted)
    skipped := c.skipped + log.countP (·.skipped)
    views := c.views + log.countP fun x => x.granted && x.statement.action? = some .createView }

theorem Counts.after_append (c : Counts) (log log' : List Attempt) :
    c.after (log ++ log') = (c.after log).after log' := by
  simp [after, Nat.add_assoc]

/-- A statement is counted as it went. -/
theorem Counts.add_eq_after (c : Counts) {a : Action} {x : Attempt} (hbenign : x.fatal = false)
    (ha : x.statement.action? = some a) : c.add a x.granted = c.after [x] := by
  have hskipped := Attempt.skipped_eq_not_granted hbenign
  cases hgranted : x.granted with
  | true => cases a <;> simp [add, after, hgranted, hskipped, ha]
  | false => simp [add, after, hgranted, hskipped]

/-- **`Phase w o tables a phase`** -- the phase is made of statements of one kind for these tables,
no more than its maximum. -/
structure Phase (w : Workload) (o : Generate.Options) (tables : List Table) (a : Action)
    (phase : List Attempt) : Prop where
  length : phase.length ≤ w.limit a
  drawn : ∀ x ∈ phase, Drawn o tables a x.statement

/-- Up to so many statements of a kind. -/
theorem repeatAction_logged (c : Client σ) (tables : List Table) (a : Action) (n : Nat)
    (counts : Counts) (author : Author) (before : List Attempt) :
    Logged (Fault.OfPopulate w o) before (repeatAction c w o tables a n (counts, author))
      (repeatAction c.recorded w o tables a n (counts, author))
      (fun log done => ∃ phase, log = before ++ phase ∧ phase.length ≤ n ∧
        (∀ x ∈ phase, Drawn o tables a x.statement) ∧ done.1 = counts.after phase)
      (fun log => ∃ phase, log = before ++ phase ∧ ∀ x ∈ phase, Drawn o tables a x.statement) := by
  have hcut : ∃ phase, before = before ++ phase ∧ ∀ x ∈ phase, Drawn o tables a x.statement :=
    ⟨[], (List.append_nil _).symm, nofun⟩
  induction n generalizing counts author before with
  | zero => exact .pure ⟨[], (List.append_nil _).symm, Nat.le_refl 0, nofun, rfl⟩
  | succ n ih =>
    refine .draw (Gen.yields_choose? tables) hcut fun t ht => ?_
    cases t with
    | none => exact .pure ⟨[], (List.append_nil _).symm, Nat.zero_le _, nofun, rfl⟩
    | some t =>
      refine .draw (yields_statement (ht t rfl) author a) hcut ?_
      rintro ⟨s, author'⟩ hs
      cases s with
      | none =>
        refine (ih counts author' before hcut).mono ?_ fun _ h => h
        rintro log done ⟨phase, rfl, hlength, hdrawn, hcounts⟩
        exact ⟨phase, rfl, Nat.le_succ_of_le hlength, hdrawn, hcounts⟩
      | some s =>
        have hs : Drawn o tables a s := hs s rfl
        dsimp only
        rw [← hs.allowlist]
        refine .execute (fun x hx _ => ?_) fun x hx hbenign => ?_
        · exact ⟨[x], rfl, List.forall_mem_singleton.mpr (hx ▸ hs)⟩
        · have hcons {phase : List Attempt} (h : ∀ y ∈ phase, Drawn o tables a y.statement) :
              ∀ y ∈ x :: phase, Drawn o tables a y.statement :=
            List.forall_mem_cons.mpr ⟨hx ▸ hs, h⟩
          have hadd : counts.add a x.granted = counts.after [x] :=
            counts.add_eq_after hbenign (hx ▸ hs.action?)
          refine (ih _ author' (before ++ [x]) ?_).mono ?_ ?_
          · exact ⟨[], (List.append_nil _).symm, nofun⟩
          · rintro _ done ⟨phase, rfl, hlength, hdrawn, hcounts⟩
            refine ⟨x :: phase, List.append_assoc _ _ _, Nat.succ_le_succ hlength, hcons hdrawn, ?_⟩
            rw [hcounts, hadd, ← Counts.after_append]
            rfl
          · rintro _ ⟨phase, rfl, hdrawn⟩
            exact ⟨x :: phase, List.append_assoc _ _ _, hcons hdrawn⟩

/-- One phase for each action, as long as is drawn for it. -/
theorem doActions_logged (c : Client σ) (tables : List Table) (actions : List Action)
    (counts : Counts) (author : Author) (before : List Attempt) :
    Logged (Fault.OfPopulate w o) before (doActions c w o tables actions (counts, author))
      (doActions c.recorded w o tables actions (counts, author))
      (fun log done => ∃ phases, log = before ++ phases.flatten ∧
        List.Forall₂ (Phase w o tables) actions phases ∧ done.1 = counts.after phases.flatten)
      (fun log => ∃ later, log = before ++ later ∧
        ∀ x ∈ later, ∃ a, Drawn o tables a x.statement) := by
  induction actions generalizing counts author before with
  | nil => exact .pure ⟨[], (List.append_nil _).symm, .nil, rfl⟩
  | cons a rest ih =>
    have hcount : Yields (Fault.OfPopulate w o) (Generate.statementCount w a) (· ≤ w.limit a) :=
      Generate.yields_statementCount (fun a h => .inr (.inr ⟨rfl, a, h⟩)) a
    refine .draw hcount ⟨[], (List.append_nil _).symm, nofun⟩ fun n hn => ?_
    refine (repeatAction_logged c tables a n counts author before).bind ?_ ?_
    · rintro _ ⟨counts', author'⟩ ⟨phase, rfl, hlength, hdrawn, rfl⟩
      refine (ih _ author' (before ++ phase)).mono ?_ ?_
      · rintro _ done ⟨phases, rfl, hphases, hcounts⟩
        refine ⟨phase :: phases, List.append_assoc _ _ _, .cons ?_ hphases, ?_⟩
        · exact ⟨Nat.le_trans hlength hn, hdrawn⟩
        · rw [hcounts, List.flatten_cons, Counts.after_append]
      · rintro _ ⟨later, rfl, hlater⟩
        refine ⟨phase ++ later, List.append_assoc _ _ _, ?_⟩
        exact List.forall_mem_append.mpr ⟨fun x hx => ⟨a, hdrawn x hx⟩, hlater⟩
    · rintro _ ⟨phase, rfl, hdrawn⟩
      exact ⟨phase, rfl, fun x hx => ⟨a, hdrawn x hx⟩⟩

/-- One list for each action, by its action. -/
theorem exists_by_action {R : Action → List Attempt → Prop} {phases : List (List Attempt)}
    (h : List.Forall₂ R Action.all phases) :
    ∃ phase : Action → List Attempt, phases = Action.all.map phase ∧ ∀ a, R a (phase a) := by
  obtain ⟨inserts, _, hinsert, h₁, rfl⟩ := List.forall₂_cons_left_iff.mp h
  obtain ⟨indexes, _, hindex, h₂, rfl⟩ := List.forall₂_cons_left_iff.mp h₁
  obtain ⟨updates, _, hupdate, h₃, rfl⟩ := List.forall₂_cons_left_iff.mp h₂
  obtain ⟨deletes, _, hdelete, h₄, rfl⟩ := List.forall₂_cons_left_iff.mp h₃
  obtain ⟨views, _, hview, h₅, rfl⟩ := List.forall₂_cons_left_iff.mp h₄
  obtain rfl := List.forall₂_nil_left_iff.mp h₅
  let phase (a : Action) : List Attempt := a.casesOn inserts indexes updates deletes views
  refine ⟨phase, rfl, fun a => ?_⟩
  cases a with
  | insert => exact hinsert
  | createIndex => exact hindex
  | update => exact hupdate
  | delete => exact hdelete
  | createView => exact hview

/-! ## The whole log -/

/-- **`Filled w o log counts`** -- the log is that of a database filled from beginning to end, and
the counts are what it shows. -/
inductive Filled (w : Workload) (o : Generate.Options) : List Attempt → Counts → Prop
  | intro {n : Nat} (hn : 1 ≤ n ∧ n ≤ max 1 w.maxTables) {blocks : List (List Attempt)}
    (hblocks : List.Forall₂ (MakesTable w) (tableNames 0 n) blocks) {phase : Action → List Attempt}
    (hphase : ∀ a, Phase w o ((created blocks.flatten).map (·.table)) a (phase a)) :
    Filled w o (blocks.flatten ++ Action.all.flatMap phase)
      ((Counts.start n).after (Action.all.flatMap phase))

/-- **`Cut w o log`** -- the log is that of a database up to some point: after the tables that were
made come refused attempts at one more, or else statements for them. -/
inductive Cut (w : Workload) (o : Generate.Options) : List Attempt → Prop
  | tables {n : Nat} {blocks : List (List Attempt)}
    (hblocks : List.Forall₂ (MakesTable w) (tableNames 0 n) blocks)
    {tried : List Attempt} (htried : ∀ x ∈ tried, x.granted = false ∧ ∃ name, Tries w name x) :
    Cut w o (blocks.flatten ++ tried)
  | actions {n : Nat} {blocks : List (List Attempt)}
    (hblocks : List.Forall₂ (MakesTable w) (tableNames 0 n) blocks)
    {later : List Attempt}
    (hlater : ∀ x ∈ later, ∃ a, Drawn o ((created blocks.flatten).map (·.table)) a x.statement) :
    Cut w o (blocks.flatten ++ later)

theorem populate_logged (c : Client σ) (w : Workload) (o : Generate.Options) :
    Logged (Fault.OfPopulate w o) [] (populate c w o) (populate c.recorded w o) (Filled w o)
      (Cut w o) := by
  have hblocks : List.Forall₂ (MakesTable w) (tableNames 0 0) [] := .nil
  have hnone : ∀ x ∈ ([] : List Attempt), x.granted = false ∧ ∃ name, Tries w name x := nofun
  have hstart : Cut w o [] := .tables hblocks hnone
  refine .draw (Generate.yields_oneTo w.maxTables) hstart fun n hn => ?_
  have hroom : Yields (Fault.OfPopulate w o) (Gen.reserve .table n) fun _ => Record.table.HasRoom n :=
    (Gen.yields_reserve .table n).mono (fun _ hf => .inr (.inl (hf.mono hn.2))) fun _ h => h
  refine .draw hroom hstart fun _ _ => ?_
  refine (createTables_logged c n 0 []).bind ?_ ?_
  · rintro _ tables ⟨blocks, rfl, hblocks, rfl⟩
    refine (doActions_logged c _ _ _ _ _).bind ?_ ?_
    · rintro _ ⟨counts, author⟩ ⟨phases, rfl, hphases, rfl⟩
      obtain ⟨phase, rfl, hphase⟩ := exists_by_action hphases
      refine .pure ?_
      have hlength : (created blocks.flatten).length = n := by
        simpa [tableNames] using (created_blocks hblocks).length_eq.symm
      rw [List.length_map, hlength, ← List.flatMap_def]
      exact .intro hn hblocks hphase
    · rintro _ ⟨later, rfl, hlater⟩
      exact .actions hblocks hlater
  · rintro _ ⟨m, blocks, tried, rfl, hblocks, htried⟩
    exact .tables hblocks htried

/-- What is said to the engine while a database is filled. -/
def transcript (c : Client σ) (w : Workload) (o : Generate.Options) (world : World σ) :
    List Exchange :=
  ((populate c.recorded w o).runOn ⟨(world.engine, []), world.stream⟩).2.engine.2

/-- **What is said while a database is filled** is a log of statements and answers, and it shows
what the work came to. -/
theorem populate_log (c : Client σ) (w : Workload) (o : Generate.Options) (world : World σ) :
    ∃ log, transcript c w o world = log.map Attempt.exchange ∧
      Ends (Fault.OfPopulate w o) log ((populate c w o).runOn world).1 ∧
      match ((populate c w o).runOn world).1 with
      | .ok counts => Filled w o log counts
      | .error _ => Cut w o log := by
  obtain ⟨r, log, world', htraced, hends, hlog⟩ :=
    populate_logged c w o (fun _ hx => absurd hx List.not_mem_nil) world
  have hr : ((populate c w o).runOn world).1 = r := by rw [htraced.run]
  refine ⟨log, ?_, ?_, ?_⟩
  · rw [transcript, htraced.recorded []]
    rfl
  · rw [hr]
    exact hends
  · rw [hr]
    cases r <;> exact hlog

end Populate
end PredicateOracle
