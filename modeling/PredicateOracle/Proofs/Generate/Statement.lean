import PredicateOracle.Generate.Statement
import PredicateOracle.Proofs.Generate.Expr
import PredicateOracle.Proofs.Generate.RowSource

/-!
# PredicateOracle.Proofs.Generate.Statement -- statements fit the tables that they are drawn for

For every kind of statement this module says what is drawn, whatever the stream: new rows have a
literal for each column that the column can hold (`Storable`), filters are predicates over the columns
of the table, an index lists a selection of them, and the columns of a view have the types of the
expressions behind them (`ViewOver`). Three draws can fail: a coin for NULL whose probability is not a
number, a number of statements whose maximum is too large to be increased, and a number of columns for
which there is no room.
-/

namespace PredicateOracle.Generate

open Sql
open Gen (Yields)

variable {F : Fault → Prop} {ps : List Float} {w : Workload} {o : Options}

/-! ## How many -/

/-- The number of statements of a kind is at most its maximum. -/
theorem yields_statementCount (hF : ∀ a, 2 ^ (64 : Nat) ≤ w.limit a + 1 → F .wordOverflow)
    (a : Action) : Yields F (statementCount w a) (· ≤ w.limit a) := by
  unfold statementCount
  split
  · rename_i h
    exact fun _ => ⟨rfl, hF a h⟩
  · exact (Gen.yields_index (Nat.succ_pos _)).weaken fun _ => Nat.le_of_lt_succ

theorem yields_oneTo (maximum : Nat) :
    Yields F (oneTo maximum) fun n => 1 ≤ n ∧ n ≤ max 1 maximum :=
  .bind (Gen.yields_index (by omega)) fun k hk => .pure (by omega)

/-- Whatever number of columns is drawn, room for it is asked for, and nothing else is drawn. -/
theorem runOn_columnCount {s s' : Random.Stream} {n : Nat}
    (h : (oneTo w.maxColumns).runOn s = (.ok n, s')) :
    (columnCount w).runOn s = ((Record.column.reserve n).map fun () => n, s') := by
  unfold columnCount
  rw [Gen.runOn_bind, h]
  dsimp only
  rw [Gen.runOn_bind, Gen.runOn_reserve]
  cases Record.column.reserve n <;> rfl

/-- A number of columns lies between one and the maximum, and there is room for so many. -/
theorem yields_columnCount (w : Workload) :
    Yields (Fault.OfRoom .column (max 1 w.maxColumns)) (columnCount w) fun n =>
      (1 ≤ n ∧ n ≤ max 1 w.maxColumns) ∧ Record.column.HasRoom n := by
  refine .bind (yields_oneTo w.maxColumns) fun n hn => ?_
  refine .bind ((Gen.yields_reserve .column n).mono (fun f hf => hf.mono hn.2) fun _ h => h) ?_
  exact fun _ hroom => .pure ⟨hn, hroom⟩

/-! ## Tables -/

/-- The names of the first so many columns. -/
def columnNames (n : Nat) : List String := (List.range n).map (numbered "c")

/-- **`Permitted w c`** -- the definition `c` has no constraint that the workload `w` rules out. -/
structure Permitted (w : Workload) (c : ColumnDefinition) : Prop where
  key : w.indexes = false → c.key = none
  notNull : w.notNull = false → c.notNull = false

/-- How many columns are a primary key by themselves. -/
def primaryCount (columns : List ColumnDefinition) : Nat :=
  columns.countP (·.key = some .primary)

/-- **`Drafted w name d`** -- what holds of every definition `d` that is drawn for a table with this
name. There is at most one primary key, of a column or of the table. -/
structure Drafted (w : Workload) (name : String) (d : TableDefinition) : Prop where
  name : d.name = name
  length : 1 ≤ d.columns.length ∧ d.columns.length ≤ max 1 w.maxColumns
  names : d.columns.map (·.name) = columnNames d.columns.length
  permitted : ∀ c ∈ d.columns, Permitted w c
  increasing : d.key.Pairwise (· < ·)
  inRange : ∀ i ∈ d.key, i < d.columns.length
  keyless : w.indexes = false → d.key = []
  onePrimary : primaryCount d.columns + (if d.key = [] then 0 else 1) ≤ 1

theorem yields_columnKey (hasPrimary : Bool) :
    Yields F (columnKey w hasPrimary) fun key =>
      (w.indexes = false → key = none) ∧ (hasPrimary = true → key ≠ some .primary) := by
  unfold columnKey
  refine .ite (fun _ => .pure ⟨fun _ => rfl, fun _ => nofun⟩) fun hindexes => ?_
  rw [Bool.not_eq_false'] at hindexes
  refine .bind Gen.yields_rarely fun b _ => ?_
  refine .ite (fun _ => .pure ⟨fun _ => rfl, fun _ => nofun⟩) fun _ => ?_
  have hoff {P : Prop} (h : w.indexes = false) : P := by
    rw [hindexes] at h
    cases h
  refine .ite (fun _ => .pure ⟨hoff, fun _ => nofun⟩) fun hfirst => ?_
  refine .bind Gen.yields_coin fun _ _ => .pure ⟨hoff, fun h => ?_⟩
  rw [hfirst] at h
  cases h

/-- Columns are numbered in order, and at most one is a primary key unless there was one before. -/
theorem yields_columnDefinitions (n i : Nat) (hasPrimary : Bool) :
    Yields F (columnDefinitions w n i hasPrimary) fun columns =>
      columns.map (·.name) = (List.range' i n).map (numbered "c") ∧
        (∀ c ∈ columns, Permitted w c) ∧ primaryCount columns ≤ if hasPrimary then 0 else 1 := by
  induction n generalizing i hasPrimary with
  | zero => exact .pure ⟨rfl, nofun, Nat.zero_le _⟩
  | succ n ih =>
    refine .bind (Gen.yields_pick (by decide)) fun type _ => ?_
    refine .bind (yields_columnKey hasPrimary) fun key ⟨hkeyless, hsecond⟩ => ?_
    have hrest (notNull : Bool) (hnull : w.notNull = false → notNull = false) : Yields F
        (do
          let rest ← columnDefinitions w n (i + 1) (hasPrimary || key = some .primary)
          return ⟨numbered "c" i, type, key, notNull⟩ :: rest)
        fun columns => columns.map (·.name) = (List.range' i (n + 1)).map (numbered "c") ∧
          (∀ c ∈ columns, Permitted w c) ∧
          primaryCount columns ≤ if hasPrimary then 0 else 1 := by
      refine .bind (ih (i + 1) _) fun rest ⟨hnames, hpermitted, hprimary⟩ => .pure ⟨?_, ?_, ?_⟩
      · rw [List.map_cons, hnames]
        rfl
      · exact List.forall_mem_cons.mpr ⟨⟨hkeyless, hnull⟩, hpermitted⟩
      · rw [primaryCount, List.countP_cons]
        change primaryCount rest + _ ≤ _
        by_cases hkey : key = some .primary
        · have hfirst : hasPrimary = false := by
            rw [← Bool.not_eq_true]
            exact fun h => hsecond h hkey
          simpa [hkey, hfirst] using hprimary
        · simpa [hkey] using hprimary
    refine .ite (fun hnull => ?_) fun _ => hrest false fun _ => rfl
    refine .bind Gen.yields_rarely fun notNull _ => hrest notNull fun h => ?_
    rw [hnull] at h
    cases h

/-- A key lists columns in order, and there is none beside a primary key of a column. -/
theorem yields_tableKey (columns : List ColumnDefinition) :
    Yields F (tableKey w columns) fun key =>
      key.Pairwise (· < ·) ∧ (∀ i ∈ key, i < columns.length) ∧
        (key ≠ [] → w.indexes = true ∧ primaryCount columns = 0) := by
  have hnone : Yields F (pure [] : Gen (List Nat)) fun key =>
      key.Pairwise (· < ·) ∧ (∀ i ∈ key, i < columns.length) ∧
        (key ≠ [] → w.indexes = true ∧ primaryCount columns = 0) :=
    .pure ⟨.nil, nofun, fun h => absurd rfl h⟩
  unfold tableKey
  refine .ite (fun _ => hnone) fun hallowed => .bind Gen.yields_coin fun _ _ => ?_
  rw [Bool.or_eq_false_iff, Bool.not_eq_false'] at hallowed
  refine .ite (fun _ => ?_) fun _ => hnone
  refine (Gen.yields_positions _).weaken fun key hkey => ⟨hkey.1, hkey.2.1, fun _ => ?_⟩
  refine ⟨hallowed.1, List.countP_eq_zero.mpr fun c hc => ?_⟩
  exact List.any_eq_false.mp hallowed.2 c hc

/-- A definition with so many columns. -/
theorem yields_draftedWith (name : String) {n : Nat} (hn : 1 ≤ n ∧ n ≤ max 1 w.maxColumns) :
    Yields F
      (do
        let columns ← columnDefinitions w n 0 false
        return ⟨name, columns, ← tableKey w columns⟩)
      fun d => Drafted w name d ∧ d.columns.length = n := by
  refine .bind (yields_columnDefinitions n 0 false) ?_
  rintro columns ⟨hnames, hpermitted, hprimary⟩
  refine .bind (yields_tableKey columns) fun key ⟨hincreasing, hrange, hkey⟩ => .pure ?_
  have hlength : columns.length = n := by simpa using congrArg List.length hnames
  subst hlength
  refine ⟨⟨rfl, hn, ?_, hpermitted, hincreasing, hrange, fun hindexes => ?_, ?_⟩, rfl⟩
  · rw [hnames, columnNames, List.range_eq_range']
  · by_cases hnil : key = []
    · exact hnil
    · rw [(hkey hnil).1] at hindexes
      cases hindexes
  · change primaryCount columns + _ ≤ 1
    split
    · exact hprimary
    · rename_i hne
      exact Nat.add_le_add_right (Nat.le_of_eq (hkey hne).2) 1

/-- **A table definition** has the name that was asked for, numbered columns, at least one and no more
than the maximum, and constraints as the workload permits them. -/
theorem yields_drafted (name : String) :
    Yields (Fault.OfRoom .column (max 1 w.maxColumns)) (tableDefinition w name) (Drafted w name) :=
  .bind (yields_columnCount w) fun _ ⟨hn, _⟩ => (yields_draftedWith name hn).weaken fun _ h => h.1

theorem yields_tableDefinition (name : String) :
    Yields (Fault.OfRoom .column (max 1 w.maxColumns)) (tableDefinition w name) fun d =>
      d.name = name ∧ ∃ n, 1 ≤ n ∧ n ≤ max 1 w.maxColumns ∧
        d.columns.map (·.name) = columnNames n :=
  (yields_drafted name).weaken fun d hd =>
    ⟨hd.name, d.columns.length, hd.length.1, hd.length.2, hd.names⟩

/-! ## Rows -/

/-- **`Storable c v`** -- the column `c` can hold the literal `v`: it has the type of the column,
and it is NULL only if the column may be. The literal is also one that is drawn. -/
structure Storable (c : Column) (v : Literal) : Prop where
  type : v.type = c.type
  notNull : c.nullable = false → ∀ t, v ≠ .null t
  modest : Modest v

/-- A coin that never comes up. -/
theorem yields_chance_zero : Yields F (Gen.chance 0) (· = false) := by
  have hodds : Random.Odds.ofProbability 0 = .threshold 0 := by decide +kernel
  unfold Gen.chance
  rw [hodds]
  exact fun s => ⟨Random.readDoubleWord_seed s, decide_eq_false (Nat.not_lt_zero _)⟩

/-- A literal that is not NULL. -/
theorem value_ne_null (type : DataType) :
    Yields F (value type) fun l => l.type = type ∧ Modest l ∧ ∀ t, l ≠ .null t := by
  cases type with
  | integer =>
    exact .bind (Gen.yields_between (by decide) (by decide)) fun _ hn => .pure ⟨rfl, hn, nofun⟩
  | varchar =>
    exact .bind (Gen.yields_text (by decide) maxTextLength) fun _ ht => .pure ⟨rfl, ht, nofun⟩
  | boolean => exact .bind Gen.yields_coin fun _ _ => .pure ⟨rfl, trivial, nofun⟩

theorem yields_storable (hp : o.nullProbability ∈ ps) (c : Column) :
    Yields (Fault.OfChance ps) (storable o c) (Storable c) := by
  unfold storable
  cases hc : c.nullable with
  | true =>
    refine (yields_literal hp c.type).weaken fun v hv => ⟨hv.1, fun h => ?_, hv.2⟩
    rw [hc] at h
    cases h
  | false =>
    refine .bind yields_chance_zero fun b hb => ?_
    subst hb
    exact (value_ne_null c.type).weaken fun v hv => ⟨hv.1, fun _ => hv.2.2, hv.2.1⟩

/-- A new row has a storable literal for each column. -/
theorem yields_tuple (hp : o.nullProbability ∈ ps) (columns : List Column) :
    Yields (Fault.OfChance ps) (tuple o columns) (List.Forall₂ Storable columns) := by
  induction columns with
  | nil => exact .pure .nil
  | cons c rest ih =>
    refine .bind (yields_storable hp c) fun v hv => .bind ih fun vs hvs => .pure ?_
    exact .cons hv hvs

/-- One to three new rows. -/
theorem yields_insert (hp : o.nullProbability ∈ ps) (t : Table) :
    Yields (Fault.OfChance ps) (insert o t) fun s =>
      ∃ rows, s = .insert t.name rows ∧ 1 ≤ rows.length ∧ rows.length ≤ 3 ∧
        ∀ row ∈ rows, List.Forall₂ Storable t.columns row := by
  refine .bind (Gen.yields_index (by decide)) fun k hk => ?_
  refine .bind (Gen.yields_times (yields_tuple hp t.columns) _) fun rows hrows => .pure ?_
  exact ⟨rows, rfl, by omega, by omega, hrows.2⟩

/-- **`Filter o columns f`** -- the filter `f`, if there is one, is a predicate over these columns. -/
def Filter (o : Options) (columns : List Column) (f : Option Expr) : Prop :=
  ∀ e ∈ f, Grown o columns (o.maxDepth + 1) .boolean e

theorem yields_filter (hp : o.nullProbability ∈ ps) (columns : List Column) :
    Yields (Fault.OfChance ps) (filter o columns) (Filter o columns) := by
  refine .bind Gen.yields_coin fun b _ => .ite (fun _ => ?_) fun _ => .pure nofun
  refine .bind (yields_predicate hp) fun e he => .pure fun e' he' => ?_
  obtain rfl := Option.mem_some.mp he'
  exact he

/-- A column is set to a literal that it can hold. -/
theorem yields_update (hp : o.nullProbability ∈ ps) (t : Table) :
    Yields (Fault.OfChance ps) (update o t) fun u =>
      ∀ s ∈ u, ∃ c ∈ t.columns, ∃ v f, s = .update t.name c.name v f ∧ Storable c v ∧
        Filter o t.columns f := by
  refine .bind (Gen.yields_choose? t.columns) fun c hc => ?_
  cases c with
  | none => exact .pure nofun
  | some c =>
    refine .bind (yields_storable hp c) fun v hv => ?_
    refine .bind (yields_filter hp t.columns) fun f hf => .pure fun s hs => ?_
    obtain rfl := Option.mem_some.mp hs
    exact ⟨c, hc c rfl, v, f, rfl, hv, hf⟩

theorem yields_delete (hp : o.nullProbability ∈ ps) (t : Table) :
    Yields (Fault.OfChance ps) (delete o t) fun s =>
      ∃ f, s = .delete t.name f ∧ Filter o t.columns f :=
  .bind (yields_filter hp t.columns) fun f hf => .pure ⟨f, rfl, hf⟩

/-! ## Indexes and views -/

/-- **The next index**: it lists some of the columns, each of them once, has a fresh name, and is
counted. There is none exactly if the table has no column, and then nothing is counted. -/
theorem yields_nextIndex (a : Author) (t : Table) :
    Yields F (createIndex a t) fun r =>
      (r = (none, a) ∧ t.columns = []) ∨
        ∃ unique columns, r = (some (.createIndex unique (numbered "i" a.indexes) t.name
            (columns.map (·.name))), { a with indexes := a.indexes + 1 }) ∧
          columns.Sublist t.columns ∧ columns ≠ [] := by
  unfold createIndex
  refine .ite (fun hempty => .pure (.inl ⟨rfl, List.isEmpty_iff.mp hempty⟩)) fun hne => ?_
  rw [List.isEmpty_eq_false_iff] at hne
  refine .bind (Gen.yields_subset t.columns) fun columns hcolumns => ?_
  refine .bind Gen.yields_rarely fun unique _ => .pure (.inr ?_)
  exact ⟨unique, columns, rfl, hcolumns.1, hcolumns.2 hne⟩

/-- An index lists some of the columns, each of them once, and has a fresh name. -/
theorem yields_createIndex (a : Author) (t : Table) :
    Yields F (createIndex a t) fun (s?, _) =>
      ∀ s ∈ s?, ∃ unique columns, s = .createIndex unique (numbered "i" a.indexes) t.name
        (columns.map (·.name)) ∧ columns.Sublist t.columns ∧ columns ≠ [] := by
  refine (yields_nextIndex a t).weaken fun r hr => ?_
  rcases hr with ⟨rfl, -⟩ | ⟨unique, columns, rfl, hcolumns⟩
  · exact nofun
  · rintro _ ⟨⟩
    exact ⟨unique, columns, rfl, hcolumns⟩

/-- **`ViewOver o tables view q`** -- the view `view` with the query `q` is one over these tables:
each of its columns has the type of the expression behind it, and the query is well typed. -/
structure ViewOver (o : Options) (tables : List Table) (view : Table) (q : Select) : Prop where
  source : q.source.Over (fun columns => Grown o columns (o.maxDepth + 1) .boolean) tables
  columns : List.Forall₂ (fun c e => Grown o (columnsOf tables) (o.maxDepth + 1) c.type e)
    view.columns q.projection
  filter : Filter o (columnsOf tables) q.filter
  orderBy : q.orderBy = []

theorem yields_viewColumns (hp : o.nullProbability ∈ ps) (columns : List Column) (view : String)
    (n i : Nat) :
    Yields (Fault.OfChance ps) (viewColumns o columns view n i) fun listed => listed.length = n ∧
      List.Forall₂ (fun c e => Grown o columns (o.maxDepth + 1) c.type e)
        (listed.map (·.1)) (listed.map (·.2)) := by
  induction n generalizing i with
  | zero => exact .pure ⟨rfl, .nil⟩
  | succ n ih =>
    refine .bind (Gen.yields_pick (by decide)) fun type _ => ?_
    refine .bind (yields_exprWithin hp (o.maxDepth + 1) type) fun e he => ?_
    refine .bind (ih (i + 1)) fun rest ⟨hlength, hrest⟩ => .pure ?_
    exact ⟨congrArg (· + 1) hlength, .cons he hrest⟩

theorem yields_viewJoin : Yields F (Gen.chance viewJoinProbability) fun _ => True :=
  Gen.yields_toss fun hodds => absurd hodds (by decide +kernel)

/-- **`NextView w o a tables view q`** -- what holds of every view that the author `a` draws over these
tables. -/
structure NextView (w : Workload) (o : Options) (a : Author) (tables : List Table) (view : Table)
    (q : Select) : Prop where
  name : view.name = numbered "v" a.views
  length : 1 ≤ view.columns.length ∧ view.columns.length ≤ max 1 w.maxColumns
  tables : ∃ chosen, chosen.Sublist (Schema.usable ⟨tables⟩) ∧ ViewOver o chosen view q

/-- **`StatementFault w o f`** -- the fault `f` can be met while a statement is drawn: the probability
of NULL is not a number, or there is no room for as many columns as there can be. -/
def StatementFault (w : Workload) (o : Options) (f : Fault) : Prop :=
  f.OfChance [o.nullProbability] ∨ f.OfRoom .column (max 1 w.maxColumns)

/-- **The next view** is made over some of the tables that have a column, and counted. There is none
exactly if no table has a column, and then nothing is counted. -/
theorem yields_nextView (w : Workload) (o : Options) (a : Author) (tables : List Table) :
    Yields (StatementFault w o) (createView w o a tables) fun r =>
      (r = (none, a) ∧ Schema.usable ⟨tables⟩ = []) ∨
        ∃ view q, r = (some (view, q), { a with views := a.views + 1 }) ∧
          NextView w o a tables view q := by
  have hp : o.nullProbability ∈ [o.nullProbability] := List.mem_singleton_self _
  refine .bind (yields_targets ⟨tables⟩ w.maxTables) fun chosen hchosen => ?_
  cases chosen with
  | none => exact .pure (.inl ⟨rfl, hchosen⟩)
  | some chosen =>
    refine .bind ((yields_columnCount w).mono (fun _ hf => .inr hf) fun _ h => h) fun n ⟨hn, _⟩ => ?_
    -- All faults after the number of columns come of a coin.
    refine Yields.mono (F := Fault.OfChance [o.nullProbability]) ?_ (fun _ hf => .inl hf) fun _ h => h
    refine .bind (yields_viewColumns hp (columnsOf chosen) _ n 0) fun listed hlisted => ?_
    refine .bind (yields_rowSource yields_viewJoin (fun _ => yields_predicate hp) chosen) ?_
    intro source hsource
    refine .bind (yields_filter hp (columnsOf chosen)) fun condition hcondition => ?_
    refine .bind Gen.yields_coin fun distinct _ => .pure (.inr ⟨_, _, rfl, rfl, ?_, ?_⟩)
    · rw [List.length_map, hlisted.1]
      exact hn
    · exact ⟨chosen, hchosen.1, hsource, hlisted.2, hcondition, rfl⟩

/-- **A view is made over some of the tables** that have a column, and it has a fresh name. There is
none exactly if no table has a column. -/
theorem yields_createView (w : Workload) (o : Options) (a : Author) (tables : List Table) :
    Yields (StatementFault w o) (createView w o a tables) fun (v, _) =>
      match v with
      | none => Schema.usable ⟨tables⟩ = []
      | some (view, q) => view.name = numbered "v" a.views ∧
        ∃ chosen, chosen.Sublist (Schema.usable ⟨tables⟩) ∧ ViewOver o chosen view q := by
  refine (yields_nextView w o a tables).weaken fun r hr => ?_
  rcases hr with ⟨rfl, hnone⟩ | ⟨view, q, rfl, hview⟩
  · exact hnone
  · exact ⟨hview.name, hview.tables⟩

/-- **The query of a view over tables of a coherent schema is sound**, and its expressions have the
types of the columns of the view, one by one. -/
theorem ViewOver.sound {s : Schema} (hs : s.Coherent) {tables : List Table} {view : Table}
    {q : Select} (htables : tables ⊆ s.tables) (h : ViewOver o tables view q) :
    q.Sound s ∧ List.Forall₂ (fun c e => s.Types q.source.names e c.type)
      view.columns q.projection := by
  have hsource : q.source.Over IsBoolean tables := h.source.mono fun _ _ hon => hon.typed
  have hscope := hsource.scope htables
  constructor
  · refine .of_over hs htables hsource (fun e he => ?_) (fun e he => (h.filter e he).typed) ?_
    · obtain ⟨i, hi, rfl⟩ := List.mem_iff_getElem.mp he
      exact ⟨_, (h.columns.get (h.columns.length_eq ▸ hi) hi).typed⟩
    · rw [h.orderBy]
      exact fun _ he => absurd he List.not_mem_nil
  · exact h.columns.imp fun c e he => .of_hasType hs hscope he.typed

end PredicateOracle.Generate
