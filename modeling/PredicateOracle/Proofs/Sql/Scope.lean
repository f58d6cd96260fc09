import Mathlib.Data.List.Nodup
import PredicateOracle.Proofs.Sql.Typing
import PredicateOracle.Sql.Select

/-!
# PredicateOracle.Proofs.Sql.Scope -- what the names in a query stand for

A query names columns of the tables in its FROM clause; the condition of a join names columns of the
two joined tables. `Select.Sound s q` says that over the schema `s` every name in the query `q`
stands for such a column, and that every expression has a type. It is enough to know the type of an
expression over some of the columns in scope (`Schema.Types.of_hasType`): in a coherent schema no
name stands for two columns, so more columns in scope change nothing.
-/

namespace PredicateOracle.Sql

/-! ## Coherent schemas -/

/-- **`s.Coherent`** -- no two tables have one name, nor do two columns of one table, and every column
carries the name of its table. -/
structure Schema.Coherent (s : Schema) : Prop where
  tables : (s.tables.map (·.name)).Nodup
  columns : ∀ t ∈ s.tables, (t.columns.map (·.name)).Nodup
  owner : ∀ t ∈ s.tables, ∀ c ∈ t.columns, c.table = t.name

/-- Coherence can be checked. -/
instance (s : Schema) : Decidable s.Coherent :=
  decidable_of_iff
    ((s.tables.map (·.name)).Nodup ∧ (∀ t ∈ s.tables, (t.columns.map (·.name)).Nodup) ∧
      ∀ t ∈ s.tables, ∀ c ∈ t.columns, c.table = t.name)
    ⟨fun h => ⟨h.1, h.2.1, h.2.2⟩, fun h => ⟨h.tables, h.columns, h.owner⟩⟩

/-! ## Scopes -/

/-- The tables that a row source names: the sides of its joins, then the single tables. -/
def RowSource.names (s : RowSource) : List String :=
  s.joins.flatMap (fun j => [j.left, j.right]) ++ s.tables

namespace Schema

/-- The columns that can be named where the tables of these names are in scope. -/
def scope (s : Schema) (names : List String) : List Column :=
  columnsOf (s.tables.filter (·.name ∈ names))

/-- **`s.Resolves names r`** -- the reference `r` names a column of a table of the schema that has
one of these names. -/
def Resolves (s : Schema) (names : List String) (r : ColumnRef) : Prop :=
  ∃ t ∈ s.tables, t.name ∈ names ∧ t.name = r.table ∧ ∃ c ∈ t.columns, c.name = r.column

/-- **`s.Types names e t`** -- where the tables of these names are in scope, the expression `e` is
of the type `t` and of no other, and every reference in it stands for a column. -/
structure Types (s : Schema) (names : List String) (e : Expr) (t : DataType) : Prop where
  hasType : HasType (s.scope names) e t
  unique : ∀ t', HasType (s.scope names) e t' → t' = t
  resolves : ∀ r ∈ e.refs, s.Resolves names r

variable {s : Schema} {names : List String} {e : Expr} {t : DataType}

theorem mem_columnsOf {tables : List Table} {c : Column} :
    c ∈ columnsOf tables ↔ ∃ t ∈ tables, c ∈ t.columns := List.mem_flatMap

theorem mem_scope {c : Column} :
    c ∈ s.scope names ↔ ∃ t ∈ s.tables, t.name ∈ names ∧ c ∈ t.columns := by
  unfold scope
  rw [mem_columnsOf]
  constructor
  · rintro ⟨t, ht, hc⟩
    obtain ⟨ht, hname⟩ := List.mem_filter.mp ht
    exact ⟨t, ht, of_decide_eq_true hname, hc⟩
  · rintro ⟨t, ht, hname, hc⟩
    exact ⟨t, List.mem_filter.mpr ⟨ht, decide_eq_true hname⟩, hc⟩

/-- The columns of some tables of the schema are in scope where the names of these tables are. -/
theorem columnsOf_subset_scope {tables : List Table} (htables : tables ⊆ s.tables)
    (hnames : ∀ t ∈ tables, t.name ∈ names) : columnsOf tables ⊆ s.scope names := by
  intro c hc
  obtain ⟨t, ht, hc⟩ := mem_columnsOf.mp hc
  exact mem_scope.mpr ⟨t, htables ht, hnames t ht, hc⟩

namespace Coherent

/-- A name with the name of its table stands for one column at most. -/
theorem eq_of_ref_eq (hs : s.Coherent) {t t' : Table} (ht : t ∈ s.tables) (ht' : t' ∈ s.tables)
    {c c' : Column} (hc : c ∈ t.columns) (hc' : c' ∈ t'.columns) (h : c.ref = c'.ref) : c = c' := by
  obtain ⟨htable, hname⟩ := ColumnRef.mk.inj h
  have hnames : t.name = t'.name := by
    rw [← hs.owner t ht c hc, ← hs.owner t' ht' c' hc', htable]
  obtain rfl := List.inj_on_of_nodup_map hs.tables ht ht' hnames
  exact List.inj_on_of_nodup_map (hs.columns t ht) hc hc' hname

theorem consistent_scope (hs : s.Coherent) (names : List String) : Consistent (s.scope names) := by
  intro c hc d hd h
  obtain ⟨t, ht, -, hc⟩ := mem_scope.mp hc
  obtain ⟨t', ht', -, hd⟩ := mem_scope.mp hd
  rw [hs.eq_of_ref_eq ht ht' hc hd h]

end Coherent

/-- **What is well typed over some columns in scope is well typed in scope**, with no other type. -/
theorem Types.of_hasType (hs : s.Coherent) {columns : List Column}
    (hcolumns : columns ⊆ s.scope names) (h : HasType columns e t) : s.Types names e t := by
  have htyped : HasType (s.scope names) e t := h.mono hcolumns
  refine ⟨htyped, fun t' ht' => ht'.unique (hs.consistent_scope names) htyped, fun r hr => ?_⟩
  obtain ⟨c, hc, rfl⟩ := htyped.scope r hr
  obtain ⟨t, ht, hname, hc⟩ := mem_scope.mp hc
  exact ⟨t, ht, hname, (hs.owner t ht c hc).symm, c, hc, rfl⟩

end Schema

/-! ## Row sources over tables -/

/-- **`r.Over P tables`** -- the row source `r` is made of these tables, each of them once and in their
order, and the condition of every join has the property `P` over the columns of its two tables. -/
structure RowSource.Over (P : List Column → Expr → Prop) (tables : List Table) (r : RowSource) :
    Prop where
  names : r.names = tables.map (·.name)
  joins : ∀ j ∈ r.joins, ∃ left ∈ tables, ∃ right ∈ tables,
    j.left = left.name ∧ j.right = right.name ∧ P (left.columns ++ right.columns) j.on

namespace RowSource.Over

variable {P : List Column → Expr → Prop} {tables : List Table} {r : RowSource}

/-- Tables by themselves. -/
theorem single (tables : List Table) : Over P tables ⟨tables.map (·.name), []⟩ :=
  ⟨rfl, fun _ hj => absurd hj List.not_mem_nil⟩

/-- Two more tables, joined. -/
theorem join (h : r.Over P tables) {left right : Table} (kind : JoinKind) {on : Expr}
    (hon : P (left.columns ++ right.columns) on) :
    Over P (left :: right :: tables)
      { r with joins := ⟨left.name, kind, right.name, on⟩ :: r.joins } := by
  constructor
  · change left.name :: right.name :: r.names = _
    rw [h.names]
    rfl
  · intro j hj
    rcases List.mem_cons.mp hj with rfl | hj
    · exact ⟨left, by simp, right, by simp, rfl, rfl, hon⟩
    · obtain ⟨left', hleft, right', hright, hj⟩ := h.joins j hj
      exact ⟨left', by simp [hleft], right', by simp [hright], hj⟩

theorem mono {Q : List Column → Expr → Prop} (h : r.Over P tables)
    (hPQ : ∀ columns e, P columns e → Q columns e) : r.Over Q tables := by
  refine ⟨h.names, fun j hj => ?_⟩
  obtain ⟨left, hleft, right, hright, hjl, hjr, hon⟩ := h.joins j hj
  exact ⟨left, hleft, right, hright, hjl, hjr, hPQ _ _ hon⟩

/-- The columns of the tables are in the scope of the row source. -/
theorem scope (h : r.Over P tables) {s : Schema} (htables : tables ⊆ s.tables) :
    columnsOf tables ⊆ s.scope r.names := by
  refine Schema.columnsOf_subset_scope htables fun t ht => ?_
  rw [h.names]
  exact List.mem_map_of_mem ht

end RowSource.Over

/-! ## Queries -/

/-- **`q.Sound s`** -- over the schema `s` the query `q` makes sense: its tables exist, every
expression in it is well typed and well scoped, and its filter and the conditions of its joins are
booleans. The condition of a join is in the scope of its two tables, everything else in that of all
tables. -/
structure Select.Sound (s : Schema) (q : Select) : Prop where
  sources : ∀ name ∈ q.source.names, ∃ t ∈ s.tables, t.name = name
  projection : ∀ e ∈ q.projection, ∃ t, s.Types q.source.names e t
  filter : ∀ e ∈ q.filter, s.Types q.source.names e .boolean
  orderBy : ∀ e ∈ q.orderBy, ∃ t, s.Types q.source.names e t
  joins : ∀ j ∈ q.source.joins, s.Types [j.left, j.right] j.on .boolean

/-- **`IsBoolean columns e`** -- over these columns `e` is a boolean expression. -/
def IsBoolean (columns : List Column) (e : Expr) : Prop := HasType columns e .boolean

/-- **A query over some tables of a coherent schema is sound** if its expressions have types over the
columns of these tables, and the conditions of its joins over the columns of their two tables. -/
theorem Select.Sound.of_over {s : Schema} (hs : s.Coherent) {tables : List Table}
    (htables : tables ⊆ s.tables) {q : Select} (hsource : q.source.Over IsBoolean tables)
    (hprojection : ∀ e ∈ q.projection, ∃ t, HasType (columnsOf tables) e t)
    (hfilter : ∀ e ∈ q.filter, HasType (columnsOf tables) e .boolean)
    (horder : ∀ e ∈ q.orderBy, ∃ t, HasType (columnsOf tables) e t) : q.Sound s := by
  have hscope := hsource.scope htables
  refine ⟨?_, ?_, ?_, ?_, ?_⟩
  · intro name hname
    rw [hsource.names] at hname
    obtain ⟨t, ht, rfl⟩ := List.mem_map.mp hname
    exact ⟨t, htables ht, rfl⟩
  · intro e he
    obtain ⟨t, ht⟩ := hprojection e he
    exact ⟨t, .of_hasType hs hscope ht⟩
  · intro e he
    exact .of_hasType hs hscope (hfilter e he)
  · intro e he
    obtain ⟨t, ht⟩ := horder e he
    exact ⟨t, .of_hasType hs hscope ht⟩
  · intro j hj
    obtain ⟨left, hleft, right, hright, hjl, hjr, hon⟩ := hsource.joins j hj
    -- The two tables of the join bring the columns that its condition is typed over.
    have hpair : columnsOf [left, right] ⊆ s.scope [j.left, j.right] := by
      refine Schema.columnsOf_subset_scope (fun t ht => ?_) fun t ht => ?_
      · rcases List.mem_pair.mp ht with rfl | rfl
        · exact htables hleft
        · exact htables hright
      · rcases List.mem_pair.mp ht with rfl | rfl
        · simp [hjl]
        · simp [hjr]
    have hcolumns : columnsOf [left, right] = left.columns ++ right.columns := by
      simp [columnsOf]
    exact .of_hasType hs (hcolumns ▸ hpair) hon

end PredicateOracle.Sql
