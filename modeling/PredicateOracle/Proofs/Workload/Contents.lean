import PredicateOracle.Proofs.Sql.Arithmetic
import PredicateOracle.Proofs.Workload.Tables

/-!
# PredicateOracle.Proofs.Workload.Contents -- the integers that a filled database can hold

Which integers a column can show is read off the log of a database (`CanShow`). A base table holds
nothing but the literals of the granted INSERT and UPDATE statements, and a view shows the values of its
expressions on rows of such columns. So base tables show small integers only, and views show integers
that are larger by as much as their expressions allow (`CanShow.natAbs_le`). Rows are taken one column
at a time here: whatever an engine keeps, deletes or joins, the columns of its rows show such values.
-/

namespace PredicateOracle

open Generate (Action Grown Modest Storable Filter)
open Sql

/-! ## Expressions of statements -/

/-- The expressions of a query. -/
def Sql.Select.expressions (q : Select) : List Expr :=
  q.projection ++ q.source.joins.map (·.on) ++ q.filter.toList ++ q.orderBy

/-- The expressions of a statement; a value is one as well. -/
def Sql.Statement.expressions : Statement → List Expr
  | .createTable _ | .createIndex _ _ _ _ => []
  | .insert _ rows => rows.flatten.map .literal
  | .update _ _ value filter => .literal value :: filter.toList
  | .delete _ filter => filter.toList
  | .createView _ body => body.expressions

/-- The expressions of a view are grown over columns of its tables. -/
theorem Generate.ViewOver.grown {o : Generate.Options} {tables : List Table} {view : Table}
    {q : Select} (h : ViewOver o tables view q) : ∀ e ∈ q.expressions, ∃ columns t,
      columns ⊆ columnsOf tables ∧ Grown o columns (o.maxDepth + 1) t e := by
  intro e he
  simp only [Select.expressions, h.orderBy, List.append_nil, List.mem_append, List.mem_map,
    Option.mem_toList] at he
  rcases he with (he | ⟨j, hj, rfl⟩) | he
  · obtain ⟨i, hi, rfl⟩ := List.mem_iff_getElem.mp he
    exact ⟨_, _, List.Subset.refl _, h.columns.get (h.columns.length_eq ▸ hi) hi⟩
  · obtain ⟨left, hleft, right, hright, -, -, hon⟩ := h.source.joins j hj
    refine ⟨_, _, List.append_subset.mpr ⟨fun c hc => ?_, fun c hc => ?_⟩, hon⟩
    · exact Schema.mem_columnsOf.mpr ⟨left, hleft, hc⟩
    · exact Schema.mem_columnsOf.mpr ⟨right, hright, hc⟩
  · exact ⟨_, _, List.Subset.refl _, h.filter e he⟩

namespace Populate

/-- **The expressions of a statement are grown** over columns of the tables that it is drawn for. -/
theorem Drawn.grown {o : Generate.Options} {tables : List Table} {a : Action} {s : Statement}
    (h : Drawn o tables a s) : ∀ e ∈ s.expressions, ∃ columns t,
      columns ⊆ columnsOf tables ∧ Grown o columns (o.maxDepth + 1) t e := by
  have hliteral {l : Literal} (hl : Modest l) : ∃ columns t,
      columns ⊆ columnsOf tables ∧ Grown o columns (o.maxDepth + 1) t (.literal l) :=
    ⟨[], l.type, List.nil_subset _, (Grown.literal hl).mono (Nat.zero_le _)⟩
  have hfilter {t : Table} (ht : t ∈ tables) {f : Option Expr} (hf : Filter o t.columns f) :
      ∀ e ∈ f.toList, ∃ columns t, columns ⊆ columnsOf tables ∧
        Grown o columns (o.maxDepth + 1) t e := fun e he =>
    ⟨t.columns, .boolean, fun c hc => Schema.mem_columnsOf.mpr ⟨t, ht, hc⟩,
      hf e (Option.mem_toList.mp he)⟩
  cases h with
  | insert ht hsome hrows =>
    intro e he
    obtain ⟨l, hl, rfl⟩ := List.mem_map.mp he
    obtain ⟨row, hrow, hl⟩ := List.mem_flatten.mp hl
    have hforall := hrows row hrow
    obtain ⟨i, hi, rfl⟩ := List.mem_iff_getElem.mp hl
    exact hliteral (hforall.get (hforall.length_eq ▸ hi) hi).modest
  | update ht hc hv hf =>
    exact List.forall_mem_cons.mpr ⟨hliteral hv.modest, hfilter ht hf⟩
  | delete ht hf => exact hfilter ht hf
  | createIndex ht unique i hcolumns hne => exact nofun
  | createView hname hchosen hview =>
    intro e he
    obtain ⟨columns, t, hcolumns, hgrown⟩ := hview.grown e he
    refine ⟨columns, t, fun c hc => ?_, hgrown⟩
    obtain ⟨table, htable, hc⟩ := Schema.mem_columnsOf.mp (hcolumns hc)
    exact Schema.mem_columnsOf.mpr ⟨table, List.mem_of_mem_filter (hchosen.mem htable), hc⟩

/-! ## What columns can show -/

/-- **`CanShow log r v`** -- after the granted statements of the log, a row can show `v` in the column
`r`: an integer, or nothing if the cell is NULL. -/
inductive CanShow (log : List Attempt) : ColumnRef → Option Int → Prop
  /-- Any cell may be NULL; an outer join shows NULL where there is no row. -/
  | null (r : ColumnRef) : CanShow log r none
  /-- A literal that was inserted into the table, in the place of the column. -/
  | inserted {x y : Attempt} (hx : x ∈ log) (hy : y ∈ log) (hmade : x.granted = true)
    (hgranted : y.granted = true) {d : TableDefinition} (hd : x.statement = .createTable d)
    {rows : List (List Literal)} (hrows : y.statement = .insert d.name rows) {row : List Literal}
    (hrow : row ∈ rows) {i : Nat} {c : ColumnDefinition} (hc : d.columns[i]? = some c) {n : Int}
    (hn : row[i]? = some (.integer n)) : CanShow log ⟨d.name, c.name⟩ (some n)
  /-- A literal that the column was set to. -/
  | updated {x : Attempt} (hx : x ∈ log) (hgranted : x.granted = true) {table column : String}
    {n : Int} {f : Option Expr} (hs : x.statement = .update table column (.integer n) f) :
    CanShow log ⟨table, column⟩ (some n)
  /-- What the expression behind a column of a view comes to, on a row that can be shown. -/
  | computed {x : Attempt} (hx : x ∈ log) (hgranted : x.granted = true) {view : Table} {q : Select}
    (hs : x.statement = .createView view q) {i : Nat} {c : Column} (hc : view.columns[i]? = some c)
    {e : Expr} (he : q.projection[i]? = some e) {ρ : IntegerRow} (hρ : ∀ r, CanShow log r (ρ r)) :
    CanShow log ⟨view.name, c.name⟩ (e.integer? ρ)

/-- **`Shows log ρ`** -- the row `ρ` is one that the database can show after the statements of the log. -/
def Shows (log : List Attempt) (ρ : IntegerRow) : Prop := ∀ r, CanShow log r (ρ r)

/-- More statements do not take a value away: whether rows were changed or deleted is not asked. -/
theorem CanShow.mono {log more : List Attempt} (hsub : log ⊆ more) {r : ColumnRef} {v : Option Int}
    (h : CanShow log r v) : CanShow more r v := by
  induction h with
  | null r => exact .null r
  | inserted hx hy hmade hgranted hd hrows hrow hc hn =>
    exact .inserted (hsub hx) (hsub hy) hmade hgranted hd hrows hrow hc hn
  | updated hx hgranted hs => exact .updated (hsub hx) hgranted hs
  | computed hx hgranted hs hc he _ ih => exact .computed (hsub hx) hgranted hs hc he ih

/-! ## Bounds -/

/-- **`Written o log`** -- every statement of the log makes a table or is drawn for tables that have a
number. -/
def Written (o : Generate.Options) (log : List Attempt) : Prop :=
  ∀ x ∈ log, (∃ d, x.statement = .createTable d) ∨
    ∃ (a : Action) (defs : List TableDefinition), (∀ d ∈ defs, ∃ i, d.name = numbered "t" i) ∧
      Drawn o (defs.map (·.table)) a x.statement

theorem Split.written {w : Generate.Workload} {o : Generate.Options} {tables later : List Attempt}
    (h : Split w o tables later) : Written o (tables ++ later) := by
  obtain ⟨n, hdefines⟩ := h.defines
  have hnames : ∀ d ∈ created tables, ∃ i, d.name = numbered "t" i := by
    intro d hd
    have hmem : d.name ∈ (created tables).map (·.name) := List.mem_map_of_mem hd
    rw [(Defines.forall₂ hdefines).1] at hmem
    obtain ⟨i, -, hi⟩ := List.mem_map.mp hmem
    exact ⟨i, hi.symm⟩
  intro x hx
  rcases List.mem_append.mp hx with hx | hx
  · obtain ⟨name, d, -, hd⟩ := h.tries x hx
    exact .inl ⟨d, hd⟩
  · obtain ⟨a, ha⟩ := h.drawn x hx
    exact .inr ⟨a, created tables, hnames, ha⟩

/-- However the work ends, its log is written so. -/
theorem exists_written {σ : Type} (c : Client σ) (w : Generate.Workload) (o : Generate.Options)
    (world : World σ) :
    ∃ log, transcript c w o world = log.map Attempt.exchange ∧ Written o log := by
  obtain ⟨log, htranscript, -, hlog⟩ := populate_log c w o world
  have hsplit : ∃ tables later, log = tables ++ later ∧ Split w o tables later := by
    rcases hr : ((populate c w o).runOn world).1 with halt | counts
    · rw [hr] at hlog
      exact hlog.split
    · rw [hr] at hlog
      exact hlog.split
  obtain ⟨tables, later, rfl, hsplit⟩ := hsplit
  exact ⟨_, htranscript, hsplit.written⟩

/-- A column of a numbered table. -/
def IsBase (r : ColumnRef) : Prop := ∃ i, r.table = numbered "t" i

/-- Columns of numbered tables are base columns. -/
theorem isBase_of_mem {defs : List TableDefinition} (hdefs : ∀ d ∈ defs, ∃ i, d.name = numbered "t" i)
    {tables : List Table} (htables : tables ⊆ defs.map (·.table)) {c : Column}
    (hc : c ∈ columnsOf tables) : IsBase c.ref := by
  obtain ⟨t, ht, hc⟩ := Schema.mem_columnsOf.mp hc
  obtain ⟨d, hd, rfl⟩ := List.mem_map.mp (htables ht)
  obtain ⟨i, hi⟩ := hdefs d hd
  exact ⟨i, (TableDefinition.owner_table hc).trans hi⟩

theorem natAbs_le_of_modest {n : Int} (h : Modest (.integer n)) : n.natAbs ≤ 100 := by
  obtain ⟨hmin, hmax⟩ := h
  omega

/-- A grown expression on a row with a bound for its columns. -/
theorem within_of_grown {o : Generate.Options} {columns : List Column} {levels bound : Nat}
    {t : DataType} {e : Expr} (h : Grown o columns levels t e) {ρ : IntegerRow}
    (hbound : 100 ≤ bound) (hρ : ∀ c ∈ columns, ∀ n, ρ c.ref = some n → n.natAbs ≤ bound) :
    e.Within ρ (2 ^ levels * bound) := by
  refine Expr.within_of_refs h.height_le (fun r hr n hn => ?_) fun n hn => ?_
  · obtain ⟨c, hc, rfl⟩ := h.typed.scope r hr
    exact hρ c hc n hn
  · exact Nat.le_trans (natAbs_le_of_modest (h.modest _ hn)) hbound

section Bounds

variable {o : Generate.Options} {log : List Attempt} (hlog : Written o log)

include hlog

/-- A literal that is inserted is small. -/
theorem Written.inserted_le {y : Attempt} (hy : y ∈ log) {table : String} {rows : List (List Literal)}
    (hrows : y.statement = .insert table rows) {row : List Literal} (hrow : row ∈ rows) {n : Int}
    (hn : .integer n ∈ row) : n.natAbs ≤ 100 := by
  rcases hlog y hy with ⟨d, hd⟩ | ⟨a, defs, -, hdrawn⟩
  · rw [hrows] at hd
    cases hd
  · rw [hrows] at hdrawn
    cases hdrawn with
    | insert ht _ hstorable =>
      have hforall := hstorable row hrow
      obtain ⟨i, hi, hget⟩ := List.mem_iff_getElem.mp hn
      have hmodest := (hforall.get (hforall.length_eq ▸ hi) hi).modest
      simp only [List.get_eq_getElem, hget] at hmodest
      exact natAbs_le_of_modest hmodest

/-- A literal that a column is set to is small. -/
theorem Written.updated_le {x : Attempt} (hx : x ∈ log) {table column : String} {n : Int}
    {f : Option Expr} (hs : x.statement = .update table column (.integer n) f) : n.natAbs ≤ 100 := by
  rcases hlog x hx with ⟨d, hd⟩ | ⟨a, defs, -, hdrawn⟩
  · rw [hs] at hd
    cases hd
  · rw [hs] at hdrawn
    cases hdrawn with
    | update _ _ hv _ => exact natAbs_le_of_modest hv.modest

/-- **Base columns show small integers, and columns of views show larger ones.** A view is over base
tables, so its expressions start from small integers. -/
theorem CanShow.natAbs_le {r : ColumnRef} {n : Int} (h : CanShow log r (some n)) :
    n.natAbs ≤ 2 ^ (o.maxDepth + 1) * 100 ∧ (IsBase r → n.natAbs ≤ 100) := by
  have hsmall {m : Int} (hm : m.natAbs ≤ 100) : m.natAbs ≤ 2 ^ (o.maxDepth + 1) * 100 :=
    Nat.le_trans hm (Nat.le_mul_of_pos_left _ (Nat.two_pow_pos _))
  generalize hv : some n = v at h
  induction h generalizing n with
  | null r => cases hv
  | inserted hx hy _ _ hd hrows hrow hc hn =>
    obtain rfl := Option.some.inj hv
    have hle := hlog.inserted_le hy hrows hrow (List.mem_of_getElem? hn)
    exact ⟨hsmall hle, fun _ => hle⟩
  | updated hx _ hs =>
    obtain rfl := Option.some.inj hv
    have hle := hlog.updated_le hx hs
    exact ⟨hsmall hle, fun _ => hle⟩
  | @computed x hx _ view q hs i c hc e he ρ _ ih =>
    rcases hlog x hx with ⟨d, hd⟩ | ⟨a, defs, hdefs, hdrawn⟩
    · rw [hs] at hd
      cases hd
    · rw [hs] at hdrawn
      cases hdrawn with
      | createView hname hchosen hview =>
        obtain ⟨hi, rfl⟩ := List.getElem?_eq_some_iff.mp he
        have hgrown := hview.columns.get (hview.columns.length_eq ▸ hi) hi
        have hwithin := within_of_grown hgrown (Nat.le_refl 100) (ρ := ρ) fun c hc m hm =>
          (ih c.ref hm.symm).2 (isBase_of_mem hdefs
            (fun t ht => List.mem_of_mem_filter (hchosen.mem ht)) hc)
        refine ⟨hwithin _ (Expr.mem_subexpressions_self _) n hv.symm, ?_⟩
        rintro ⟨j, hj⟩
        exact absurd (hj.symm.trans hname) (numbered_table_ne_view j _)

/-- **No expression of a statement comes to more than a view can show**, on any row. -/
theorem Written.within {ρ : IntegerRow} (hρ : Shows log ρ) {x : Attempt} (hx : x ∈ log) :
    ∀ e ∈ x.statement.expressions, e.Within ρ (2 ^ (o.maxDepth + 1) * 100) := by
  intro e he
  rcases hlog x hx with ⟨d, hd⟩ | ⟨a, defs, hdefs, hdrawn⟩
  · rw [hd] at he
    cases he
  · obtain ⟨columns, t, hcolumns, hgrown⟩ := hdrawn.grown e he
    refine within_of_grown hgrown (Nat.le_refl 100) fun c hc n hn => ?_
    have hshow : CanShow log c.ref (some n) := hn ▸ hρ c.ref
    exact (hshow.natAbs_le hlog).2 (isBase_of_mem hdefs (List.Subset.refl _) (hcolumns hc))

end Bounds
end Populate
end PredicateOracle
