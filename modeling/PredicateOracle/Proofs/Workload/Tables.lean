import PredicateOracle.Proofs.Number.Reader
import PredicateOracle.Proofs.Workload.Populate

/-!
# PredicateOracle.Proofs.Workload.Tables -- statements fit the tables that were made

A table may be tried several times, each time with other columns, and statements for it are drawn
later. `Respects defs s` says, in terms of the definitions `defs` that the engine accepted, that the
statement `s` fits one of them: values have the types of the columns, none is NULL where the definition
rules that out, and columns are those of the table. Every statement after the tables does, in every
run (`populate_respects_tables`).
-/

namespace PredicateOracle

open Generate (Storable Filter columnNames)
open Sql

/-! ## Names -/

namespace Sql

theorem numbered_injective (letter : String) : Function.Injective (numbered letter) :=
  Number.append_toString_injective letter

/-- No table is named like a view. -/
theorem numbered_table_ne_view (i k : Nat) : numbered "t" i ≠ numbered "v" k := by
  intro h
  have hhead := congrArg (fun s => s.toList.head?) h
  simp [numbered] at hhead

theorem nodup_numbered (letter : String) (n : Nat) : ((List.range n).map (numbered letter)).Nodup :=
  List.nodup_range.map (numbered_injective letter)

/-! ## Definitions -/

namespace TableDefinition

/-- **`d.Admits i v`** -- column number `i` of the definition can hold the literal `v`: it has the
type of the column, and it is not NULL if the column is NOT NULL, a primary key or in the key of the
table. -/
def Admits (d : TableDefinition) (i : Nat) (v : Literal) : Prop :=
  ∃ c, d.columns[i]? = some c ∧ v.type = c.type ∧
    (c.notNull = true ∨ c.key = some .primary ∨ i ∈ d.key → ∀ t, v ≠ .null t)

/-- **`d.Covers f`** -- the filter `f`, if there is one, mentions only columns of the table. -/
def Covers (d : TableDefinition) (f : Option Expr) : Prop :=
  ∀ e ∈ f, ∀ r ∈ e.refs, r.table = d.name ∧ r.column ∈ d.columns.map (·.name)

variable {d : TableDefinition}

/-- A column of the table comes from one of the definition. -/
theorem getElem?_table {i : Nat} {c : Column} (h : d.table.columns[i]? = some c) :
    ∃ c', d.columns[i]? = some c' ∧
      c = ⟨d.name, c'.name, c'.type, !(c'.refusesNull || d.key.contains i)⟩ := by
  rw [TableDefinition.table, List.getElem?_mapIdx] at h
  obtain ⟨c', hc', rfl⟩ := Option.map_eq_some_iff.mp h
  exact ⟨c', hc', rfl⟩

theorem names_table (d : TableDefinition) :
    d.table.columns.map (·.name) = d.columns.map (·.name) := by
  refine List.ext_getElem? fun i => ?_
  simp [TableDefinition.table, Function.comp_def]

theorem owner_table {c : Column} (h : c ∈ d.table.columns) : c.table = d.name := by
  obtain ⟨i, hi⟩ := List.mem_iff_getElem?.mp h
  obtain ⟨c', -, rfl⟩ := getElem?_table hi
  rfl

/-- What a column of the table can hold, the definition admits. -/
theorem admits_of_storable {i : Nat} {c : Column} (hc : d.table.columns[i]? = some c) {v : Literal}
    (hv : Storable c v) : d.Admits i v := by
  obtain ⟨c', hc', rfl⟩ := getElem?_table hc
  refine ⟨c', hc', hv.type, fun h => hv.notNull ?_⟩
  rcases h with h | h | h <;> simp [ColumnDefinition.refusesNull, h]

/-- A row that the columns of the table can hold. -/
theorem admits_of_forall₂ {row : List Literal} (h : List.Forall₂ Storable d.table.columns row) :
    row.length = d.columns.length ∧ ∀ i v, row[i]? = some v → d.Admits i v := by
  have hlength := h.length_eq
  refine ⟨?_, fun i v hv => ?_⟩
  · simpa [TableDefinition.table] using hlength.symm
  · obtain ⟨hi, rfl⟩ := List.getElem?_eq_some_iff.mp hv
    have hc : i < d.table.columns.length := hlength ▸ hi
    exact admits_of_storable (List.getElem?_eq_getElem hc) (h.get hc hi)

theorem covers_of_filter {o : Generate.Options} {f : Option Expr}
    (h : Filter o d.table.columns f) : d.Covers f := by
  intro e he r hr
  obtain ⟨c, hc, rfl⟩ := (h e he).typed.scope r hr
  refine ⟨owner_table hc, ?_⟩
  rw [← d.names_table]
  exact List.mem_map_of_mem hc

end TableDefinition
end Sql

namespace Populate

variable {σ : Type} {w : Generate.Workload} {o : Generate.Options}

/-- The definitions of tables that were made have the names of the tables, and distinct columns. -/
theorem Defines.forall₂ {names : List String} {defs : List TableDefinition}
    (h : List.Forall₂ (Defines w) names defs) :
    defs.map (·.name) = names ∧ ∀ d ∈ defs, (d.columns.map (·.name)).Nodup := by
  induction h with
  | nil => exact ⟨rfl, nofun⟩
  | cons hd _ ih =>
    obtain ⟨hnames, hcolumns⟩ := ih
    refine ⟨by rw [List.map_cons, hd.name, hnames], List.forall_mem_cons.mpr ⟨?_, hcolumns⟩⟩
    obtain ⟨n, -, -, hn⟩ := hd.columns
    rw [hn]
    exact nodup_numbered "c" n

/-- The schema of some definitions. -/
def schemaOf (defs : List TableDefinition) : Schema := ⟨defs.map (·.table)⟩

/-- Distinct names make a coherent schema. -/
theorem coherent_schemaOf {defs : List TableDefinition} (hnames : (defs.map (·.name)).Nodup)
    (hcolumns : ∀ d ∈ defs, (d.columns.map (·.name)).Nodup) : (schemaOf defs).Coherent := by
  constructor
  · rw [schemaOf, List.map_map]
    exact hnames
  · rintro _ ht
    obtain ⟨d, hd, rfl⟩ := List.mem_map.mp ht
    rw [d.names_table]
    exact hcolumns d hd
  · rintro _ ht c hc
    obtain ⟨d, -, rfl⟩ := List.mem_map.mp ht
    exact TableDefinition.owner_table hc

/-- **`Respects defs s`** -- the statement `s` fits the tables of these definitions. -/
inductive Respects (defs : List TableDefinition) : Statement → Prop
  /-- One to three rows, each with a literal for each column. -/
  | insert {d : TableDefinition} (hd : d ∈ defs) {rows : List (List Literal)}
    (hsome : 1 ≤ rows.length ∧ rows.length ≤ 3)
    (hrows : ∀ row ∈ rows, row.length = d.columns.length ∧ ∀ i v, row[i]? = some v → d.Admits i v) :
    Respects defs (.insert d.name rows)
  | update {d : TableDefinition} (hd : d ∈ defs) {i : Nat} {c : ColumnDefinition}
    (hc : d.columns[i]? = some c) {v : Literal} (hv : d.Admits i v) {f : Option Expr}
    (hf : d.Covers f) : Respects defs (.update d.name c.name v f)
  | delete {d : TableDefinition} (hd : d ∈ defs) {f : Option Expr} (hf : d.Covers f) :
    Respects defs (.delete d.name f)
  /-- A selection of the columns, in their order. -/
  | createIndex {d : TableDefinition} (hd : d ∈ defs) (unique : Bool) (name : String)
    {columns : List String} (hne : columns ≠ []) (hnodup : columns.Nodup)
    (hcolumns : columns.Sublist (d.columns.map (·.name))) :
    Respects defs (.createIndex unique name d.name columns)
  /-- A view is not named like a table, and its query is one over the tables. -/
  | createView {view : Table} (hname : ∀ d ∈ defs, view.name ≠ d.name) {q : Select}
    (hq : q.Sound (schemaOf defs)) : Respects defs (.createView view q)

/-- **What is drawn for tables fits their definitions.** -/
theorem Drawn.respects {defs : List TableDefinition} {n : Nat}
    (hnames : defs.map (·.name) = (List.range n).map (numbered "t"))
    (hcolumns : ∀ d ∈ defs, (d.columns.map (·.name)).Nodup) {a : Generate.Action} {s : Statement}
    (h : Drawn o (defs.map (·.table)) a s) : Respects defs s := by
  cases h with
  | insert ht hsome hrows =>
    obtain ⟨d, hd, rfl⟩ := List.mem_map.mp ht
    exact .insert hd hsome fun row hrow => TableDefinition.admits_of_forall₂ (hrows row hrow)
  | update ht hc hv hf =>
    obtain ⟨d, hd, rfl⟩ := List.mem_map.mp ht
    obtain ⟨i, hi⟩ := List.mem_iff_getElem?.mp hc
    have hadmits := TableDefinition.admits_of_storable hi hv
    obtain ⟨c', hc', rfl⟩ := TableDefinition.getElem?_table hi
    exact .update hd hc' hadmits (TableDefinition.covers_of_filter hf)
  | delete ht hf =>
    obtain ⟨d, hd, rfl⟩ := List.mem_map.mp ht
    exact .delete hd (TableDefinition.covers_of_filter hf)
  | createIndex ht unique i hsub hne =>
    obtain ⟨d, hd, rfl⟩ := List.mem_map.mp ht
    have hnames := hsub.map (·.name)
    rw [d.names_table] at hnames
    exact .createIndex hd unique _ (by simpa using hne) ((hcolumns d hd).sublist hnames) hnames
  | createView hname hchosen hview =>
    refine .createView (fun d hd => ?_) (hview.sound ?_ ?_).1
    · obtain ⟨i, -, hi⟩ := List.mem_map.mp (hnames ▸ List.mem_map_of_mem hd)
      rw [hname, ← hi]
      exact (numbered_table_ne_view i _).symm
    · exact coherent_schemaOf (hnames ▸ nodup_numbered "t" n) hcolumns
    · exact fun t ht => List.mem_of_mem_filter (hchosen.mem ht)

/-- The table that a statement makes or changes or makes an index on. -/
def target? : Statement → Option String
  | .createTable d => some d.name
  | .insert table _ | .update table _ _ _ | .delete table _ | .createIndex _ _ table _ => some table
  | .createView _ _ => none

/-- A statement that fits the tables is never aimed at a view. -/
theorem Respects.target?_ne {defs : List TableDefinition} {s : Statement} (h : Respects defs s)
    {view : Table} {q : Select} (hview : Respects defs (.createView view q)) :
    target? s ≠ some view.name := by
  cases hview with | createView hname _ => ?_
  cases h with
  | insert hd _ _ | update hd _ _ _ | delete hd _ | createIndex hd _ _ _ _ _ =>
    exact fun h => hname _ hd (Option.some.inj h).symm
  | createView _ _ => exact nofun

/-- **`Split w o tables later`** -- a log in two parts: attempts at tables, and statements for the
tables that were made. -/
structure Split (w : Generate.Workload) (o : Generate.Options) (tables later : List Attempt) :
    Prop where
  tries : ∀ x ∈ tables, ∃ name, Tries w name x
  defines : ∃ n, List.Forall₂ (Defines w) ((List.range n).map (numbered "t")) (created tables)
  drawn : ∀ x ∈ later, ∃ a, Drawn o ((created tables).map (·.table)) a x.statement

theorem Filled.split {log : List Attempt} {counts : Counts} (h : Filled w o log counts) :
    ∃ tables later, log = tables ++ later ∧ Split w o tables later := by
  obtain @⟨n, -, blocks, hblocks, phase, hphase⟩ := h
  refine ⟨_, _, rfl, tries_blocks hblocks, ⟨n, ?_⟩, fun x hx => ?_⟩
  · rw [List.range_eq_range']
    exact created_blocks hblocks
  · obtain ⟨a, -, hx⟩ := List.mem_flatMap.mp hx
    exact ⟨a, (hphase a).drawn x hx⟩

theorem Cut.split {log : List Attempt} (h : Cut w o log) :
    ∃ tables later, log = tables ++ later ∧ Split w o tables later := by
  cases h with
  | @tables n blocks hblocks tried htried =>
    refine ⟨_, [], (List.append_nil _).symm, ?_, ⟨n, ?_⟩, nofun⟩
    · exact List.forall_mem_append.mpr ⟨tries_blocks hblocks, fun x hx => (htried x hx).2⟩
    · rw [created_append, created_of_refused fun x hx => (htried x hx).1, List.append_nil,
        List.range_eq_range']
      exact created_blocks hblocks
  | @actions n blocks hblocks later hlater =>
    refine ⟨_, later, rfl, tries_blocks hblocks, ⟨n, ?_⟩, hlater⟩
    rw [List.range_eq_range']
    exact created_blocks hblocks

/-- **The workload respects the tables that were made.** What is said is a log of statements and
answers: first tables are tried, and those that the engine accepted are named in order; then every
statement fits one of the accepted definitions, whatever was refused before, and none is aimed at a
view. It does not matter how the work ends. -/
theorem populate_respects_tables (c : Client σ) (w : Generate.Workload) (o : Generate.Options)
    (world : World σ) :
    ∃ tables later, transcript c w o world = (tables ++ later).map Attempt.exchange ∧
      (∀ x ∈ tables, ∃ d, x.statement = .createTable d) ∧
      (created tables).map (·.name) =
        (List.range (created tables).length).map (numbered "t") ∧
      ((created tables).map (·.name)).Nodup ∧
      (∀ d ∈ created tables, (d.columns.map (·.name)).Nodup) ∧
      (∀ x ∈ later, Respects (created tables) x.statement) ∧
      ∀ x ∈ later, ∀ y ∈ later, ∀ view q, y.statement = .createView view q →
        target? x.statement ≠ some view.name := by
  obtain ⟨log, htranscript, -, hlog⟩ := populate_log c w o world
  have hsplit : ∃ tables later, log = tables ++ later ∧ Split w o tables later := by
    rcases hr : ((populate c w o).runOn world).1 with halt | counts
    · rw [hr] at hlog
      exact hlog.split
    · rw [hr] at hlog
      exact hlog.split
  obtain ⟨tables, later, rfl, htries, ⟨n, hdefines⟩, hdrawn⟩ := hsplit
  obtain ⟨hnames, hcolumns⟩ := Defines.forall₂ hdefines
  have hlength : (created tables).length = n := by simpa using hdefines.length_eq.symm
  have hrespects : ∀ x ∈ later, Respects (created tables) x.statement := by
    intro x hx
    obtain ⟨a, ha⟩ := hdrawn x hx
    exact ha.respects hnames hcolumns
  refine ⟨tables, later, htranscript, ?_, ?_, ?_, hcolumns, hrespects, ?_⟩
  · intro x hx
    obtain ⟨name, d, -, hd⟩ := htries x hx
    exact ⟨d, hd⟩
  · rw [hlength]
    exact hnames
  · rw [hnames]
    exact nodup_numbered "t" n
  · intro x hx y hy view q hview
    exact (hrespects x hx).target?_ne (hview ▸ hrespects y hy)

end Populate
end PredicateOracle
