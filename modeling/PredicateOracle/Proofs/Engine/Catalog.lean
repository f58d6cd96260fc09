import Mathlib.Data.List.Nodup
import Mathlib.Data.String.Basic
import Mathlib.Tactic.Set
import PredicateOracle.Proofs.Engine.Connection
import PredicateOracle.Proofs.Sql.Scope

/-!
# PredicateOracle.Proofs.Engine.Catalog -- the schema that a catalog lists

The catalog of an engine has a row for each column, with the names of its table, of itself and of its
type, and with a word on NULLs. The columns whose type has a known name are grouped into tables as they
come: a column joins the table before it if that has the same name (`groupColumns`). Nothing is lost or
moved in this way, whatever is skipped between two columns, and every table has a column and owns all
its columns. Where the rows of a table stand together (`Contiguous`), no table is split, so no two
tables have one name.

Of a coherent schema, which queries are generated for, only one thing is left to ask of the catalog: that
it does not list two columns of a table under one name (`Connection.readSchema_groups`).
-/

namespace PredicateOracle

open Sql

/-! ## Names of types -/

namespace Text

/-- **`SameUpToCase s t`** -- the texts differ in the case of ASCII letters only: in capitals they are
the same. -/
def SameUpToCase (s t : String) : Prop := upper s = upper t

instance (s t : String) : Decidable (SameUpToCase s t) := inferInstanceAs (Decidable (_ = _))

end Text

namespace Sql.DataType

/-- The names under which engines report a type. -/
def reportedNames : DataType → List String
  | .integer => ["INTEGER", "INT", "INT4", "SIGNED"]
  | .varchar => ["VARCHAR", "TEXT", "STRING", "CHAR", "BPCHAR"]
  | .boolean => ["BOOLEAN", "BOOL", "LOGICAL"]

/-- **`t.Reported name`** -- but for white space around it and for case, `name` is one of the names of
the type `t`. -/
def Reported (t : DataType) (name : String) : Prop :=
  ∃ known ∈ t.reportedNames, Text.SameUpToCase (Text.trim name) known

instance (t : DataType) (name : String) : Decidable (t.Reported name) :=
  inferInstanceAs (Decidable (∃ known ∈ t.reportedNames, Text.SameUpToCase (Text.trim name) known))

/-- All of these names are in upper case. -/
theorem upper_of_mem_reportedNames {t : DataType} {known : String} (h : known ∈ t.reportedNames) :
    Text.upper known = known := by
  have hall : ∀ t ∈ all, ∀ known ∈ t.reportedNames, Text.upper known = known := by decide
  exact hall t t.mem_all known h

theorem ofUpperName?_eq_some_iff {name : String} {t : DataType} :
    ofUpperName? name = some t ↔ name ∈ t.reportedNames := by
  constructor
  · intro h
    unfold ofUpperName? at h
    split at h <;> cases h <;> simp [reportedNames]
  · intro h
    cases t <;> simp only [reportedNames, List.mem_cons, List.not_mem_nil, or_false] at h
    · rcases h with rfl | rfl | rfl | rfl <;> rfl
    · rcases h with rfl | rfl | rfl | rfl | rfl <;> rfl
    · rcases h with rfl | rfl | rfl <;> rfl

/-- **A type is read from its names and from no others.** -/
theorem ofName_eq_ok_iff {name : String} {t : DataType} : ofName name = .ok t ↔ t.Reported name := by
  have hupper : t.Reported name ↔ normalName name ∈ t.reportedNames := by
    constructor
    · rintro ⟨known, hknown, hsame⟩
      rw [Text.SameUpToCase, upper_of_mem_reportedNames hknown] at hsame
      rw [normalName, hsame]
      exact hknown
    · intro h
      exact ⟨normalName name, h, (upper_of_mem_reportedNames h).symm⟩
  rw [hupper, ← ofUpperName?_eq_some_iff]
  unfold ofName
  split <;> simp_all

end Sql.DataType

/-! ## Rows of the catalog -/

namespace Connection

/-- A row of the catalog of columns. -/
structure CatalogRow where
  table : String
  column : String
  type : String
  nullable : String
  deriving DecidableEq

namespace CatalogRow

/-- The texts of the row. -/
def texts (r : CatalogRow) : List String := [r.table, r.column, r.type, r.nullable]

/-- The row as the engine reports it. -/
def cells (r : CatalogRow) : List Cell := r.texts.map .text

/-- The reference to the column that the row lists. -/
def ref (r : CatalogRow) : ColumnRef := ⟨r.table, r.column⟩

/-- **`r.Supported`** -- the column is of a type that is known. -/
def Supported (r : CatalogRow) : Prop := ∃ t ∈ DataType.all, t.Reported r.type

instance (r : CatalogRow) : Decidable r.Supported :=
  inferInstanceAs (Decidable (∃ t ∈ DataType.all, t.Reported r.type))

/-- **`r.Describes c`** -- the column `c` is the one that the row lists. -/
structure Describes (r : CatalogRow) (c : Column) : Prop where
  table : c.table = r.table
  name : c.name = r.column
  type : c.type.Reported r.type
  nullable : c.nullable = false ↔ Text.SameUpToCase r.nullable "NO"

variable {r : CatalogRow}

/-- A supported row gives the column that it describes, and another one gives none. -/
theorem catalogColumn?_texts (r : CatalogRow) :
    (∃ c, catalogColumn? r.texts = some c ∧ r.Supported ∧ r.Describes c) ∨
      (catalogColumn? r.texts = none ∧ ¬ r.Supported) := by
  rcases htype : DataType.ofName r.type with name | t
  · refine .inr ⟨by simp [catalogColumn?, texts, htype], ?_⟩
    rintro ⟨t, -, ht⟩
    rw [DataType.ofName_eq_ok_iff.mpr ht] at htype
    cases htype
  · have hreported : t.Reported r.type := DataType.ofName_eq_ok_iff.mp htype
    have hnullable : Text.upper r.nullable = "NO" ↔ Text.SameUpToCase r.nullable "NO" := by
      have hno : Text.upper "NO" = "NO" := by decide
      rw [Text.SameUpToCase, hno]
    refine .inl ⟨⟨r.table, r.column, t, Text.upper r.nullable ≠ "NO"⟩,
      by simp [catalogColumn?, texts, htype], ⟨t, t.mem_all, hreported⟩, rfl, rfl, hreported, ?_⟩
    rw [← hnullable]
    simp

/-- **The columns are those of the supported rows**, in their order. -/
theorem describes_columns (rows : List CatalogRow) :
    List.Forall₂ Describes (rows.filter (·.Supported))
      ((rows.map texts).filterMap catalogColumn?) := by
  induction rows with
  | nil => exact .nil
  | cons r rows ih =>
    rw [List.map_cons]
    rcases r.catalogColumn?_texts with ⟨c, hc, hsupported, hdescribes⟩ | ⟨hnone, hunsupported⟩
    · rw [List.filter_cons_of_pos (by simpa using hsupported), List.filterMap_cons_some hc]
      exact .cons hdescribes ih
    · rw [List.filter_cons_of_neg (by simpa using hunsupported), List.filterMap_cons_none hnone]
      exact ih

/-- What is the same for a row and its column is the same for rows and their columns. -/
theorem map_of_describes {α : Type} {f : Column → α} {g : CatalogRow → α}
    (hfg : ∀ r c, r.Describes c → f c = g r) {rows : List CatalogRow} {columns : List Column}
    (h : List.Forall₂ Describes rows columns) : columns.map f = rows.map g := by
  induction h with
  | nil => rfl
  | cons hdescribes _ ih => rw [List.map_cons, List.map_cons, hfg _ _ hdescribes, ih]

end CatalogRow

/-! ## Names that stand together -/

/-- **`Contiguous names`** -- between two mentions of a name there is no other one. -/
def Contiguous (names : List String) : Prop := ∀ a b, [a, b, a].Sublist names → b = a

namespace Contiguous

variable {names part : List String}

/-- Names may be left out. -/
theorem sublist (h : Contiguous names) (hpart : part.Sublist names) : Contiguous part :=
  fun a b hab => h a b (hab.trans hpart)

/-- Names in order stand together. -/
theorem of_sorted (h : names.Pairwise (· ≤ ·)) : Contiguous names := by
  intro a b hab
  have hpair : [a, b, a].Pairwise (· ≤ ·) := h.sublist hab
  simp only [List.pairwise_cons, List.mem_cons, List.not_mem_nil, or_false, forall_eq_or_imp,
    forall_eq] at hpair
  exact le_antisymm hpair.2.1 hpair.1.1

/-- A name that another one follows is not mentioned again. -/
theorem not_mem {a : String} (h : Contiguous (a :: names)) (hhead : ∀ b ∈ names.head?, b ≠ a) :
    a ∉ names := by
  intro ha
  cases names with
  | nil => cases ha
  | cons b names =>
    have hne : b ≠ a := hhead b rfl
    rcases List.mem_cons.mp ha with rfl | ha
    · exact hne rfl
    · have hsub : [a, b, a].Sublist (a :: b :: names) :=
        ((List.singleton_sublist.mpr ha).cons_cons b).cons_cons a
      exact hne (h a b hsub)

end Contiguous

/-! ## Grouping -/

/-- **One more column in front** joins the first table if that has its name, and else it is a table
by itself. -/
theorem groupColumns_cons (c : Column) (rest : List Column) :
    (∃ t ts, groupColumns rest = t :: ts ∧ t.name = c.table ∧
      groupColumns (c :: rest) = ⟨t.name, c :: t.columns⟩ :: ts) ∨
    ((∀ t ∈ (groupColumns rest).head?, t.name ≠ c.table) ∧
      groupColumns (c :: rest) = ⟨c.table, [c]⟩ :: groupColumns rest) := by
  rw [groupColumns]
  rcases hrest : groupColumns rest with _ | ⟨t, ts⟩
  · exact .inr ⟨by simp, rfl⟩
  · by_cases hname : t.name = c.table
    · exact .inl ⟨t, ts, rfl, hname, if_pos hname⟩
    · refine .inr ⟨fun t' ht' => ?_, if_neg hname⟩
      obtain rfl := Option.some.inj ht'
      exact hname

/-- **Nothing is lost or moved**: the columns of the tables are the columns that were grouped. -/
theorem columnsOf_groupColumns (cs : List Column) : columnsOf (groupColumns cs) = cs := by
  induction cs with
  | nil => rfl
  | cons c rest ih =>
    rcases groupColumns_cons c rest with ⟨t, ts, hrest, -, hcons⟩ | ⟨-, hcons⟩
    · rw [hrest] at ih
      rw [hcons]
      show c :: columnsOf (t :: ts) = c :: rest
      rw [ih]
    · rw [hcons]
      show c :: columnsOf (groupColumns rest) = c :: rest
      rw [ih]

/-- Every table has a column and owns all its columns. -/
theorem owns_groupColumns (cs : List Column) :
    ∀ t ∈ groupColumns cs, t.columns ≠ [] ∧ ∀ c ∈ t.columns, c.table = t.name := by
  induction cs with
  | nil => exact fun t ht => absurd ht List.not_mem_nil
  | cons c rest ih =>
    rcases groupColumns_cons c rest with ⟨t, ts, hrest, hname, hcons⟩ | ⟨-, hcons⟩
    · rw [hrest, List.forall_mem_cons] at ih
      rw [hcons, List.forall_mem_cons]
      refine ⟨⟨List.cons_ne_nil _ _, ?_⟩, ih.2⟩
      exact List.forall_mem_cons.mpr ⟨hname.symm, ih.1.2⟩
    · rw [hcons, List.forall_mem_cons]
      exact ⟨⟨List.cons_ne_nil _ _, by simp⟩, ih⟩

/-- The tables are those that the columns are of. -/
theorem mem_names_groupColumns {cs : List Column} {name : String} :
    name ∈ (groupColumns cs).map (·.name) ↔ name ∈ cs.map (·.table) := by
  constructor
  · intro hname
    obtain ⟨t, ht, rfl⟩ := List.mem_map.mp hname
    obtain ⟨hne, howner⟩ := owns_groupColumns cs t ht
    obtain ⟨c, hc⟩ := List.exists_mem_of_ne_nil _ hne
    have hmem : c ∈ columnsOf (groupColumns cs) := Schema.mem_columnsOf.mpr ⟨t, ht, hc⟩
    rw [columnsOf_groupColumns] at hmem
    exact List.mem_map.mpr ⟨c, hmem, howner c hc⟩
  · intro hname
    obtain ⟨c, hc, rfl⟩ := List.mem_map.mp hname
    rw [← columnsOf_groupColumns cs] at hc
    obtain ⟨t, ht, hc⟩ := Schema.mem_columnsOf.mp hc
    exact List.mem_map.mpr ⟨t, ht, ((owns_groupColumns cs t ht).2 c hc).symm⟩

/-- The first table is the one of the first column. -/
theorem head?_names_groupColumns (cs : List Column) :
    ((groupColumns cs).map (·.name)).head? = (cs.map (·.table)).head? := by
  cases cs with
  | nil => rfl
  | cons c rest =>
    rcases groupColumns_cons c rest with ⟨t, ts, -, hname, hcons⟩ | ⟨-, hcons⟩
    · rw [hcons]
      exact congrArg some hname
    · rw [hcons]
      rfl

/-- **No table is split** where the columns of each table stand together. -/
theorem nodup_names_groupColumns {cs : List Column} (h : Contiguous (cs.map (·.table))) :
    ((groupColumns cs).map (·.name)).Nodup := by
  induction cs with
  | nil => exact .nil
  | cons c rest ih =>
    have hrest : ((groupColumns rest).map (·.name)).Nodup := ih (h.sublist (List.sublist_cons_self _ _))
    rcases groupColumns_cons c rest with ⟨t, ts, htables, -, hcons⟩ | ⟨hhead, hcons⟩
    · rw [htables] at hrest
      rw [hcons]
      exact hrest
    · -- The first table of the rest is another one, so this one does not come again.
      have hother : ∀ b ∈ (rest.map (·.table)).head?, b ≠ c.table := by
        intro b hb
        rw [← head?_names_groupColumns, List.head?_map] at hb
        obtain ⟨t, ht, rfl⟩ := Option.map_eq_some_iff.mp hb
        exact hhead t ht
      have hnew : c.table ∉ (groupColumns rest).map (·.name) :=
        mt mem_names_groupColumns.mp (h.not_mem hother)
      rw [hcons]
      exact List.nodup_cons.mpr ⟨hnew, hrest⟩

end Connection

/-! ## Coherence -/

namespace Sql.Schema

variable {s : Schema}

/-- Where columns carry the names of their tables, every column in scope can be named. -/
theorem resolves_of_mem_scope (howner : ∀ t ∈ s.tables, ∀ c ∈ t.columns, c.table = t.name)
    {names : List String} {c : Column} (hc : c ∈ s.scope names) : s.Resolves names c.ref := by
  obtain ⟨t, ht, hname, hc⟩ := mem_scope.mp hc
  exact ⟨t, ht, hname, (howner t ht c hc).symm, c, hc, rfl⟩

/-- **What is left to ask for coherence** of tables with different names that own their columns is
that no name stands for two columns. -/
theorem coherent_iff (hnames : (s.tables.map (·.name)).Nodup)
    (howner : ∀ t ∈ s.tables, ∀ c ∈ t.columns, c.table = t.name) :
    s.Coherent ↔ ((columnsOf s.tables).map Column.ref).Nodup := by
  have hrefs : ∀ t ∈ s.tables,
      (t.columns.map Column.ref).Nodup ↔ (t.columns.map (·.name)).Nodup := by
    intro t ht
    have hmap : t.columns.map Column.ref =
        (t.columns.map (·.name)).map fun name => ⟨t.name, name⟩ := by
      rw [List.map_map]
      refine List.map_congr_left fun c hc => ?_
      rw [Column.ref, howner t ht c hc]
      rfl
    rw [hmap, List.nodup_map_iff fun _ _ h => (ColumnRef.mk.inj h).2]
  -- References into two tables differ in the name of the table.
  have hapart : s.tables.Pairwise
      (Function.onFun List.Disjoint fun t => t.columns.map Column.ref) := by
    refine (List.pairwise_map.mp hnames).imp_of_mem fun {t t'} ht ht' hne r hr hr' => hne ?_
    obtain ⟨c, hc, rfl⟩ := List.mem_map.mp hr
    obtain ⟨c', hc', href⟩ := List.mem_map.mp hr'
    rw [← howner t ht c hc, ← howner t' ht' c' hc', (ColumnRef.mk.inj href).1]
  rw [columnsOf, List.map_flatMap, List.nodup_flatMap]
  constructor
  · intro hs
    exact ⟨fun t ht => (hrefs t ht).mpr (hs.columns t ht), hapart⟩
  · rintro ⟨hcolumns, -⟩
    exact ⟨hnames, fun t ht => (hrefs t ht).mp (hcolumns t ht), howner⟩

end Sql.Schema

/-! ## The schema of a catalog -/

namespace Connection

variable {κ : Type}

/-- A catalog that can be read gives the tables of its columns. -/
theorem runOn_runReadSchema {c : Connection κ} {e e' : κ} {rows : List CatalogRow}
    (hanswer : Id.run ((c.query columnsQuery).run e) = (.ok (rows.map fun r => .ok r.cells), e')) :
    Steps.runOn c.runReadSchema e =
      (.ok ⟨groupColumns ((rows.map CatalogRow.texts).filterMap catalogColumn?)⟩, e') := by
  have hrows : readRows (names 4) (rows.map fun r => .ok r.cells) =
      .ok (rows.map CatalogRow.texts) := readRows_map (names 4) CatalogRow.cells (fun _ => rfl) rows
  rw [runReadSchema, Steps.runOn_bind, Steps.runOn_mk, hanswer]
  dsimp only
  rw [hrows]
  rfl

/-- **A schema has the supported columns of its catalog, in their order and under their tables.**
Whatever the rows of the catalog are, it can be read; the columns of the tables one after the other are
those that the supported rows describe, every table has a column and owns all of its columns, and there
is a table of a name exactly if a supported row is about it. So every column that is in scope anywhere
can be named there. If the rows of each table stand together, no two tables have one name, and the
schema is coherent exactly if the catalog lists no two supported columns of a table under one name. -/
theorem readSchema_groups (c : Connection κ) (e e' : κ) (rows : List CatalogRow)
    (hanswer : Id.run ((c.query columnsQuery).run e) = (.ok (rows.map fun r => .ok r.cells), e')) :
    ∃ schema, Id.run (c.client.readSchema.run e) = (.ok schema, e') ∧
      List.Forall₂ CatalogRow.Describes (rows.filter (·.Supported)) (columnsOf schema.tables) ∧
      (∀ t ∈ schema.tables, t.columns ≠ [] ∧ ∀ column ∈ t.columns, column.table = t.name) ∧
      (∀ name, name ∈ schema.tables.map (·.name) ↔ ∃ r ∈ rows, r.Supported ∧ r.table = name) ∧
      (∀ names, ∀ column ∈ schema.scope names, schema.Resolves names column.ref) ∧
      (Contiguous (rows.map (·.table)) →
        (schema.tables.map (·.name)).Nodup ∧
        (schema.Coherent ↔ ((rows.filter (·.Supported)).map CatalogRow.ref).Nodup)) := by
  have hdescribes := CatalogRow.describes_columns rows
  set columns := (rows.map CatalogRow.texts).filterMap catalogColumn?
  have hread : columnsOf (groupColumns columns) = columns := columnsOf_groupColumns columns
  have howns := owns_groupColumns columns
  have howner : ∀ t ∈ groupColumns columns, ∀ column ∈ t.columns, column.table = t.name :=
    fun t ht => (howns t ht).2
  -- What is asked of the tables and names of the supported rows is asked of the columns.
  have htables : columns.map (·.table) = (rows.filter (·.Supported)).map (·.table) :=
    CatalogRow.map_of_describes (fun _ _ h => h.table) hdescribes
  have hrefs : columns.map Column.ref = (rows.filter (·.Supported)).map CatalogRow.ref :=
    CatalogRow.map_of_describes (fun r c h => by rw [Column.ref, h.table, h.name]; rfl) hdescribes
  refine ⟨⟨groupColumns columns⟩, runOn_runReadSchema hanswer, ?_, howns, fun name => ?_,
    fun names column => Schema.resolves_of_mem_scope howner, fun hcontiguous => ?_⟩
  · show List.Forall₂ _ _ (columnsOf (groupColumns columns))
    rw [hread]
    exact hdescribes
  · rw [mem_names_groupColumns, htables, List.mem_map]
    simp [and_assoc]
  · have hnames : ((groupColumns columns).map (·.name)).Nodup := by
      refine nodup_names_groupColumns ?_
      rw [htables]
      exact hcontiguous.sublist (List.filter_sublist.map _)
    refine ⟨hnames, ?_⟩
    rw [Schema.coherent_iff hnames howner, hread, hrefs]

/-- Of three tables the first and the last have no column of a known type, and the second one has a
column of another type between two others. -/
theorem readSchema_groups_skipped_rows :
    let rows : List CatalogRow := [⟨"a", "c0", "DATE", "NO"⟩, ⟨"b", "c0", " int4 ", "No"⟩,
      ⟨"b", "c1", "DATE", "YES"⟩, ⟨"b", "c2", "text", "YES"⟩, ⟨"c", "c0", "BLOB", "YES"⟩]
    let c : Connection Unit := ⟨fun _ => return .ok (rows.map fun r => .ok r.cells),
      fun _ => return .ok 0, return ()⟩
    Contiguous (rows.map (·.table)) ∧
    ∃ schema, Id.run (c.client.readSchema.run ()) = (.ok schema, ()) ∧ schema.Coherent ∧
      "a" ∉ schema.tables.map (·.name) ∧ "b" ∈ schema.tables.map (·.name) ∧
      (columnsOf schema.tables).length = 2 := by
  intro rows c
  have hcontiguous : Contiguous (rows.map (·.table)) := .of_sorted (by decide)
  obtain ⟨schema, hread, hcolumns, -, hnames, -, hcoherent⟩ := readSchema_groups c () () rows rfl
  refine ⟨hcontiguous, schema, hread, (hcoherent hcontiguous).2.mpr (by decide +kernel), ?_, ?_, ?_⟩
  · rw [hnames]
    decide +kernel
  · rw [hnames]
    decide +kernel
  · rw [← hcolumns.length_eq]
    decide +kernel

/-- **A catalog that lists two columns of a table under one name gives a schema that is not coherent**,
even if the rows of the table stand together: both columns are read, and a reference to one of them is
a reference to the other. -/
theorem readSchema_listed_twice :
    let rows : List CatalogRow := [⟨"t", "c", "INTEGER", "YES"⟩, ⟨"t", "c", "VARCHAR", "YES"⟩]
    let c : Connection Unit := ⟨fun _ => return .ok (rows.map fun r => .ok r.cells),
      fun _ => return .ok 0, return ()⟩
    let schema : Schema :=
      ⟨[⟨"t", [⟨"t", "c", .integer, true⟩, ⟨"t", "c", .varchar, true⟩]⟩]⟩
    Contiguous (rows.map (·.table)) ∧
      Id.run (c.client.readSchema.run ()) = (.ok schema, ()) ∧ ¬ schema.Coherent := by
  intro rows c schema
  have hcontiguous : Contiguous (rows.map (·.table)) := .of_sorted (by decide)
  have hread : (Id.run (c.client.readSchema.run ())).1 = .ok schema := by decide +kernel
  exact ⟨hcontiguous, Prod.ext hread rfl, by decide⟩

end Connection
end PredicateOracle
