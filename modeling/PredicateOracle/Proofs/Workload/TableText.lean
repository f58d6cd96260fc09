import PredicateOracle.Proofs.Text.Occurrences
import PredicateOracle.Proofs.Workload.Tables

/-!
# PredicateOracle.Proofs.Workload.TableText -- a table is what its CREATE TABLE text says

A drawn definition has a table and a text. `CreatesTable w name t text` says of a table and a text, and
without the definition between them, that they agree: the text lists the columns of the table with their
types, and a column cannot hold NULL exactly if the text says so, at the column or in the key of the
table. Constraints are counted in the text itself, so that nothing is said about how it was put together;
what the name of the table may contain is set apart. Every drawn definition agrees with itself in this
sense (`table_agrees_with_text`).
-/

namespace PredicateOracle

open Generate (Drafted Permitted Workload columnNames oneTo primaryCount tableDefinition)
open PredicateOracle.Random (Stream)
open Sql
open Text (occurrences occurrencesIn)

/-! ## What a text says -/

/-- **`c.DefinedBy listed text`** -- the text is the definition of the column `c`: its name, its type and
its constraints. The column cannot hold NULL exactly if one of these says so or the column is `listed` in
the key of the table. -/
structure Sql.Column.DefinedBy (c : Column) (listed : Prop) (text : String) : Prop where
  form : ∃ key ∈ ["", " PRIMARY KEY", " UNIQUE"], ∃ null ∈ ["", " NOT NULL"],
    text = c.name ++ " " ++ c.type.name ++ key ++ null
  nullable : c.nullable = false ↔
    0 < occurrences "NOT NULL" text ∨ 0 < occurrences "PRIMARY KEY" text ∨ listed

/-- The definition of the key of a table, by the positions of its columns; there is none without
columns. -/
def keyDefinition : List Nat → List String
  | [] => []
  | key => ["PRIMARY KEY(" ++ Text.join ", " (key.map (numbered "c")) ++ ")"]

/-- **`CreatesTable w name t text`** -- the text creates the table `t`, and table and text are such as the
workload `w` permits for a table with this name. -/
structure CreatesTable (w : Workload) (name : String) (t : Table) (text : String) : Prop where
  named : t.name = name
  owner : ∀ c ∈ t.columns, c.table = name
  length : 1 ≤ t.columns.length ∧ t.columns.length ≤ max 1 w.maxColumns
  names : t.columns.map (·.name) = columnNames t.columns.length
  listing : ∃ (definitions : List String) (key : List Nat),
    text = "CREATE TABLE " ++ name ++ " ("
      ++ Text.join ", " (definitions ++ keyDefinition key) ++ ")" ∧
    key.Pairwise (· < ·) ∧ (∀ i ∈ key, i < t.columns.length) ∧
    definitions.length = t.columns.length ∧
    ∀ (i : Nat) (c : Column), t.columns[i]? = some c →
      ∃ definition, definitions[i]? = some definition ∧ c.DefinedBy (i ∈ key) definition
  onePrimary : occurrences "PRIMARY KEY" text ≤ occurrences "PRIMARY KEY" name + 1
  keyless : w.indexes = false →
    occurrences "PRIMARY KEY" text = occurrences "PRIMARY KEY" name ∧
      occurrences "UNIQUE" text = occurrences "UNIQUE" name
  nullable : w.notNull = false → occurrences "NOT NULL" text = occurrences "NOT NULL" name

/-! ## Constraints in a text -/

/-- The constraints of a table definition. -/
inductive Constraint where
  | primaryKey
  | unique
  | notNull

namespace Constraint

/-- The constraint in SQL. -/
def text : Constraint → String
  | .primaryKey => "PRIMARY KEY"
  | .unique => "UNIQUE"
  | .notNull => "NOT NULL"

/-- Whether a column has the constraint. -/
def of (k : Constraint) (c : ColumnDefinition) : Bool :=
  match k with
  | .primaryKey => c.key = some .primary
  | .unique => c.key = some .unique
  | .notNull => c.notNull

theorem ne_nil (k : Constraint) : k.text.toList ≠ [] := by cases k <;> decide

/-- No constraint has a character that the texts of a definition are divided by. -/
theorem not_mem_text (k : Constraint) {c : Char} (hc : c ∈ [',', '(', ')']) :
    c ∉ k.text.toList := by
  have hcases : c = ',' ∨ c = '(' ∨ c = ')' := by simpa using hc
  rcases hcases with rfl | rfl | rfl <;> cases k <;> decide

/-- No constraint begins like the number of a column, or like the beginning of the text. -/
theorem head_ne (k : Constraint) {c : Char}
    (hc : c ∈ "CREATE TABLE c".toList ∨ c.isDigit = true) : k.text.toList.head? ≠ some c := by
  have hfirst : ∃ d, k.text.toList.head? = some d ∧ d ∉ "CREATE TABLE c".toList ∧
      d.isDigit = false := by
    cases k with
    | primaryKey => exact ⟨'P', by decide, by decide, by decide⟩
    | unique => exact ⟨'U', by decide, by decide, by decide⟩
    | notNull => exact ⟨'N', by decide, by decide, by decide⟩
  obtain ⟨d, hd, hnot, hdigit⟩ := hfirst
  rw [hd, ne_eq, Option.some.injEq]
  rintro rfl
  rcases hc with hc | hc
  · exact hnot hc
  · rw [hdigit] at hc
    cases hc

/-- The name of a column has nothing that a constraint begins with. -/
theorem head_ne_of_mem_numbered (k : Constraint) {i : Nat} {c : Char}
    (hc : c ∈ (numbered "c" i).toList) : k.text.toList.head? ≠ some c := by
  refine k.head_ne ?_
  rw [numbered, String.toList_append, List.mem_append] at hc
  rcases hc with hc | hc
  · have hletter : "c".toList ⊆ "CREATE TABLE c".toList := by decide
    exact .inl (hletter hc)
  · exact .inr (Number.isDigit_of_mem_toDigits (Nat.toList_repr ▸ hc))

/-- **A column definition says each of its constraints once** and no other one. -/
theorem occurrences_column (k : Constraint) {i : Nat} {c : ColumnDefinition}
    (hname : c.name = numbered "c" i) :
    occurrences k.text c.sql = if k.of c then 1 else 0 := by
  have hsql : c.sql = c.name ++ ColumnDefinition.sql ⟨"", c.type, c.key, c.notNull⟩ := by
    simp [ColumnDefinition.sql, String.append_assoc]
  have hnameless (type : DataType) (key : Option ColumnKey) (notNull : Bool) :
      occurrences k.text (ColumnDefinition.sql ⟨"", type, key, notNull⟩) =
        if k.of ⟨"", type, key, notNull⟩ then 1 else 0 := by
    cases k <;> cases type <;> rcases key with _ | _ | _ <;> cases notNull <;> decide
  rw [occurrences, hsql, String.toList_append, hname,
    Text.occurrencesIn_append_of_head k.ne_nil fun _ => k.head_ne_of_mem_numbered]
  exact hnameless c.type c.key c.notNull

/-- The columns of a table say a constraint as often as there are columns that have it. -/
theorem sum_occurrences_columns (k : Constraint) {columns : List ColumnDefinition}
    (hnamed : ∀ c ∈ columns, ∃ i, c.name = numbered "c" i) :
    ((columns.map ColumnDefinition.sql).map (occurrences k.text)).sum = columns.countP k.of := by
  induction columns with
  | nil => rfl
  | cons c columns ih =>
    obtain ⟨⟨i, hi⟩, hcolumns⟩ := List.forall_mem_cons.mp hnamed
    rw [List.map_cons, List.map_cons, List.sum_cons, k.occurrences_column hi, ih hcolumns,
      List.countP_cons, Nat.add_comm]

/-- The key of a table is one primary key. -/
theorem occurrences_key (k : Constraint) (key : List Nat) :
    occurrences k.text ("PRIMARY KEY(" ++ Text.join ", " (key.map (numbered "c")) ++ ")") =
      occurrences k.text "PRIMARY KEY" := by
  have hnames : occurrencesIn k.text.toList (Text.join ", " (key.map (numbered "c"))).toList = 0 := by
    rw [Text.occurrencesIn_join k.ne_nil (k.not_mem_text (by decide)) (k.head_ne (by decide))]
    refine List.sum_eq_zero_iff_forall_eq_nat.mpr fun n hn => ?_
    rw [List.map_map] at hn
    obtain ⟨i, -, rfl⟩ := List.mem_map.mp hn
    exact Text.occurrencesIn_of_head k.ne_nil fun _ => k.head_ne_of_mem_numbered
  have hchars : ("PRIMARY KEY(" ++ Text.join ", " (key.map (numbered "c")) ++ ")").toList =
      "PRIMARY KEY".toList ++ '(' ::
        ((Text.join ", " (key.map (numbered "c"))).toList ++ ')' :: []) := by
    rw [String.toList_append, String.toList_append, List.append_assoc]
    rfl
  have hopen : '(' ∉ k.text.toList := k.not_mem_text (by decide)
  have hclose : ')' ∉ k.text.toList := k.not_mem_text (by decide)
  rw [occurrences, hchars, Text.occurrencesIn_append_cons k.ne_nil hopen,
    Text.occurrencesIn_append_cons k.ne_nil hclose, hnames, Text.occurrencesIn_nil k.ne_nil]
  rfl

/-- Around the list of definitions there is nothing but the name of the table. -/
theorem occurrences_createTable (k : Constraint) (name : String) (items : List String) :
    occurrences k.text ("CREATE TABLE " ++ name ++ " (" ++ Text.join ", " items ++ ")") =
      occurrences k.text name + (items.map (occurrences k.text)).sum := by
  have hchars : ("CREATE TABLE " ++ name ++ " (" ++ Text.join ", " items ++ ")").toList =
      "CREATE TABLE ".toList ++ ((name.toList ++ [' ']) ++ '(' ::
        ((Text.join ", " items).toList ++ ')' :: [])) := by
    simp only [String.toList_append, List.append_assoc]
    rfl
  have hfirst : ∀ c ∈ "CREATE TABLE ".toList, k.text.toList.head? ≠ some c := by
    intro c hc
    have hsub : "CREATE TABLE ".toList ⊆ "CREATE TABLE c".toList := by decide
    exact k.head_ne (.inl (hsub hc))
  have hlast : k.text.toList.getLast? ≠ some ' ' := by cases k <;> decide
  have hopen : '(' ∉ k.text.toList := k.not_mem_text (by decide)
  have hclose : ')' ∉ k.text.toList := k.not_mem_text (by decide)
  rw [occurrences, hchars, Text.occurrencesIn_append_of_head k.ne_nil hfirst,
    Text.occurrencesIn_append_cons k.ne_nil hopen, Text.occurrencesIn_concat k.ne_nil hlast,
    Text.occurrencesIn_append_cons k.ne_nil hclose, Text.occurrencesIn_nil k.ne_nil, Nat.add_zero,
    Text.occurrencesIn_join k.ne_nil (k.not_mem_text (by decide)) (k.head_ne (by decide))]
  rfl

end Constraint

/-! ## Drafted definitions -/

/-- The text of a column definition is its name, its type and its constraints. -/
theorem Sql.ColumnDefinition.sql_form (c : ColumnDefinition) :
    ∃ key ∈ ["", " PRIMARY KEY", " UNIQUE"], ∃ null ∈ ["", " NOT NULL"],
      c.sql = c.name ++ " " ++ c.type.name ++ key ++ null := by
  obtain ⟨name, type, key, notNull⟩ := c
  have hkey : ∃ text ∈ ["", " PRIMARY KEY", " UNIQUE"], ∀ null,
      ColumnDefinition.sql ⟨name, type, key, null⟩ =
        name ++ " " ++ type.name ++ text ++ if null then " NOT NULL" else "" := by
    rcases key with _ | _ | _
    · exact ⟨"", by decide, fun _ => rfl⟩
    · exact ⟨" PRIMARY KEY", by decide, fun _ => rfl⟩
    · exact ⟨" UNIQUE", by decide, fun _ => rfl⟩
  obtain ⟨text, htext, hsql⟩ := hkey
  refine ⟨text, htext, if notNull then " NOT NULL" else "", ?_, hsql notNull⟩
  cases notNull <;> decide

namespace Sql.TableDefinition

variable {w : Workload} {name : String} {d : TableDefinition}

/-- A column of a drafted definition is named by its position. -/
theorem name_getElem? (h : Drafted w name d) {i : Nat} {c : ColumnDefinition}
    (hc : d.columns[i]? = some c) : c.name = numbered "c" i := by
  obtain ⟨hi, rfl⟩ := List.getElem?_eq_some_iff.mp hc
  simpa [columnNames, hi] using congrArg (·[i]?) h.names

/-- The parts of the text are the definitions of the columns and of the key. -/
theorem parts_eq (h : Drafted w name d) :
    d.parts = d.columns.map ColumnDefinition.sql ++ keyDefinition d.key := by
  have hnames : d.keyNames = d.key.map (numbered "c") := by
    rw [keyNames, ← List.filterMap_eq_map]
    refine List.filterMap_congr fun i hi => ?_
    have hc := List.getElem?_eq_getElem (h.inRange i hi)
    rw [hc, Option.map_some, name_getElem? h hc]
    rfl
  rw [parts, hnames]
  cases d.key <;> rfl

/-- The text lists these parts behind the name of the table. -/
theorem sql_eq (h : Drafted w name d) :
    d.sql = "CREATE TABLE " ++ name ++ " ("
      ++ Text.join ", " (d.columns.map ColumnDefinition.sql ++ keyDefinition d.key) ++ ")" := by
  rw [← parts_eq h, ← h.name]
  rfl

/-- **The text of a drafted definition says each constraint as often as the definition has it**, beside
what the name of the table says. -/
theorem occurrences_sql (h : Drafted w name d) (k : Constraint) :
    occurrences k.text d.sql = occurrences k.text name + (d.columns.countP k.of +
      if d.key = [] then 0 else occurrences k.text "PRIMARY KEY") := by
  have hnamed : ∀ c ∈ d.columns, ∃ i, c.name = numbered "c" i := by
    intro c hc
    obtain ⟨i, hi⟩ := List.mem_iff_getElem?.mp hc
    exact ⟨i, name_getElem? h hi⟩
  have hkey : ((keyDefinition d.key).map (occurrences k.text)).sum =
      if d.key = [] then 0 else occurrences k.text "PRIMARY KEY" := by
    cases d.key with
    | nil => rfl
    | cons i key =>
      rw [if_neg (List.cons_ne_nil i key), ← k.occurrences_key (i :: key)]
      rfl
  rw [sql_eq h, k.occurrences_createTable, List.map_append, List.sum_append,
    k.sum_occurrences_columns hnamed, hkey]

/-- A constraint that the definition does not have is said by nothing but the name of the table. -/
theorem occurrences_sql_of_absent (h : Drafted w name d) (k : Constraint)
    (hcolumns : ∀ c ∈ d.columns, k.of c = false)
    (hkey : d.key = [] ∨ occurrences k.text "PRIMARY KEY" = 0) :
    occurrences k.text d.sql = occurrences k.text name := by
  have hcount : d.columns.countP k.of = 0 :=
    List.countP_eq_zero.mpr fun c hc => ne_true_of_eq_false (hcolumns c hc)
  rw [occurrences_sql h, hcount]
  rcases hkey with hnil | hword
  · simp only [hnil, if_true, Nat.add_zero]
  · simp only [hword, ite_self, Nat.add_zero]

/-- A column of the table is defined by the text of its definition and the key. -/
theorem definedBy_sql (h : Drafted w name d) {i : Nat} {c : ColumnDefinition}
    (hc : d.columns[i]? = some c) :
    Column.DefinedBy ⟨d.name, c.name, c.type, !(c.refusesNull || d.key.contains i)⟩ (i ∈ d.key)
      c.sql := by
  have hname := name_getElem? h hc
  refine ⟨c.sql_form, ?_⟩
  have hnull : occurrences "NOT NULL" c.sql = if Constraint.notNull.of c then 1 else 0 :=
    Constraint.notNull.occurrences_column hname
  have hprimary : occurrences "PRIMARY KEY" c.sql = if Constraint.primaryKey.of c then 1 else 0 :=
    Constraint.primaryKey.occurrences_column hname
  have hpos (b : Bool) : (0 < if b then 1 else 0) ↔ b = true := by cases b <;> simp
  rw [hnull, hprimary, hpos, hpos]
  simp only [Constraint.of, ColumnDefinition.refusesNull, Bool.not_eq_false', Bool.or_eq_true,
    List.contains_iff_mem, or_assoc]

/-- **Table and text of a drafted definition agree.** -/
theorem createsTable (d : TableDefinition) (h : Drafted w name d) :
    CreatesTable w name d.table d.sql := by
  have hlength : d.table.columns.length = d.columns.length := List.length_mapIdx ..
  refine ⟨h.name, fun c hc => (owner_table hc).trans h.name, hlength ▸ h.length, ?_,
    ⟨d.columns.map ColumnDefinition.sql, d.key, sql_eq h, h.increasing, hlength ▸ h.inRange, ?_, ?_⟩,
    ?_, fun hindexes => ?_, fun hnull => ?_⟩
  · rw [d.names_table, hlength, h.names]
  · rw [List.length_map, hlength]
  · intro i c hc
    obtain ⟨c', hc', rfl⟩ := getElem?_table hc
    exact ⟨c'.sql, by rw [List.getElem?_map, hc', Option.map_some], definedBy_sql h hc'⟩
  · have hprimary := occurrences_sql h .primaryKey
    have hword : occurrences Constraint.primaryKey.text "PRIMARY KEY" = 1 := by decide
    rw [hword] at hprimary
    exact hprimary ▸ Nat.add_le_add_left h.onePrimary _
  · have hkey : ∀ c ∈ d.columns, c.key = none := fun c hc => (h.permitted c hc).key hindexes
    have hnil := h.keyless hindexes
    constructor
    · refine occurrences_sql_of_absent h .primaryKey (fun c hc => ?_) (.inl hnil)
      simp [Constraint.of, hkey c hc]
    · refine occurrences_sql_of_absent h .unique (fun c hc => ?_) (.inl hnil)
      simp [Constraint.of, hkey c hc]
  · exact occurrences_sql_of_absent h .notNull (fun c hc => (h.permitted c hc).notNull hnull)
      (.inr (by decide))

end Sql.TableDefinition

/-- **A table is what its text says.** Whatever the stream, a number of columns is drawn for every name,
at least one and no more than the maximum. If there is room for so many, a definition with them is drawn,
and its table and its text agree: the text lists the columns `c0`, `c1` and so on of the table with their
types, there is at most one primary key in it, of a column or over some columns in increasing order, and
a column of the table cannot hold NULL exactly if its definition says NOT NULL or PRIMARY KEY or the key
lists it. Without indexes the text has no key constraint, and without NOT NULL constraints no column says
so. If there is no room, nothing more is drawn, and that is the fault. -/
theorem table_agrees_with_text (w : Workload) (name : String) (s : Stream) :
    ∃ n s₁, (oneTo w.maxColumns).runOn s = (.ok n, s₁) ∧ (1 ≤ n ∧ n ≤ max 1 w.maxColumns) ∧
      (Record.column.HasRoom n → ∃ d s', (tableDefinition w name).runOn s = (.ok d, s') ∧
        d.columns.length = n ∧ CreatesTable w name d.table d.sql) ∧
      (¬ Record.column.HasRoom n →
        (tableDefinition w name).runOn s = (.error .capacityOverflow, s₁)) := by
  obtain ⟨n, s₁, hcount, hn⟩ := (Generate.yields_oneTo w.maxColumns).exists_value s
  have hroom := Generate.runOn_columnCount hcount
  refine ⟨n, s₁, hcount, hn, fun h => ?room, fun h => ?noRoom⟩
  case room =>
    rw [Record.reserve_of_hasRoom h] at hroom
    obtain ⟨d, s', hrun, hd, hlength⟩ := (Generate.yields_draftedWith name hn).exists_value s₁
    refine ⟨d, s', ?_, hlength, d.createsTable hd⟩
    rw [tableDefinition, Gen.runOn_bind, hroom]
    exact hrun
  case noRoom =>
    rw [Record.reserve_of_not_hasRoom h] at hroom
    rw [tableDefinition, Gen.runOn_bind, hroom]
    rfl

/-- Where there is room for as many columns as there can be, a table is always drawn. -/
theorem table_agrees_with_text_standard :
    Record.column.HasRoom (max 1 Workload.standard.maxColumns) ∧
      ∃ d s', (tableDefinition .standard "t0").runOn (.ofSeed 7) = (.ok d, s') ∧
        CreatesTable .standard "t0" d.table d.sql := by
  have hmax : Record.column.HasRoom (max 1 Workload.standard.maxColumns) := by decide
  obtain ⟨n, s₁, -, hn, hroom, -⟩ := table_agrees_with_text .standard "t0" (.ofSeed 7)
  obtain ⟨d, s', hrun, -, hagrees⟩ := hroom (hmax.mono hn.2)
  exact ⟨hmax, d, s', hrun, hagrees⟩

/-- Tables may have more columns than there is room for. -/
def Generate.Workload.broad : Workload := { Workload.standard with maxColumns := 2 ^ (63 : Nat) - 1 }

/-- On this stream more columns are drawn than there is room for, so there is no table. -/
theorem broad_table_missing :
    Workload.broad.maxColumns < 2 ^ (64 : Nat) - 1 ∧
      ¬ ∃ d s', (tableDefinition .broad "t0").runOn (.ofSeed 7) = (.ok d, s') := by
  refine ⟨by decide, fun ⟨d, s', hrun⟩ => ?_⟩
  have hnone : ((tableDefinition .broad "t0").runOn (.ofSeed 7)).1.toOption.isNone = true := by
    decide +kernel
  rw [hrun] at hnone
  cases hnone

end PredicateOracle
