import PredicateOracle.Config.Sources
import PredicateOracle.Proofs.Setting.Overlay

/-!
# PredicateOracle.Proofs.Config.Field -- a configuration is its fields

A field of a configuration has a section and a key, a way in which a value is taken for it, and a place
in the configuration. `Field.all` lists the fields, and two configurations with the same fields are the
same (`Field.ext_all`). A table of sections is taken for a configuration exactly if every field is taken
from what is found under its key, or has its default where nothing is (`ofSetting?_eq_some_iff`).
-/

namespace PredicateOracle

open Section (value? optional? list? oracleKeys generatorKeys workloadKeys runKeys databaseKeys)
open Entries (find?)
open Conversion (lenient)

/-- A section of a configuration. -/
structure Part where
  name : String
  /-- Its keys, in their order. -/
  keys : List String
  deriving DecidableEq

/-- A field of a configuration. -/
structure Field where
  part : Part
  key : String
  Value : Type
  /-- How a value of merged layers is taken for it. -/
  take? : Setting → Option Value
  get : Configuration → Value

/-! ## The fields of a configuration -/

namespace Field

section Kinds

variable (part : Part) (key : String)

def size (get : Configuration → Nat) : Field := ⟨part, key, Nat, lenient.size?, get⟩

def number (get : Configuration → Float) : Field := ⟨part, key, Float, lenient.number?, get⟩

def flag (get : Configuration → Bool) : Field := ⟨part, key, Bool, lenient.flag?, get⟩

def optionalSize (get : Configuration → Option Nat) : Field :=
  ⟨part, key, Option Nat, optional? lenient.size?, get⟩

def optionalText (get : Configuration → Option String) : Field :=
  ⟨part, key, Option String, optional? lenient.text?, get⟩

end Kinds

/-- The section about checks. -/
def oraclePart : Part := ⟨"oracle", oracleKeys⟩

def leafSelection : Field :=
  ⟨oraclePart, "leaf_selection", Selection, fun s => lenient.choice? s >>= Selection.ofName?,
    (·.oracle.compound.selection)⟩

def modes : Field :=
  ⟨oraclePart, "modes", List Mode, list? fun s => lenient.choice? s >>= Mode.ofName?,
    (·.oracle.modes)⟩

/-- The fields about checks. -/
def oracle : List Field :=
  [size oraclePart "num_predicates" (·.oracle.predicates),
    size oraclePart "max_depth" (·.oracle.compound.maxDepth),
    number oraclePart "leaf_probability" (·.oracle.compound.leafProbability), leafSelection,
    size oraclePart "max_tables" (·.oracle.maxTables),
    number oraclePart "join_probability" (·.oracle.joinProbability),
    number oraclePart "ordered_probability" (·.oracle.orderedProbability),
    number oraclePart "release_statements_probability" (·.oracle.releaseProbability), modes]

/-- The section about generated expressions. -/
def generatorPart : Part := ⟨"generator", generatorKeys⟩

/-- The fields about generated expressions. -/
def generator : List Field :=
  [size generatorPart "max_expression_depth" (·.generator.maxDepth),
    flag generatorPart "logic_in_predicates" (·.generator.logic),
    number generatorPart "null_probability" (·.generator.nullProbability)]

/-- The section about generated databases. -/
def workloadPart : Part := ⟨"workload", workloadKeys⟩

/-- The fields about generated databases. -/
def workload : List Field :=
  [size workloadPart "max_tables" (·.workload.maxTables),
    size workloadPart "max_columns" (·.workload.maxColumns),
    size workloadPart "max_inserts" (·.workload.maxInserts),
    size workloadPart "max_updates" (·.workload.maxUpdates),
    size workloadPart "max_deletes" (·.workload.maxDeletes),
    size workloadPart "max_indexes" (·.workload.maxIndexes),
    size workloadPart "max_views" (·.workload.maxViews),
    flag workloadPart "test_indexes" (·.workload.indexes),
    flag workloadPart "test_not_null" (·.workload.notNull)]

/-- The section about runs. -/
def runPart : Part := ⟨"run", runKeys⟩

def seed : Field := optionalSize runPart "seed" (·.run.seed)

def workers : Field := size runPart "workers" (·.run.workers)

def checksPerWorker : Field := size runPart "checks_per_worker" (·.run.checksPerWorker)

def timeoutSeconds : Field := optionalSize runPart "timeout_secs" (·.run.timeoutSeconds)

def reportDirectory : Field := optionalText runPart "report_dir" (·.run.reportDirectory)

/-- The fields about a run. -/
def run : List Field :=
  [seed, workers, checksPerWorker,
    size runPart "checks_per_database" (·.run.checksPerDatabase), timeoutSeconds, reportDirectory]

/-- The section about the database. -/
def databasePart : Part := ⟨"database", databaseKeys⟩

def databasePath : Field := optionalText databasePart "path" (·.databasePath)

/-- All fields of a configuration. -/
def all : List Field := oracle ++ generator ++ workload ++ run ++ [databasePath]

theorem part_mem_names : ∀ f ∈ all, f.part.name ∈ Section.names := by decide

/-- No two fields have one place. -/
theorem eq_of_place {f g : Field} (hf : f ∈ all) (hg : g ∈ all) (hpart : f.part.name = g.part.name)
    (hkey : f.key = g.key) : f = g := by
  have hnodup : (all.map fun f => (f.part.name, f.key)).Nodup := by decide
  exact List.inj_on_of_nodup_map hnodup hf hg (Prod.ext hpart hkey)

/-- A configuration is determined by its fields. -/
theorem ext_all {c c' : Configuration} (h : ∀ f ∈ all, f.get c = f.get c') : c = c' := by
  obtain ⟨⟨_, ⟨_, _, _⟩, _, _, _, _, _⟩, ⟨_, _, _⟩, ⟨_, _, _, _, _, _, _, _, _⟩,
    ⟨_, _, _, _, _, _⟩, _⟩ := c
  obtain ⟨⟨_, ⟨_, _, _⟩, _, _, _, _, _⟩, ⟨_, _, _⟩, ⟨_, _, _, _, _, _, _, _, _⟩,
    ⟨_, _, _, _, _, _⟩, _⟩ := c'
  simp only [all, oracle, generator, workload, run, List.forall_mem_append,
    List.forall_mem_cons, size, number, flag, optionalSize, optionalText, leafSelection, modes, seed,
    workers, checksPerWorker, timeoutSeconds, reportDirectory, databasePath] at h
  simp_all

/-- Whatever values the fields have, there is a configuration with these values. -/
theorem exists_configuration {P : (f : Field) → f.Value → Prop} (h : ∀ f ∈ all, ∃ a, P f a) :
    ∃ c : Configuration, ∀ f ∈ all, P f (f.get c) := by
  simp only [all, oracle, generator, workload, run, List.forall_mem_append, List.forall_mem_cons]
    at h ⊢
  obtain ⟨⟨⟨⟨⟨⟨a₁, h₁⟩, ⟨a₂, h₂⟩, ⟨a₃, h₃⟩, ⟨a₄, h₄⟩, ⟨a₅, h₅⟩, ⟨a₆, h₆⟩, ⟨a₇, h₇⟩, ⟨a₈, h₈⟩,
    ⟨a₉, h₉⟩, -⟩, ⟨⟨b₁, i₁⟩, ⟨b₂, i₂⟩, ⟨b₃, i₃⟩, -⟩⟩, ⟨⟨w₁, j₁⟩, ⟨w₂, j₂⟩, ⟨w₃, j₃⟩, ⟨w₄, j₄⟩,
    ⟨w₅, j₅⟩, ⟨w₆, j₆⟩, ⟨w₇, j₇⟩, ⟨w₈, j₈⟩, ⟨w₉, j₉⟩, -⟩⟩, ⟨⟨r₁, k₁⟩, ⟨r₂, k₂⟩, ⟨r₃, k₃⟩, ⟨r₄, k₄⟩,
    ⟨r₅, k₅⟩, ⟨r₆, k₆⟩, -⟩⟩, ⟨⟨d, l⟩, -⟩⟩ := h
  exact ⟨⟨⟨a₁, ⟨a₂, a₃, a₄⟩, a₅, a₆, a₇, a₈, a₉⟩, ⟨b₁, b₂, b₃⟩,
      ⟨w₁, w₂, w₃, w₄, w₅, w₆, w₇, w₈, w₉⟩, ⟨r₁, r₂, r₃, r₄, r₅, r₆⟩, d⟩,
    ⟨⟨⟨⟨h₁, h₂, h₃, h₄, h₅, h₆, h₇, h₈, h₉, List.forall_mem_nil _⟩,
      ⟨i₁, i₂, i₃, List.forall_mem_nil _⟩⟩,
      ⟨j₁, j₂, j₃, j₄, j₅, j₆, j₇, j₈, j₉, List.forall_mem_nil _⟩⟩,
      ⟨k₁, k₂, k₃, k₄, k₅, k₆, List.forall_mem_nil _⟩⟩, ⟨l, List.forall_mem_nil _⟩⟩

/-! ## Reading a field -/

/-- What a field is by the value under its key: its default if there is none. -/
def read (f : Field) : Option Setting → Option f.Value
  | none => some (f.get .standard)
  | some v => f.take? v

theorem read_some {f : Field} {v : Setting} {x : Option Setting} (hx : x = some v) :
    f.read x = f.take? v := by
  rw [hx]
  rfl

theorem value?_eq_read (f : Field) (es : Entries Setting) :
    value? es f.key (f.get .standard) f.take? = f.read (find? f.key es) := by
  unfold value? read
  cases find? f.key es <;> rfl

/-- What is found under the key of a field in a table of sections. There must be a section, or nothing,
in the place of its section. -/
def found? (f : Field) (es : Entries Setting) : Option (Option Setting) :=
  match find? f.part.name es with
  | some s => (lenient.entries? f.part.keys s).map (find? f.key)
  | none => some none

/-- What a field is in a table of sections. -/
def within? (f : Field) (es : Entries Setting) : Option f.Value := (f.found? es).bind f.read

/-- What is found under a key, where sections are tables. -/
theorem found?_eq_lookup? {f : Field} {t : Setting}
    (h : (Setting.valueAt f.part.name t.entries).isTable = true) :
    f.found? t.entries = some (t.lookup? f.part.name f.key) := by
  unfold found? Setting.lookup?
  unfold Setting.valueAt at h ⊢
  cases hfind : find? f.part.name t.entries with
  | none => rfl
  | some s =>
    rw [hfind, Option.getD_some] at h
    rw [Setting.eq_table_of_isTable h]
    rfl

/-- Only a choice can be a table. -/
theorem eq_leafSelection_or : ∀ f ∈ all, f = leafSelection ∨ ∀ es, f.take? (.table es) = none := by
  simp only [all, oracle, generator, workload, run, List.forall_mem_append, List.forall_mem_cons]
  and_intros
  all_goals first
    | exact List.forall_mem_nil _
    | exact .inl trivial
    | exact .inr fun _ => rfl

/-- The only table that a value can be taken from has one key, and what stands under it does not
matter. -/
theorem take?_table {f : Field} (hf : f ∈ all) {es : Entries Setting} {a : f.Value}
    (h : f.take? (.table es) = some a) :
    ∃ name v, es = [(name, v)] ∧ ∀ v', f.take? (.table [(name, v')]) = some a := by
  obtain rfl | hnone := eq_leafSelection_or f hf
  · match es, h with
    | [(name, v)], h => exact ⟨name, v, rfl, fun _ => h⟩
  · rw [hnone] at h
    cases h

/-- What is taken for a section has the fields of the section. -/
theorem value?_eq_some_iff {α : Type} {p : Part} {fs : List Field} (hfs : fs ≠ [])
    (hpart : ∀ f ∈ fs, f.part = p) {take? : Setting → Option α} {get : Configuration → α}
    {c : Configuration}
    (htake : ∀ s, take? s = (lenient.entries? p.keys s).bind fun es => take? (.table es))
    (hstandard : take? (.table []) = some (get .standard))
    (hfields : ∀ es, take? (.table es) = some (get c) ↔
      ∀ f ∈ fs, f.read (find? f.key es) = some (f.get c)) (es : Entries Setting) :
    value? es p.name (get .standard) take? = some (get c) ↔
      ∀ f ∈ fs, f.within? es = some (f.get c) := by
  unfold value?
  cases hfind : find? p.name es with
  | none =>
    dsimp only
    rw [← hstandard, hfields]
    refine forall₂_congr fun f hf => ?_
    rw [within?, found?, hpart f hf, hfind]
    rfl
  | some s =>
    dsimp only
    rw [htake]
    cases hentries : lenient.entries? p.keys s with
    | none =>
      refine ⟨nofun, fun h => ?_⟩
      obtain ⟨f, hf⟩ := List.exists_mem_of_ne_nil fs hfs
      have hwithin := h f hf
      rw [within?, found?, hpart f hf, hfind] at hwithin
      dsimp only at hwithin
      rw [hentries] at hwithin
      cases hwithin
    | some es' =>
      rw [Option.bind_some, hfields]
      refine forall₂_congr fun f hf => ?_
      rw [within?, found?, hpart f hf, hfind]
      dsimp only
      rw [hentries]
      rfl

end Field

namespace Configuration

open PredicateOracle.Field

/-! ## Sections -/

section Sections

variable {c : Configuration} (es : Entries Setting)

theorem oracle_eq_some_iff :
    Check.Options.ofSetting? lenient (.table es) = some c.oracle ↔
      ∀ f ∈ Field.oracle, f.read (find? f.key es) = some (f.get c) := by
  unfold Check.Options.ofSetting?
  simp only [Field.oracle, List.forall_mem_cons, ← value?_eq_read, Option.bind_eq_bind,
    Option.bind_eq_some_iff, Option.pure_def, Option.some.injEq]
  constructor
  · rintro ⟨_, ⟨⟩, _, h₁, _, h₂, _, h₃, _, h₄, _, h₅, _, h₆, _, h₇, _, h₈, _, h₉, hc⟩
    simp only [Field.size, number, leafSelection, modes, ← hc]
    exact ⟨h₁, h₂, h₃, h₄, h₅, h₆, h₇, h₈, h₉, List.forall_mem_nil _⟩
  · rintro ⟨h₁, h₂, h₃, h₄, h₅, h₆, h₇, h₈, h₉, -⟩
    exact ⟨es, rfl, _, h₁, _, h₂, _, h₃, _, h₄, _, h₅, _, h₆, _, h₇, _, h₈, _, h₉, rfl⟩

theorem generator_eq_some_iff :
    Generate.Options.ofSetting? lenient (.table es) = some c.generator ↔
      ∀ f ∈ Field.generator, f.read (find? f.key es) = some (f.get c) := by
  unfold Generate.Options.ofSetting?
  simp only [Field.generator, List.forall_mem_cons, ← value?_eq_read, Option.bind_eq_bind,
    Option.bind_eq_some_iff, Option.pure_def, Option.some.injEq]
  constructor
  · rintro ⟨_, ⟨⟩, _, h₁, _, h₂, _, h₃, hc⟩
    simp only [Field.size, number, flag, ← hc]
    exact ⟨h₁, h₂, h₃, List.forall_mem_nil _⟩
  · rintro ⟨h₁, h₂, h₃, -⟩
    exact ⟨es, rfl, _, h₁, _, h₂, _, h₃, rfl⟩

theorem workload_eq_some_iff :
    Generate.Workload.ofSetting? lenient (.table es) = some c.workload ↔
      ∀ f ∈ Field.workload, f.read (find? f.key es) = some (f.get c) := by
  unfold Generate.Workload.ofSetting?
  simp only [Field.workload, List.forall_mem_cons, ← value?_eq_read, Option.bind_eq_bind,
    Option.bind_eq_some_iff, Option.pure_def, Option.some.injEq]
  constructor
  · rintro ⟨_, ⟨⟩, _, h₁, _, h₂, _, h₃, _, h₄, _, h₅, _, h₆, _, h₇, _, h₈, _, h₉, hc⟩
    simp only [Field.size, flag, ← hc]
    exact ⟨h₁, h₂, h₃, h₄, h₅, h₆, h₇, h₈, h₉, List.forall_mem_nil _⟩
  · rintro ⟨h₁, h₂, h₃, h₄, h₅, h₆, h₇, h₈, h₉, -⟩
    exact ⟨es, rfl, _, h₁, _, h₂, _, h₃, _, h₄, _, h₅, _, h₆, _, h₇, _, h₈, _, h₉, rfl⟩

theorem run_eq_some_iff :
    RunOptions.ofSetting? lenient (.table es) = some c.run ↔
      ∀ f ∈ Field.run, f.read (find? f.key es) = some (f.get c) := by
  unfold RunOptions.ofSetting?
  simp only [Field.run, List.forall_mem_cons, ← value?_eq_read, Option.bind_eq_bind,
    Option.bind_eq_some_iff, Option.pure_def, Option.some.injEq]
  constructor
  · rintro ⟨_, ⟨⟩, _, h₁, _, h₂, _, h₃, _, h₄, _, h₅, _, h₆, hc⟩
    simp only [Field.seed, Field.workers, Field.checksPerWorker, Field.timeoutSeconds,
      Field.reportDirectory, Field.size, optionalSize, optionalText, ← hc]
    exact ⟨h₁, h₂, h₃, h₄, h₅, h₆, List.forall_mem_nil _⟩
  · rintro ⟨h₁, h₂, h₃, h₄, h₅, h₆, -⟩
    exact ⟨es, rfl, _, h₁, _, h₂, _, h₃, _, h₄, _, h₅, _, h₆, rfl⟩

theorem databasePath_eq_some_iff :
    databasePathOf? lenient (.table es) = some c.databasePath ↔
      ∀ f ∈ [Field.databasePath], f.read (find? f.key es) = some (f.get c) := by
  rw [List.forall_mem_singleton, ← value?_eq_read]
  rfl

/-- **A table of sections is taken for a configuration field by field.** -/
theorem ofSetting?_eq_some_iff :
    ofSetting? lenient (.table es) = some c ↔ ∀ f ∈ Field.all, f.within? es = some (f.get c) := by
  have horacle := value?_eq_some_iff (p := oraclePart) (by nofun) (by decide) (fun _ => rfl) rfl
    (oracle_eq_some_iff (c := c)) es
  have hgenerator := value?_eq_some_iff (p := generatorPart) (by nofun) (by decide) (fun _ => rfl) rfl
    (generator_eq_some_iff (c := c)) es
  have hworkload := value?_eq_some_iff (p := workloadPart) (by nofun) (by decide) (fun _ => rfl) rfl
    (workload_eq_some_iff (c := c)) es
  have hrun := value?_eq_some_iff (p := runPart) (by nofun) (by decide) (fun _ => rfl) rfl
    (run_eq_some_iff (c := c)) es
  have hdatabase := value?_eq_some_iff (p := databasePart) (by nofun) (by decide) (fun _ => rfl) rfl
    (databasePath_eq_some_iff (c := c)) es
  unfold ofSetting?
  simp only [Field.all, List.forall_mem_append, ← horacle, ← hgenerator, ← hworkload, ← hrun,
    ← hdatabase, Option.bind_eq_bind, Option.bind_eq_some_iff, Option.pure_def, Option.some.injEq]
  constructor
  · rintro ⟨_, ⟨⟩, _, h₁, _, h₂, _, h₃, _, h₄, _, h₅, rfl⟩
    exact ⟨⟨⟨⟨h₁, h₂⟩, h₃⟩, h₄⟩, h₅⟩
  · rintro ⟨⟨⟨⟨h₁, h₂⟩, h₃⟩, h₄⟩, h₅⟩
    exact ⟨es, rfl, _, h₁, _, h₂, _, h₃, _, h₄, _, h₅, rfl⟩

end Sections

/-! ## Defaults -/

theorem take?_size (part : Part) (key : String) (get : Configuration → Nat) (c : Configuration)
    (h : get c < 2 ^ (64 : Nat)) :
    (Field.size part key get).take? (size (get c)) = some ((Field.size part key get).get c) := by
  have hn : 0 ≤ (get c : Int) ∧ (get c : Int) < 2 ^ (64 : Nat) := by omega
  have htake : (Field.size part key get).take? = Conversion.looseSize? := rfl
  rw [htake, Configuration.size, Conversion.looseSize?, Conversion.sizeOf?, if_pos hn,
    Int.toNat_natCast]
  rfl

/-- Every default is taken from what the defaults say. -/
theorem read_lookup?_standard : ∀ f ∈ Field.all,
    f.read (standard.toSetting.lookup? f.part.name f.key) = some (f.get standard) := by
  simp only [Field.all, Field.oracle, Field.generator, Field.workload, Field.run, Field.workers,
    Field.checksPerWorker, List.forall_mem_append, List.forall_mem_cons]
  and_intros
  all_goals first
    | exact List.forall_mem_nil _
    | refine (read_some rfl).trans ?_
  all_goals first
    | with_reducible exact take?_size _ _ _ _ (by decide)
    | rfl

end Configuration
end PredicateOracle
