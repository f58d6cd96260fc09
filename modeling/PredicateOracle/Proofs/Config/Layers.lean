import Mathlib.Data.List.Induction
import PredicateOracle.Proofs.Config.Basic
import PredicateOracle.Proofs.Config.Field

/-!
# PredicateOracle.Proofs.Config.Layers -- the highest layer that sets a key wins

Each layer by itself comes to a tree, and sets the keys that this tree has values for
(`Layer.setting?`). What the layers come to together is, for each field, what the highest layer sets that
sets the field at all, and the default if none does. One layer more either leaves a field as it was or
replaces it (`Field.read_of_laid`), and any number of layers is one layer more again and again
(`read_highest?`).

A table that a layer sets where others set tables is merged with theirs. A merged table is only taken for
a value if it has one key, and then the highest layer has set this key.
-/

namespace PredicateOracle

open Setting (lookup? Laid isTable valueAt assign)
open Entries (find?)
open Conversion (lenient)

namespace Setting

/-- Whether a value is a table without keys, which sets nothing. -/
def isVoid : Setting → Bool
  | .table [] => true
  | _ => false

theorem isVoid_of_not_isTable {v : Setting} (h : v.isTable = false) : v.isVoid = false := by
  cases v with
  | table es => cases h
  | _ => rfl

/-- A section that is a table stays one. -/
theorem isTable_valueAt_assign {t v : Setting} {part : String} {path : List String}
    (ht : (valueAt part t.entries).isTable = true) (hpath : path ≠ [])
    (htable : path = [part] → v.isTable = true) :
    (valueAt part (assign v path t).entries).isTable = true := by
  match path, hpath with
  | name :: rest, _ =>
    rw [assign, entries, valueAt_put]
    by_cases hname : part = name
    · rw [if_pos hname]
      subst hname
      cases rest with
      | nil =>
        rw [eq_table_of_isTable (htable rfl)]
        rfl
      | cons below rest => rfl
    · rw [if_neg hname]
      exact ht

end Setting

/-! ## One layer -/

namespace Layer

/-- What a layer by itself comes to. -/
def tree (l : Layer) : Setting := layOn (.table []) l

/-- The value that a layer sets for a key of a section. -/
def setting? (l : Layer) (part key : String) : Option Setting :=
  (l.tree.lookup? part key).filter fun v => !v.isVoid

/-- A value for one key is what is found under this key, and nothing is found elsewhere. -/
theorem lookup?_tree_single {v : Setting} (hv : v.isTable = false) (part name part' key : String) :
    (tree [([part, name], v)]).lookup? part' key =
      if part' = part ∧ key = name then some v else none := by
  change (assign v [part, name] (.table [])).lookup? part' key = _
  by_cases hpart : part' = part
  · subst hpart
    rw [Setting.lookup?_assign_key, assign, Setting.overlay_of_not_isTable _ hv]
    by_cases hkey : key = name <;> simp [hkey, lookup?, Setting.valueAt, Setting.entries, find?]
  · rw [Setting.lookup?_assign_of_ne _ _ _ _ _ hpart, if_neg (fun h => hpart h.1)]
    rfl

/-- Only tables stand in the places of sections. -/
def IsSectioned (l : Layer) : Prop :=
  ∀ e ∈ l, ∀ part ∈ Section.names, e.1 = [part] → e.2.isTable = true

theorem pathOf_ne_nil (name : String) : pathOf name ≠ [] := by
  unfold pathOf
  dsimp only
  split
  · exact fun h => List.splitOn_ne_nil '.' name.toList (List.map_eq_nil_iff.mp h)
  · exact List.cons_ne_nil _ _

theorem path_ne_nil_of_ofFile? {text : Option String} {l : Layer} (h : ofFile? text = some l) :
    ∀ e ∈ l, e.1 ≠ [] := by
  cases text with
  | none =>
    cases h
    exact List.forall_mem_nil _
  | some text =>
    obtain ⟨s, -, hs⟩ := Option.bind_eq_some_iff.mp h
    split at hs
    · cases hs
      intro e he
      obtain ⟨entry, -, rfl⟩ := List.mem_map.mp he
      exact pathOf_ne_nil _
    · cases hs

theorem path_ne_nil_of_pathOfVariable? {name : String} {path : List String}
    (h : pathOfVariable? name = some path) : path ≠ [] := by
  unfold pathOfVariable? at h
  dsimp only at h
  split at h
  · obtain rfl := Option.some.inj h
    apply pathOf_ne_nil
  · nomatch h

theorem path_ne_nil_of_ofEnvironment (environment : Environment) :
    ∀ e ∈ ofEnvironment environment, e.1 ≠ [] := by
  intro e he
  obtain ⟨named, -, hnamed⟩ := List.mem_filterMap.mp he
  obtain ⟨path, hpath, rfl⟩ := Option.map_eq_some_iff.mp hnamed
  exact path_ne_nil_of_pathOfVariable? hpath

section LayOn

variable {l : Layer} (hpaths : ∀ e ∈ l, e.1 ≠ []) {part : String}
  (htables : ∀ e ∈ l, e.1 = [part] → e.2.isTable = true)
include hpaths htables

theorem isTable_valueAt_layOn {t : Setting} (ht : (valueAt part t.entries).isTable = true) :
    (valueAt part (layOn t l).entries).isTable = true := by
  unfold layOn
  induction l generalizing t with
  | nil => exact ht
  | cons e rest ih =>
    rw [List.forall_mem_cons] at hpaths htables
    exact ih hpaths.2 htables.2 (Setting.isTable_valueAt_assign ht hpaths.1 htables.1)

theorem laid_layOn_of_laid {x : String → Option Setting} {own t : Setting}
    (h : ∀ key, Laid (x key) (own.lookup? part key) (t.lookup? part key)) :
    ∀ key, Laid (x key) ((layOn own l).lookup? part key) ((layOn t l).lookup? part key) := by
  unfold layOn
  induction l generalizing own t with
  | nil => exact h
  | cons e rest ih =>
    rw [List.forall_mem_cons] at hpaths htables
    exact ih hpaths.2 htables.2 (Laid.assign_tree h hpaths.1 htables.1)

/-- A layer is laid over every value of a section. -/
theorem laid_layOn (t : Setting) (key : String) :
    Laid (t.lookup? part key) (l.tree.lookup? part key) ((layOn t l).lookup? part key) :=
  laid_layOn_of_laid hpaths htables (x := fun key => t.lookup? part key) (fun _ => .kept) key

end LayOn

theorem isTable_layOn {l : Layer} (hpaths : ∀ e ∈ l, e.1 ≠ []) {t : Setting}
    (ht : t.isTable = true) : (layOn t l).isTable = true := by
  unfold layOn
  induction l generalizing t with
  | nil => exact ht
  | cons e rest ih =>
    rw [List.forall_mem_cons] at hpaths
    refine ih hpaths.2 ?_
    obtain ⟨path, v⟩ := e
    match path, hpaths.1 with
    | _ :: _, _ => rfl

/-! ## All layers -/

/-- The value that the highest layer sets for a key of a section, of those that set any. -/
def highest? (layers : List Layer) (part key : String) : Option Setting :=
  layers.reverse.findSome? fun l => l.setting? part key

theorem highest?_concat (layers : List Layer) (l : Layer) (part key : String) :
    highest? (layers ++ [l]) part key = (l.setting? part key).or (highest? layers part key) := by
  unfold highest?
  rw [List.reverse_append, List.reverse_singleton, List.singleton_append, List.findSome?_cons]
  cases l.setting? part key <;> rfl

theorem merged_concat (layers : List Layer) (l : Layer) :
    merged (layers ++ [l]) = layOn (merged layers) l := by
  rw [merged, List.foldl_append]
  rfl

end Layer

/-! ## Fields -/

namespace Field

/-- **One layer more**: a field that can be taken is what the layer sets, or what it was before. -/
theorem read_of_laid {f : Field} (hf : f ∈ all) {x own x' : Option Setting} (h : Laid x own x')
    {a : f.Value} (hread : f.read x' = some a) :
    (own.filter (fun v => !v.isVoid) = none ∧ f.read x = some a) ∨
      ∃ v, own.filter (fun v => !v.isVoid) = some v ∧ f.take? v = some a := by
  cases h with
  | kept => exact .inl ⟨rfl, hread⟩
  | @replaced v hv =>
    have hvoid : v.isVoid = false := Setting.isVoid_of_not_isTable hv
    exact .inr ⟨v, by simp [hvoid], hread⟩
  | @merged own es hnodup hkeys hnone =>
    obtain ⟨name, v, rfl, hany⟩ := take?_table hf hread
    match own with
    | [] =>
      obtain hempty | hx := hnone rfl
      · cases hempty
      · exact .inl ⟨rfl, hx ▸ hread⟩
    | (name', v') :: rest =>
      -- A key of the layer is a key of the merged table, which has only one.
      have hname : name' = name := List.mem_singleton.mp (hkeys List.mem_cons_self)
      have hrest : rest = [] := by
        refine List.eq_nil_iff_forall_not_mem.mpr fun e he => ?_
        have hmem : e.1 ∈ Entries.keys rest := List.mem_map_of_mem he
        have he : e.1 = name := List.mem_singleton.mp (hkeys (List.mem_cons_of_mem _ hmem))
        exact (List.nodup_cons.mp hnodup).1 ((hname.trans he.symm) ▸ hmem)
      subst hname hrest
      exact .inr ⟨_, rfl, hany v'⟩

/-- One layer more, if it does not set a table. -/
theorem eq_or_of_laid {x own x' : Option Setting} (h : Laid x own x')
    (hown : own.any isTable = false) :
    x' = (own.filter fun v => !v.isVoid).or x := by
  cases h with
  | kept => rfl
  | @replaced v hv =>
    have hvoid : v.isVoid = false := Setting.isVoid_of_not_isTable hv
    rw [Option.filter_some_pos (by rw [hvoid]; rfl)]
    rfl
  | merged => cases hown

end Field

namespace Configuration

section Read

variable {layers : List Layer} (hpaths : ∀ l ∈ layers, ∀ e ∈ l, e.1 ≠ [])
  (hsectioned : ∀ l ∈ layers, l.IsSectioned)
include hpaths hsectioned

theorem isTable_valueAt_merged {part : String} (hpart : part ∈ Section.names) :
    (valueAt part (Layer.merged layers).entries).isTable = true := by
  induction layers using List.reverseRecOn with
  | nil =>
    revert part
    decide
  | append_singleton rest l ih =>
    rw [Layer.merged_concat]
    simp only [List.forall_mem_append, List.forall_mem_singleton] at hpaths hsectioned
    exact Layer.isTable_valueAt_layOn hpaths.2 (fun e he => hsectioned.2 e he part hpart)
      (ih hpaths.1 hsectioned.1)

/-- **Any number of layers**: a field that can be taken is what the highest layer sets that sets it, and
the default if no layer does. -/
theorem read_highest? {f : Field} (hf : f ∈ Field.all) {a : f.Value}
    (hread : f.read ((Layer.merged layers).lookup? f.part.name f.key) = some a) :
    f.read (Layer.highest? layers f.part.name f.key) = some a := by
  induction layers using List.reverseRecOn with
  | nil => exact (read_lookup?_standard f hf).symm.trans hread
  | append_singleton rest l ih =>
    simp only [List.forall_mem_append, List.forall_mem_singleton] at hpaths hsectioned
    have hpart : f.part.name ∈ Section.names := Field.part_mem_names f hf
    have hlaid := Layer.laid_layOn hpaths.2 (fun e he => hsectioned.2 e he _ hpart)
      (Layer.merged rest) f.key
    rw [Layer.merged_concat] at hread
    rw [Layer.highest?_concat, Layer.setting?]
    obtain ⟨hnone, hbelow⟩ | ⟨v, hv, htake⟩ := Field.read_of_laid hf hlaid hread
    · rw [hnone, Option.none_or]
      exact ih hpaths.1 hsectioned.1 hbelow
    · rw [hv, Option.some_or]
      exact htake

/-- Where no layer sets a table for a field, there is nothing else to it. -/
theorem read_merged {f : Field} (hf : f ∈ Field.all)
    (hplain : ∀ l ∈ layers, (l.tree.lookup? f.part.name f.key).any isTable = false) :
    f.read ((Layer.merged layers).lookup? f.part.name f.key) =
      f.read (Layer.highest? layers f.part.name f.key) := by
  induction layers using List.reverseRecOn with
  | nil => exact read_lookup?_standard f hf
  | append_singleton rest l ih =>
    simp only [List.forall_mem_append, List.forall_mem_singleton] at hpaths hsectioned hplain
    have hpart : f.part.name ∈ Section.names := Field.part_mem_names f hf
    have hlaid := Layer.laid_layOn hpaths.2 (fun e he => hsectioned.2 e he _ hpart)
      (Layer.merged rest) f.key
    rw [Layer.merged_concat, Layer.highest?_concat, Layer.setting?,
      Field.eq_or_of_laid hlaid hplain.2]
    cases (l.tree.lookup? f.part.name f.key).filter fun v => !v.isVoid with
    | none => exact ih hpaths.1 hsectioned.1 hplain.1
    | some v => rfl

end Read

/-- **`c.IsSaidBy layers`** -- each field of the configuration is what the highest layer sets that sets
the field, and the default if no layer does. -/
def IsSaidBy (c : Configuration) (layers : List Layer) : Prop :=
  ∀ f ∈ Field.all, f.read (Layer.highest? layers f.part.name f.key) = some (f.get c)

/-- Layers say at most one configuration. -/
theorem IsSaidBy.unique {layers : List Layer} {c c' : Configuration} (h : c.IsSaidBy layers)
    (h' : c'.IsSaidBy layers) : c = c' :=
  Field.ext_all fun f hf => Option.some.inj ((h f hf).symm.trans (h' f hf))

section OfMerged

variable {layers : List Layer} (hpaths : ∀ l ∈ layers, ∀ e ∈ l, e.1 ≠ [])
  (hsectioned : ∀ l ∈ layers, l.IsSectioned)
include hpaths hsectioned

/-- What the layers together are taken for, field by field. -/
theorem ofSetting?_merged_eq_some_iff {c : Configuration} :
    ofSetting? lenient (Layer.merged layers) = some c ↔
      ∀ f ∈ Field.all,
        f.read ((Layer.merged layers).lookup? f.part.name f.key) = some (f.get c) := by
  have htree : (Layer.merged layers).isTable = true := by
    clear hsectioned
    induction layers using List.reverseRecOn with
    | nil => rfl
    | append_singleton rest l ih =>
      simp only [List.forall_mem_append, List.forall_mem_singleton] at hpaths
      rw [Layer.merged_concat]
      exact Layer.isTable_layOn hpaths.2 (ih hpaths.1)
  rw [Setting.eq_table_of_isTable htree, ofSetting?_eq_some_iff]
  refine forall₂_congr fun f hf => ?_
  rw [Field.within?, Field.found?_eq_lookup?
    (isTable_valueAt_merged hpaths hsectioned (Field.part_mem_names f hf))]
  rfl

theorem isSaidBy_of_merged {c : Configuration}
    (h : ofSetting? lenient (Layer.merged layers) = some c) : c.IsSaidBy layers := fun f hf =>
  read_highest? hpaths hsectioned hf ((ofSetting?_merged_eq_some_iff hpaths hsectioned).mp h f hf)

theorem ofSetting?_merged_iff_isSaidBy {c : Configuration}
    (hplain : ∀ f ∈ Field.all, ∀ l ∈ layers,
      (l.tree.lookup? f.part.name f.key).any isTable = false) :
    ofSetting? lenient (Layer.merged layers) = some c ↔ c.IsSaidBy layers := by
  rw [ofSetting?_merged_eq_some_iff hpaths hsectioned]
  refine forall₂_congr fun f hf => ?_
  rw [read_merged hpaths hsectioned hf (hplain f hf)]

end OfMerged

end Configuration

/-! ## Sources -/

namespace Sources

variable {s : Sources}

theorem layers_eq {user project personal explicit : Layer} (huser : Layer.ofFile? s.user = some user)
    (hproject : Layer.ofFile? s.project = some project)
    (hpersonal : Layer.ofFile? s.personal = some personal)
    (hexplicit : s.explicitLayer = .ok explicit) :
    s.layers = .ok [user, project, personal, explicit, .ofEnvironment s.environment] := by
  unfold layers
  rw [hexplicit]
  simp [huser, hproject, hpersonal]

theorem path_ne_nil_of_explicitLayer {explicit : Layer} (h : s.explicitLayer = .ok explicit) :
    ∀ e ∈ explicit, e.1 ≠ [] := by
  unfold explicitLayer at h
  split at h
  · cases h
    exact List.forall_mem_nil _
  · cases h
  · split at h
    · cases h
      rename_i text _ _ hl
      have hfile : Layer.ofFile? (some text) = some explicit := hl
      exact Layer.path_ne_nil_of_ofFile? hfile
    · cases h

theorem read_of_layers {layers : List Layer} (h : s.layers = .ok layers) :
    s.read =
      match Configuration.ofSetting? lenient (Layer.merged layers) with
      | some c => .ok c
      | none => .error .deserialize := by
  unfold read
  rw [h]
  rfl

theorem read_eq_ok_iff {layers : List Layer} (h : s.layers = .ok layers) {c : Configuration} :
    s.read = .ok c ↔ Configuration.ofSetting? lenient (Layer.merged layers) = some c := by
  rw [read_of_layers h]
  cases Configuration.ofSetting? lenient (Layer.merged layers) <;> simp

/-- Without files the environment is all there is to the defaults. -/
theorem read_of_environment {environment : Environment} {l : Layer}
    (h : Layer.ofEnvironment environment = l) (hsectioned : l.IsSectioned)
    (hplain : ∀ f ∈ Field.all, (l.tree.lookup? f.part.name f.key).any isTable = false)
    {c : Configuration} :
    (Sources.mk none none none none environment).read = .ok c ↔ c.IsSaidBy [[], [], [], [], l] := by
  have hlayers : (Sources.mk none none none none environment).layers = .ok [[], [], [], [], l] :=
    h ▸ layers_eq rfl rfl rfl rfl
  have hempty : ∀ f : Field, (Layer.tree []).lookup? f.part.name f.key = none := fun _ => rfl
  rw [read_eq_ok_iff hlayers, Configuration.ofSetting?_merged_iff_isSaidBy]
  case hpaths =>
    subst h
    simpa using fun path v hv => Layer.path_ne_nil_of_ofEnvironment environment (path, v) hv
  case hsectioned => simpa [Layer.IsSectioned] using hsectioned
  case hplain =>
    intro f hf
    simpa [hempty] using hplain f hf

theorem explicitLayer_ne_invalid (i : InvalidSetting) : s.explicitLayer ≠ .error (.invalid i) := by
  unfold explicitLayer
  split
  · nofun
  · nofun
  · split <;> nofun

theorem layers_ne_invalid (i : InvalidSetting) : s.layers ≠ .error (.invalid i) := by
  unfold layers
  cases hexplicit : s.explicitLayer with
  | ok explicit =>
    simp only [bind, Except.bind]
    cases [s.user, s.project, s.personal].mapM Layer.ofFile? <;> nofun
  | error e =>
    have he : e ≠ .invalid i := fun h => explicitLayer_ne_invalid i (h ▸ hexplicit)
    simpa [bind, Except.bind] using he

/-- Whether a run can honour what is read is not asked while it is read. -/
theorem read_ne_invalid (i : InvalidSetting) : s.read ≠ .error (.invalid i) := by
  cases hlayers : s.layers with
  | ok layers =>
    rw [read_of_layers hlayers]
    cases Configuration.ofSetting? lenient (Layer.merged layers) <;> simp
  | error e =>
    have hread : s.read = .error e := by
      unfold read
      rw [hlayers]
      rfl
    have he : e ≠ .invalid i := fun h => layers_ne_invalid i (h ▸ hlayers)
    simpa [hread] using he

theorem load_eq (directory : String) :
    s.load directory = s.read.bind fun merged =>
      merged.invalid?.elim (.ok (merged.resolvePaths directory)) fun i => .error (.invalid i) := by
  unfold load
  refine congrArg s.read.bind (funext fun merged => ?_)
  -- Where files are does not matter to what can be honoured.
  have hinvalid : (merged.resolvePaths directory).invalid? = merged.invalid? := rfl
  dsimp only
  rw [Configuration.validate, hinvalid]
  cases merged.invalid? <;> rfl

theorem load_eq_ok_iff {directory : String} {c : Configuration} :
    s.load directory = .ok c ↔
      ∃ merged, s.read = .ok merged ∧ merged.Valid ∧ c = merged.resolvePaths directory := by
  rw [load_eq]
  cases s.read with
  | error e => simp [Except.bind]
  | ok merged =>
    simp only [Except.bind, ← Configuration.invalid?_eq_none_iff]
    cases h : merged.invalid? <;> simp [h, eq_comm]

theorem load_eq_invalid_iff {directory : String} {i : InvalidSetting} :
    s.load directory = .error (.invalid i) ↔
      ∃ merged, s.read = .ok merged ∧ merged.invalid? = some i := by
  rw [load_eq]
  cases hread : s.read with
  | error e =>
    have he : e ≠ .invalid i := fun h => read_ne_invalid i (h ▸ hread)
    simp [Except.bind, he]
  | ok merged =>
    simp only [Except.bind]
    cases h : merged.invalid? <;> simp [h]

/-! ## Layered configurations -/

theorem load_unreadable {path : String} {e : FileError} (h : s.explicit = some (path, .error e))
    (directory : String) : s.load directory = .error (.unreadable path e) := by
  have hexplicit : s.explicitLayer = .error (.unreadable path e) := by
    unfold explicitLayer
    rw [h]
  unfold load read layers
  rw [hexplicit]
  rfl

/-- **The highest layer that sets a key wins.** The layers are, from the lowest to the highest, the file
of the user, the two files of the project, the explicit file and the environment. What is loaded is said
by them, key by key, and is valid, and its paths are taken from the directory of the project. Loading
complains about a setting exactly if what is read is not valid. An explicit file that cannot be read is
always an error. -/
theorem load_highest (s : Sources) (directory : String) :
    (∀ user project personal explicit layers, Layer.ofFile? s.user = some user →
      Layer.ofFile? s.project = some project → Layer.ofFile? s.personal = some personal →
      s.explicitLayer = .ok explicit →
      layers = [user, project, personal, explicit, .ofEnvironment s.environment] →
      (∀ l ∈ layers, l.IsSectioned) →
      (∀ c, s.load directory = .ok c → ∃ merged : Configuration,
        merged.IsSaidBy layers ∧ merged.Valid ∧ c = merged.resolvePaths directory) ∧
      ((∃ i, s.load directory = .error (.invalid i)) ↔ ∃ merged : Configuration,
        s.read = .ok merged ∧ merged.IsSaidBy layers ∧ ¬ merged.Valid) ∧
      -- Where no key is given a table, the layers can be read exactly if they say something.
      ((∀ f ∈ Field.all, ∀ l ∈ layers, (l.tree.lookup? f.part.name f.key).any isTable = false) →
        ∀ merged, s.read = .ok merged ↔ merged.IsSaidBy layers)) ∧
    (∀ path, Path.isAbsolute path = true → Path.join directory path = path) ∧
    (∀ path, Path.isAbsolute path = false → directory ≠ "" → directory.toList.getLast? ≠ some '/' →
      Path.join directory path = directory ++ "/" ++ path) ∧
    (∀ path e, s.explicit = some (path, .error e) →
      s.load directory = .error (.unreadable path e)) := by
  refine ⟨fun user project personal explicit layers huser hproject hpersonal hexplicit hstack
    hsectioned => ?_, fun path hpath => ?_, fun path hpath hdirectory hslash => ?_,
    fun path e h => load_unreadable h directory⟩
  · have hpaths : ∀ l ∈ layers, ∀ e ∈ l, e.1 ≠ [] := by
      simp only [hstack, List.forall_mem_cons]
      exact ⟨Layer.path_ne_nil_of_ofFile? huser, Layer.path_ne_nil_of_ofFile? hproject,
        Layer.path_ne_nil_of_ofFile? hpersonal, path_ne_nil_of_explicitLayer hexplicit,
        Layer.path_ne_nil_of_ofEnvironment _, List.forall_mem_nil _⟩
    have hlayers : s.layers = .ok layers :=
      hstack ▸ layers_eq huser hproject hpersonal hexplicit
    have hsaid : ∀ merged, s.read = .ok merged → merged.IsSaidBy layers := fun merged h =>
      Configuration.isSaidBy_of_merged hpaths hsectioned ((read_eq_ok_iff hlayers).mp h)
    refine ⟨fun c hc => ?_, ?_, fun hplain merged => ?_⟩
    · obtain ⟨merged, hread, hvalid, hresolved⟩ := load_eq_ok_iff.mp hc
      exact ⟨merged, hsaid merged hread, hvalid, hresolved⟩
    · constructor
      · rintro ⟨i, hi⟩
        obtain ⟨merged, hread, hinvalid⟩ := load_eq_invalid_iff.mp hi
        refine ⟨merged, hread, hsaid merged hread, fun hvalid => ?_⟩
        rw [Configuration.invalid?_eq_none_iff.mpr hvalid] at hinvalid
        cases hinvalid
      · rintro ⟨merged, hread, -, hvalid⟩
        cases hinvalid : merged.invalid? with
        | none => exact absurd (Configuration.invalid?_eq_none_iff.mp hinvalid) hvalid
        | some i => exact ⟨i, load_eq_invalid_iff.mpr ⟨merged, hread, hinvalid⟩⟩
    · rw [read_eq_ok_iff hlayers]
      exact Configuration.ofSetting?_merged_iff_isSaidBy hpaths hsectioned hplain
  · rw [Path.join, if_pos hpath]
  · simp [Path.join, hpath, hdirectory, hslash]

/-- Two files of a project that set different keys of one section, an explicit file and an environment. -/
def sample : Sources :=
  ⟨none, some "[run]\nworkers = 2\nchecks_per_worker = 5\nreport_dir = \"bugs\"\n",
    some "[run]\nworkers = 3\n", some ("extra.toml", .ok "[oracle]\nmodes = [\"distinct\"]\n"),
    [("TRV_RUN__SEED", "7")]⟩

/-- What the sample says. -/
def sampled : Configuration :=
  { Configuration.standard with
    oracle := { Check.Options.standard with modes := [.distinct] }
    run := ⟨some 7, 3, 5, 100, none, some "bugs"⟩ }

theorem isSaidBy_sampled :
    sampled.IsSaidBy
      [[], [(["run"], .table [("workers", .int 2), ("checks_per_worker", .int 5),
        ("report_dir", .text "bugs")])], [(["run"], .table [("workers", .int 3)])],
        [(["oracle"], .table [("modes", .list [.text "distinct"])])],
        [(["run", "seed"], .int 7)]] := by
  simp only [Configuration.IsSaidBy, Field.all, Field.oracle, Field.generator, Field.workload,
    Field.run, List.forall_mem_append, List.forall_mem_cons]
  and_intros
  all_goals first
    | exact List.forall_mem_nil _
    | refine (Field.read_some rfl).trans ?_
    | rfl
  all_goals
    simp only [sampled, Field.modes, Field.seed, Field.workers, Field.checksPerWorker,
      Field.reportDirectory, Field.size, Field.optionalSize, Field.optionalText]
    decide +kernel

theorem load_sample :
    ∃ c, sample.load "/project" = .ok c ∧ c.oracle.modes = [.distinct] ∧
      c.run = ⟨some 7, 3, 5, 100, none, some "/project/bugs"⟩ := by
  have hproject : Layer.ofFile? sample.project = some [(["run"], .table [("workers", .int 2),
      ("checks_per_worker", .int 5), ("report_dir", .text "bugs")])] := by decide +kernel
  have hpersonal : Layer.ofFile? sample.personal = some [(["run"], .table [("workers", .int 3)])] := by
    decide +kernel
  have hexplicit : sample.explicitLayer =
      .ok [(["oracle"], .table [("modes", .list [.text "distinct"])])] := by decide +kernel
  have henvironment : Layer.ofEnvironment sample.environment = [(["run", "seed"], .int 7)] := by decide +kernel
  obtain ⟨-, -, hread⟩ := (load_highest sample "/project").1 _ _ _ _ _ rfl hproject hpersonal
    hexplicit rfl (by rw [henvironment]; unfold Layer.IsSectioned; decide)
  rw [henvironment] at hread
  have hsampled : sample.read = .ok sampled := (hread (by decide +kernel) _).mpr isSaidBy_sampled
  have hvalid : sampled.Valid :=
    ⟨Configuration.valid_standard.probabilities, by decide, by decide, by decide⟩
  exact ⟨_, load_eq_ok_iff.mpr ⟨_, hsampled, hvalid, rfl⟩, rfl, by decide⟩

end Sources

end PredicateOracle
