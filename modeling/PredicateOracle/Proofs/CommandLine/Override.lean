import PredicateOracle.CommandLine.Program
import PredicateOracle.Proofs.Config.Layers
import PredicateOracle.Proofs.Setting.Congruence

/-!
# PredicateOracle.Proofs.CommandLine.Override -- options over layers

The options of the command line replace fields of the configuration that the layers come to. Layers
that differ in what they set for such fields only come to configurations that differ in these fields
only, and the options make them the same (`RunFlags.prepare_of_alike`). But the configuration of the
layers is validated before the options replace anything. So the layers by themselves must ask for a
worker and name a mode, also where the options do (`RunFlags.prepare_eq_ok_iff`); a value that a valid
configuration can have (`Field.Fits`) does.
-/

namespace PredicateOracle

open Setting (Tablewise Entrywise Exchanged Congruent isTable)
open Entries (find?)
open Conversion (lenient)

namespace Field

/-- A value that is taken for what the field is in some valid configuration. -/
def Fits (f : Field) (v : Setting) : Prop :=
  ∃ c : Configuration, c.Valid ∧ f.take? v = some (f.get c)

/-- The values that fit the fields that options can replace: those of the right type, but for no workers
and no modes. -/
theorem fits_iff (v : Setting) :
    (seed.Fits v ↔ ∃ a, seed.take? v = some a) ∧
    (workers.Fits v ↔ ∃ n : Nat, 0 < n ∧ workers.take? v = some n) ∧
    (checksPerWorker.Fits v ↔ ∃ a, checksPerWorker.take? v = some a) ∧
    (timeoutSeconds.Fits v ↔ ∃ a, timeoutSeconds.take? v = some a) ∧
    (reportDirectory.Fits v ↔ ∃ a, reportDirectory.take? v = some a) ∧
    (modes.Fits v ↔ ∃ ms : List Mode, ms ≠ [] ∧ modes.take? v = some ms) ∧
    (databasePath.Fits v ↔ ∃ a, databasePath.take? v = some a) := by
  have hstandard := Configuration.valid_standard
  have hrun : ∀ run : RunOptions, 0 < run.workers → { Configuration.standard with run }.Valid :=
    fun run hworkers => hstandard.scaled _ hworkers
  refine ⟨⟨?_, ?_⟩, ⟨?_, ?_⟩, ⟨?_, ?_⟩, ⟨?_, ?_⟩, ⟨?_, ?_⟩, ⟨?_, ?_⟩, ⟨?_, ?_⟩⟩
  · exact fun ⟨_, _, h⟩ => ⟨_, h⟩
  · exact fun ⟨a, h⟩ => ⟨_, hrun { RunOptions.standard with seed := a } Nat.one_pos, h⟩
  · exact fun ⟨_, hvalid, h⟩ => ⟨_, hvalid.workers, h⟩
  · exact fun ⟨n, hn, h⟩ => ⟨_, hrun { RunOptions.standard with workers := n } hn, h⟩
  · exact fun ⟨_, _, h⟩ => ⟨_, h⟩
  · exact fun ⟨a, h⟩ => ⟨_, hrun { RunOptions.standard with checksPerWorker := a } Nat.one_pos, h⟩
  · exact fun ⟨_, _, h⟩ => ⟨_, h⟩
  · exact fun ⟨a, h⟩ => ⟨_, hrun { RunOptions.standard with timeoutSeconds := a } Nat.one_pos, h⟩
  · exact fun ⟨_, _, h⟩ => ⟨_, h⟩
  · exact fun ⟨a, h⟩ => ⟨_, hrun { RunOptions.standard with reportDirectory := a } Nat.one_pos, h⟩
  · exact fun ⟨_, hvalid, h⟩ => ⟨_, hvalid.modes, h⟩
  · rintro ⟨ms, hms, h⟩
    exact ⟨{ Configuration.standard with oracle := { Check.Options.standard with modes := ms } },
      ⟨hstandard.probabilities, hstandard.predicates, hms, hstandard.workers⟩, h⟩
  · exact fun ⟨_, _, h⟩ => ⟨_, h⟩
  · exact fun ⟨a, h⟩ => ⟨{ Configuration.standard with databasePath := a },
      ⟨hstandard.probabilities, hstandard.predicates, hstandard.modes, hstandard.workers⟩, h⟩

end Field

namespace CommandLine

namespace RunFlags

variable (f : RunFlags)

/-- Whether an option is given for a key of a section. -/
def overrides (part key : String) : Bool :=
  match part, key with
  | "run", "seed" => f.seed.isSome
  | "run", "workers" => f.workers.isSome
  | "run", "checks_per_worker" => f.checks.isSome
  | "run", "timeout_secs" => f.timeoutSeconds.isSome
  | "run", "report_dir" => f.reportDirectory.isSome
  | "oracle", "modes" => !f.modes.isEmpty
  | "database", "path" => f.database.isSome
  | _, _ => false

/-- A value for a key for which an option is given. -/
def Exchangeable (part key : String) (v : Setting) : Prop :=
  f.overrides part key = true ∧ ∃ field ∈ Field.all, field.part.name = part ∧ field.key = key ∧
    field.Fits v

/-- **`f.AlikeAt path v v'`** -- two values under a path differ, if at all, in what they set for keys
for which options are given. -/
def AlikeAt : List String → Setting → Setting → Prop
  | [] => Tablewise fun part => Tablewise fun key => Exchanged (f.Exchangeable part key)
  | [part] => Tablewise fun key => Exchanged (f.Exchangeable part key)
  | [part, key] => Exchanged (f.Exchangeable part key)
  | _ => Eq

/-- Layers that differ, if at all, in what they set for keys for which options are given. -/
def Alike : Layer → Layer → Prop := List.Forall₂ fun e e' => e.1 = e'.1 ∧ f.AlikeAt e.1 e.2 e'.2

variable {f}

theorem Exchangeable.not_isTable {part key : String} {v : Setting}
    (h : f.Exchangeable part key v) : v.isTable = false := by
  obtain ⟨hoverrides, field, hfield, rfl, rfl, c, -, hv⟩ := h
  cases htable : v.isTable with
  | false => rfl
  | true =>
    rw [Setting.eq_table_of_isTable htable] at hv
    obtain rfl | hnone := Field.eq_leafSelection_or field hfield
    · cases hoverrides
    · rw [hnone] at hv
      cases hv

theorem congruent_key (part key : String) : Congruent (Exchanged (f.Exchangeable part key)) :=
  .exchanged fun _ => Exchangeable.not_isTable

theorem congruent_part (part : String) :
    Congruent (Tablewise fun key => Exchanged (f.Exchangeable part key)) :=
  .tablewise (congruent_key part)

/-- One setting more of each layer keeps trees alike. -/
theorem AlikeAt.assign {t t' v v' : Setting} (ht : f.AlikeAt [] t t') {path : List String}
    (hv : f.AlikeAt path v v') :
    f.AlikeAt [] (Setting.assign v path t) (Setting.assign v' path t') := by
  match path, hv with
  | [], hv => exact (Congruent.tablewise congruent_part).overlay ht hv
  | [part], hv =>
    exact Tablewise.assign congruent_part ht fun hu => (congruent_part part).overlay hu hv
  | [part, key], hv =>
    exact Tablewise.assign congruent_part ht fun hu =>
      Tablewise.assign (congruent_key part) hu fun hw => (congruent_key part key).overlay hw hv
  | part :: key :: below :: rest, hv =>
    obtain rfl : v = v' := hv
    exact Tablewise.assign congruent_part ht fun hu =>
      Tablewise.assign (congruent_key part) hu fun hw =>
        hw.assign (fun _ => Exchangeable.not_isTable) _ _

theorem Alike.layOn {l l' : Layer} (hl : f.Alike l l') {t t' : Setting} (ht : f.AlikeAt [] t t') :
    f.AlikeAt [] (Layer.layOn t l) (Layer.layOn t' l') := by
  unfold Layer.layOn
  induction hl generalizing t t' with
  | nil => exact ht
  | @cons e e' rest rest' he hrest ih =>
    obtain ⟨path, v⟩ := e
    obtain ⟨path', v'⟩ := e'
    obtain ⟨rfl, hv⟩ := he
    exact ih (ht.assign hv)

theorem Alike.foldl {layers layers' : List Layer} (h : List.Forall₂ f.Alike layers layers')
    {t t' : Setting} (ht : f.AlikeAt [] t t') :
    f.AlikeAt [] (layers.foldl Layer.layOn t) (layers'.foldl Layer.layOn t') := by
  induction h generalizing t t' with
  | nil => exact ht
  | cons hl hrest ih => exact ih (hl.layOn ht)

/-- Any number of layers that are alike come to trees that are alike. -/
theorem Alike.merged {layers layers' : List Layer} (h : List.Forall₂ f.Alike layers layers') :
    f.AlikeAt [] (Layer.merged layers) (Layer.merged layers') := Alike.foldl h (.inl rfl)

/-! ## Fields of trees that are alike -/

/-- What is found under the key of a field is the same, or may be exchanged. -/
theorem AlikeAt.found? {es es' : Entries Setting} (h : f.AlikeAt [] (.table es) (.table es'))
    (field : Field) :
    field.found? es = field.found? es' ∨ ∃ v v', field.found? es = some (some v) ∧
      field.found? es' = some (some v') ∧ f.Exchangeable field.part.name field.key v ∧
      f.Exchangeable field.part.name field.key v' := by
  have hparts : Entrywise _ es es' := Tablewise.entries congruent_part h
  have hpart := hparts.find? field.part.name
  unfold Field.found?
  generalize find? field.part.name es = s, find? field.part.name es' = s' at hpart ⊢
  cases hpart with
  | none => exact .inl rfl
  | @some s s' hs =>
    obtain rfl | ⟨ks, ks', rfl, rfl, hks⟩ := hs
    · exact .inl rfl
    · have hkey := hks.find? field.key
      change some (find? field.key ks) = some (find? field.key ks') ∨ _
      change _ ∨ ∃ v v', some (find? field.key ks) = _ ∧ some (find? field.key ks') = _ ∧ _
      generalize find? field.key ks = v, find? field.key ks' = v' at hkey ⊢
      cases hkey with
      | none => exact .inl rfl
      | @some v v' hv =>
        obtain rfl | ⟨hv, hv'⟩ := hv
        · exact .inl rfl
        · exact .inr ⟨v, v', rfl, rfl, hv, hv'⟩

theorem Exchangeable.fits {field : Field} (hfield : field ∈ Field.all) {v : Setting}
    (h : f.Exchangeable field.part.name field.key v) : field.Fits v := by
  obtain ⟨-, other, hother, hpart, hkey, hfits⟩ := h
  obtain rfl := Field.eq_of_place hother hfield hpart hkey
  exact hfits

/-- **`f.Agree c c'`** -- two configurations differ at most in fields that options replace, and what they
have there some valid configuration has. -/
def Agree (f : RunFlags) (c c' : Configuration) : Prop :=
  ∀ field ∈ Field.all, field.get c = field.get c' ∨
    (f.overrides field.part.name field.key = true ∧
      (∃ d : Configuration, d.Valid ∧ field.get c = field.get d) ∧
      ∃ d : Configuration, d.Valid ∧ field.get c' = field.get d)

theorem AlikeAt.within? {es es' : Entries Setting} (h : f.AlikeAt [] (.table es) (.table es'))
    {field : Field} (hfield : field ∈ Field.all) :
    field.within? es = field.within? es' ∨
      (f.overrides field.part.name field.key = true ∧
        (∃ d : Configuration, d.Valid ∧ field.within? es = some (field.get d)) ∧
        ∃ d : Configuration, d.Valid ∧ field.within? es' = some (field.get d)) := by
  unfold Field.within?
  obtain hsame | ⟨v, v', hv, hv', hexchange, hexchange'⟩ := h.found? field
  · exact .inl (by rw [hsame])
  · rw [hv, hv']
    exact .inr ⟨hexchange.1, hexchange.fits hfield, hexchange'.fits hfield⟩

theorem AlikeAt.exists_within?_iff {es es' : Entries Setting}
    (h : f.AlikeAt [] (.table es) (.table es')) {field : Field} (hfield : field ∈ Field.all) :
    (∃ a, field.within? es = some a) ↔ ∃ a, field.within? es' = some a := by
  obtain hsame | ⟨-, ⟨d, -, hd⟩, ⟨d', -, hd'⟩⟩ := h.within? hfield
  · rw [hsame]
  · exact ⟨fun _ => ⟨_, hd'⟩, fun _ => ⟨_, hd⟩⟩

theorem AlikeAt.agree {es es' : Entries Setting} (h : f.AlikeAt [] (.table es) (.table es'))
    {c c' : Configuration} (hc : ∀ field ∈ Field.all, field.within? es = some (field.get c))
    (hc' : ∀ field ∈ Field.all, field.within? es' = some (field.get c')) : f.Agree c c' := by
  intro field hfield
  obtain hsame | ⟨hoverrides, ⟨d, hvalid, hd⟩, ⟨d', hvalid', hd'⟩⟩ := h.within? hfield
  · left
    have hget := (hc field hfield).symm.trans (hsame.trans (hc' field hfield))
    exact Option.some.inj hget
  · right
    exact ⟨hoverrides, ⟨d, hvalid, Option.some.inj ((hc field hfield).symm.trans hd)⟩,
      ⟨d', hvalid', Option.some.inj ((hc' field hfield).symm.trans hd')⟩⟩

/-- Trees that are alike are both taken for configurations, which agree, or neither is. -/
theorem AlikeAt.ofSetting? {t t' : Setting} (h : f.AlikeAt [] t t') :
    Option.Rel f.Agree (Configuration.ofSetting? lenient t) (Configuration.ofSetting? lenient t') := by
  obtain rfl | ⟨es, es', rfl, rfl, hes⟩ := id h
  · cases Configuration.ofSetting? lenient t with
    | none => exact .none
    | some c => exact .some fun _ _ => .inl rfl
  · have hiff : (∃ c, Configuration.ofSetting? lenient (.table es) = some c) ↔
        ∃ c, Configuration.ofSetting? lenient (.table es') = some c := by
      simp only [Configuration.ofSetting?_eq_some_iff]
      constructor
      · rintro ⟨c, hc⟩
        exact Field.exists_configuration (P := fun field a => field.within? es' = some a)
          fun field hfield => (h.exists_within?_iff hfield).mp ⟨_, hc field hfield⟩
      · rintro ⟨c, hc⟩
        exact Field.exists_configuration (P := fun field a => field.within? es = some a)
          fun field hfield => (h.exists_within?_iff hfield).mpr ⟨_, hc field hfield⟩
    cases hc : Configuration.ofSetting? lenient (.table es) with
    | none =>
      cases hc' : Configuration.ofSetting? lenient (.table es') with
      | none => exact .none
      | some c' =>
        obtain ⟨c, hsome⟩ := hiff.mpr ⟨c', hc'⟩
        rw [hc] at hsome
        cases hsome
    | some c =>
      obtain ⟨c', hc'⟩ := hiff.mp ⟨c, hc⟩
      rw [hc']
      exact .some (h.agree ((Configuration.ofSetting?_eq_some_iff es).mp hc)
        ((Configuration.ofSetting?_eq_some_iff es').mp hc'))

/-! ## Options laid over configurations that agree -/

variable {c c' : Configuration}

theorem get_resolvePaths_congr (directory : String) : ∀ field ∈ Field.all,
    field.get c = field.get c' →
      field.get (c.resolvePaths directory) = field.get (c'.resolvePaths directory) := by
  simp only [Field.all, Field.oracle, Field.generator, Field.workload, Field.run,
    List.forall_mem_append, List.forall_mem_cons]
  and_intros
  all_goals first
    | exact List.forall_mem_nil _
    | exact id
    | exact congrArg (Option.map (Path.join directory))

theorem or_congr {α : Type} {o x y : Option α} (h : x = y ∨ o.isSome = true) : o.or x = o.or y := by
  cases o with
  | none => simpa using h
  | some a => rfl

theorem getD_congr {α : Type} {o : Option α} {x y : α} (h : x = y ∨ o.isSome = true) :
    o.getD x = o.getD y := by
  cases o with
  | none => simpa using h
  | some a => rfl

theorem modes_congr {ms x y : List Mode} (h : x = y ∨ (!ms.isEmpty) = true) :
    (if ms.isEmpty then x else ms) = if ms.isEmpty then y else ms := by
  cases ms with
  | nil => simpa using h
  | cons m rest => rfl

/-- What options make of a field depends on nothing but the field, and not on that where an option
replaces it. -/
theorem get_apply_congr : ∀ field ∈ Field.all,
    (field.get c = field.get c' ∨ f.overrides field.part.name field.key = true) →
      field.get (f.apply c) = field.get (f.apply c') := by
  simp only [Field.all, Field.oracle, Field.generator, Field.workload, Field.run,
    List.forall_mem_append, List.forall_mem_cons]
  and_intros
  all_goals first
    | exact List.forall_mem_nil _
    | exact or_congr
    | exact getD_congr
    | exact modes_congr
    | exact fun h => h.resolve_right Bool.false_ne_true

theorem Agree.apply_eq (h : f.Agree c c') : f.apply c = f.apply c' :=
  Field.ext_all fun field hfield => get_apply_congr field hfield ((h field hfield).imp_right (·.1))

theorem Agree.apply_resolvePaths_eq (h : f.Agree c c') (directory : String) :
    f.apply (c.resolvePaths directory) = f.apply (c'.resolvePaths directory) := by
  refine Field.ext_all fun field hfield => get_apply_congr field hfield ?_
  obtain hsame | ⟨hoverrides, -⟩ := h field hfield
  · exact .inl (get_resolvePaths_congr directory field hfield hsame)
  · exact .inr hoverrides

theorem Agree.isEmpty_modes (h : f.Agree c c') : c.oracle.modes.isEmpty = c'.oracle.modes.isEmpty := by
  have hmem : Field.modes ∈ Field.all := by simp [Field.all, Field.oracle]
  obtain hsame | ⟨-, ⟨d, hvalid, hd⟩, ⟨d', hvalid', hd'⟩⟩ := h Field.modes hmem
  · exact congrArg List.isEmpty hsame
  · have hmodes : c.oracle.modes = d.oracle.modes := hd
    have hmodes' : c'.oracle.modes = d'.oracle.modes := hd'
    rw [hmodes, hmodes', List.isEmpty_eq_false_iff.mpr hvalid.modes,
      List.isEmpty_eq_false_iff.mpr hvalid'.modes]

theorem Agree.workers_eq_zero_iff (h : f.Agree c c') : c.run.workers = 0 ↔ c'.run.workers = 0 := by
  have hmem : Field.workers ∈ Field.all := by simp [Field.all, Field.run]
  obtain hsame | ⟨-, ⟨d, hvalid, hd⟩, ⟨d', hvalid', hd'⟩⟩ := h Field.workers hmem
  · have hworkers : c.run.workers = c'.run.workers := hsame
    rw [hworkers]
  · have hworkers : c.run.workers = d.run.workers := hd
    have hworkers' : c'.run.workers = d'.run.workers := hd'
    rw [hworkers, hworkers']
    exact iff_of_false (Nat.ne_of_gt hvalid.workers) (Nat.ne_of_gt hvalid'.workers)

/-- Configurations that agree are complained about in the same way. -/
theorem Agree.invalid?_eq (h : f.Agree c c') : c.invalid? = c'.invalid? := by
  -- Options replace neither a probability nor the number of predicates.
  have hprobabilities : (f.apply c).probabilities = (f.apply c').probabilities :=
    congrArg Configuration.probabilities h.apply_eq
  have hpredicates : (f.apply c).oracle.predicates = (f.apply c').oracle.predicates :=
    congrArg (·.oracle.predicates) h.apply_eq
  change c.probabilities = c'.probabilities at hprobabilities
  change c.oracle.predicates = c'.oracle.predicates at hpredicates
  unfold Configuration.invalid?
  simp only [hprobabilities, hpredicates, h.isEmpty_modes, h.workers_eq_zero_iff]

/-! ## Preparing a run -/

/-- The configuration that the layers come to is validated, and then what the options make of it. -/
theorem prepare_eq (s : Sources) (directory : String) :
    f.prepare s directory =
      ((s.load directory).mapError loadCauses).bind fun c =>
        (f.apply c).invalid?.elim (.ok (f.apply c)) fun i => .error [i.complaint] := by
  unfold prepare loadConfig
  cases s.load directory with
  | error e => rfl
  | ok c =>
    simp only [Except.mapError, Except.bind, bind, Configuration.validate]
    cases (f.apply c).invalid? <;> rfl

theorem prepare_eq_ok_iff_load {s : Sources} {directory : String} :
    f.prepare s directory = .ok c ↔
      ∃ loaded, s.load directory = .ok loaded ∧ c = f.apply loaded ∧ c.Valid := by
  rw [prepare_eq]
  cases s.load directory with
  | error e => simp [Except.mapError, Except.bind]
  | ok loaded =>
    simp only [Except.mapError, Except.bind, Except.ok.injEq, exists_eq_left']
    cases hinvalid : (f.apply loaded).invalid? with
    | none =>
      have hvalid : (f.apply loaded).Valid := Configuration.invalid?_eq_none_iff.mp hinvalid
      constructor
      · rintro ⟨⟩
        exact ⟨rfl, hvalid⟩
      · rintro ⟨rfl, -⟩
        rfl
    | some i =>
      refine ⟨nofun, ?_⟩
      rintro ⟨rfl, hvalid⟩
      rw [Configuration.invalid?_eq_none_iff.mpr hvalid] at hinvalid
      cases hinvalid

/-- **A run is prepared** exactly if the configuration is valid that the options make of the layers, and
the layers by themselves ask for a worker and name a mode. -/
theorem prepare_eq_ok_iff {s : Sources} {directory : String} :
    f.prepare s directory = .ok c ↔ ∃ merged, s.read = .ok merged ∧ 0 < merged.run.workers ∧
      merged.oracle.modes ≠ [] ∧ c = f.apply (merged.resolvePaths directory) ∧ c.Valid := by
  simp only [prepare_eq_ok_iff_load, Sources.load_eq_ok_iff]
  constructor
  · rintro ⟨_, ⟨merged, hread, hmerged, rfl⟩, rfl, hvalid⟩
    exact ⟨merged, hread, hmerged.workers, hmerged.modes, rfl, hvalid⟩
  · rintro ⟨merged, hread, hworkers, hmodes, rfl, hvalid⟩
    -- Of what is validated, options replace the workers and the modes only.
    have hmerged : merged.Valid := ⟨hvalid.probabilities, hvalid.predicates, hmodes, hworkers⟩
    exact ⟨_, ⟨merged, hread, hmerged, rfl⟩, rfl, hvalid⟩

theorem prepare_of_alike {s s' : Sources} {layers layers' : List Layer} (hs : s.layers = .ok layers)
    (hs' : s'.layers = .ok layers') (h : List.Forall₂ f.Alike layers layers') (directory : String) :
    f.prepare s directory = f.prepare s' directory := by
  have hagree := (Alike.merged h).ofSetting?
  rw [prepare_eq, prepare_eq, Sources.load_eq, Sources.load_eq, Sources.read_of_layers hs,
    Sources.read_of_layers hs']
  generalize Configuration.ofSetting? lenient (Layer.merged layers) = c,
    Configuration.ofSetting? lenient (Layer.merged layers') = c' at hagree ⊢
  cases hagree with
  | none => rfl
  | @some c c' hcc' =>
    simp only [Except.bind, hcc'.invalid?_eq]
    cases c'.invalid? with
    | some i => rfl
    | none =>
      simp only [Except.mapError, Option.elim_none, hcc'.apply_resolvePaths_eq]

/-- **Options over layers.** A run is prepared exactly if the configuration is valid that the options make
of the layers, and the layers by themselves ask for a worker and name a mode. What is done depends on this
configuration only. Layers that differ in fitting values for keys that options replace make no
difference, neither to whether the run is prepared nor to anything it does. -/
theorem prepare_over_layers (f : RunFlags) (s : Sources) (directory : String) :
    (∀ c, f.prepare s directory = .ok c ↔ ∃ merged, s.read = .ok merged ∧ 0 < merged.run.workers ∧
      merged.oracle.modes ≠ [] ∧ c = f.apply (merged.resolvePaths directory) ∧ c.Valid) ∧
    (∀ (f' : RunFlags) (s' : Sources) (c : Configuration), f.prepare s directory = .ok c →
      f'.prepare s' directory = .ok c →
      ∀ {σ : Type} (plain : Bool) (around : Surroundings σ) (elapsed : String),
        around.directory = directory →
        runCommand plain f s around elapsed = runCommand plain f' s' around elapsed) ∧
    ∀ (s' : Sources) (layers layers' : List Layer), s.layers = .ok layers →
      s'.layers = .ok layers' → List.Forall₂ f.Alike layers layers' →
      f.prepare s directory = f.prepare s' directory ∧
      ∀ {σ : Type} (plain : Bool) (around : Surroundings σ) (elapsed : String),
        around.directory = directory →
        runCommand plain f s around elapsed = runCommand plain f s' around elapsed := by
  have hrun : ∀ (f' : RunFlags) (s' : Sources), f.prepare s directory = f'.prepare s' directory →
      ∀ {σ : Type} (plain : Bool) (around : Surroundings σ) (elapsed : String),
        around.directory = directory →
        runCommand plain f s around elapsed = runCommand plain f' s' around elapsed := by
    intro f' s' h σ plain around elapsed hdirectory
    unfold runCommand
    rw [hdirectory, h]
  refine ⟨fun c => prepare_eq_ok_iff, fun f' s' c hc hc' => hrun f' s' (hc.trans hc'.symm),
    fun s' layers layers' hs hs' h => ?_⟩
  have hprepare := prepare_of_alike hs hs' h directory
  exact ⟨hprepare, hrun f s' hprepare⟩

end RunFlags

/-! ## An environment that asks for workers -/

/-- No files, and an environment that asks for so many workers. -/
def asking (workers : String) : Sources := ⟨none, none, none, none, [("TRV_RUN__WORKERS", workers)]⟩

/-- The defaults with so many workers. -/
def crew (n : Nat) : Configuration :=
  { Configuration.standard with run := { RunOptions.standard with workers := n } }

section Asking

variable {text : String} {n : Nat}
  (h : Layer.ofEnvironment (asking text).environment = [(["run", "workers"], .int n)])
include h

theorem layers_asking :
    (asking text).layers = .ok [[], [], [], [], [(["run", "workers"], .int n)]] :=
  h ▸ Sources.layers_eq rfl rfl rfl rfl

theorem read_asking (hn : n < 2 ^ (64 : Nat)) : (asking text).read = .ok (crew n) := by
  refine (Sources.read_of_environment h (by simp [Layer.IsSectioned]) fun field _ => ?_).mpr ?_
  · rw [Layer.lookup?_tree_single rfl]
    split <;> rfl
  simp only [Configuration.IsSaidBy, Field.all, Field.oracle, Field.generator, Field.workload,
    Field.run, List.forall_mem_append, List.forall_mem_cons]
  and_intros
  all_goals first
    | exact List.forall_mem_nil _
    | refine (Field.read_some rfl).trans ?_
    | rfl
  exact Configuration.take?_size Field.runPart "workers" (·.run.workers) (crew n) hn

end Asking

/-- One option, for so many workers. -/
def workersOption (n : Nat) : RunFlags := { RunFlags.none with workers := some n }

theorem apply_crew (n m : Nat) (directory : String) :
    (workersOption n).apply ((crew m).resolvePaths directory) = crew n := rfl

theorem valid_crew {n : Nat} (hn : 0 < n) : (crew n).Valid := Configuration.valid_standard.scaled _ hn

/-- With an option for two workers it does not matter for how many the environment asks. -/
theorem prepare_over_layers_asking :
    (workersOption 2).prepare (asking "3") "/project" = .ok (crew 2) ∧
    (workersOption 2).prepare (asking "3") "/project" =
      (workersOption 2).prepare (asking "5") "/project" := by
  have hthree : Layer.ofEnvironment (asking "3").environment =
      [(["run", "workers"], .int (3 : Nat))] := by decide +kernel
  have hfive : Layer.ofEnvironment (asking "5").environment =
      [(["run", "workers"], .int (5 : Nat))] := by decide +kernel
  obtain ⟨hstarts, -, hsame⟩ :=
    RunFlags.prepare_over_layers (workersOption 2) (asking "3") "/project"
  refine ⟨(hstarts _).mpr ⟨_, read_asking hthree (by decide), by decide, by decide,
    (apply_crew 2 3 _).symm, valid_crew (by decide)⟩, ?_⟩
  refine (hsame _ _ _ (layers_asking hthree) (layers_asking hfive) ?_).1
  have hmem : Field.workers ∈ Field.all := by simp [Field.all, Field.run]
  have hfits : Field.workers.Fits (.int (3 : Nat)) ∧ Field.workers.Fits (.int (5 : Nat)) :=
    ⟨(Field.fits_iff _).2.1.mpr ⟨3, by decide, rfl⟩,
      (Field.fits_iff _).2.1.mpr ⟨5, by decide, rfl⟩⟩
  have hexchanged : (workersOption 2).AlikeAt ["run", "workers"] (.int (3 : Nat)) (.int (5 : Nat)) :=
    .inr ⟨⟨rfl, Field.workers, hmem, rfl, rfl, hfits.1⟩,
      ⟨rfl, Field.workers, hmem, rfl, rfl, hfits.2⟩⟩
  exact .cons .nil (.cons .nil (.cons .nil (.cons .nil
    (.cons (.cons ⟨rfl, hexchanged⟩ .nil) .nil))))

/-- **An option comes too late for what the layers say**: with an option for one worker the
configuration is valid, but if the environment asks for none the run does not start, and if it asks for
three the run does. -/
theorem option_refused :
    (∃ merged, (asking "0").read = .ok merged ∧
      ((workersOption 1).apply (merged.resolvePaths "/project")).Valid) ∧
    (workersOption 1).prepare (asking "0") "/project" = .error ["Failed to load configuration",
      "Invalid configuration: run.workers must be at least 1"] ∧
    (workersOption 1).prepare (asking "3") "/project" = .ok (crew 1) := by
  have hzero : Layer.ofEnvironment (asking "0").environment =
      [(["run", "workers"], .int (0 : Nat))] := by decide +kernel
  have hthree : Layer.ofEnvironment (asking "3").environment =
      [(["run", "workers"], .int (3 : Nat))] := by decide +kernel
  have hread := read_asking hzero (by decide)
  refine ⟨⟨_, hread, valid_crew Nat.one_pos⟩, ?_, ?_⟩
  · have hinvalid : (crew 0).invalid? = some .noWorkers :=
      Configuration.valid_standard.invalid?_noWorkers rfl
    rw [RunFlags.prepare_eq, Sources.load_eq, hread]
    simp only [Except.bind, hinvalid]
    rfl
  · exact RunFlags.prepare_eq_ok_iff.mpr ⟨_, read_asking hthree (by decide), by decide, by decide,
      (apply_crew 1 3 _).symm, valid_crew Nat.one_pos⟩

end CommandLine
end PredicateOracle
