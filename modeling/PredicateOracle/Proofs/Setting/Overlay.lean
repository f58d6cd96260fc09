import PredicateOracle.Setting.Basic
import Mathlib.Data.List.Nodup

/-!
# PredicateOracle.Proofs.Setting.Overlay -- what settings laid over a value come to

A value of a configuration stands under a key of a section (`Setting.lookup?`). Settings that are laid
over a tree change it there or not at all. `Laid x own x'` relates a value before (`x`) and after (`x'`)
to what the same settings come to by themselves (`own`): what is not said is kept, what is no table takes
the place of what was there, and a table keeps its keys and may get more. The relation is kept by every
setting that follows, so it holds of any number of them.
-/

namespace PredicateOracle

/-! ## Keys of entries -/

namespace Entries

variable {α : Type}

/-- The keys of entries, in their order. -/
def keys (es : Entries α) : List String := es.map (·.1)

theorem find?_put (key other : String) (value : α) (es : Entries α) :
    find? other (put key value es) = if other = key then some value else find? other es := by
  by_cases h : other = key
  · rw [if_pos h, h, find?_put_self]
  · rw [if_neg h, find?_put_of_ne h]

theorem mem_keys_put {key other : String} {value : α} {es : Entries α} :
    other ∈ keys (put key value es) ↔ other = key ∨ other ∈ keys es := by
  induction es with
  | nil => simp [keys, put]
  | cons e rest ih =>
    rw [put]
    by_cases h : e.1 = key
    · rw [if_pos h]
      simp [keys, h]
    · rw [if_neg h]
      simp only [keys, List.map_cons, List.mem_cons] at ih ⊢
      rw [ih]
      exact or_left_comm

theorem nodup_keys_put {key : String} {value : α} {es : Entries α} (h : (keys es).Nodup) :
    (keys (put key value es)).Nodup := by
  induction es with
  | nil => simp [keys, put]
  | cons e rest ih =>
    obtain ⟨hnew, hrest⟩ := List.nodup_cons.mp h
    rw [put]
    by_cases hkey : e.1 = key
    · rw [if_pos hkey]
      exact List.nodup_cons.mpr ⟨hkey ▸ hnew, hrest⟩
    · rw [if_neg hkey]
      refine List.nodup_cons.mpr ⟨fun hmem => ?_, ih hrest⟩
      exact (mem_keys_put.mp hmem).elim hkey hnew

theorem find?_eq_none {key : String} {es : Entries α} (h : key ∉ keys es) : find? key es = none := by
  induction es with
  | nil => rfl
  | cons e rest ih =>
    simp only [keys, List.map_cons, List.mem_cons, not_or] at h ih
    rw [find?, if_neg (Ne.symm h.1), ih h.2]

theorem put_ne_nil {key : String} {value : α} {es : Entries α} : put key value es ≠ [] := by
  intro h
  have hmem : key ∈ keys (put key value es) := mem_keys_put.mpr (.inl rfl)
  rw [h] at hmem
  cases hmem

end Entries

namespace Setting

open Entries

/-! ## Tables -/

/-- Whether a value is a table. -/
def isTable : Setting → Bool
  | .table _ => true
  | _ => false

theorem eq_table_of_isTable {v : Setting} (h : v.isTable = true) : v = .table v.entries := by
  cases v with
  | table es => rfl
  | _ => cases h

theorem entries_eq_nil_of_not_isTable {v : Setting} (h : v.isTable = false) : v.entries = [] := by
  cases v with
  | table es => cases h
  | _ => rfl

/-- What is no table takes the place of what was there. -/
theorem overlay_of_not_isTable (old : Setting) {v : Setting} (h : v.isTable = false) :
    overlay old v = v := by
  cases v with
  | table es => cases h
  | _ => rfl

theorem overlay_table (old : Setting) (es : Entries Setting) :
    overlay old (.table es) = .table (overlayEntries old.entries es) := rfl

theorem mem_keys_overlayEntries {old new : Entries Setting} {key : String} :
    key ∈ keys (overlayEntries old new) ↔ key ∈ keys old ∨ key ∈ keys new := by
  induction new generalizing old with
  | nil => simp [overlayEntries, keys]
  | cons e rest ih =>
    rw [overlayEntries, ih, mem_keys_put]
    simp only [keys, List.map_cons, List.mem_cons]
    exact or_assoc.trans or_left_comm

theorem nodup_keys_overlayEntries {old new : Entries Setting} (h : (keys old).Nodup) :
    (keys (overlayEntries old new)).Nodup := by
  induction new generalizing old with
  | nil => exact h
  | cons e rest ih =>
    rw [overlayEntries]
    exact ih (nodup_keys_put h)

/-! ## Laying settings over a value -/

/-- **`Laid x own x'`** -- of the value `x`, if there was one, has become `x'` by settings that by
themselves come to `own`. -/
inductive Laid (x : Option Setting) : Option Setting → Option Setting → Prop
  /-- Nothing is said. -/
  | kept : Laid x none x
  /-- Something that is no table takes the place of the value. -/
  | replaced {v : Setting} (hv : v.isTable = false) : Laid x (some v) (some v)
  /-- A table is laid over the value key by key. One without keys makes an empty table of what is no
  table, and changes no table. -/
  | merged {own es : Entries Setting} (hnodup : (keys own).Nodup) (hkeys : keys own ⊆ keys es)
    (hnone : own = [] → es = [] ∨ x = some (.table es)) :
    Laid x (some (.table own)) (some (.table es))

/-- What is known of the entries, whatever has been laid so far. -/
theorem Laid.entries {x own x' : Option Setting} (h : Laid x own x') :
    (keys (own.getD .null).entries).Nodup ∧
      keys (own.getD .null).entries ⊆ keys (x'.getD .null).entries ∧
      ((own.getD .null).entries = [] → (x'.getD .null).entries = [] ∨
        x = some (.table (x'.getD .null).entries)) := by
  cases h with
  | kept =>
    refine ⟨List.nodup_nil, List.nil_subset _, fun _ => ?_⟩
    cases x with
    | none => exact .inl rfl
    | some v =>
      cases hv : v.isTable with
      | false => exact .inl (entries_eq_nil_of_not_isTable hv)
      | true => exact .inr (congrArg some (eq_table_of_isTable hv))
  | replaced hv =>
    simp only [Option.getD_some, entries_eq_nil_of_not_isTable hv]
    exact ⟨List.nodup_nil, List.nil_subset _, fun _ => .inl trivial⟩
  | merged hnodup hkeys hnone => exact ⟨hnodup, hkeys, hnone⟩

/-- **One setting more keeps the relation**, also one for a path that goes on below the value. -/
theorem Laid.assign {x own x' : Option Setting} (h : Laid x own x') (v : Setting)
    (path : List String) :
    Laid x (some (Setting.assign v path (own.getD .null)))
      (some (Setting.assign v path (x'.getD .null))) := by
  obtain ⟨hnodup, hkeys, hnone⟩ := h.entries
  cases path with
  | nil =>
    cases hv : v.isTable with
    | false =>
      rw [Setting.assign, Setting.assign, overlay_of_not_isTable _ hv, overlay_of_not_isTable _ hv]
      exact .replaced hv
    | true =>
      rw [eq_table_of_isTable hv, Setting.assign, Setting.assign, overlay_table, overlay_table]
      refine .merged (nodup_keys_overlayEntries hnodup) (fun key hkey => ?_) fun hempty => ?_
      · rw [mem_keys_overlayEntries] at hkey ⊢
        exact hkey.imp_left (hkeys ·)
      · -- Laid over nothing and still empty: there was nothing to lay.
        have hno : ∀ key, key ∉ keys (overlayEntries (own.getD .null).entries v.entries) := by
          rw [hempty]
          exact fun _ => List.not_mem_nil
        have hown : (own.getD .null).entries = [] := by
          refine List.eq_nil_iff_forall_not_mem.mpr fun e he => hno e.1 ?_
          exact mem_keys_overlayEntries.mpr (.inl (List.mem_map_of_mem he))
        have hnew : v.entries = [] := by
          refine List.eq_nil_iff_forall_not_mem.mpr fun e he => hno e.1 ?_
          exact mem_keys_overlayEntries.mpr (.inr (List.mem_map_of_mem he))
        rw [hnew]
        exact hnone hown
  | cons key rest =>
    refine .merged (nodup_keys_put hnodup) (fun other hother => ?_) fun hempty => ?_
    · rw [mem_keys_put] at hother ⊢
      exact hother.imp_right (hkeys ·)
    · exact absurd hempty put_ne_nil

/-! ## Values in sections -/

theorem valueAt_put (key other : String) (v : Setting) (es : Entries Setting) :
    valueAt other (put key v es) = if other = key then v else valueAt other es := by
  rw [valueAt, find?_put]
  by_cases h : other = key
  · rw [if_pos h, if_pos h, Option.getD_some]
  · rw [if_neg h, if_neg h, valueAt]

/-- The value under a key of a section. -/
def lookup? (t : Setting) (part key : String) : Option Setting :=
  find? key (valueAt part t.entries).entries

section Lookup

variable (v t : Setting) (part key : String) (path : List String)

/-- A setting for one section changes no other. -/
theorem lookup?_assign_of_ne {name : String} (h : part ≠ name) :
    (assign v (name :: path) t).lookup? part key = t.lookup? part key := by
  rw [assign, lookup?, entries, valueAt_put, if_neg h, lookup?]

/-- A table in the place of a section is laid over it. -/
theorem lookup?_assign_section (es : Entries Setting) :
    (assign (.table es) [part] t).lookup? part key =
      find? key (overlayEntries (valueAt part t.entries).entries es) := by
  rw [assign, lookup?, entries, valueAt_put, if_pos rfl, assign, overlay_table, entries]

/-- A setting for a key changes that key only. -/
theorem lookup?_assign_key (name : String) :
    (assign v (part :: name :: path) t).lookup? part key =
      if key = name then some (assign v path ((t.lookup? part name).getD .null))
      else t.lookup? part key := by
  rw [assign, lookup?, entries, valueAt_put, if_pos rfl, assign, entries, find?_put]
  rfl

end Lookup

/-- What is known of all the keys of a section stays known when a table is laid over the section. -/
theorem Laid.overlayEntries {x : String → Option Setting} {own es : Entries Setting}
    (h : ∀ key, Laid (x key) (find? key own) (find? key es)) (new : Entries Setting) :
    ∀ key, Laid (x key) (find? key (Setting.overlayEntries own new))
      (find? key (Setting.overlayEntries es new)) := by
  induction new generalizing own es with
  | nil => exact h
  | cons e rest ih =>
    obtain ⟨name, v⟩ := e
    rw [Setting.overlayEntries, Setting.overlayEntries]
    refine ih fun key => ?_
    rw [find?_put, find?_put]
    by_cases hkey : key = name
    · rw [if_pos hkey, if_pos hkey, hkey]
      exact (h name).assign v []
    · rw [if_neg hkey, if_neg hkey]
      exact h key

/-- **A setting for a section, or for something in it, keeps what is known of the section's keys**, as
long as only a table is put in the place of the section. -/
theorem Laid.assign_tree {x : String → Option Setting} {own t : Setting} {part : String}
    (h : ∀ key, Laid (x key) (own.lookup? part key) (t.lookup? part key)) {v : Setting}
    {path : List String} (hpath : path ≠ []) (htable : path = [part] → v.isTable = true) :
    ∀ key, Laid (x key) ((Setting.assign v path own).lookup? part key)
      ((Setting.assign v path t).lookup? part key) := by
  intro key
  match path, hpath with
  | name :: rest, _ =>
    by_cases hname : part = name
    · subst hname
      cases rest with
      | nil =>
        rw [eq_table_of_isTable (htable rfl), lookup?_assign_section, lookup?_assign_section]
        exact Laid.overlayEntries h v.entries key
      | cons below rest =>
        rw [lookup?_assign_key, lookup?_assign_key]
        by_cases hkey : key = below
        · rw [if_pos hkey, if_pos hkey, hkey]
          exact (h below).assign v rest
        · rw [if_neg hkey, if_neg hkey]
          exact h key
    · rw [lookup?_assign_of_ne _ _ _ _ _ hname, lookup?_assign_of_ne _ _ _ _ _ hname]
      exact h key

end Setting
end PredicateOracle
