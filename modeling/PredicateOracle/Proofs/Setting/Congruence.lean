import PredicateOracle.Proofs.Setting.Overlay
import Mathlib.Data.List.Forall2

/-!
# PredicateOracle.Proofs.Setting.Congruence -- settings that come to the same but for some values

Two trees that are laid over two trees. If both pairs are the same but for certain values, so is what
comes out: a relation between values is *congruent* if laying one value over another keeps it, and then
so does the relation between tables that hold related values under the same keys
(`Congruent.tablewise`). Values that are exchanged for each other are related at the bottom
(`Congruent.exchanged`); a value is only exchanged as a whole, so no table is.
-/

namespace PredicateOracle.Setting

open Entries (find? put)

/-- Laying values over each other keeps the relation. -/
structure Congruent (R : Setting → Setting → Prop) : Prop where
  refl : ∀ v, R v v
  overlay : ∀ {old old' new new'}, R old old' → R new new' →
    R (Setting.overlay old new) (Setting.overlay old' new')

theorem Congruent.eq : Congruent Eq where
  refl _ := rfl
  overlay hold hnew := by rw [hold, hnew]

/-! ## Exchanged values -/

/-- **`Exchanged P v v'`** -- the values are the same, or both are such that they may be exchanged. -/
def Exchanged (P : Setting → Prop) (v v' : Setting) : Prop := v = v' ∨ (P v ∧ P v')

section Exchanged

variable {P : Setting → Prop} (hP : ∀ v, P v → v.isTable = false)
include hP

theorem Exchanged.entries_eq {v v' : Setting} (h : Exchanged P v v') : v.entries = v'.entries := by
  obtain rfl | ⟨hv, hv'⟩ := h
  · rfl
  · rw [entries_eq_nil_of_not_isTable (hP v hv), entries_eq_nil_of_not_isTable (hP v' hv')]

theorem Congruent.exchanged : Congruent (Exchanged P) where
  refl _ := .inl rfl
  overlay := by
    rintro old old' new new' hold (rfl | ⟨hnew, hnew'⟩)
    · cases htable : new.isTable with
      | false => exact .inl (by simp only [overlay_of_not_isTable _ htable])
      | true =>
        rw [eq_table_of_isTable htable, overlay_table, overlay_table, hold.entries_eq hP]
        exact .inl rfl
    · rw [overlay_of_not_isTable _ (hP new hnew), overlay_of_not_isTable _ (hP new' hnew')]
      exact .inr ⟨hnew, hnew'⟩

/-- What is put somewhere below a value does not depend on a value that is exchanged. -/
theorem Exchanged.assign {t t' : Setting} (h : Exchanged P t t') (v : Setting) (path : List String) :
    Exchanged P (Setting.assign v path t) (Setting.assign v path t') := by
  cases path with
  | nil => exact (Congruent.exchanged hP).overlay h (.inl rfl)
  | cons key rest =>
    rw [Setting.assign, Setting.assign, h.entries_eq hP]
    exact .inl rfl

end Exchanged

/-! ## Tables -/

variable {R : String → Setting → Setting → Prop}

/-- Entries with the same keys and related values. -/
def Entrywise (R : String → Setting → Setting → Prop) : Entries Setting → Entries Setting → Prop :=
  List.Forall₂ fun e e' => e.1 = e'.1 ∧ R e.1 e.2 e'.2

/-- **`Tablewise R v v'`** -- the values are the same, or tables with the same keys and related
values. -/
def Tablewise (R : String → Setting → Setting → Prop) (v v' : Setting) : Prop :=
  v = v' ∨ ∃ es es', v = .table es ∧ v' = .table es' ∧ Entrywise R es es'

theorem Entrywise.find? {es es' : Entries Setting} (h : Entrywise R es es') (key : String) :
    Option.Rel (R key) (find? key es) (find? key es') := by
  induction h with
  | nil => exact .none
  | @cons e e' rest rest' he hrest ih =>
    obtain ⟨name, v⟩ := e
    obtain ⟨name', v'⟩ := e'
    obtain ⟨rfl, hv⟩ := he
    rw [Entries.find?, Entries.find?]
    by_cases hkey : name = key
    · rw [if_pos hkey, if_pos hkey]
      exact .some (hkey ▸ hv)
    · rw [if_neg hkey, if_neg hkey]
      exact ih

theorem Entrywise.put {es es' : Entries Setting} (h : Entrywise R es es') {key : String}
    {v v' : Setting} (hv : R key v v') : Entrywise R (put key v es) (put key v' es') := by
  induction h with
  | nil => exact .cons ⟨rfl, hv⟩ .nil
  | @cons e e' rest rest' he hrest ih =>
    obtain ⟨name, w⟩ := e
    obtain ⟨name', w'⟩ := e'
    obtain ⟨rfl, hw⟩ := he
    rw [Entries.put, Entries.put]
    by_cases hkey : name = key
    · rw [if_pos hkey, if_pos hkey]
      exact .cons ⟨rfl, hv⟩ hrest
    · rw [if_neg hkey, if_neg hkey]
      exact .cons ⟨rfl, hw⟩ ih

section Tablewise

variable (hR : ∀ key, Congruent (R key))
include hR

theorem Entrywise.refl (es : Entries Setting) : Entrywise R es es :=
  List.forall₂_same.mpr fun e _ => ⟨rfl, (hR e.1).refl e.2⟩

theorem Tablewise.entries {v v' : Setting} (h : Tablewise R v v') :
    Entrywise R v.entries v'.entries := by
  obtain rfl | ⟨es, es', rfl, rfl, hes⟩ := h
  · exact Entrywise.refl hR _
  · exact hes

theorem Entrywise.valueAt {es es' : Entries Setting} (h : Entrywise R es es') (key : String) :
    R key (valueAt key es) (valueAt key es') := by
  unfold Setting.valueAt
  have hfound := h.find? key
  generalize Entries.find? key es = found, Entries.find? key es' = found' at hfound ⊢
  cases hfound with
  | none => exact (hR key).refl _
  | some hv => exact hv

theorem Entrywise.overlayEntries {old old' new new' : Entries Setting} (hold : Entrywise R old old')
    (hnew : Entrywise R new new') :
    Entrywise R (Setting.overlayEntries old new) (Setting.overlayEntries old' new') := by
  induction hnew generalizing old old' with
  | nil => exact hold
  | @cons e e' rest rest' he hrest ih =>
    obtain ⟨name, v⟩ := e
    obtain ⟨name', v'⟩ := e'
    obtain ⟨rfl, hv⟩ := he
    rw [Setting.overlayEntries, Setting.overlayEntries]
    exact ih (hold.put ((hR name).overlay (hold.valueAt hR name) hv))

/-- **Tables of related values are related.** -/
theorem Congruent.tablewise : Congruent (Tablewise R) where
  refl _ := .inl rfl
  overlay := by
    rintro old old' new new' hold (rfl | ⟨es, es', rfl, rfl, hes⟩)
    · cases htable : new.isTable with
      | false => exact .inl (by simp only [overlay_of_not_isTable _ htable])
      | true =>
        rw [eq_table_of_isTable htable, overlay_table, overlay_table]
        exact .inr ⟨_, _, rfl, rfl, (hold.entries hR).overlayEntries hR (Entrywise.refl hR _)⟩
    · rw [overlay_table, overlay_table]
      exact .inr ⟨_, _, rfl, rfl, (hold.entries hR).overlayEntries hR hes⟩

/-- What is put below a key of tables keeps the relation if it does so for the value under the key. -/
theorem Tablewise.assign {t t' v v' : Setting} {key : String} {rest : List String}
    (h : Tablewise R t t') (hrest : ∀ {u u'}, R key u u' →
      R key (Setting.assign v rest u) (Setting.assign v' rest u')) :
    Tablewise R (Setting.assign v (key :: rest) t) (Setting.assign v' (key :: rest) t') := by
  rw [Setting.assign, Setting.assign]
  exact .inr ⟨_, _, rfl, rfl,
    (h.entries hR).put (hrest ((h.entries hR).valueAt hR key))⟩

end Tablewise

end PredicateOracle.Setting
