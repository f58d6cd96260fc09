import PredicateOracle.Number.Binary
import PredicateOracle.Proofs.Sql.Typing

/-!
# PredicateOracle.Proofs.Sql.Arithmetic -- how large the values of expressions are

A row shows an integer or NULL in each of its columns, and an integer expression has a value on it
(`Expr.integer?`), exact whatever the size of the numbers, or none where NULL gets in its way. An operator
at most doubles what its operands come to, so the value is bounded by the height of the expression, the
numbers in the columns that it refers to, and its literals (`Expr.integer?_le`). This holds of every
expression inside another one, which is what `Expr.Within` says.
-/

namespace PredicateOracle.Sql

/-- What the columns of a row show: an integer, or nothing where the cell is NULL. -/
abbrev IntegerRow := ColumnRef → Option Int

namespace Expr

/-! ## Expressions inside of others -/

/-- The expression itself and all expressions inside of it. -/
def subexpressions : Expr → List Expr
  | .column r => [.column r]
  | .literal l => [.literal l]
  | .prefixed op e => .prefixed op e :: e.subexpressions
  | .postfixed op e => .postfixed op e :: e.subexpressions
  | .logical op l r => .logical op l r :: (l.subexpressions ++ r.subexpressions)
  | .comparison op l r => .comparison op l r :: (l.subexpressions ++ r.subexpressions)
  | .arithmetic op l r => .arithmetic op l r :: (l.subexpressions ++ r.subexpressions)
  | .concat l r => .concat l r :: (l.subexpressions ++ r.subexpressions)
  | .between negated e l h =>
    .between negated e l h :: (e.subexpressions ++ l.subexpressions ++ h.subexpressions)
  | .like negated e p => .like negated e p :: (e.subexpressions ++ p.subexpressions)

theorem mem_subexpressions_self (e : Expr) : e ∈ e.subexpressions := by
  cases e <;> exact List.mem_cons_self

/-- **`s.Part e`** -- nothing is in the expression `s` that is not in `e`, and it is no higher. -/
structure Part (s e : Expr) : Prop where
  height_le : s.height ≤ e.height
  refs : s.refs ⊆ e.refs
  literals : s.literals ⊆ e.literals

namespace Part

variable {s e e' : Expr}

theorem refl (e : Expr) : e.Part e := ⟨Nat.le_refl _, List.Subset.refl _, List.Subset.refl _⟩

/-- What is a part of an operand is a part of the node. -/
theorem trans (h : s.Part e) (h' : e.Part e') : s.Part e' :=
  ⟨Nat.le_trans h.height_le h'.height_le, List.Subset.trans h.refs h'.refs,
    List.Subset.trans h.literals h'.literals⟩

theorem left {node l r : Expr} (hheight : l.height ≤ node.height) (hrefs : node.refs = l.refs ++ r.refs)
    (hliterals : node.literals = l.literals ++ r.literals) : l.Part node :=
  ⟨hheight, by simp [hrefs], by simp [hliterals]⟩

theorem right {node l r : Expr} (hheight : r.height ≤ node.height)
    (hrefs : node.refs = l.refs ++ r.refs) (hliterals : node.literals = l.literals ++ r.literals) :
    r.Part node :=
  ⟨hheight, by simp [hrefs], by simp [hliterals]⟩

end Part

/-- **Every expression inside of another one is a part of it.** -/
theorem part_of_mem_subexpressions {s e : Expr} (h : s ∈ e.subexpressions) : s.Part e := by
  induction e with
  | column r =>
    obtain rfl := List.mem_singleton.mp h
    exact .refl _
  | literal l =>
    obtain rfl := List.mem_singleton.mp h
    exact .refl _
  | prefixed op e ih =>
    obtain rfl | h := List.mem_cons.mp h
    · exact .refl _
    · exact (ih h).trans ⟨Nat.le_succ _, List.Subset.refl _, List.Subset.refl _⟩
  | postfixed op e ih =>
    obtain rfl | h := List.mem_cons.mp h
    · exact .refl _
    · exact (ih h).trans ⟨Nat.le_succ _, List.Subset.refl _, List.Subset.refl _⟩
  | logical op l r ihl ihr | comparison op l r ihl ihr | arithmetic op l r ihl ihr
  | concat l r ihl ihr | like op l r ihl ihr =>
    obtain rfl | h := List.mem_cons.mp h
    · exact .refl _
    · rcases List.mem_append.mp h with h | h
      · exact (ihl h).trans (.left (by rw [height]; omega) rfl rfl)
      · exact (ihr h).trans (.right (by rw [height]; omega) rfl rfl)
  | between negated e l r ihe ihl ihr =>
    obtain rfl | h := List.mem_cons.mp h
    · exact .refl _
    · rcases List.mem_append.mp h with h | h
      · rcases List.mem_append.mp h with h | h
        · refine (ihe h).trans ⟨by rw [height]; omega, ?_, ?_⟩ <;> simp [refs, literals]
        · refine (ihl h).trans ⟨by rw [height]; omega, ?_, ?_⟩ <;> simp [refs, literals]
      · refine (ihr h).trans ⟨by rw [height]; omega, ?_, ?_⟩ <;> simp [refs, literals]

/-! ## Values -/

/-- The value of an integer expression on a row: an exact integer, or nothing if it is NULL. Other
expressions have none. -/
def integer? (ρ : IntegerRow) : Expr → Option Int
  | .column r => ρ r
  | .literal (.integer n) => some n
  | .prefixed .plus e => e.integer? ρ
  | .prefixed .minus e => (e.integer? ρ).map (- ·)
  | .arithmetic .add l r => do return (← l.integer? ρ) + (← r.integer? ρ)
  | .arithmetic .subtract l r => do return (← l.integer? ρ) - (← r.integer? ρ)
  | _ => none

/-- A bound is doubled once more at every level. -/
theorem two_pow_mul_mono {m n : Nat} (h : m ≤ n) (bound : Nat) :
    2 ^ m * bound ≤ 2 ^ n * bound :=
  Nat.mul_le_mul_right _ (Nat.pow_le_pow_right (by decide) h)

/-- **An operator at most doubles a bound for its operands**, so as many operators as stand on top of
each other double the bound for columns and literals so many times. -/
theorem integer?_le {ρ : IntegerRow} {bound : Nat} {e : Expr}
    (hrefs : ∀ r ∈ e.refs, ∀ n ∈ ρ r, n.natAbs ≤ bound)
    (hliterals : ∀ n, .integer n ∈ e.literals → n.natAbs ≤ bound) {n : Int}
    (hn : e.integer? ρ = some n) : n.natAbs ≤ 2 ^ e.height * bound := by
  induction e generalizing n with
  | column r =>
    rw [height, Nat.pow_zero, Nat.one_mul]
    exact hrefs r (List.mem_singleton_self r) n hn
  | literal l =>
    rw [height, Nat.pow_zero, Nat.one_mul]
    cases l with
    | integer m =>
      obtain rfl := Option.some.inj hn
      exact hliterals _ (List.mem_singleton_self _)
    | _ => cases hn
  | prefixed op e ih =>
    have hdouble := two_pow_mul_mono (Nat.le_succ e.height) bound
    cases op with
    | not => cases hn
    | plus => exact Nat.le_trans (ih hrefs hliterals hn) hdouble
    | minus =>
      obtain ⟨m, hm, rfl⟩ := Option.map_eq_some_iff.mp hn
      rw [Int.natAbs_neg]
      exact Nat.le_trans (ih hrefs hliterals hm) hdouble
  | arithmetic op l r ihl ihr =>
    obtain ⟨hrefsl, hrefsr⟩ := List.forall_mem_append.mp hrefs
    have hoperands : ∃ a b, l.integer? ρ = some a ∧ r.integer? ρ = some b ∧
        n.natAbs ≤ a.natAbs + b.natAbs := by
      cases op with
      | add =>
        obtain ⟨a, ha, hn⟩ := Option.bind_eq_some_iff.mp hn
        obtain ⟨b, hb, hn⟩ := Option.bind_eq_some_iff.mp hn
        obtain rfl := Option.some.inj hn
        exact ⟨a, b, ha, hb, Int.natAbs_add_le a b⟩
      | subtract =>
        obtain ⟨a, ha, hn⟩ := Option.bind_eq_some_iff.mp hn
        obtain ⟨b, hb, hn⟩ := Option.bind_eq_some_iff.mp hn
        obtain rfl := Option.some.inj hn
        exact ⟨a, b, ha, hb, Int.natAbs_sub_le a b⟩
    obtain ⟨a, b, ha, hb, hle⟩ := hoperands
    have hal := ihl hrefsl (fun m hm => hliterals m (List.mem_append_left _ hm)) ha
    have hbr := ihr hrefsr (fun m hm => hliterals m (List.mem_append_right _ hm)) hb
    have hl := two_pow_mul_mono (Nat.le_max_left l.height r.height) bound
    have hr := two_pow_mul_mono (Nat.le_max_right l.height r.height) bound
    calc n.natAbs ≤ 2 ^ max l.height r.height * bound + 2 ^ max l.height r.height * bound := by omega
      _ = 2 ^ (Expr.arithmetic op l r).height * bound := by
        rw [height, Nat.pow_succ, Nat.mul_right_comm, Nat.mul_two]
  | _ => cases hn

/-! ## Bounds -/

/-- **`e.Within ρ bound`** -- on the row `ρ` the expression `e` and all expressions inside of it have no
integer value that is larger than the bound, with either sign. -/
def Within (ρ : IntegerRow) (bound : Nat) (e : Expr) : Prop :=
  ∀ s ∈ e.subexpressions, ∀ n, s.integer? ρ = some n → n.natAbs ≤ bound

theorem Within.mono {ρ : IntegerRow} {bound more : Nat} {e : Expr} (h : e.Within ρ bound)
    (hle : bound ≤ more) : e.Within ρ more :=
  fun s hs n hn => Nat.le_trans (h s hs n hn) hle

/-- A bound for the columns and the literals of an expression bounds all that is inside of it. -/
theorem within_of_refs {ρ : IntegerRow} {bound levels : Nat} {e : Expr} (hheight : e.height ≤ levels)
    (hrefs : ∀ r ∈ e.refs, ∀ n ∈ ρ r, n.natAbs ≤ bound)
    (hliterals : ∀ n, .integer n ∈ e.literals → n.natAbs ≤ bound) :
    e.Within ρ (2 ^ levels * bound) := by
  intro s hs n hn
  have hpart := part_of_mem_subexpressions hs
  have hle : n.natAbs ≤ 2 ^ s.height * bound := by
    refine integer?_le (fun r hr => hrefs r (hpart.refs hr)) (fun m hm => ?_) hn
    exact hliterals m (hpart.literals hm)
  exact Nat.le_trans hle (two_pow_mul_mono (Nat.le_trans hpart.height_le hheight) bound)

end Expr

/-- An integer expression refers to integer columns only. -/
theorem HasType.integer_refs {columns : List Column} {e : Expr} (h : HasType columns e .integer) :
    ∀ r ∈ e.refs, ∃ c ∈ columns, c.ref = r ∧ c.type = .integer := by
  generalize htype : DataType.integer = t at h
  induction h with
  | column hc href hcolumn =>
    intro r hr
    obtain rfl := List.mem_singleton.mp hr
    exact ⟨_, hc, href, hcolumn⟩
  | literal _ => exact nofun
  | sign _ _ ih => exact ih rfl
  | arithmetic _ _ ihl ihr => exact List.forall_mem_append.mpr ⟨ihl rfl, ihr rfl⟩
  | _ => cases htype

end PredicateOracle.Sql
