import PredicateOracle.Predicate.Compound
import PredicateOracle.Proofs.Predicate.Pool
import PredicateOracle.Proofs.Truth.Order

/-!
# PredicateOracle.Proofs.Predicate.Compound -- compounds say what their truth says

A compound is drawn with its truth beside it, and the two are put together by different code. The
proof goes through a third object. A `Formula` is a tree of connectives over positions of the pool;
it has an expression (`Formula.expr`) and a value on every row (`Formula.value`). Every compound is
some formula on both sides at once (`Pool.yields_compoundWithin`), and a formula has the same value
as its expression under every interpretation (`Interpretation.truth_expr`).
-/

namespace PredicateOracle

open Sql
open PredicateOracle.Random (Stream Odds)

/-! ## Formulas -/

/-- A tree of connectives over atoms. -/
inductive Formula (α : Type) where
  | atom (a : α)
  | not (φ : Formula α)
  | join (op : Connective) (φ ψ : Formula α)
  deriving DecidableEq, Repr

namespace Formula

variable {α : Type}

/-- The expression of a formula over expressions. -/
def expr (e : α → Expr) : Formula α → Expr
  | .atom a => e a
  | .not φ => (φ.expr e).negate
  | .join op φ ψ => .logical op (φ.expr e) (ψ.expr e)

/-- The value of a formula over values. -/
def value (v : α → Truth) : Formula α → Truth
  | .atom a => v a
  | .not φ => (φ.value v).not
  | .join op φ ψ => op.apply (φ.value v) (ψ.value v)

end Formula

/-- An interpretation gives the expression of a formula the value that the formula has over the
truths of its atoms. -/
theorem Interpretation.truth_expr {α : Type} (f : Interpretation) (e : α → Expr) (φ : Formula α) :
    f.truth (φ.expr e) = φ.value fun a => f.truth (e a) := by
  induction φ with
  | atom a => rfl
  | not φ ih =>
    rw [Formula.expr, f.truth_negate, ih]
    rfl
  | join op φ ψ ihφ ihψ =>
    rw [Formula.expr, f.truth_logical, ihφ, ihψ]
    rfl

/-! ## Predicates as formulas -/

/-- Predicates on equally many rows can be combined. -/
theorem Known.combine_of_length {l r : Known} (op : Connective)
    (h : l.truth.length = r.truth.length) :
    combine op l r =
      .ok ⟨.logical op l.expression r.expression, List.zipWith op.apply l.truth r.truth⟩ := by
  rw [combine, TruthColumn.zip, if_pos h]
  rfl

/-- **`k.Shows rows e v φ`** -- the predicate `k` is the formula `φ` on both sides: its expression is
the formula over the expressions `e`, and its truth is the formula over the values `v` on each row. -/
structure Known.Shows {α ι : Type} (k : Known) (rows : List ι) (e : α → Expr) (v : α → ι → Truth)
    (φ : Formula α) : Prop where
  expression : k.expression = φ.expr e
  truth : k.truth = rows.map fun r => φ.value fun a => v a r

namespace Known.Shows

variable {α ι : Type} {k l : Known} {rows : List ι} {e : α → Expr} {v : α → ι → Truth}
  {φ ψ : Formula α}

theorem negate (h : k.Shows rows e v φ) : k.negate.Shows rows e v φ.not := by
  constructor
  · exact congrArg Expr.negate h.expression
  · change k.truth.map Truth.not = _
    rw [h.truth, List.map_map]
    rfl

/-- Two predicates on the same rows can be combined, and show the combined formula. -/
theorem combine (op : Connective) (hk : k.Shows rows e v φ) (hl : l.Shows rows e v ψ) :
    ∃ c, Known.combine op k l = .ok c ∧ c.Shows rows e v (.join op φ ψ) := by
  have hlength : k.truth.length = l.truth.length := by
    rw [hk.truth, hl.truth, List.length_map, List.length_map]
  refine ⟨_, Known.combine_of_length op hlength, ?_, ?_⟩
  · change Expr.logical op k.expression l.expression = _
    rw [hk.expression, hl.expression]
    rfl
  · change List.zipWith op.apply k.truth l.truth = _
    rw [hk.truth, hl.truth, List.zipWith_map, List.zipWith_self]
    rfl

end Known.Shows

/-! ## Random compounds -/

section Draws

variable {α ι : Type} {F : Fault → Prop} {k l : Known} {rows : List ι} {e : α → Expr}
  {v : α → ι → Truth} {φ ψ : Formula α}

theorem Known.yields_negateMaybe (h : k.Shows rows e v φ) :
    Gen.Yields F k.negateMaybe fun n => ∃ χ, n.Shows rows e v χ := by
  refine .bind Gen.yields_coin fun b _ => .pure ?_
  cases b with
  | true => exact ⟨_, h.negate⟩
  | false => exact ⟨_, h⟩

theorem Known.yields_combineRandomly (hk : k.Shows rows e v φ) (hl : l.Shows rows e v ψ) :
    Gen.Yields F (k.combineRandomly l) fun c => ∃ χ, c.Shows rows e v χ := by
  refine .bind (yields_negateMaybe hk) fun k' ⟨φ', hk'⟩ => ?_
  refine .bind (yields_negateMaybe hl) fun l' ⟨ψ', hl'⟩ => ?_
  refine .bind Gen.yields_coin fun b _ => ?_
  obtain ⟨c, hc, hshows⟩ := hk'.combine (if b then .and else .or) hl'
  simp only [hc]
  exact .pure ⟨_, hshows⟩

/-- **Every compound is a formula on both sides at once** if every predicate of the pool is. There is
no compound exactly if the pool is empty. -/
theorem Pool.yields_compoundWithin {p : Pool} (hp : ∀ k ∈ p.predicates, ∃ φ, k.Shows rows e v φ)
    (o : CompoundOptions) (levels : Nat) :
    Gen.Yields (Fault.OfChance [o.leafProbability]) (p.compoundWithin o levels) fun compound =>
      match compound with
      | none => p.predicates = []
      | some k => p.predicates ≠ [] ∧ ∃ φ, k.Shows rows e v φ := by
  have hselect : Gen.Yields (Fault.OfChance [o.leafProbability]) (p.select o.selection) fun chosen =>
      match chosen with
      | none => p.predicates = []
      | some k => p.predicates ≠ [] ∧ ∃ φ, k.Shows rows e v φ := by
    refine (p.yields_select o.selection).weaken fun chosen hchosen => ?_
    cases chosen with
    | none => exact hchosen
    | some k => exact ⟨List.ne_nil_of_mem hchosen, hp k hchosen⟩
  -- By induction on the levels. The pool is the same at every node, and so are its formulas.
  induction levels with
  | zero => exact hselect
  | succ levels ih =>
    refine .bind (Gen.yields_chance (List.mem_singleton_self _)) fun b _ => ?_
    refine .ite (fun _ => hselect) fun _ => ?_
    refine .bind ih fun left hleft => ?_
    cases left with
    | none => exact .pure hleft
    | some left =>
      refine .bind ih fun right hright => ?_
      cases right with
      | none => exact .pure hright
      | some right =>
        obtain ⟨hne, φ, hφ⟩ := hleft
        obtain ⟨-, ψ, hψ⟩ := hright
        exact .bind (Known.yields_combineRandomly hφ hψ) fun k hk => .pure ⟨hne, hk⟩

end Draws

/-! ## Lockstep -/

/-- A column of `n` values is the list of its values. -/
theorem TruthColumn.eq_map_range {column : TruthColumn} {n : Nat} (h : column.length = n) :
    column = (List.range n).map fun i => column[i]?.getD .unknown := by
  refine List.ext_getElem (by simp [h]) fun i hi _ => ?_
  rw [List.getElem_map, List.getElem_range, List.getElem?_eq_getElem hi, Option.getD_some]

/-- **Expression and truth of a compound stay in step.** From a pool whose columns have one length a
compound is drawn unless the pool is empty. Its truth has the length of the columns, and on every
row it is the value of its expression under every interpretation that gives the predicates of the
pool their truth on that row. A draw has no other end but that of a leaf probability that is not a
number; in particular, columns of different lengths never meet. -/
theorem Pool.compound_lockstep (p : Pool) (o : CompoundOptions) (n : Nat)
    (hlength : ∀ k ∈ p.predicates, k.truth.length = n) (s : Stream) :
    match ((p.compound o).runOn s).1 with
    | .ok none => p.predicates = []
    | .ok (some K) =>
      p.predicates ≠ [] ∧ K.truth.length = n ∧
        ∀ i < n, ∀ f : Interpretation,
          (∀ k ∈ p.predicates, k.truth[i]? = some (f.truth k.expression)) →
          K.truth[i]? = some (f.truth K.expression)
    | .error fault =>
      fault = .undefinedProbability ∧ Odds.ofProbability o.leafProbability = .undefined := by
  -- The atoms are the positions of the pool and the rows are the numbers below `n`.
  let e (j : Fin p.predicates.length) : Expr := p.predicates[j].expression
  let v (j : Fin p.predicates.length) (i : Nat) : Truth := p.predicates[j].truth[i]?.getD .unknown
  have hp : ∀ k ∈ p.predicates, ∃ φ, k.Shows (List.range n) e v φ := by
    intro k hk
    obtain ⟨j, hj, rfl⟩ := List.mem_iff_getElem.mp hk
    exact ⟨.atom ⟨j, hj⟩, rfl, TruthColumn.eq_map_range (hlength _ hk)⟩
  have hdraw := (yields_compoundWithin hp o o.maxDepth s).2
  rw [compound]
  rcases hrun : ((p.compoundWithin o o.maxDepth).runOn s).1 with fault | (_ | K)
  · rw [hrun] at hdraw
    obtain ⟨hfault, q, hq, hodds⟩ := hdraw
    rw [List.mem_singleton.mp hq] at hodds
    exact ⟨hfault, hodds⟩
  · rw [hrun] at hdraw
    exact hdraw
  · rw [hrun] at hdraw
    obtain ⟨hne, φ, hexpression, htruth⟩ := hdraw
    refine ⟨hne, ?_, fun i hi f hagree => ?_⟩
    · rw [htruth, List.length_map, List.length_range]
    · have hatom : ∀ j, v j i = f.truth (e j) := by
        intro j
        change p.predicates[j].truth[i]?.getD .unknown = _
        rw [hagree p.predicates[j] (List.getElem_mem j.isLt), Option.getD_some]
      rw [htruth, hexpression, f.truth_expr, List.getElem?_map, List.getElem?_range hi,
        Option.map_some]
      simp only [hatom]

/-- Two predicates on three rows come to a compound with a negation; on the last row, where the first
predicate is unknown and the second one holds, its truth is that of its expression. -/
theorem Pool.compound_lockstep_two_predicates :
    let c0 : Expr := .column ⟨"t0", "c0"⟩
    let c1 : Expr := .column ⟨"t0", "c1"⟩
    let p : Pool := ⟨[⟨c0, [.holds, .fails, .unknown]⟩, ⟨c1, [.fails, .fails, .holds]⟩]⟩
    let f : Interpretation := .ofAtoms fun e => if e = c0 then .unknown else .holds
    (∀ k ∈ p.predicates, k.truth.length = 3) ∧
      (∀ k ∈ p.predicates, k.truth[2]? = some (f.truth k.expression)) ∧
      ∃ K : Known, ((p.compound ⟨1, 0.1, .byPattern⟩).runOn (Stream.ofSeed 5)).1 = .ok (some K) ∧
        K.expression = .logical .or c1.negate c1 ∧ K.truth[2]? = some (f.truth K.expression) := by
  intro c0 c1 p f
  have hlength : ∀ k ∈ p.predicates, k.truth.length = 3 := by decide
  have hagree : ∀ k ∈ p.predicates, k.truth[2]? = some (f.truth k.expression) := by decide
  have hrun : ((p.compound ⟨1, 0.1, .byPattern⟩).runOn (Stream.ofSeed 5)).1 =
      .ok (some ⟨.logical .or c1.negate c1, [.holds, .holds, .holds]⟩) := by decide +kernel
  have hlockstep := p.compound_lockstep ⟨1, 0.1, .byPattern⟩ 3 hlength (Stream.ofSeed 5)
  rw [hrun] at hlockstep
  exact ⟨hlength, hagree, _, hrun, rfl, hlockstep.2.2 2 (by decide) f hagree⟩

end PredicateOracle
