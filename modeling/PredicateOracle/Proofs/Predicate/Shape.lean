import PredicateOracle.Proofs.Predicate.Compound

/-!
# PredicateOracle.Proofs.Predicate.Shape -- what compounds look like

The expressions that can be built over given atoms with so many connectives on top of each other are
defined without any draw (`Layered`): an atom, or a connective over two operands of one layer less, each
of which may be negated once. Every compound of a pool is one of these, and unless a connective is at its
root it is a predicate of the pool with its own truth (`Pool.compound_layered`). A layer at most doubles
the number of connectives and adds one, so the layers bound the size of a compound.
-/

namespace PredicateOracle

open Sql
open PredicateOracle.Random (Stream Odds)
open Gen (Yields)

/-! ## Layers -/

/-- **`Operand P e`** -- the expression `e` has the property `P`, or it is the negation of one that has. -/
def Operand (P : Expr → Prop) (e : Expr) : Prop := P e ∨ ∃ e', P e' ∧ e = e'.negate

/-- **`Layered atoms d e`** -- the expression `e` is an atom, or if `d` is not zero a connective whose
operands have one layer less. -/
def Layered (atoms : Expr → Prop) : Nat → Expr → Prop
  | 0, e => atoms e
  | d + 1, e => atoms e ∨
    ∃ op l r, e = .logical op l r ∧ Operand (Layered atoms d) l ∧ Operand (Layered atoms d) r

/-- A negation is no connective. -/
theorem Operand.connectives_lt {P : Expr → Prop} {n : Nat} {e : Expr}
    (hP : ∀ e, P e → e.connectives < n) (h : Operand P e) : e.connectives < n := by
  rcases h with h | ⟨e', h, rfl⟩
  · exact hP e h
  · exact hP e' h

namespace Layered

variable {atoms : Expr → Prop} {d m : Nat} {e : Expr}

theorem of_atom (h : atoms e) : Layered atoms d e := by
  cases d with
  | zero => exact h
  | succ d => exact .inl h

/-- A layer doubles the number of connectives at most, and adds one. -/
theorem connectives_lt (hatoms : ∀ a, atoms a → a.connectives ≤ m) (h : Layered atoms d e) :
    e.connectives < 2 ^ d * (m + 1) := by
  induction d generalizing e with
  | zero =>
    rw [Nat.pow_zero, Nat.one_mul]
    exact Nat.lt_succ_of_le (hatoms e h)
  | succ d ih =>
    have hdouble : 2 ^ (d + 1) * (m + 1) = 2 ^ d * (m + 1) + 2 ^ d * (m + 1) := by
      rw [Nat.pow_succ, Nat.mul_two, Nat.add_mul]
    rcases h with hatom | ⟨op, l, r, rfl, hl, hr⟩
    · have hsmall := ih (of_atom hatom)
      omega
    · have hl := hl.connectives_lt fun _ => ih
      have hr := hr.connectives_lt fun _ => ih
      rw [Expr.connectives]
      omega

/-- **Layers bound the number of connectives.** -/
theorem connectives_le (hatoms : ∀ a, atoms a → a.connectives ≤ m) (h : Layered atoms d e) :
    e.connectives ≤ (2 ^ d - 1) + 2 ^ d * m := by
  have hlt := h.connectives_lt hatoms
  have hpos := Nat.two_pow_pos d
  rw [Nat.mul_add, Nat.mul_one] at hlt
  omega

end Layered

/-! ## Compounds -/

/-- **`k.BuiltFrom p d n`** -- the predicate `k` has `n` truths and is built in `d` layers over the
predicates of the pool `p`: it is one of them, or its expression is a connective. -/
structure Known.BuiltFrom (k : Known) (p : Pool) (d n : Nat) : Prop where
  length : k.truth.length = n
  layered : Layered (· ∈ p.predicates.map (·.expression)) d k.expression
  root : k ∈ p.predicates ∨ 0 < d ∧ ∃ op l r, k.expression = .logical op l r

section Draws

variable {p : Pool} {F : Fault → Prop} {P : Expr → Prop} {d n : Nat} {k l r : Known}

theorem Known.BuiltFrom.of_mem (hlength : ∀ k ∈ p.predicates, k.truth.length = n)
    (hk : k ∈ p.predicates) : k.BuiltFrom p d n :=
  ⟨hlength k hk, .of_atom (List.mem_map_of_mem hk), .inl hk⟩

theorem Known.yields_negateMaybe_operand (hlength : k.truth.length = n) (hk : P k.expression) :
    Yields F k.negateMaybe fun k' => k'.truth.length = n ∧ Operand P k'.expression := by
  refine .bind Gen.yields_coin fun b _ => .pure ?_
  cases b with
  | true => exact ⟨(List.length_map _).trans hlength, .inr ⟨_, hk, rfl⟩⟩
  | false => exact ⟨hlength, .inl hk⟩

/-- Two predicates of one layer come to a connective of the next one. -/
theorem Known.yields_combineRandomly_builtFrom (hl : l.BuiltFrom p d n) (hr : r.BuiltFrom p d n) :
    Yields F (l.combineRandomly r) fun k => k.BuiltFrom p (d + 1) n := by
  refine .bind (yields_negateMaybe_operand hl.length hl.layered) fun l' ⟨hlengthl, hl'⟩ => ?_
  refine .bind (yields_negateMaybe_operand hr.length hr.layered) fun r' ⟨hlengthr, hr'⟩ => ?_
  refine .bind Gen.yields_coin fun b _ => ?_
  have hcombine := combine_of_length (if b then .and else .or) (hlengthl.trans hlengthr.symm)
  simp only [hcombine]
  refine .pure ⟨?_, .inr ⟨_, _, _, rfl, hl', hr'⟩, .inr ⟨Nat.succ_pos d, _, _, _, rfl⟩⟩
  rw [List.length_zipWith, hlengthl, hlengthr, Nat.min_self]

/-- **Every compound is built in as many layers as there are levels.** Only a coin can fail, and no coin is
tossed without levels. -/
theorem Pool.yields_compoundWithin_builtFrom (hlength : ∀ k ∈ p.predicates, k.truth.length = n)
    (hne : p.predicates ≠ []) (o : CompoundOptions) (levels : Nat) :
    Yields (fun f => f.OfChance [o.leafProbability] ∧ 0 < levels) (p.compoundWithin o levels)
      fun compound => ∃ k, compound = some k ∧ k.BuiltFrom p levels n := by
  have hselect (F : Fault → Prop) (d : Nat) : Yields F (p.select o.selection) fun chosen =>
      ∃ k, chosen = some k ∧ k.BuiltFrom p d n := by
    refine (p.yields_select o.selection).weaken fun chosen hchosen => ?_
    cases chosen with
    | none => exact absurd hchosen hne
    | some k => exact ⟨k, rfl, .of_mem hlength hchosen⟩
  induction levels with
  | zero => exact hselect _ 0
  | succ levels ih =>
    have ih := ih.mono (G := fun f => f.OfChance [o.leafProbability] ∧ 0 < levels + 1)
      (fun f hf => ⟨hf.1, Nat.succ_pos levels⟩) fun _ h => h
    refine .bind ((Gen.yields_chance (List.mem_singleton_self _)).mono
      (fun f hf => ⟨hf, Nat.succ_pos levels⟩) fun _ h => h) fun b _ => ?_
    refine .ite (fun _ => hselect _ _) fun _ => ?_
    refine .bind ih fun left ⟨l, hleft, hl⟩ => ?_
    subst hleft
    refine .bind ih fun right ⟨r, hright, hr⟩ => ?_
    subst hright
    exact .bind (Known.yields_combineRandomly_builtFrom hl hr) fun k hk => .pure ⟨k, rfl, hk⟩

end Draws

/-- **A compound has as many layers as its options allow.** A pool with predicates on the same rows comes
to a compound for every stream, unless a leaf probability that is not a number is asked for. The compound
is layered over the expressions of the pool, and it is a predicate of the pool with its own truth unless a
connective is at its root; so without layers it is one of the pool, and a negation at its root is one
that the pool has there. If no predicate of the pool has more than `m` connectives, the compound has
no more than there are inner nodes, and `m` at each leaf, of a full tree of that depth. -/
theorem Pool.compound_layered (p : Pool) (o : CompoundOptions) (n : Nat)
    (hne : p.predicates ≠ []) (hlength : ∀ k ∈ p.predicates, k.truth.length = n) (s : Stream) :
    match ((p.compound o).runOn s).1 with
    | .ok compound => ∃ K, compound = some K ∧
      Layered (· ∈ p.predicates.map (·.expression)) o.maxDepth K.expression ∧
      (K ∈ p.predicates ∨ 0 < o.maxDepth ∧ ∃ op l r, K.expression = .logical op l r) ∧
      ∀ m, (∀ k ∈ p.predicates, k.expression.connectives ≤ m) →
        K.expression.connectives ≤ (2 ^ o.maxDepth - 1) + 2 ^ o.maxDepth * m
    | .error fault =>
      fault = .undefinedProbability ∧ Odds.ofProbability o.leafProbability = .undefined ∧
        0 < o.maxDepth := by
  have hdraw := (yields_compoundWithin_builtFrom hlength hne o o.maxDepth s).2
  rw [compound]
  rcases hrun : ((p.compoundWithin o o.maxDepth).runOn s).1 with fault | compound
  · rw [hrun] at hdraw
    obtain ⟨⟨hfault, q, hq, hodds⟩, hlevels⟩ := hdraw
    rw [List.mem_singleton.mp hq] at hodds
    exact ⟨hfault, hodds, hlevels⟩
  · rw [hrun] at hdraw
    obtain ⟨K, hK, hbuilt⟩ := hdraw
    refine ⟨K, hK, hbuilt.layered, hbuilt.root, fun m hm => hbuilt.layered.connectives_le ?_⟩
    intro a ha
    obtain ⟨k, hk, rfl⟩ := List.mem_map.mp ha
    exact hm k hk

/-- Two levels over two predicates with one connective each can come to a full tree, which has as many
connectives as the layers allow. -/
theorem Pool.compound_layered_full_tree :
    let c0 : Expr := .column ⟨"t0", "c0"⟩
    let c1 : Expr := .column ⟨"t0", "c1"⟩
    let a : Expr := .logical .and c0 c1
    let b : Expr := (Expr.logical .or c0 c1).negate
    let p : Pool := ⟨[⟨a, [.holds, .fails, .unknown]⟩, ⟨b, [.fails, .fails, .holds]⟩]⟩
    p.predicates ≠ [] ∧ (∀ k ∈ p.predicates, k.truth.length = 3) ∧
      (∀ k ∈ p.predicates, k.expression.connectives ≤ 1) ∧
      ∃ K : Known, ((p.compound ⟨2, 0.1, .uniform⟩).runOn (Stream.ofSeed 6)).1 = .ok (some K) ∧
        K.expression = .logical .or (Expr.logical .or b.negate b.negate).negate
          (Expr.logical .or a a.negate).negate ∧
        Layered (· ∈ p.predicates.map (·.expression)) 2 K.expression ∧
        K.expression.connectives = 7 ∧
        K.expression.connectives ≤ (2 ^ (2 : Nat) - 1) + 2 ^ (2 : Nat) * 1 := by
  intro c0 c1 a b p
  have hne : p.predicates ≠ [] := by decide
  have hlength : ∀ k ∈ p.predicates, k.truth.length = 3 := by decide
  have hsmall : ∀ k ∈ p.predicates, k.expression.connectives ≤ 1 := by decide
  let tree : Expr := .logical .or (Expr.logical .or b.negate b.negate).negate
    (Expr.logical .or a a.negate).negate
  have hrun : ((p.compound ⟨2, 0.1, .uniform⟩).runOn (Stream.ofSeed 6)).1 =
      .ok (some ⟨tree, [.fails, .fails, .holds]⟩) := by decide +kernel
  have hlayered := p.compound_layered ⟨2, 0.1, .uniform⟩ 3 hne hlength (Stream.ofSeed 6)
  rw [hrun] at hlayered
  obtain ⟨K, hK, hK', -, hsize⟩ := hlayered
  obtain rfl := Option.some.inj hK
  exact ⟨hne, hlength, hsmall, _, hrun, rfl, hK', by decide, hsize 1 hsmall⟩

end PredicateOracle
