import PredicateOracle.Generate.Expr
import PredicateOracle.Proofs.Random.Draw
import PredicateOracle.Proofs.Sql.Typing

/-!
# PredicateOracle.Proofs.Generate.Expr -- random expressions are well typed and small

Whatever the columns and the type, the generator comes to an expression, and the expression is
`Grown`: it has the type that was asked for, it is no higher than the levels allow, it holds connectives
only if they are wanted, and its literals are modest. The only draw that can fail is the one whether a
literal is NULL, and only if its probability is not a number.

The proof follows the recursion. A node draws its operands through `operand`, so each lemma about a
node assumes that operands of every type are grown to one level less; `yields_exprWithin` ties the
knot by induction on the levels.
-/

namespace PredicateOracle.Generate

open Sql
open Gen (Yields)

/-! ## What is grown -/

/-- **`Modest l`** -- the literal `l` is one that is drawn: a number from -100 to 100, or a text of at
most three characters of the alphabet. -/
def Modest : Literal → Prop
  | .integer n => -100 ≤ n ∧ n ≤ 100
  | .varchar t => t.toList.length ≤ 3 ∧ ∀ c ∈ t.toList, c ∈ alphabet
  | .null _ | .boolean _ => True

/-- **`Grown o columns levels t e`** -- `e` is an expression as the generator makes them of type `t`
with so many levels left. -/
structure Grown (o : Options) (columns : List Column) (levels : Nat) (t : DataType) (e : Expr) :
    Prop where
  typed : HasType columns e t
  height_le : e.height ≤ levels
  connectives : o.logic = false → e.connectives = 0
  modest : ∀ l ∈ e.literals, Modest l

namespace Grown

variable {o : Options} {columns : List Column} {levels : Nat} {t t₁ t₂ t₃ : DataType}
  {e e₁ e₂ e₃ : Expr}

theorem column {c : Column} (hc : c ∈ columns) : Grown o columns 0 c.type (.column c.ref) where
  typed := .column hc rfl rfl
  height_le := Nat.le_refl 0
  connectives := fun _ => rfl
  modest := fun _ hl => absurd hl List.not_mem_nil

theorem literal {l : Literal} (hl : Modest l) : Grown o columns 0 l.type (.literal l) where
  typed := .literal rfl
  height_le := Nat.le_refl 0
  connectives := fun _ => rfl
  modest := by
    intro l' hl'
    obtain rfl := List.mem_singleton.mp hl'
    exact hl

/-- What fits below few levels fits below more. -/
theorem mono (h : Grown o columns levels t e) {more : Nat} (hle : levels ≤ more) :
    Grown o columns more t e :=
  { h with height_le := Nat.le_trans h.height_le hle }

/-- A node with one operand is one level higher. -/
theorem node₁ (h₁ : Grown o columns levels t₁ e₁) (typed : HasType columns e t)
    (height : e.height = e₁.height + 1) (connectives : e.connectives = e₁.connectives)
    (literals : e.literals = e₁.literals) : Grown o columns (levels + 1) t e where
  typed := typed
  height_le := by
    have := h₁.height_le
    omega
  connectives := fun hlogic => by rw [connectives, h₁.connectives hlogic]
  modest := literals ▸ h₁.modest

/-- A node with two operands is one level higher than the higher one. It may be a connective itself
only where these are wanted. -/
theorem node₂ (h₁ : Grown o columns levels t₁ e₁) (h₂ : Grown o columns levels t₂ e₂)
    (typed : HasType columns e t) (height : e.height = max e₁.height e₂.height + 1)
    (connectives : o.logic = false → e.connectives = e₁.connectives + e₂.connectives)
    (literals : e.literals = e₁.literals ++ e₂.literals) : Grown o columns (levels + 1) t e where
  typed := typed
  height_le := by
    have := h₁.height_le
    have := h₂.height_le
    omega
  connectives := fun hlogic => by
    rw [connectives hlogic, h₁.connectives hlogic, h₂.connectives hlogic]
  modest := by
    rw [literals]
    exact List.forall_mem_append.mpr ⟨h₁.modest, h₂.modest⟩

theorem between (h₁ : Grown o columns levels t e₁) (h₂ : Grown o columns levels t e₂)
    (h₃ : Grown o columns levels t e₃) (ht : t = .integer ∨ t = .varchar) (negated : Bool) :
    Grown o columns (levels + 1) .boolean (.between negated e₁ e₂ e₃) where
  typed := .between ht h₁.typed h₂.typed h₃.typed
  height_le := by
    have := h₁.height_le
    have := h₂.height_le
    have := h₃.height_le
    unfold Expr.height
    omega
  connectives := fun hlogic => by
    unfold Expr.connectives
    rw [h₁.connectives hlogic, h₂.connectives hlogic, h₃.connectives hlogic]
  modest := by
    unfold Expr.literals
    exact List.forall_mem_append.mpr
      ⟨List.forall_mem_append.mpr ⟨h₁.modest, h₂.modest⟩, h₃.modest⟩

end Grown

variable {ps : List Float} {o : Options} {columns : List Column} {levels : Nat}

/-! ## Leaves -/

theorem yields_value (type : DataType) :
    Yields (Fault.OfChance ps) (value type) fun l => l.type = type ∧ Modest l := by
  cases type with
  | integer =>
    refine .bind (Gen.yields_between (by decide) (by decide)) fun n hn => .pure ⟨rfl, ?_⟩
    exact hn
  | varchar =>
    refine .bind (Gen.yields_text (by decide) maxTextLength) fun t ht => .pure ⟨rfl, ?_⟩
    exact ht
  | boolean => exact .bind Gen.yields_coin fun _ _ => .pure ⟨rfl, trivial⟩

theorem yields_literal {p : Float} (hp : p ∈ ps) (type : DataType) :
    Yields (Fault.OfChance ps) (literal p type) fun l => l.type = type ∧ Modest l :=
  .bind (Gen.yields_chance hp) fun _ _ =>
    .ite (fun _ => .pure ⟨rfl, trivial⟩) fun _ => yields_value type

theorem yields_leaf (hp : o.nullProbability ∈ ps) (type : DataType) :
    Yields (Fault.OfChance ps) (leaf o columns type) (Grown o columns levels type) := by
  have hliteral : Yields (Fault.OfChance ps)
      (do return Expr.literal (← literal o.nullProbability type))
      (Grown o columns levels type) := by
    refine .bind (yields_literal hp type) fun l hl => .pure ?_
    obtain ⟨rfl, hmodest⟩ := hl
    exact (Grown.literal hmodest).mono (Nat.zero_le _)
  unfold leaf
  refine .ite (fun hc => ?_) fun _ => hliteral
  have hne : columns.filter (·.type = type) ≠ [] := by
    rintro hnil
    rw [hnil] at hc
    exact absurd hc (by decide)
  refine .bind Gen.yields_coin fun b _ => .ite (fun _ => ?_) fun _ => hliteral
  refine .bind (Gen.yields_pick hne) fun c hc => .pure ?_
  obtain ⟨hmem, htype⟩ := List.mem_filter.mp hc
  obtain rfl := of_decide_eq_true htype
  exact (Grown.column hmem).mono (Nat.zero_le _)

/-! ## Nodes -/

section Nodes

variable {operand : DataType → Gen Expr}
  (hoperand : ∀ type, Yields (Fault.OfChance ps) (operand type) (Grown o columns levels type))

theorem yields_comparedType :
    Yields (Fault.OfChance ps) (comparedType columns) fun _ => True := by
  refine .bind (Gen.yields_choose? columns) fun c _ => ?_
  have hany : Yields (Fault.OfChance ps) (Gen.pick DataType.all) fun _ => True :=
    (Gen.yields_pick (by decide)).weaken fun _ _ => trivial
  cases c with
  | none => exact hany
  | some c => exact .bind Gen.yields_seldom fun b _ => .ite (fun _ => hany) fun _ => .pure trivial

/-- Connectives are drawn only where they are wanted. -/
theorem logic_of_mem_shapes {logic : Bool} (h : Shape.logical ∈ shapes logic) : logic = true := by
  cases logic with
  | true => rfl
  | false => exact absurd h (by decide)

include hoperand

theorem yields_booleanNode :
    Yields (Fault.OfChance ps) (booleanNode o columns operand)
      (Grown o columns (levels + 1) .boolean) := by
  refine .bind (Gen.yields_pick (by simp [shapes])) fun shape hshape => ?_
  cases shape with
  | negation =>
    refine .bind (hoperand _) fun e he => .pure ?_
    exact he.node₁ (.not he.typed) rfl rfl rfl
  | logical =>
    refine .bind (hoperand _) fun l hl => .bind (Gen.yields_pick (by decide)) fun op _ => ?_
    refine .bind (hoperand _) fun r hr => .pure ?_
    -- The node is a connective itself, so the options must want connectives.
    have hlogic := logic_of_mem_shapes hshape
    refine hl.node₂ hr (.logical hl.typed hr.typed) rfl (fun hno => ?_) rfl
    rw [hlogic] at hno
    exact absurd hno (by decide)
  | postfixed =>
    refine .bind (Gen.yields_pick (by decide)) fun op _ => ?_
    refine .bind (Gen.yields_pick (by cases op <;> decide)) fun type htype => ?_
    refine .bind (hoperand _) fun e he => .pure ?_
    have haccepts := (op.accepts_iff type).mp (List.mem_filter.mp htype).2
    exact he.node₁ (.postfixed haccepts he.typed) rfl rfl rfl
  | comparison =>
    refine .bind yields_comparedType fun type _ => .bind (hoperand _) fun l hl => ?_
    refine .bind (Gen.yields_pick (by decide)) fun op _ => .bind (hoperand _) fun r hr => .pure ?_
    exact hl.node₂ hr (.comparison hl.typed hr.typed) rfl (fun _ => rfl) rfl
  | between =>
    refine .bind (Gen.yields_pick (by decide)) fun type htype => .bind (hoperand _) fun e he => ?_
    refine .bind (hoperand _) fun l hl => .bind (hoperand _) fun h hh => ?_
    refine .bind Gen.yields_coin fun negated _ => .pure ?_
    exact he.between hl hh (by simpa using htype) negated
  | like =>
    refine .bind (hoperand _) fun e he => .bind (hoperand _) fun p hp => ?_
    refine .bind Gen.yields_coin fun negated _ => .pure ?_
    exact he.node₂ hp (.like he.typed hp.typed) rfl (fun _ => rfl) rfl

theorem yields_integerNode :
    Yields (Fault.OfChance ps) (integerNode operand) (Grown o columns (levels + 1) .integer) := by
  refine .bind Gen.yields_coin fun b _ => .ite (fun _ => ?_) fun _ => ?_
  · refine .bind (Gen.yields_pick (by decide)) fun op hop => .bind (hoperand _) fun e he => .pure ?_
    have hsign : op.IsSign := by simpa [PrefixOp.IsSign] using hop
    exact he.node₁ (.sign hsign he.typed) rfl rfl rfl
  · refine .bind (hoperand _) fun l hl => .bind (Gen.yields_pick (by decide)) fun op _ => ?_
    refine .bind (hoperand _) fun r hr => .pure ?_
    exact hl.node₂ hr (.arithmetic hl.typed hr.typed) rfl (fun _ => rfl) rfl

theorem yields_varcharNode (hp : o.nullProbability ∈ ps) :
    Yields (Fault.OfChance ps) (varcharNode o columns operand)
      (Grown o columns (levels + 1) .varchar) := by
  refine .bind Gen.yields_coin fun b _ => .ite (fun _ => yields_leaf hp _) fun _ => ?_
  refine .bind (hoperand _) fun l hl => .bind (hoperand _) fun r hr => .pure ?_
  exact hl.node₂ hr (.concat hl.typed hr.typed) rfl (fun _ => rfl) rfl

end Nodes

/-! ## Trees -/

theorem yields_exprWithin (hp : o.nullProbability ∈ ps) (levels : Nat) (type : DataType) :
    Yields (Fault.OfChance ps) (exprWithin o columns levels type)
      (Grown o columns levels type) := by
  induction levels generalizing type with
  | zero => exact yields_leaf hp type
  | succ levels ih =>
    refine .bind Gen.yields_rarely fun b _ => .ite (fun _ => yields_leaf hp type) fun _ => ?_
    -- The operands of a node have one level less, whatever their types are.
    cases type with
    | boolean => exact yields_booleanNode ih
    | integer => exact yields_integerNode ih
    | varchar => exact yields_varcharNode ih hp

theorem yields_predicate (hp : o.nullProbability ∈ ps) :
    Yields (Fault.OfChance ps) (predicate o columns)
      (Grown o columns (o.maxDepth + 1) .boolean) :=
  yields_exprWithin hp _ _

/-- **An expression is of the type that was asked for, and of no other**, it refers to the given
columns only, it holds connectives only if they are wanted, it nests no deeper than the options
allow, and its literals are modest. There is always an expression, unless the probability of a
NULL is not a number. -/
theorem expr_typed_scoped_bounded (o : Options) {columns : List Column} (hcolumns : Consistent columns)
    (type : DataType) (depth : Nat) (s : Random.Stream) :
    match ((expr o columns type depth).runOn s).1 with
    | .ok e =>
      (HasType columns e type ∧ ∀ t, HasType columns e t → t = type) ∧
        (∀ r ∈ e.refs, ∃ c ∈ columns, c.ref = r) ∧
        (o.logic = false → e.connectives = 0) ∧
        e.height ≤ o.maxDepth + 1 - depth ∧
        (∀ n, .integer n ∈ e.literals → -100 ≤ n ∧ n ≤ 100) ∧
        ∀ t, .varchar t ∈ e.literals → t.toList.length ≤ 3 ∧ ∀ c ∈ t.toList, c ∈ alphabet
    | .error f => f = .undefinedProbability ∧
        Random.Odds.ofProbability o.nullProbability = .undefined := by
  have hyields : Yields (Fault.OfChance [o.nullProbability]) (expr o columns type depth)
      (Grown o columns (o.maxDepth + 1 - depth) type) :=
    yields_exprWithin List.mem_cons_self _ type
  rcases hrun : (expr o columns type depth).runOn s with ⟨f | e, s'⟩
  · obtain ⟨⟨hf, p, hp, hodds⟩, -⟩ := hyields.of_runOn_error hrun
    obtain rfl := List.mem_singleton.mp hp
    exact ⟨hf, hodds⟩
  · obtain ⟨hgrown, -⟩ := hyields.of_runOn_ok hrun
    have hunique : ∀ t, HasType columns e t → t = type :=
      fun t ht => ht.unique hcolumns hgrown.typed
    exact ⟨⟨hgrown.typed, hunique⟩, hgrown.typed.scope, hgrown.connectives, hgrown.height_le,
      fun n hn => hgrown.modest _ hn, fun t ht => hgrown.modest _ ht⟩

/-- Two columns of one name in two tables are told apart, each where its type is wanted. -/
theorem expr_typed_scoped_bounded_two_tables :
    let columns : List Column :=
      [⟨"t0", "c0", .integer, true⟩, ⟨"t0", "c1", .varchar, true⟩, ⟨"t1", "c0", .varchar, true⟩]
    let e : Expr := .logical .and
      (.comparison .le (.column ⟨"t0", "c0"⟩) (.column ⟨"t0", "c0"⟩))
      (.like false (.literal (.varchar "cAa")) (.column ⟨"t1", "c0"⟩))
    Consistent columns ∧
      ((expr ⟨1, true, 0.05⟩ columns .boolean 0).runOn (.ofSeed 38)).1 = .ok e ∧
      HasType columns e .boolean ∧ (∀ t, HasType columns e t → t = .boolean) ∧ e.height ≤ 2 := by
  intro columns e
  have hcolumns : Consistent columns := by decide
  have hrun : ((expr ⟨1, true, 0.05⟩ columns .boolean 0).runOn (.ofSeed 38)).1 = .ok e := by
    decide +kernel
  have hgrown := expr_typed_scoped_bounded ⟨1, true, 0.05⟩ hcolumns .boolean 0 (.ofSeed 38)
  rw [hrun] at hgrown
  obtain ⟨⟨htyped, hunique⟩, -, -, hheight, -⟩ := hgrown
  exact ⟨hcolumns, hrun, htyped, hunique, hheight⟩

end PredicateOracle.Generate
