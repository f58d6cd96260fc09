import PredicateOracle.Proofs.Sql.Tree

/-!
# PredicateOracle.Proofs.Sql.Typing -- the types of expressions

`HasType columns e t` -- over the given columns, `e` is an expression of type `t`. The rules are those
of SQL, one for each kind of node; they are written down without the operators' own tables, so that
`PostfixOp.accepts` can be measured by them (`PostfixOp.accepts_iff`). A well-typed expression is
well scoped, and if the columns contradict each other nowhere, it has one type only.
-/

namespace PredicateOracle.Sql

/-- A prefix operator of integers. -/
def PrefixOp.IsSign (op : PrefixOp) : Prop := op = .plus ∨ op = .minus

/-- A postfix operator that asks for a truth value, and not only whether there is a value. -/
def PostfixOp.AsksTruth (op : PostfixOp) : Prop := op = .isTrue ∨ op = .isFalse

/-- **`HasType columns e t`** -- the type of `e` is `t` if the columns are these. -/
inductive HasType (columns : List Column) : Expr → DataType → Prop where
  | column {c : Column} {r : ColumnRef} {t : DataType} (hc : c ∈ columns) (href : c.ref = r)
      (htype : c.type = t) : HasType columns (.column r) t
  | literal {l : Literal} {t : DataType} (htype : l.type = t) : HasType columns (.literal l) t
  | not {e : Expr} (he : HasType columns e .boolean) : HasType columns (.prefixed .not e) .boolean
  | sign {op : PrefixOp} {e : Expr} (hop : op.IsSign) (he : HasType columns e .integer) :
      HasType columns (.prefixed op e) .integer
  | postfixed {op : PostfixOp} {e : Expr} {t : DataType} (hop : op.AsksTruth → t = .boolean)
      (he : HasType columns e t) : HasType columns (.postfixed op e) .boolean
  | logical {op : Connective} {l r : Expr} (hl : HasType columns l .boolean)
      (hr : HasType columns r .boolean) : HasType columns (.logical op l r) .boolean
  | comparison {op : ComparisonOp} {l r : Expr} {t : DataType} (hl : HasType columns l t)
      (hr : HasType columns r t) : HasType columns (.comparison op l r) .boolean
  | arithmetic {op : ArithmeticOp} {l r : Expr} (hl : HasType columns l .integer)
      (hr : HasType columns r .integer) : HasType columns (.arithmetic op l r) .integer
  | concat {l r : Expr} (hl : HasType columns l .varchar) (hr : HasType columns r .varchar) :
      HasType columns (.concat l r) .varchar
  | between {negated : Bool} {e l h : Expr} {t : DataType} (ht : t = .integer ∨ t = .varchar)
      (he : HasType columns e t) (hl : HasType columns l t) (hh : HasType columns h t) :
      HasType columns (.between negated e l h) .boolean
  | like {negated : Bool} {e p : Expr} (he : HasType columns e .varchar)
      (hp : HasType columns p .varchar) : HasType columns (.like negated e p) .boolean

/-- Anything may be NULL, but only a boolean is true or false. -/
theorem PostfixOp.accepts_iff (op : PostfixOp) (t : DataType) :
    op.accepts t = true ↔ (op.AsksTruth → t = .boolean) := by
  cases op <;> simp [accepts, AsksTruth]

/-- **`Consistent columns`** -- no name stands for columns of two types. -/
def Consistent (columns : List Column) : Prop :=
  ∀ c ∈ columns, ∀ d ∈ columns, c.ref = d.ref → c.type = d.type

instance (columns : List Column) : Decidable (Consistent columns) :=
  inferInstanceAs (Decidable (∀ c ∈ columns, ∀ d ∈ columns, c.ref = d.ref → c.type = d.type))

namespace HasType

variable {columns : List Column} {e : Expr} {t t' : DataType}

/-- Over consistent columns an expression has at most one type. Only a column and a literal have a
type of their own; the type of every other node is that of its operator. -/
theorem unique (hcolumns : Consistent columns) (h : HasType columns e t)
    (h' : HasType columns e t') : t = t' := by
  cases h with
  | column hc href htype =>
    cases h' with
    | column hd hdref hdtype =>
      rw [← htype, ← hdtype]
      exact hcolumns _ hc _ hd (href.trans hdref.symm)
  | literal htype =>
    cases h' with
    | literal htype' => rw [← htype, ← htype']
  -- NOT and the signs share a constructor, so here two rules have to be told apart.
  | not _ =>
    cases h' with
    | not _ => rfl
    | sign hop _ => rcases hop with hop | hop <;> exact absurd hop (by decide)
  | sign hop _ =>
    cases h' with
    | not _ => rcases hop with hop | hop <;> exact absurd hop (by decide)
    | sign _ _ => rfl
  | _ =>
    cases h'
    rfl

/-- Every column that a well-typed expression refers to is one of the columns. -/
theorem scope (h : HasType columns e t) : ∀ r ∈ e.refs, ∃ c ∈ columns, c.ref = r := by
  induction h with
  | column hc href _ =>
    intro r hr
    obtain rfl := List.mem_singleton.mp hr
    exact ⟨_, hc, href⟩
  | literal _ => exact fun r hr => absurd hr List.not_mem_nil
  | not _ ih => exact ih
  | sign _ _ ih => exact ih
  | postfixed _ _ ih => exact ih
  | logical _ _ ihl ihr => exact List.forall_mem_append.mpr ⟨ihl, ihr⟩
  | comparison _ _ ihl ihr => exact List.forall_mem_append.mpr ⟨ihl, ihr⟩
  | arithmetic _ _ ihl ihr => exact List.forall_mem_append.mpr ⟨ihl, ihr⟩
  | concat _ _ ihl ihr => exact List.forall_mem_append.mpr ⟨ihl, ihr⟩
  | like _ _ ihl ihr => exact List.forall_mem_append.mpr ⟨ihl, ihr⟩
  | between _ _ _ _ ihe ihl ihh =>
    exact List.forall_mem_append.mpr ⟨List.forall_mem_append.mpr ⟨ihe, ihl⟩, ihh⟩

/-- More columns leave what is well typed well typed. -/
theorem mono {more : List Column} (h : HasType columns e t) (hsub : columns ⊆ more) :
    HasType more e t := by
  induction h with
  | column hc href htype => exact .column (hsub hc) href htype
  | literal htype => exact .literal htype
  | not _ ih => exact .not ih
  | sign hop _ ih => exact .sign hop ih
  | postfixed hop _ ih => exact .postfixed hop ih
  | logical _ _ ihl ihr => exact .logical ihl ihr
  | comparison _ _ ihl ihr => exact .comparison ihl ihr
  | arithmetic _ _ ihl ihr => exact .arithmetic ihl ihr
  | concat _ _ ihl ihr => exact .concat ihl ihr
  | between ht _ _ _ ihe ihl ihh => exact .between ht ihe ihl ihh
  | like _ _ ihe ihp => exact .like ihe ihp

end HasType
end PredicateOracle.Sql
