import PredicateOracle.Check.Oracle
import PredicateOracle.Proofs.Check.Snapshot
import PredicateOracle.Proofs.Generate.Expr
import PredicateOracle.Proofs.Generate.RowSource
import PredicateOracle.Proofs.Predicate.Compound

/-!
# PredicateOracle.Proofs.Check.Plan -- what a plan fixes

A plan suits its schema (`Plan.Suits`): its target tables and its fetched columns are selections in
order, none of them empty, and it has as many predicates as the options say. Together with an answer
to its first query a plan fixes all that the check knows: the snapshot, the truth of every formula
over its predicates, and the rows that a filter with the formula keeps.
-/

namespace PredicateOracle.Check

open Sql
open Gen (Yields)

/-! ## Plans for a schema -/

/-- **`p.Suits o s`** -- the plan `p` is one for the schema `s` under the options `o`. -/
structure Plan.Suits (p : Plan) (o : Options) (s : Schema) : Prop where
  /-- The target tables are tables of the schema that have a column, in their order. -/
  tables : p.tables.Sublist s.usable
  tables_ne : p.tables ≠ []
  tables_few : p.tables.length ≤ max 1 o.maxTables
  /-- The fetched columns are columns of the target tables, in their order. -/
  fetched : p.fetched.Sublist (columnsOf p.tables)
  fetched_ne : p.fetched ≠ []
  predicates : p.predicates.length = o.predicates
  room : Record.expression.HasRoom o.predicates

namespace Plan

variable {o : Options} {g : Generate.Options} {ps : List Float}

theorem yields_drawFetched {F : Fault → Prop} {columns : List Column} (hne : columns ≠ []) :
    Yields F (drawFetched columns) fun fetched => fetched.Sublist columns ∧ fetched ≠ [] := by
  refine .bind Gen.yields_coin fun all _ => .ite (fun _ => .pure ⟨.refl _, hne⟩) fun _ => ?_
  exact (Gen.yields_subset columns).weaken fun fetched h => ⟨h.1, h.2 hne⟩

/-- **`p.WellTyped`** -- over the columns of the target tables the predicates of the plan are
booleans, and its row source is made of these tables. -/
structure WellTyped (p : Plan) : Prop where
  source : p.source.Over IsBoolean p.tables
  predicates : ∀ e ∈ p.predicates, IsBoolean (columnsOf p.tables) e

/-- **`p.GrownBy g`** -- the predicates of the plan and the conditions of its joins are as a generator
with the options `g` makes them, over the columns of the target tables. -/
structure GrownBy (p : Plan) (g : Generate.Options) : Prop where
  source : p.source.Over (fun columns => Generate.Grown g columns (g.maxDepth + 1) .boolean) p.tables
  predicates : ∀ e ∈ p.predicates,
    Generate.Grown g (columnsOf p.tables) (g.maxDepth + 1) .boolean e

theorem GrownBy.wellTyped {p : Plan} (h : p.GrownBy g) : p.WellTyped :=
  ⟨h.source.mono fun _ _ hon => hon.typed, fun e he => (h.predicates e he).typed⟩

/-- The tables of a plan are among the usable ones, so there are usable ones. -/
theorem Suits.usable_ne {p : Plan} {o : Options} {s : Schema} (h : p.Suits o s) : s.usable ≠ [] :=
  fun hnil => h.tables_ne (List.sublist_nil.mp (hnil ▸ h.tables))

/-- **A plan suits the schema that it is drawn for and is grown for it**, and there is none exactly if
no table has a column. Only a probability that is not a number or a lack of room for the predicates
keeps a plan from being drawn, and neither is met before there are target tables. -/
theorem yields_draw (hjoin : o.joinProbability ∈ ps) (hordered : o.orderedProbability ∈ ps)
    (hnull : g.nullProbability ∈ ps) (s : Schema) :
    Yields (fun f => (f.OfChance ps ∨ f.OfRoom .expression o.predicates) ∧ s.usable ≠ [])
      (draw o g s) fun plan =>
      match plan with
      | none => s.usable = []
      | some p => p.Suits o s ∧ p.GrownBy g := by
  refine .bind (Generate.yields_targets s o.maxTables) fun targets htargets => ?_
  cases targets with
  | none => exact .pure htargets
  | some tables =>
    obtain ⟨hsub, hne, hfew⟩ := htargets
    have husable : s.usable ≠ [] := fun hnil => hne (List.sublist_nil.mp (hnil ▸ hsub))
    refine Gen.Yields.mono (F := fun f => f.OfChance ps ∨ f.OfRoom .expression o.predicates) ?_
      (fun f hf => ⟨hf, husable⟩) fun _ h => h
    refine .bind (yields_drawFetched (columnsOf_ne_nil hsub hne)) fun fetched hfetched => ?_
    have hpredicate : ∀ columns, Yields (Fault.OfChance ps) (Generate.predicate g columns)
        (Generate.Grown g columns (g.maxDepth + 1) .boolean) :=
      fun _ => Generate.yields_predicate hnull
    have hsource := Generate.yields_rowSource (Gen.yields_chance hjoin) hpredicate tables
    refine .bind (hsource.mono (fun _ => .inl) fun _ h => h) fun source hsource => ?_
    refine .bind ((Gen.yields_reserve .expression o.predicates).mono (fun _ => .inr) fun _ h => h) ?_
    intro _ hroom
    refine Gen.Yields.mono (F := Fault.OfChance ps) ?_ (fun _ => .inl) fun _ h => h
    refine .bind (Gen.yields_times (hpredicate _) o.predicates) fun predicates hpredicates => ?_
    refine .bind (Gen.yields_chance hordered) fun ordered _ => .pure ?_
    exact ⟨⟨hsub, hne, hfew, hfetched.1, hfetched.2, hpredicates.1, hroom⟩, hsource, hpredicates.2⟩

/-! ## Queries of a plan -/

/-- **`p.Fetches q`** -- the query `q` asks for the fetched columns and then for the value of every
predicate, on all rows of the source. -/
structure Fetches (p : Plan) (q : Select) : Prop where
  distinct : q.distinct = false
  filter : q.filter = none
  projection : q.projection = p.projection ++ p.predicates
  orderBy : q.orderBy = [] ∨ q.orderBy = p.projection

/-- **`p.Verifies mode q q'`** -- the query `q'` asks for the fetched columns from the FROM clause of
`q` and in its order, for the rows on which a formula over the predicates holds. -/
structure Verifies (p : Plan) (mode : Mode) (q q' : Select) : Prop where
  tables : q'.source.tables = q.source.tables
  joins : q'.source.joins = q.source.joins
  orderBy : q'.orderBy = q.orderBy
  distinct : q'.distinct = true ↔ mode = .distinct
  projection : q'.projection = p.projection
  filter : ∃ φ : Formula (Fin p.predicates.length), q'.filter = some (φ.expr (p.predicates[·]))

variable (p : Plan)

/-- The compound of the predicates that a formula stands for. -/
def compoundOf (φ : Formula (Fin p.predicates.length)) : Expr := φ.expr (p.predicates[·])

theorem fetches_fetch : p.Fetches p.fetch := by
  refine ⟨rfl, rfl, rfl, ?_⟩
  change p.orderBy = [] ∨ p.orderBy = p.projection
  rw [orderBy]
  cases p.ordered with
  | true => exact .inr rfl
  | false => exact .inl rfl

theorem verifies_verification (mode : Mode) (φ : Formula (Fin p.predicates.length)) :
    p.Verifies mode p.fetch (p.verification mode (p.compoundOf φ)) :=
  ⟨rfl, rfl, rfl, decide_eq_true_iff, rfl, φ, rfl⟩

/-! ## Knowledge from an answer -/

/-- An answer to the first query with the right number of cells and a truth value wherever one is
due. -/
def WellFormed (answer : List Row) : Prop :=
  Snapshot.WellFormed p.fetched.length p.predicates.length answer

instance (answer : List Row) : Decidable (p.WellFormed answer) :=
  inferInstanceAs (Decidable (Snapshot.WellFormed _ _ answer))

/-- What a row of the answer states about predicate number `j`. -/
def stated (j : Fin p.predicates.length) (row : Row) : Truth :=
  Snapshot.stated p.fetched.length j row

/-- The value of a formula on a row of the answer. -/
def valueOn (φ : Formula (Fin p.predicates.length)) (row : Row) : Truth :=
  φ.value fun j => p.stated j row

/-- The contents of the rows on which a formula holds, in the order of the answer. -/
def kept (answer : List Row) (φ : Formula (Fin p.predicates.length)) : List Row :=
  (answer.filter fun row => p.valueOn φ row = .holds).map (·.take p.fetched.length)

/-- The snapshot that a well-formed answer comes to. -/
def snapshot (answer : List Row) : Snapshot :=
  ⟨answer.map (·.take p.fetched.length),
    p.predicates.mapIdx fun j e => ⟨e, answer.map (Snapshot.stated p.fetched.length j)⟩,
    p.fetch.sql⟩

/-- A formula as a predicate that is known on the answer. -/
def known (answer : List Row) (φ : Formula (Fin p.predicates.length)) : Known :=
  ⟨p.compoundOf φ, answer.map (p.valueOn φ)⟩

/-- The predicates of the snapshot are those of the plan. -/
theorem snapshot_texts (answer : List Row) :
    (p.snapshot answer).predicates.map (·.expression.sql) = p.predicates.map Expr.sql := by
  refine List.ext_getElem (by simp [snapshot]) fun j _ _ => ?_
  simp [snapshot]

variable {p} {answer : List Row}

theorem ofRows_eq_ok_iff {s : Snapshot} :
    Snapshot.ofRows answer p.projection.length p.predicates p.fetch.sql = .ok s ↔
      p.WellFormed answer ∧ s = p.snapshot answer := by
  have hwidth : p.projection.length = p.fetched.length := List.length_map _
  rw [hwidth]
  constructor
  · intro h
    have hanswer := Snapshot.wellFormed_of_ofRows h
    rw [Snapshot.ofRows_wellFormed hanswer] at h
    exact ⟨hanswer, (Except.ok.inj h).symm⟩
  · rintro ⟨hanswer, rfl⟩
    exact Snapshot.ofRows_wellFormed hanswer _

/-- **A compound drawn from a snapshot is a formula over the predicates of the plan**, known on the
answer. -/
theorem yields_compound (p : Plan) (answer : List Row) (c : CompoundOptions) :
    Yields (Fault.OfChance [c.leafProbability])
      (Pool.compound ⟨(p.snapshot answer).predicates⟩ c) fun compound =>
        match compound with
        | none => p.predicates = []
        | some k => p.predicates ≠ [] ∧ ∃ φ, k = p.known answer φ := by
  have hatoms : ∀ k ∈ (p.snapshot answer).predicates, ∃ φ,
      k.Shows answer (p.predicates[·] : Fin p.predicates.length → Expr) p.stated φ := by
    intro k hk
    obtain ⟨j, hj, rfl⟩ := List.mem_mapIdx.mp hk
    exact ⟨.atom ⟨j, hj⟩, rfl, rfl⟩
  refine (Pool.yields_compoundWithin hatoms c c.maxDepth).weaken fun compound hcompound => ?_
  have hnil : (p.snapshot answer).predicates = [] ↔ p.predicates = [] := List.mapIdx_eq_nil_iff
  cases compound with
  | none => exact hnil.mp hcompound
  | some k =>
    obtain ⟨expression, truth⟩ := k
    obtain ⟨hne, φ, rfl, rfl⟩ := hcompound
    exact ⟨mt hnil.mpr hne, φ, rfl⟩

end Plan
end PredicateOracle.Check
