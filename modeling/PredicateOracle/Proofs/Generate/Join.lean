import PredicateOracle.Proofs.Generate.RowSource
import PredicateOracle.Proofs.Random.Odds

/-!
# PredicateOracle.Proofs.Generate.Join -- a row source neither loses, doubles nor moves a table

The conditions of joins may come from a generator that has a state of its own. What a row source is
then made of is told by `Assembled`, step by step: the tables as they are, or a join of the first two
in front of what is made of the others. The names, the number of joins and the questions to the
generator follow by induction over the steps.
-/

namespace PredicateOracle.Generate

open Sql
open PredicateOracle.Random (Stream)

/-! ## Generators with a state -/

/-- Predicates over columns, from a generator with a state. -/
abbrev Generator (γ : Type) := γ → List Column → Gen (Expr × γ)

variable {γ : Type}

/-- A generator without a state of its own keeps the one it is given. -/
def Generator.stateless (predicate : List Column → Gen Expr) : Generator γ :=
  fun c columns => (·, c) <$> predicate columns

/-- A row source whose conditions come from a generator with a state. -/
def rowSourceWith (g : Generator γ) (joinProbability : Float) :
    γ → List Table → Gen (RowSource × γ)
  | c, left :: right :: rest => do
    if ← Gen.chance joinProbability then
      let kind ← Gen.pick JoinKind.all
      let (on, c) ← g c (left.columns ++ right.columns)
      let (source, c) ← rowSourceWith g joinProbability c rest
      return ({ source with joins := ⟨left.name, kind, right.name, on⟩ :: source.joins }, c)
    else return (⟨(left :: right :: rest).map (·.name), []⟩, c)
  | c, tables => return (⟨tables.map (·.name), []⟩, c)

/-- A list that has no two tables is left as it is. -/
theorem rowSourceWith_of_short {tables : List Table}
    (hshort : ∀ left right rest, tables = left :: right :: rest → False) (g : Generator γ) (p : Float)
    (c : γ) :
    tables.length ≤ 1 ∧ rowSourceWith g p c tables = pure (⟨tables.map (·.name), []⟩, c) := by
  match tables with
  | [] | [_] => exact ⟨by simp, rfl⟩
  | left :: right :: rest => exact absurd rfl (hshort left right rest)

/-- Row sources as they are drawn are the case of a generator without a state. -/
theorem rowSourceWith_stateless (predicate : List Column → Gen Expr) (p : Float) (c : γ)
    (tables : List Table) :
    rowSourceWith (.stateless predicate) p c tables = (·, c) <$> rowSource predicate p tables := by
  induction tables using rowSource.induct with
  | case1 left right rest ih =>
    unfold rowSourceWith rowSource
    simp only [Generator.stateless, map_bind, bind_map_left, ih]
    refine congrArg _ (funext fun joined => ?_)
    cases joined <;> simp
  | case2 tables hshort =>
    rw [(rowSourceWith_of_short hshort _ p c).2]
    unfold rowSource
    split
    · exact absurd rfl (hshort _ _ _)
    · simp

/-- **`Answers g c asked c'`** -- asked for one predicate after the other, over the columns that stand
in `asked`, the generator gives what stands beside them, and gets from the state `c` to `c'`. -/
inductive Answers (g : Generator γ) : γ → List (List Column × Expr) → γ → Prop
  | nil {c : γ} : Answers g c [] c
  | cons {c c' c'' : γ} {columns : List Column} {e : Expr} {asked : List (List Column × Expr)}
      {s t : Stream} (he : (g c columns).runOn s = (.ok (e, c'), t)) (h : Answers g c' asked c'') :
    Answers g c ((columns, e) :: asked) c''

/-! ## The steps of the loop -/

/-- **`Assembled g p c tables source c'`** -- with the generator in the state `c` the tables are put
together into `source`, and the generator ends in the state `c'`. -/
inductive Assembled (g : Generator γ) (p : Float) : γ → List Table → RowSource → γ → Prop
  /-- The tables stay by themselves. -/
  | rest {c : γ} {tables : List Table} (hp : 1 ≤ p → tables.length ≤ 1) :
    Assembled g p c tables ⟨tables.map (·.name), []⟩ c
  /-- The first two are joined. -/
  | join {c c' c'' : γ} {left right : Table} {tables : List Table} {on : Expr} {s t : Stream}
      {source : RowSource} (kind : JoinKind) (hp : ¬ p ≤ 0)
      (hon : (g c (left.columns ++ right.columns)).runOn s = (.ok (on, c'), t))
      (h : Assembled g p c' tables source c'') :
    Assembled g p c (left :: right :: tables)
      { source with joins := ⟨left.name, kind, right.name, on⟩ :: source.joins } c''

variable {g : Generator γ} {p : Float} {c c' : γ} {tables : List Table} {source : RowSource}

/-- What is drawn is assembled. -/
theorem assembled_of_runOn {s t : Stream}
    (h : (rowSourceWith g p c tables).runOn s = (.ok (source, c'), t)) :
    Assembled g p c tables source c' := by
  induction c, tables using rowSourceWith.induct generalizing s source with
  | case1 c left right rest ih =>
    unfold rowSourceWith at h
    obtain ⟨joined, s₁, hjoined, h⟩ := Gen.runOn_bind_eq_ok.mp h
    cases joined with
    | true =>
      obtain ⟨kind, s₂, -, h⟩ := Gen.runOn_bind_eq_ok.mp h
      obtain ⟨⟨on, c₁⟩, s₃, hon, h⟩ := Gen.runOn_bind_eq_ok.mp h
      obtain ⟨⟨source₁, c₂⟩, s₄, hsource, h⟩ := Gen.runOn_bind_eq_ok.mp h
      cases h
      -- The coin came up, which it does not without a chance.
      refine .join kind (fun hp => ?_) hon (ih c₁ hsource)
      have hnever := Gen.runOn_chance_of_le_zero hp s
      rw [hjoined] at hnever
      exact absurd hnever (by simp)
    | false =>
      cases h
      -- It did not come up, so the join was not certain.
      refine .rest fun hp => ?_
      rw [Gen.runOn_chance_of_one_le hp] at hjoined
      exact absurd hjoined (by simp)
  | case2 c tables hshort =>
    obtain ⟨hlength, hpure⟩ := rowSourceWith_of_short hshort g p c
    rw [hpure] at h
    cases h
    exact .rest fun _ => hlength

/-- There is a row source unless the generator has no predicate or the probability is not a
number. -/
theorem fault_of_runOn_error {s t : Stream} {f : Fault}
    (h : (rowSourceWith g p c tables).runOn s = (.error f, t)) :
    (f = .undefinedProbability ∧ p.isNaN = true ∧ 2 ≤ tables.length) ∨
      ∃ c columns s t, (g c columns).runOn s = (.error f, t) := by
  induction c, tables using rowSourceWith.induct generalizing s with
  | case1 c left right rest ih =>
    unfold rowSourceWith at h
    obtain hcoin | ⟨joined, s₁, -, h⟩ := Gen.runOn_bind_eq_error.mp h
    · obtain ⟨hf, hp⟩ := Gen.runOn_chance_eq_error hcoin
      exact .inl ⟨hf, hp, by simp⟩
    cases joined with
    | true =>
      obtain hkind | ⟨kind, s₂, -, h⟩ := Gen.runOn_bind_eq_error.mp h
      · have hpick : Gen.Yields (fun _ => False) (Gen.pick JoinKind.all) _ :=
          Gen.yields_pick (by decide)
        exact (hpick.of_runOn_error hkind).1.elim
      obtain hon | ⟨⟨on, c₁⟩, s₃, -, h⟩ := Gen.runOn_bind_eq_error.mp h
      · exact .inr ⟨c, _, s₂, t, hon⟩
      obtain hsource | ⟨⟨source₁, c₂⟩, s₄, -, h⟩ := Gen.runOn_bind_eq_error.mp h
      · obtain ⟨hf, hp, -⟩ | hg := ih c₁ hsource
        · exact .inl ⟨hf, hp, by simp⟩
        · exact .inr hg
      · exact absurd h nofun
    | false => exact absurd h nofun
  | case2 c tables hshort =>
    rw [(rowSourceWith_of_short hshort g p c).2] at h
    exact absurd h nofun

/-! ## What the steps come to -/

namespace Assembled

/-- The sides of the joins and the single tables are the tables in their order. -/
theorem names (h : Assembled g p c tables source c') : source.names = tables.map (·.name) := by
  induction h with
  | rest => rfl
  | @join c c' c'' left right tables on s t source kind hp hon h ih =>
    show left.name :: right.name :: source.names = _
    rw [ih]
    rfl

/-- Each join takes two tables. -/
theorem count (h : Assembled g p c tables source c') :
    2 * source.joins.length + source.tables.length = tables.length := by
  induction h with
  | rest => simp
  | @join c c' c'' left right tables on s t source kind hp hon h ih =>
    show 2 * (source.joins.length + 1) + source.tables.length = tables.length + 2
    omega

/-- The generator is asked once for each join, over the columns of its two tables. -/
theorem answers (h : Assembled g p c tables source c') :
    ∃ asked, Answers g c asked c' ∧ asked.length = source.joins.length ∧
      ∀ j join, source.joins[j]? = some join → ∃ left right,
        tables[2 * j]? = some left ∧ tables[2 * j + 1]? = some right ∧
        asked[j]? = some (left.columns ++ right.columns, join.on) := by
  induction h with
  | rest => exact ⟨[], .nil, rfl, fun j join hj => nomatch hj⟩
  | @join c c' c'' left right tables on s t source kind hp hon h ih =>
    obtain ⟨asked, hasked, hlength, heach⟩ := ih
    refine ⟨(left.columns ++ right.columns, on) :: asked, .cons hon hasked, by simp [hlength],
      fun j join hj => ?_⟩
    cases j with
    | zero =>
      cases hj
      exact ⟨left, right, rfl, rfl, rfl⟩
    | succ j => exact heach j join hj

/-- A join that is certain leaves no two tables. -/
theorem length_tables_le (h : Assembled g p c tables source c') (hp : 1 ≤ p) :
    source.tables.length ≤ 1 := by
  induction h with
  | rest hshort =>
    rw [List.length_map]
    exact hshort hp
  | join kind hpos hon h ih => exact ih

/-- A join that has no chance is never made. -/
theorem joins_eq_nil (h : Assembled g p c tables source c') (hp : p ≤ 0) : source.joins = [] := by
  cases h with
  | rest => rfl
  | join kind hpos hon h => exact absurd hp hpos

end Assembled

/-- **A row source neither loses, doubles nor moves a table**, whatever the generator of its
conditions is and whatever state it has. The sides of the joins, and then the single tables, are the
tables in their order, and so each join takes two of them. The generator is asked once for each join,
one after the other, and the condition of join `j` is its answer over the columns of the tables `2 * j`
and `2 * j + 1`. If joins are certain at most one table stays by itself, and if they have no chance
there are none. A row source is found unless the generator has no answer, or there are two tables and
the probability is not a number. -/
theorem rowSource_keeps_tables (g : Generator γ) (p : Float) (c : γ) (tables : List Table)
    (r : Stream) :
    (∀ predicate : List Column → Gen Expr,
      rowSourceWith (.stateless predicate) p c tables = (·, c) <$> rowSource predicate p tables) ∧
    match (rowSourceWith g p c tables).runOn r with
    | (.ok (source, c'), _) =>
      source.joins.flatMap (fun j => [j.left, j.right]) ++ source.tables = tables.map (·.name) ∧
      2 * source.joins.length + source.tables.length = tables.length ∧
      (∃ asked, Answers g c asked c' ∧ asked.length = source.joins.length ∧
        ∀ j join, source.joins[j]? = some join → ∃ left right,
          tables[2 * j]? = some left ∧ tables[2 * j + 1]? = some right ∧
          asked[j]? = some (left.columns ++ right.columns, join.on)) ∧
      (1 ≤ p → source.tables.length ≤ 1) ∧
      (p ≤ 0 → source.joins = [])
    | (.error f, _) =>
      (f = .undefinedProbability ∧ p.isNaN = true ∧ 2 ≤ tables.length) ∨
        ∃ c columns s t, (g c columns).runOn s = (.error f, t) := by
  refine ⟨fun predicate => rowSourceWith_stateless predicate p c tables, ?_⟩
  rcases hrun : (rowSourceWith g p c tables).runOn r with ⟨f | ⟨source, c'⟩, t⟩
  · exact fault_of_runOn_error hrun
  · have h := assembled_of_runOn hrun
    exact ⟨h.names, h.count, h.answers, h.length_tables_le, h.joins_eq_nil⟩

/-- If joins are certain, the last of five tables stays by itself. Each condition is over the columns of
both tables of its join: the generator takes one column from each list it is given, first the second,
then the third. -/
theorem rowSource_keeps_tables_five :
    let column (table name : String) : Column := ⟨table, name, .boolean, true⟩
    let five : List Table := [⟨"a", [column "a" "x"]⟩, ⟨"b", [column "b" "y", column "b" "z"]⟩,
      ⟨"b", [column "b" "y", column "b" "z"]⟩, ⟨"c", [column "c" "v", column "c" "w"]⟩,
      ⟨"d", [column "d" "u"]⟩]
    let inTurn : Generator Nat := fun n columns => pure (match columns[n]? with
      | some c => .column c.ref
      | none => .literal (.boolean true), n + 1)
    ∃ source t, (rowSourceWith inTurn 1 1 five).runOn (.ofSeed 2) = (.ok (source, 3), t) ∧
      source.joins.map (fun j => (j.left, j.right, j.on)) =
        [("a", "b", .column ⟨"b", "y"⟩), ("b", "c", .column ⟨"c", "v"⟩)] ∧
      source.tables = ["d"] := by
  intro column five inTurn
  have h := (rowSource_keeps_tables inTurn 1 1 five (.ofSeed 2)).2
  rcases hrun : (rowSourceWith inTurn 1 1 five).runOn (.ofSeed 2) with
    ⟨f | ⟨⟨single, joins⟩, n⟩, t⟩
  · rw [hrun] at h
    obtain ⟨-, hnan, -⟩ | ⟨n, columns, s, t, hf⟩ := h
    · exact absurd hnan (by decide +kernel)
    · exact absurd hf nofun
  · rw [hrun] at h
    obtain ⟨hnames, hcount, ⟨asked, hasked, hlength, hover⟩, hsingle, -⟩ := h
    have hone : single.length ≤ 1 := hsingle (by decide +kernel)
    have hjoins : joins.length = 2 := by
      change 2 * joins.length + single.length = 5 at hcount
      omega
    obtain ⟨⟨left, kind, right, on⟩, ⟨left', kind', right', on'⟩, rfl⟩ := List.length_eq_two.mp hjoins
    obtain ⟨a, a', rfl⟩ := List.length_eq_two.mp hlength
    -- The first condition is over the columns of the first two tables, the second over the next two.
    obtain ⟨-, -, ⟨⟩, ⟨⟩, ⟨⟩⟩ := hover 0 ⟨left, kind, right, on⟩ rfl
    obtain ⟨-, -, ⟨⟩, ⟨⟩, ⟨⟩⟩ := hover 1 ⟨left', kind', right', on'⟩ rfl
    obtain _ | ⟨hon, _ | ⟨hon', _ | _⟩⟩ := hasked
    cases hon
    cases hon'
    have hlast : [left, right, left', right'] ++ single = ["a", "b", "b", "c", "d"] := hnames
    simp only [List.cons_append, List.nil_append, List.cons.injEq] at hlast
    obtain ⟨rfl, rfl, rfl, rfl, rfl⟩ := hlast
    exact ⟨_, t, rfl, rfl, rfl⟩

end PredicateOracle.Generate
