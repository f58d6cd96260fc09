import PredicateOracle.Proofs.Check.Queries
import PredicateOracle.Proofs.Workload.Contents

/-!
# PredicateOracle.Proofs.Check.Range -- generated arithmetic stays in range

An engine works out integers in 32 bits, and an error because one did not fit would say nothing about
the engine. Literals are small, and every level of an expression doubles a value at most. Two layers of
expressions can come on top of each other, since predicates are over the columns of views and those are
expressions over base tables: `2 ^ (maxDepth + 1)` for the first, and once more for the second. Views
are never over views, so there is no third one. With at most eleven for the greatest depth the values
of all expressions, and of all expressions inside of them, are in range (`generated_integers_in_range`).
-/

namespace PredicateOracle

open Sql
open PredicateOracle.Random (Stream)

/-- **`e.InInt32 ρ`** -- on the row `ρ` the expression `e` and all expressions inside of it have integer
values of 32 bits with a sign. -/
def Sql.Expr.InInt32 (ρ : IntegerRow) (e : Expr) : Prop :=
  ∀ s ∈ e.subexpressions, ∀ n, s.integer? ρ = some n → -2 ^ (31 : Nat) ≤ n ∧ n < 2 ^ (31 : Nat)

theorem Sql.Expr.Within.inInt32 {ρ : IntegerRow} {bound : Nat} {e : Expr} (h : e.Within ρ bound)
    (hbound : bound < 2 ^ (31 : Nat)) : e.InInt32 ρ := by
  intro s hs n hn
  have hle := h s hs n hn
  omega

/-! ## Queries of a plan -/

/-- A connective has no integer value, so a bound for the atoms of a formula is one for the formula. -/
theorem Formula.within_expr {α : Type} {ρ : IntegerRow} {bound : Nat} {e : α → Expr}
    (he : ∀ a, (e a).Within ρ bound) (φ : Formula α) : (φ.expr e).Within ρ bound := by
  induction φ with
  | atom a => exact he a
  | not φ ih =>
    intro s hs n hn
    obtain rfl | hs := List.mem_cons.mp hs
    · cases hn
    · exact ih s hs n hn
  | join op φ ψ ihφ ihψ =>
    intro s hs n hn
    obtain rfl | hs := List.mem_cons.mp hs
    · cases hn
    · rcases List.mem_append.mp hs with hs | hs
      · exact ihφ s hs n hn
      · exact ihψ s hs n hn

namespace Check.Plan

variable {p : Plan} {g : Generate.Options} {ρ : IntegerRow} {bound : Nat}

/-- A column comes to what it shows. -/
theorem within_projection (hρ : ∀ r n, ρ r = some n → n.natAbs ≤ bound) :
    ∀ e ∈ p.projection, e.Within ρ bound := by
  intro e he s hs n hn
  obtain ⟨c, -, rfl⟩ := List.mem_map.mp he
  obtain rfl := List.mem_singleton.mp hs
  exact hρ c.ref n hn

theorem within_orderBy (hρ : ∀ r n, ρ r = some n → n.natAbs ≤ bound) :
    ∀ e ∈ p.orderBy, e.Within ρ bound := by
  unfold orderBy
  cases p.ordered with
  | true => exact within_projection hρ
  | false => exact fun _ he => absurd he List.not_mem_nil

/-- **Both queries of a plan stay within what its predicates allow.** -/
theorem GrownBy.within (h : p.GrownBy g) (hbound : 100 ≤ bound)
    (hρ : ∀ r n, ρ r = some n → n.natAbs ≤ bound) {mode : Mode} {q : Select}
    (hq : q = p.fetch ∨ ∃ φ, q = p.verification mode (p.compoundOf φ)) :
    ∀ e ∈ q.expressions, e.Within ρ (2 ^ (g.maxDepth + 1) * bound) := by
  have hle : bound ≤ 2 ^ (g.maxDepth + 1) * bound :=
    Nat.le_mul_of_pos_left _ (Nat.two_pow_pos _)
  have hgrown {columns : List Column} {e : Expr}
      (he : Generate.Grown g columns (g.maxDepth + 1) .boolean e) :
      e.Within ρ (2 ^ (g.maxDepth + 1) * bound) :=
    Populate.within_of_grown he hbound fun c _ => hρ c.ref
  have hprojection : ∀ e ∈ p.projection, e.Within ρ (2 ^ (g.maxDepth + 1) * bound) :=
    fun e he => (within_projection hρ e he).mono hle
  have horder : ∀ e ∈ p.orderBy, e.Within ρ (2 ^ (g.maxDepth + 1) * bound) :=
    fun e he => (within_orderBy hρ e he).mono hle
  have hjoins : ∀ e ∈ p.source.joins.map (·.on), e.Within ρ (2 ^ (g.maxDepth + 1) * bound) := by
    intro e he
    obtain ⟨j, hj, rfl⟩ := List.mem_map.mp he
    obtain ⟨left, -, right, -, -, -, hon⟩ := h.source.joins j hj
    exact hgrown hon
  have hpredicates : ∀ e ∈ p.predicates, e.Within ρ (2 ^ (g.maxDepth + 1) * bound) :=
    fun e he => hgrown (h.predicates e he)
  rcases hq with rfl | ⟨φ, rfl⟩ <;>
    simp only [Select.expressions, List.forall_mem_append]
  · exact ⟨⟨⟨List.forall_mem_append.mpr ⟨hprojection, hpredicates⟩, hjoins⟩,
      fun e he => absurd he List.not_mem_nil⟩, horder⟩
  · refine ⟨⟨⟨hprojection, hjoins⟩, fun e he => ?_⟩, horder⟩
    obtain rfl := List.mem_singleton.mp he
    exact φ.within_expr fun j => hpredicates _ (List.getElem_mem j.isLt)

end Check.Plan

/-! ## An UPDATE read off its text -/

/-- A mark that stands in a text at one place only splits it in one way. -/
theorem eq_take_of_append_eq {text mark a b : List Char} {n : Nat}
    (hn : ∀ k ≤ text.length, mark <+: text.drop k → k = n) (h : a ++ (mark ++ b) = text) :
    a = text.take n ∧ b = text.drop (n + mark.length) := by
  have hlength : a.length = n := by
    refine hn a.length ?_ ?_
    · simp [← h]
    · rw [← h, List.drop_left]
      exact List.prefix_append mark b
  subst hlength h
  exact ⟨List.take_left.symm, by rw [← List.drop_drop, List.drop_left, List.drop_left]⟩

/-- What is written like an integer is that integer. -/
theorem Sql.Literal.eq_integer_of_valueSql {l : Literal} {n : Int} (h : l.valueSql = toString n) :
    l = .integer n := by
  have htext : (toString n).toList = l.valueSql.toList := congrArg String.toList h.symm
  cases l with
  | integer m =>
    have hread : Number.readInt? (toString m) = some n := by
      rw [show toString m = toString n from h, Number.readInt?_toString]
    rw [Number.readInt?_toString] at hread
    rw [Option.some.inj hread]
  | null t => exact absurd htext (Number.toString_ne (c := 'N') (by simp [valueSql]) rfl (by decide))
  | boolean b =>
    have hletter : 'E' ∈ (valueSql (.boolean b)).toList := by cases b <;> decide
    exact absurd htext (Number.toString_ne hletter rfl (by decide))
  | varchar text =>
    have hquote : '\'' ∈ (valueSql (.varchar text)).toList := by simp [valueSql, quoted]
    exact absurd htext (Number.toString_ne hquote rfl (by decide))

/-- The text of an UPDATE that sets one column to a number says which column and which number. -/
theorem Sql.Statement.eq_update_of_sql {s : Statement} (h : s.sql = "UPDATE t0 SET c0 = 19") :
    s = .update "t0" "c0" (.integer 19) none := by
  have htext : s.sql.toList = "UPDATE ".toList ++ "t0 SET c0 = 19".toList := by
    rw [h]
    decide
  have hhead : s.sql.toList.head? = some 'U' := congrArg List.head? htext
  cases s with
  | update table column value filter =>
    change ("UPDATE " ++ table ++ " SET " ++ column ++ " = " ++ value.valueSql
      ++ filterSql filter).toList = _ at htext
    simp only [String.toList_append, List.append_assoc] at htext
    have hsplit := List.append_cancel_left htext
    obtain ⟨htable, hset⟩ := eq_take_of_append_eq (n := 2) (by decide) hsplit
    obtain ⟨hcolumn, hrest⟩ := eq_take_of_append_eq (n := 2) (by decide) hset
    obtain rfl : table = "t0" := String.toList_inj.mp htable
    obtain rfl : column = "c0" := String.toList_inj.mp hcolumn
    have hvalue : value.valueSql ++ filterSql filter = toString (19 : Int) := by
      rw [← String.toList_inj, String.toList_append]
      exact hrest
    cases filter with
    | none =>
      have hliteral : value = .integer 19 :=
        Literal.eq_integer_of_valueSql (by simpa [filterSql] using hvalue)
      rw [hliteral]
    | some e =>
      have hblank : ' ' ∈ (value.valueSql ++ filterSql (some e)).toList := by simp [filterSql]
      exact absurd (congrArg String.toList hvalue.symm) (Number.toString_ne hblank rfl (by decide))
  | createTable d =>
    change ("CREATE TABLE " ++ d.name ++ " (" ++ _ ++ ")").toList.head? = _ at hhead
    simp only [String.toList_append, List.append_assoc] at hhead
    cases hhead
  | insert table rows =>
    change ("INSERT INTO " ++ table ++ " VALUES " ++ _).toList.head? = _ at hhead
    simp only [String.toList_append, List.append_assoc] at hhead
    cases hhead
  | delete table filter =>
    change ("DELETE FROM " ++ table ++ _).toList.head? = _ at hhead
    simp only [String.toList_append, List.append_assoc] at hhead
    cases hhead
  | createIndex unique name table columns =>
    change ("CREATE " ++ _ ++ "INDEX " ++ name ++ " ON " ++ table ++ " (" ++ _ ++ ")").toList.head? = _ at hhead
    simp only [String.toList_append, List.append_assoc] at hhead
    cases hhead
  | createView view body =>
    change ("CREATE VIEW " ++ view.name ++ "(" ++ _ ++ ") AS " ++ body.sql).toList.head? = _ at hhead
    simp only [String.toList_append, List.append_assoc] at hhead
    cases hhead

/-! ## Integers in range -/

/-- An integer inside of a grown expression is at most the bound for integer columns, or a hundred,
doubled once for each level. -/
theorem Generate.Grown.natAbs_le {o : Generate.Options} {columns : List Column} {levels bound : Nat}
    {t : DataType} {e part : Expr} {ρ : IntegerRow} (h : Generate.Grown o columns levels t e)
    (hρ : ∀ c ∈ columns, c.type = .integer → ∀ n, ρ c.ref = some n → n.natAbs ≤ bound)
    (hpart : part ∈ e.subexpressions) (htype : HasType columns part .integer) {n : Int}
    (hn : part.integer? ρ = some n) : n.natAbs ≤ 2 ^ levels * max bound 100 := by
  have hinside := Expr.part_of_mem_subexpressions hpart
  have hwithin : part.Within ρ (2 ^ levels * max bound 100) := by
    refine Expr.within_of_refs (Nat.le_trans hinside.height_le h.height_le)
      (fun r hr m hm => ?refs) fun m hm => ?literals
    case refs =>
      obtain ⟨c, hc, rfl, hinteger⟩ := htype.integer_refs r hr
      exact Nat.le_trans (hρ c hc hinteger m hm) (Nat.le_max_left _ _)
    case literals =>
      have hmodest := h.modest _ (hinside.literals hm)
      exact Nat.le_trans (Populate.natAbs_le_of_modest hmodest) (Nat.le_max_right _ _)
  exact hwithin part part.mem_subexpressions_self n hn

namespace Populate

/-- At most eleven levels below the root leave room for two layers of expressions over literals. -/
theorem two_layers_lt {maxDepth : Nat} (h : maxDepth ≤ 11) :
    2 ^ (maxDepth + 1) * (2 ^ (maxDepth + 1) * 100) < 2 ^ (31 : Nat) := by
  have hpow : 2 ^ (maxDepth + 1) ≤ 2 ^ (12 : Nat) :=
    Nat.pow_le_pow_right (by decide) (by omega)
  calc 2 ^ (maxDepth + 1) * (2 ^ (maxDepth + 1) * 100)
      ≤ 2 ^ (12 : Nat) * (2 ^ (12 : Nat) * 100) := Nat.mul_le_mul hpow (Nat.mul_le_mul_right _ hpow)
    _ < 2 ^ (31 : Nat) := by decide

section Layers

variable {o : Generate.Options} {log : List Attempt} {ρ : IntegerRow} (hlog : Written o log)
  (hρ : Shows log ρ) (hdepth : o.maxDepth ≤ 11)

include hlog hρ hdepth

/-- The first layer: expressions of statements are over literals. -/
theorem Written.inInt32 {x : Attempt} (hx : x ∈ log) :
    ∀ e ∈ x.statement.expressions, e.InInt32 ρ := by
  intro e he
  have hlayer : 2 ^ (o.maxDepth + 1) * 100 < 2 ^ (31 : Nat) :=
    Nat.lt_of_le_of_lt (Nat.le_mul_of_pos_left _ (Nat.two_pow_pos _)) (two_layers_lt hdepth)
  exact (hlog.within hρ hx e he).inInt32 hlayer

/-- The second layer: predicates are over columns that may be expressions. -/
theorem Written.query_inInt32 {p : Check.Plan} (hp : p.GrownBy o) {mode : Mode} {q : Select}
    (hq : q = p.fetch ∨ ∃ φ, q = p.verification mode (p.compoundOf φ)) :
    ∀ e ∈ q.expressions, e.InInt32 ρ := by
  intro e he
  have hhundred : 100 ≤ 2 ^ (o.maxDepth + 1) * 100 :=
    Nat.le_mul_of_pos_left _ (Nat.two_pow_pos _)
  have hshown : ∀ r n, ρ r = some n → n.natAbs ≤ 2 ^ (o.maxDepth + 1) * 100 := by
    intro r n hn
    have hshow : CanShow log r (some n) := hn ▸ hρ r
    exact (hshow.natAbs_le hlog).1
  exact (hp.within hhundred hshown hq e he).inInt32 (two_layers_lt hdepth)

end Layers
end Populate

/-- **Generated integer arithmetic does not overflow.** If the integer columns of a row show nothing
that is larger than a bound, then every integer inside of an expression that is generated at a depth
is at most the bound, or a hundred, doubled once for each level that is left. With at most eleven for
the greatest depth, take any row that a database can show while it is filled or afterwards: on it all
expressions of the statements that fill the database and of the queries that checks ask come to
integers of 32 bits, and so does everything inside of them. -/
theorem generated_integers_in_range :
    (∀ (o : Generate.Options) (columns : List Column) (type : DataType) (depth : Nat)
      (s s' : Stream) (e : Expr), (Generate.expr o columns type depth).runOn s = (.ok e, s') →
      ∀ (ρ : IntegerRow) (bound : Nat),
      (∀ c ∈ columns, c.type = .integer → ∀ n, ρ c.ref = some n → n.natAbs ≤ bound) →
      ∀ part ∈ e.subexpressions, HasType columns part .integer →
        ∀ n, part.integer? ρ = some n →
          n.natAbs ≤ 2 ^ (o.maxDepth + 1 - depth) * max bound 100) ∧
    ∀ (σ : Type) (c : Client σ) (w : Generate.Workload) (o : Generate.Options) (world : World σ),
      o.maxDepth ≤ 11 →
      ∃ log : List Populate.Attempt,
        Populate.transcript c w o world = log.map Populate.Attempt.exchange ∧
        ∀ (k : Nat) (ρ : IntegerRow), Populate.Shows (log.take k) ρ →
          (∀ x ∈ log, ∀ e ∈ x.statement.expressions, e.InInt32 ρ) ∧
          ∀ (τ : Type) (oracle : Oracle) (c' : Client τ) (mode : Mode) (w' : World τ),
            oracle.generator = o →
            ∀ query answer, .query query answer ∈ oracle.transcript c' mode w' →
            ∃ (plan : Check.Plan) (q : Select),
              ((oracle.planning c').runOn w').1 = .ok plan ∧
              (q = plan.fetch ∨ ∃ φ, q = plan.verification mode (plan.compoundOf φ)) ∧
              query = q.sql ∧ ∀ e ∈ q.expressions, e.InInt32 ρ := by
  constructor
  · intro o columns type depth s s' e hrun ρ bound hρ part hpart htype n hn
    obtain ⟨hgrown, -⟩ :=
      (Generate.yields_exprWithin (List.mem_singleton_self _) _ type).of_runOn_ok hrun
    exact hgrown.natAbs_le hρ hpart htype hn
  · intro σ c w o world hdepth
    obtain ⟨log, htranscript, hlog⟩ := Populate.exists_written c w o world
    refine ⟨log, htranscript, fun k ρ hshows => ?_⟩
    have hρ : Populate.Shows log ρ := fun r => (hshows r).mono (List.take_subset k log)
    refine ⟨fun x hx => hlog.inInt32 hρ hdepth hx, ?_⟩
    intro τ oracle c' mode w' ho query answer hquery
    obtain ⟨schema, hread⟩ := Oracle.readSchema_of_query hquery
    obtain ⟨plan, hplan, -, hsql⟩ := Oracle.plan_of_query hread hquery
    have hgrown : plan.GrownBy o := ho ▸ oracle.planning_grown c' w' plan _ (Prod.ext hplan rfl)
    obtain ⟨q, hq, rfl⟩ : ∃ q : Select, (q = plan.fetch ∨
        ∃ φ, q = plan.verification mode (plan.compoundOf φ)) ∧ query = q.sql := by
      rcases hsql with rfl | ⟨φ, rfl⟩
      · exact ⟨_, .inl rfl, rfl⟩
      · exact ⟨_, .inr ⟨φ, rfl⟩, rfl⟩
    exact ⟨plan, q, hplan, hq, rfl, hlog.query_inInt32 hρ hdepth hgrown hq⟩

/-- Two levels of additions over a column that shows 300 come to four times as much, which is the bound.
A column that was set to 19 shows it; the expression of the view over it, and the predicate of a check
that doubles it, are in range on a row with this value. -/
theorem generated_integers_in_range_twice_doubled :
    let columns : List Column := [⟨"t0", "c0", .integer, true⟩, ⟨"t0", "c1", .varchar, true⟩]
    let g : Generate.Options := ⟨1, false, 0.05⟩
    let c0 : Expr := .column ⟨"t0", "c0"⟩
    let sum : Expr := .arithmetic .add (.arithmetic .add c0 c0) (.arithmetic .add c0 c0)
    let c : Client Unit := ⟨fun _ => return .ok (some []), fun _ => return .ok 0, return .ok (),
      return .ok ⟨[⟨"t0", [⟨"t0", "c0", .integer, true⟩]⟩, ⟨"v0", [⟨"v0", "c0", .integer, true⟩]⟩]⟩⟩
    let o : Oracle := .new ⟨1, ⟨0, 0.1, .uniform⟩, 2, 1, 0, 0, Mode.all⟩ g .empty
    let workload : Generate.Workload := ⟨1, 2, 1, 1, 1, 1, 1, true, true⟩
    let update := "UPDATE t0 SET c0 = 19"
    let view := "CREATE VIEW v0(c0) AS SELECT DISTINCT (- (t0.c0 - t0.c0)) FROM t0"
    let query := "SELECT t0.c0, ((t0.c0 + t0.c0) > (+ -36)) FROM t0"
    let ρ : IntegerRow := fun r => if r = ⟨"t0", "c0"⟩ then some 19 else none
    (((Generate.expr g columns .integer 0).runOn (.ofSeed 642)).1 = .ok sum ∧
      sum.integer? (fun _ => some 300) = some 1200 ∧
      (1200 : Int).natAbs ≤ 2 ^ (g.maxDepth + 1 - 0) * max 300 100) ∧
    ∃ log : List Populate.Attempt,
      Populate.transcript c workload o.generator ⟨(), .ofSeed 119⟩ =
        log.map Populate.Attempt.exchange ∧
      (∀ sql ∈ [update, view], ∃ x ∈ log, x.statement.sql = sql) ∧ Populate.Shows log ρ ∧
      (∀ x ∈ log, ∀ e ∈ x.statement.expressions, e.InInt32 ρ) ∧
      .query query (.ok (some [])) ∈ o.transcript c .plain ⟨(), .ofSeed 275⟩ ∧
      ∃ q : Select, query = q.sql ∧ ∀ e ∈ q.expressions, e.InInt32 ρ := by
  intro columns g c0 sum c o workload update view query ρ
  have hsum : ((Generate.expr g columns .integer 0).runOn (.ofSeed 642)).1 = .ok sum := by
    decide +kernel
  have hinteger : HasType columns sum .integer := by
    have hc0 : HasType columns c0 .integer := .column List.mem_cons_self rfl rfl
    exact .arithmetic (.arithmetic hc0 hc0) (.arithmetic hc0 hc0)
  obtain ⟨hexpressions, hlayers⟩ := generated_integers_in_range
  have hle := hexpressions g columns .integer 0 _ _ sum (Prod.ext hsum rfl) (fun _ => some 300) 300
    (by rintro - - - n ⟨⟩; decide) sum sum.mem_subexpressions_self hinteger 1200 rfl
  obtain ⟨log, htranscript, hrange⟩ :=
    hlayers Unit c workload o.generator ⟨(), .ofSeed 119⟩ (by decide)
  have hsent : ∀ sql ∈ [update, view], .execute sql (.ok 0) ∈
      Populate.transcript c workload o.generator ⟨(), .ofSeed 119⟩ := by
    decide +kernel
  have hattempt : ∀ sql ∈ [update, view], ∃ x ∈ log, x.exchange = .execute sql (.ok 0) := by
    intro sql hsql
    have hmem := hsent sql hsql
    rwa [htranscript, List.mem_map] at hmem
  obtain ⟨x, hx, hexchange⟩ := hattempt update List.mem_cons_self
  obtain ⟨hsql, hanswer⟩ := Exchange.execute.inj hexchange
  have hstatement := Statement.eq_update_of_sql hsql
  have hgranted : x.granted = true := by rw [Populate.Attempt.granted, hanswer]; rfl
  have hshows : Populate.Shows log ρ := by
    intro r
    by_cases hr : r = ⟨"t0", "c0"⟩
    · subst hr
      exact .updated hx hgranted hstatement
    · rw [show ρ r = none from if_neg hr]
      exact .null r
  obtain ⟨hstatements, hchecks⟩ := hrange log.length ρ (by rwa [List.take_length])
  have hquery : .query query (.ok (some [])) ∈ o.transcript c .plain ⟨(), .ofSeed 275⟩ := by
    decide +kernel
  obtain ⟨-, q, -, -, hq, hin⟩ := hchecks Unit o c .plain ⟨(), .ofSeed 275⟩ rfl _ _ hquery
  refine ⟨⟨hsum, rfl, hle⟩, log, htranscript, fun sql hsql => ?_, hshows, hstatements, hquery, q, hq,
    hin⟩
  obtain ⟨y, hy, heq⟩ := hattempt sql hsql
  exact ⟨y, hy, (Exchange.execute.inj heq).1⟩

end PredicateOracle
