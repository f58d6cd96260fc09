import PredicateOracle.Proofs.Predicate.Compound

/-!
# PredicateOracle.Proofs.Predicate.Completion -- the unknown may turn out either way

An unknown value stands for a classical one that a NULL hides. A completion of a row puts a classical
value in the place of each predicate of a pool: its own where the predicate is known there, and either one
where it is not. A compound is then a classical formula over these values (`Formula.classical`), in which
a predicate has the same value wherever it stands.

What the truth of a compound decides, every completion decides in the same way; and where every predicate
is known, the truth of a compound is the classical value (`Pool.compound_completed`). Each connective
keeps what may be (`Truth.MayBe`) and what is known, and so does a formula, by induction.
-/

namespace PredicateOracle

open Sql
open PredicateOracle.Random (Stream Odds)

/-! ## Values -/

namespace Truth

/-- **`t.MayBe b`** -- what `t` says leaves the classical value `b` possible. -/
def MayBe : Truth → Bool → Prop
  | .holds, b => b = true
  | .fails, b => b = false
  | .unknown, _ => True

variable {t u : Truth} {b c : Bool}

theorem MayBe.not (h : t.MayBe b) : t.not.MayBe (!b) := by
  cases t <;> simp_all [MayBe, Truth.not]

theorem MayBe.and (ht : t.MayBe b) (hu : u.MayBe c) : (t.and u).MayBe (b && c) := by
  cases t <;> cases u <;> simp_all [MayBe, Truth.and]

theorem MayBe.or (ht : t.MayBe b) (hu : u.MayBe c) : (t.or u).MayBe (b || c) := by
  cases t <;> cases u <;> simp_all [MayBe, Truth.or]

/-- What is known may be one thing only. -/
theorem MayBe.eq_ofBool (h : t.MayBe b) (hknown : t ≠ .unknown) : t = ofBool? (some b) := by
  cases t with
  | holds =>
    obtain rfl : b = true := h
    rfl
  | fails =>
    obtain rfl : b = false := h
    rfl
  | unknown => exact absurd rfl hknown

theorem not_ne_unknown (h : t ≠ .unknown) : t.not ≠ .unknown := by
  cases t <;> simp_all [Truth.not]

end Truth

namespace Sql.Connective

/-- The classical meaning of a connective. -/
def classical : Connective → Bool → Bool → Bool
  | .and => Bool.and
  | .or => Bool.or

variable {t u : Truth} {b c : Bool}

theorem mayBe_apply (op : Connective) (ht : t.MayBe b) (hu : u.MayBe c) :
    (op.apply t u).MayBe (op.classical b c) := by
  cases op with
  | and => exact ht.and hu
  | or => exact ht.or hu

theorem apply_ne_unknown (op : Connective) (ht : t ≠ .unknown) (hu : u ≠ .unknown) :
    op.apply t u ≠ .unknown := by
  cases op <;> cases t <;> cases u <;> simp_all [apply, Truth.and, Truth.or]

end Sql.Connective

/-! ## Formulas -/

namespace Formula

variable {α : Type} {v : α → Truth} {w : α → Bool}

/-- The classical value of a formula over classical values. -/
def classical (w : α → Bool) : Formula α → Bool
  | .atom a => w a
  | .not φ => !φ.classical w
  | .join op φ ψ => op.classical (φ.classical w) (ψ.classical w)

/-- **A formula may be what its atoms may make of it.** -/
theorem mayBe_classical (h : ∀ a, (v a).MayBe (w a)) (φ : Formula α) :
    (φ.value v).MayBe (φ.classical w) := by
  induction φ with
  | atom a => exact h a
  | not φ ih => exact ih.not
  | join op φ ψ ihφ ihψ => exact op.mayBe_apply ihφ ihψ

/-- A formula over known values has a known value. -/
theorem value_ne_unknown (h : ∀ a, v a ≠ .unknown) (φ : Formula α) : φ.value v ≠ .unknown := by
  induction φ with
  | atom a => exact h a
  | not φ ih => exact Truth.not_ne_unknown ih
  | join op φ ψ ihφ ihψ => exact op.apply_ne_unknown ihφ ihψ

/-- Nothing is claimed of what is unknown: under both completions an unknown predicate or its negation
holds, and together they are unknown. -/
example : let φ : Formula Unit := .join .or (.atom ()) (.not (.atom ()))
    φ.value (fun _ => .unknown) = .unknown ∧ ∀ b, φ.classical (fun _ => b) = true := by decide

end Formula

/-! ## Completions -/

namespace Pool

variable {p : Pool} {i n : Nat}

/-- The expression at a position of a pool. -/
def expressionAt (p : Pool) (j : Fin p.predicates.length) : Expr := p.predicates[j].expression

/-- The truth on a row at a position of a pool. -/
def valueAt (p : Pool) (j : Fin p.predicates.length) (i : Nat) : Truth :=
  p.predicates[j].truth[i]?.getD .unknown

/-- **`p.Completion i w`** -- the classical values `w` complete row `i`: a predicate of the pool `p` that
is known to hold or to fail there has that value, and one that is unknown has any. -/
structure Completion (p : Pool) (i : Nat) (w : Fin p.predicates.length → Bool) : Prop where
  holds (j : Fin p.predicates.length) : p.predicates[j].truth[i]? = some .holds → w j = true
  fails (j : Fin p.predicates.length) : p.predicates[j].truth[i]? = some .fails → w j = false

theorem Completion.mayBe {w : Fin p.predicates.length → Bool} (h : p.Completion i w)
    (j : Fin p.predicates.length) : (p.valueAt j i).MayBe (w j) := by
  rw [valueAt]
  rcases hvalue : p.predicates[j].truth[i]? with _ | _ | _ | _
  · trivial
  · exact h.holds j hvalue
  · exact h.fails j hvalue
  · trivial

/-- On a row of the pool, predicates that are not unknown there have a known value. -/
theorem valueAt_ne_unknown (hlength : ∀ k ∈ p.predicates, k.truth.length = n) (hi : i < n)
    (hknown : ∀ k ∈ p.predicates, k.truth[i]? ≠ some .unknown) (j : Fin p.predicates.length) :
    p.valueAt j i ≠ .unknown := by
  have hj : p.predicates[j] ∈ p.predicates := List.getElem_mem j.isLt
  have hrow : i < p.predicates[j].truth.length := by rwa [hlength _ hj]
  have hvalue := hknown _ hj
  rw [List.getElem?_eq_getElem hrow] at hvalue
  rw [valueAt, List.getElem?_eq_getElem hrow, Option.getD_some]
  exact fun h => hvalue (congrArg some h)

/-- A compound is a formula over the positions of its pool, on both sides at once. -/
theorem yields_compound_formula (hlength : ∀ k ∈ p.predicates, k.truth.length = n)
    (o : CompoundOptions) :
    Gen.Yields (Fault.OfChance [o.leafProbability]) (p.compound o) fun compound =>
      match compound with
      | none => p.predicates = []
      | some K => p.predicates ≠ [] ∧ ∃ φ, K.Shows (List.range n) p.expressionAt p.valueAt φ := by
  refine yields_compoundWithin (fun k hk => ?_) o o.maxDepth
  obtain ⟨j, hj, rfl⟩ := List.mem_iff_getElem.mp hk
  exact ⟨.atom ⟨j, hj⟩, rfl, TruthColumn.eq_map_range (hlength _ hk)⟩

/-- **What a compound decides stands under every completion.** From a pool whose columns have one length a
compound is drawn unless the pool is empty; the only fault is that of a leaf probability that is not a
number. A compound is a tree of NOT, AND and OR over predicates of the pool. Where its truth holds, the
tree is classically true under every completion of that row, and where its truth fails, the tree is false
under every one. Where no predicate of the pool is unknown, the compound is not unknown either, and its
truth is the classical value of the tree.

A completion gives a value to each position of the pool. One that gives values to expressions is the
special case in which positions with the same expression have the same value. -/
theorem compound_completed (p : Pool) (o : CompoundOptions) (n : Nat)
    (hlength : ∀ k ∈ p.predicates, k.truth.length = n) (s : Stream) :
    match ((p.compound o).runOn s).1 with
    | .ok none => p.predicates = []
    | .ok (some K) =>
      ∃ φ : Formula (Fin p.predicates.length),
        K.Shows (List.range n) p.expressionAt p.valueAt φ ∧
          ∀ i < n,
            (K.truth[i]? = some .holds → ∀ w, p.Completion i w → φ.classical w = true) ∧
            (K.truth[i]? = some .fails → ∀ w, p.Completion i w → φ.classical w = false) ∧
            ((∀ k ∈ p.predicates, k.truth[i]? ≠ some .unknown) →
              K.truth[i]? ≠ some .unknown ∧
                ∀ w, p.Completion i w → K.truth[i]? = some (.ofBool? (some (φ.classical w))))
    | .error fault =>
      fault = .undefinedProbability ∧ Odds.ofProbability o.leafProbability = .undefined := by
  have hdraw := (yields_compound_formula hlength o s).2
  rcases hrun : ((p.compound o).runOn s).1 with fault | (_ | K)
  · rw [hrun] at hdraw
    obtain ⟨hfault, q, hq, hodds⟩ := hdraw
    rw [List.mem_singleton.mp hq] at hodds
    exact ⟨hfault, hodds⟩
  · rw [hrun] at hdraw
    exact hdraw
  · rw [hrun] at hdraw
    obtain ⟨-, φ, hshows⟩ := hdraw
    refine ⟨φ, hshows, fun i hi => ?_⟩
    have hrow : K.truth[i]? = some (φ.value fun j => p.valueAt j i) := by
      rw [hshows.truth, List.getElem?_map, List.getElem?_range hi, Option.map_some]
    have hmay (w) (hw : p.Completion i w) :
        (φ.value fun j => p.valueAt j i).MayBe (φ.classical w) := φ.mayBe_classical hw.mayBe
    rw [hrow]
    refine ⟨fun hK w hw => ?_, fun hK w hw => ?_, fun hknown => ?_⟩
    · have hw := hmay w hw
      rwa [Option.some.inj hK] at hw
    · have hw := hmay w hw
      rwa [Option.some.inj hK] at hw
    · have hne := φ.value_ne_unknown (valueAt_ne_unknown hlength hi hknown)
      exact ⟨fun hK => hne (Option.some.inj hK),
        fun w hw => congrArg some ((hmay w hw).eq_ofBool hne)⟩

/-- On the last two rows the first predicate is unknown, and the compound, in which both predicates stand
and the second one does so twice, holds on one of them and fails on the other under every completion. On
the first row nothing is unknown. -/
theorem compound_completed_shared_predicate :
    let c0 : Expr := .column ⟨"t0", "c0"⟩
    let c1 : Expr := .column ⟨"t0", "c1"⟩
    let p : Pool := ⟨[⟨c0, [.holds, .unknown, .unknown]⟩, ⟨c1, [.fails, .holds, .fails]⟩]⟩
    (∀ k ∈ p.predicates, k.truth.length = 3) ∧
      (∀ k ∈ p.predicates, k.truth[0]? ≠ some .unknown) ∧
      ∃ K : Known, ((p.compound ⟨2, 0.1, .uniform⟩).runOn (Stream.ofSeed 13)).1 = .ok (some K) ∧
        K.expression = .logical .and c1 (Expr.logical .and c1.negate c0).negate ∧
        ∃ φ : Formula (Fin p.predicates.length),
          K.Shows (List.range 3) p.expressionAt p.valueAt φ ∧
            (∀ w, p.Completion 0 w → K.truth[0]? = some (.ofBool? (some (φ.classical w)))) ∧
            (∀ w, p.Completion 1 w → φ.classical w = true) ∧
            ∀ w, p.Completion 2 w → φ.classical w = false := by
  intro c0 c1 p
  have hlength : ∀ k ∈ p.predicates, k.truth.length = 3 := by decide
  have hknown : ∀ k ∈ p.predicates, k.truth[0]? ≠ some .unknown := by decide
  have hrun : ((p.compound ⟨2, 0.1, .uniform⟩).runOn (Stream.ofSeed 13)).1 =
      .ok (some ⟨.logical .and c1 (Expr.logical .and c1.negate c0).negate,
        [.fails, .holds, .fails]⟩) := by decide +kernel
  have hcompleted := p.compound_completed ⟨2, 0.1, .uniform⟩ 3 hlength (Stream.ofSeed 13)
  rw [hrun] at hcompleted
  obtain ⟨φ, hshows, hrows⟩ := hcompleted
  refine ⟨hlength, hknown, _, hrun, rfl, φ, hshows, ?_, ?_, ?_⟩
  · exact ((hrows 0 (by decide)).2.2 hknown).2
  · exact (hrows 1 (by decide)).1 rfl
  · exact (hrows 2 (by decide)).2.1 rfl

end Pool
end PredicateOracle
