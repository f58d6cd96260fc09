import PredicateOracle.Config.Basic
import PredicateOracle.Proofs.Check.Faithful

/-!
# PredicateOracle.Proofs.Config.Basic -- what a valid configuration guarantees

`Configuration.validate` stops at the first setting that no run can honour, so what it accepts has none
of them. Of each probability it asks that it lie between zero and one; what a coin needs is less, that
it be a number.
-/

namespace PredicateOracle

open PredicateOracle.Random (Odds)

/-- A coin whose probability lies between zero and one has odds. -/
theorem Random.Odds.ofProbability_ne_undefined {p : Float}
    (hp : (Number.Binary.ofFloat p).isProbability = true) : ofProbability p ≠ .undefined := by
  unfold ofProbability
  cases hvalue : Number.Binary.ofFloat p with
  | nan =>
    rw [hvalue] at hp
    exact absurd hp (by decide)
  | infinite negative => cases negative <;> nofun
  | finite negative significand exponent =>
    dsimp only
    split
    · nofun
    · split <;> nofun

namespace Configuration

variable {c : Configuration}

/-- **`c.Valid`** -- a run can honour every setting of the configuration. -/
structure Valid (c : Configuration) : Prop where
  probabilities : ∀ kp ∈ c.probabilities, (Number.Binary.ofFloat kp.2).isProbability = true
  predicates : 0 < c.oracle.predicates
  modes : c.oracle.modes ≠ []
  workers : 0 < c.run.workers

/-- Nothing is complained about exactly if there is nothing to complain about. -/
theorem invalid?_eq_none_iff : c.invalid? = none ↔ c.Valid := by
  unfold invalid?
  split
  · rename_i key value hfind
    refine ⟨nofun, fun hvalid => ?_⟩
    have hbad := List.find?_some hfind
    have hgood : (Number.Binary.ofFloat value).isProbability = true :=
      hvalid.probabilities _ (List.mem_of_find?_eq_some hfind)
    simp [hgood] at hbad
  · rename_i hfind
    have hprobabilities : ∀ kp ∈ c.probabilities,
        (Number.Binary.ofFloat kp.2).isProbability = true := by
      intro kp hkp
      simpa using List.find?_eq_none.mp hfind kp hkp
    constructor
    · -- The settings are looked at one after the other, each only if those before it are fine.
      intro h
      by_cases hpredicates : c.oracle.predicates = 0
      · simp [hpredicates] at h
      by_cases hmodes : c.oracle.modes = []
      · simp [hpredicates, hmodes] at h
      by_cases hworkers : c.run.workers = 0
      · simp [hpredicates, hmodes, hworkers] at h
      exact ⟨hprobabilities, Nat.pos_of_ne_zero hpredicates, hmodes, Nat.pos_of_ne_zero hworkers⟩
    · intro hvalid
      rw [if_neg (Nat.ne_of_gt hvalid.predicates), if_neg (by simpa using hvalid.modes),
        if_neg (Nat.ne_of_gt hvalid.workers)]

theorem validate_eq_ok_iff : c.validate = .ok () ↔ c.Valid := by
  rw [← invalid?_eq_none_iff]
  unfold validate
  cases c.invalid? <;> simp

theorem valid_standard : standard.Valid :=
  ⟨by decide +kernel, by decide, by decide, by decide⟩

/-- Of the schedule only the number of workers matters, and of the workload nothing does. -/
theorem Valid.scaled (hvalid : c.Valid) (workload : Generate.Workload) {run : RunOptions}
    (hworkers : 0 < run.workers) : { c with workload := workload, run := run }.Valid :=
  ⟨hvalid.probabilities, hvalid.predicates, hvalid.modes, hworkers⟩

/-- Without workers a configuration that is valid otherwise is refused for just that. -/
theorem Valid.invalid?_noWorkers (hvalid : c.Valid) {run : RunOptions} (hworkers : run.workers = 0) :
    { c with run := run }.invalid? = some .noWorkers := by
  unfold invalid?
  rw [List.find?_eq_none.mpr fun kp hkp => by simpa using hvalid.probabilities kp hkp]
  simp only [Nat.ne_of_gt hvalid.predicates, List.isEmpty_eq_false_iff.mpr hvalid.modes, hworkers,
    Bool.false_eq_true, if_false, if_true]

/-- The checker of a valid configuration tosses no coin whose probability is not a number. -/
theorem Valid.chances (hvalid : c.Valid) {o : Oracle} (hoptions : o.options = c.oracle)
    (hgenerator : o.generator = c.generator) :
    ∀ p ∈ o.chances, Odds.ofProbability p ≠ .undefined := by
  intro p hp
  apply Odds.ofProbability_ne_undefined
  have hset : p ∈ c.probabilities.map (·.2) := by
    simp only [Oracle.chances, Oracle.planChances, hoptions, hgenerator, List.mem_cons,
      List.not_mem_nil, or_false] at hp
    rcases hp with rfl | rfl | rfl | rfl | rfl <;> simp [Configuration.probabilities]
  obtain ⟨kp, hkp, rfl⟩ := List.mem_map.mp hset
  exact hvalid.probabilities kp hkp

end Configuration
end PredicateOracle
