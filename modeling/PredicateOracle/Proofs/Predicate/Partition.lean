import PredicateOracle.Proofs.Check.Expected
import PredicateOracle.Proofs.Predicate.Pool
import PredicateOracle.Proofs.Random.Index
import Mathlib.Data.List.Induction
import Mathlib.Data.List.Perm.Subperm

/-!
# PredicateOracle.Proofs.Predicate.Partition -- a pool is divided by truth columns

The groups of a pool are the classes of its positions under having the same truth column, each class
listed in increasing order, in the order of their first members. They can be found by going through the
pool once: a position goes behind the first group that starts with its truth column, or starts a group of
its own (`Pool.place`). One such step takes the groups of a pool to those of the pool with one predicate
more, so the whole pass gives the groups.

A choice by pattern draws a group and then a place in it. Each predicate stands at one such place, so it
can be chosen, and in one way.
-/

namespace PredicateOracle.Pool

open PredicateOracle.Random (readDoubleWord)

/-! ## One position after the other -/

/-- The truth column of the predicate at a position. -/
def truthAt? (p : Pool) (i : Nat) : Option TruthColumn := p.predicates[i]?.map (·.truth)

/-- The positions whose truth column appears there for the first time. -/
def firsts (p : Pool) : List Nat :=
  (List.range p.predicates.length).filter fun i => ∀ j < i, p.truthAt? j ≠ p.truthAt? i

/-- Puts a position behind the first group that starts with the same truth column. If there is none, it
starts a group of its own. -/
def place (p : Pool) : List (List Nat) → Nat → List (List Nat)
  | [], i => [[i]]
  | group :: rest, i =>
    if group.head?.bind p.truthAt? = p.truthAt? i then (group ++ [i]) :: rest
    else group :: place p rest i

theorem mem_positionsOf_iff_truthAt? {p : Pool} {pattern : TruthColumn} {i : Nat} :
    i ∈ p.positionsOf pattern ↔ p.truthAt? i = some pattern := by
  rw [mem_positionsOf_iff, truthAt?, Option.map_eq_some_iff]

section Concat

variable (ps : List Known) (k : Known)

theorem positionsOf_concat (pattern : TruthColumn) :
    positionsOf ⟨ps ++ [k]⟩ pattern =
      positionsOf ⟨ps⟩ pattern ++ if k.truth = pattern then [ps.length] else [] := by
  have hold : (List.range ps.length).filter
      (fun i => (ps ++ [k])[i]?.any (·.truth = pattern)) = positionsOf ⟨ps⟩ pattern := by
    refine List.filter_congr fun i hi => ?_
    rw [List.getElem?_append_left (List.mem_range.mp hi)]
  have hlast : (ps ++ [k])[ps.length]? = some k := by simp
  rw [positionsOf, List.length_append, List.length_singleton, List.range_succ, List.filter_append,
    hold, List.filter_singleton, hlast]
  by_cases hk : k.truth = pattern <;> simp [hk]

theorem patterns_concat :
    patterns ⟨ps ++ [k]⟩ =
      patterns ⟨ps⟩ ++ if k.truth ∈ patterns ⟨ps⟩ then [] else [k.truth] := by
  have hmem : k.truth ∈ patterns ⟨ps⟩ ↔ k.truth ∈ ps.map (·.truth) := by
    rw [patterns, List.mem_eraseDups]
  rw [patterns, List.map_append, List.eraseDups_append, List.map_singleton, ← patterns]
  congr 1
  generalize ps.map (·.truth) = columns at hmem
  by_cases hk : k.truth ∈ columns
  · rw [if_pos (hmem.mpr hk)]
    simp [List.removeAll, hk]
  · rw [if_neg (mt hmem.mp hk)]
    simp [List.removeAll, hk, List.eraseDups_cons]

/-- A predicate with a new truth column starts a group behind the others. -/
theorem groups_concat_of_new (hk : k.truth ∉ patterns ⟨ps⟩) :
    groups ⟨ps ++ [k]⟩ = groups ⟨ps⟩ ++ [[ps.length]] := by
  have hold : ∀ pattern ∈ patterns ⟨ps⟩,
      positionsOf ⟨ps ++ [k]⟩ pattern = positionsOf ⟨ps⟩ pattern := by
    intro pattern hpattern
    have hne : k.truth ≠ pattern := fun h => hk (h ▸ hpattern)
    rw [positionsOf_concat, if_neg hne, List.append_nil]
  have hnone : positionsOf ⟨ps⟩ k.truth = [] := by
    refine List.eq_nil_iff_forall_not_mem.mpr fun i hi => hk ?_
    obtain ⟨known, hknown, htruth⟩ := mem_positionsOf_iff.mp hi
    exact mem_patterns_iff.mpr ⟨known, List.mem_of_getElem? hknown, htruth⟩
  rw [groups, patterns_concat, if_neg hk, List.map_append, List.map_congr_left hold,
    List.map_singleton, positionsOf_concat, hnone, if_pos rfl]
  rfl

/-- A predicate with a known truth column starts no group. -/
theorem groups_concat_of_known (hk : k.truth ∈ patterns ⟨ps⟩) :
    groups ⟨ps ++ [k]⟩ = (patterns ⟨ps⟩).map (positionsOf ⟨ps ++ [k]⟩) := by
  rw [groups, patterns_concat, if_pos hk, List.append_nil]

/-- A group starts with a position that has its truth column. -/
theorem exists_head?_positionsOf {p : Pool} {pattern : TruthColumn} (hpattern : pattern ∈ p.patterns) :
    ∃ i rest, p.positionsOf pattern = i :: rest ∧ p.truthAt? i = some pattern := by
  cases hpositions : p.positionsOf pattern with
  | nil => exact absurd hpositions (group_ne_nil (List.mem_map_of_mem hpattern))
  | cons i rest =>
    exact ⟨i, rest, rfl, mem_positionsOf_iff_truthAt?.mp (hpositions ▸ List.mem_cons_self)⟩

/-- Placing the position behind the pool's last one, among some of the pool's groups. -/
theorem place_map (later : List Known) {known : List TruthColumn} (hnodup : known.Nodup)
    (hknown : known ⊆ patterns ⟨ps⟩) :
    place ⟨ps ++ k :: later⟩ (known.map (positionsOf ⟨ps⟩)) ps.length =
      if k.truth ∈ known then known.map (positionsOf ⟨ps ++ [k]⟩)
      else known.map (positionsOf ⟨ps⟩) ++ [[ps.length]] := by
  have hlast : truthAt? ⟨ps ++ k :: later⟩ ps.length = some k.truth := by simp [truthAt?]
  induction known with
  | nil => rfl
  | cons pattern known ih =>
    obtain ⟨hpattern, hrest⟩ := List.cons_subset.mp hknown
    obtain ⟨hnew, hnodup⟩ := List.nodup_cons.mp hnodup
    obtain ⟨i, later', hpositions, htruth⟩ := exists_head?_positionsOf hpattern
    have hi : i < ps.length := lt_of_mem_group (p := ⟨ps⟩) (List.mem_map_of_mem hpattern)
      (hpositions ▸ List.mem_cons_self)
    have hhead : (positionsOf ⟨ps⟩ pattern).head?.bind (truthAt? ⟨ps ++ k :: later⟩) =
        some pattern := by
      rw [hpositions]
      simpa [truthAt?, List.getElem?_append_left hi] using htruth
    rw [List.map_cons, place, hhead, hlast, ih hnodup hrest]
    by_cases hk : pattern = k.truth
    · subst hk
      -- Behind its own group the position is not looked for again, and no other group gets it.
      have hothers : ∀ other ∈ known,
          positionsOf ⟨ps ++ [k]⟩ other = positionsOf ⟨ps⟩ other := by
        intro other hother
        have hne : k.truth ≠ other := fun h => hnew (h ▸ hother)
        rw [positionsOf_concat, if_neg hne, List.append_nil]
      rw [if_pos rfl, if_pos List.mem_cons_self, List.map_cons, positionsOf_concat, if_pos rfl,
        List.map_congr_left hothers]
    · have hmem : k.truth ∈ pattern :: known ↔ k.truth ∈ known := by
        simp [Ne.symm hk]
      have hsame : positionsOf ⟨ps ++ [k]⟩ pattern = positionsOf ⟨ps⟩ pattern := by
        rw [positionsOf_concat, if_neg (Ne.symm hk), List.append_nil]
      rw [if_neg (by simpa using hk)]
      by_cases hin : k.truth ∈ known
      · rw [if_pos hin, if_pos (hmem.mpr hin), List.map_cons, hsame]
      · rw [if_neg hin, if_neg (mt hmem.mp hin)]
        rfl

/-- **One step takes the groups of a pool to those of the pool with one predicate more.** -/
theorem place_groups (later : List Known) :
    place ⟨ps ++ k :: later⟩ (groups ⟨ps⟩) ps.length = groups ⟨ps ++ [k]⟩ := by
  have hnodup : (patterns ⟨ps⟩).Nodup := Expected.nodup_eraseDups _
  have hstep := place_map ps k later hnodup (List.Subset.refl _)
  rw [groups, hstep]
  by_cases hk : k.truth ∈ patterns ⟨ps⟩
  · rw [if_pos hk, groups_concat_of_known ps k hk]
  · rw [if_neg hk, groups_concat_of_new ps k hk]
    rfl

/-- What the groups start with, in a pool with one predicate more. -/
theorem heads_concat :
    (groups ⟨ps ++ [k]⟩).filterMap List.head? =
      (groups ⟨ps⟩).filterMap List.head? ++ if k.truth ∈ patterns ⟨ps⟩ then [] else [ps.length] := by
  by_cases hk : k.truth ∈ patterns ⟨ps⟩
  · rw [groups_concat_of_known ps k hk, groups, List.filterMap_map, List.filterMap_map, if_pos hk,
      List.append_nil]
    refine List.filterMap_congr fun pattern hpattern => ?_
    obtain ⟨i, rest, hpositions, -⟩ := exists_head?_positionsOf hpattern
    simp [positionsOf_concat, hpositions]
  · rw [groups_concat_of_new ps k hk, if_neg hk, List.filterMap_append]
    rfl

/-- The first appearances of truth columns, in a pool with one predicate more. -/
theorem firsts_concat :
    firsts ⟨ps ++ [k]⟩ = firsts ⟨ps⟩ ++ if k.truth ∈ patterns ⟨ps⟩ then [] else [ps.length] := by
  have htruth : ∀ i < ps.length, truthAt? ⟨ps ++ [k]⟩ i = truthAt? ⟨ps⟩ i := by
    intro i hi
    rw [truthAt?, truthAt?, List.getElem?_append_left hi]
  have hlast : truthAt? ⟨ps ++ [k]⟩ ps.length = some k.truth := by simp [truthAt?]
  have hold : (List.range ps.length).filter
      (fun i => ∀ j < i, truthAt? ⟨ps ++ [k]⟩ j ≠ truthAt? ⟨ps ++ [k]⟩ i) = firsts ⟨ps⟩ := by
    refine List.filter_congr fun i hi => ?_
    have hi := List.mem_range.mp hi
    refine decide_eq_decide.mpr (forall_congr' fun j => forall_congr' fun hj => ?_)
    rw [htruth i hi, htruth j (Nat.lt_trans hj hi)]
  -- The new position is a first appearance exactly if its truth column is not known yet.
  have hfirst : (∀ j < ps.length, truthAt? ⟨ps ++ [k]⟩ j ≠ truthAt? ⟨ps ++ [k]⟩ ps.length) ↔
      k.truth ∉ patterns ⟨ps⟩ := by
    rw [hlast, mem_patterns_iff]
    constructor
    · rintro hne ⟨known, hknown, hpattern⟩
      obtain ⟨j, hj⟩ := List.mem_iff_getElem?.mp hknown
      have hlt := (List.getElem?_eq_some_iff.mp hj).1
      exact hne j hlt (by rw [htruth j hlt, truthAt?, hj, Option.map_some, hpattern])
    · intro hnew j hj hpattern
      rw [htruth j hj] at hpattern
      obtain ⟨known, hknown, heq⟩ := Option.map_eq_some_iff.mp hpattern
      exact hnew ⟨known, List.mem_of_getElem? hknown, heq⟩
  rw [firsts, List.length_append, List.length_singleton, List.range_succ, List.filter_append, hold,
    List.filter_singleton]
  by_cases hk : k.truth ∈ patterns ⟨ps⟩
  · rw [decide_eq_false fun h => hfirst.mp h hk, if_pos hk]
    rfl
  · rw [decide_eq_true (hfirst.mpr hk), if_neg hk]
    rfl

end Concat

/-- **Going through a pool once gives its groups.** -/
theorem groups_eq_foldl (p : Pool) :
    p.groups = (List.range p.predicates.length).foldl p.place [] := by
  have htaken : ∀ m ≤ p.predicates.length,
      (List.range m).foldl p.place [] = groups ⟨p.predicates.take m⟩ := by
    intro m hm
    induction m with
    | zero => rfl
    | succ m ih =>
      have hlength : (p.predicates.take m).length = m := by
        rw [List.length_take]
        omega
      have hsplit : p.predicates =
          p.predicates.take m ++ p.predicates[m] :: p.predicates.drop (m + 1) := by
        rw [← List.drop_eq_getElem_cons, List.take_append_drop]
      have hstep := place_groups (p.predicates.take m) p.predicates[m] (p.predicates.drop (m + 1))
      rw [← hsplit, hlength] at hstep
      rw [List.range_succ, List.foldl_concat, ih (by omega), hstep, ← List.take_succ_eq_append_getElem]
  rw [htaken _ (Nat.le_refl _), List.take_length]

/-- **The groups start with the first appearances of truth columns**, in their order. -/
theorem heads_groups (p : Pool) : p.groups.filterMap List.head? = p.firsts := by
  obtain ⟨predicates⟩ := p
  induction predicates using List.reverseRecOn with
  | nil => rfl
  | append_singleton ps k ih => rw [heads_concat, firsts_concat, ih]

/-! ## Classes of positions -/

variable {p : Pool}

theorem pairwise_positionsOf (pattern : TruthColumn) :
    (p.positionsOf pattern).Pairwise (· < ·) := List.pairwise_lt_range.filter _

/-- The group of a position is that of its truth column. -/
theorem eq_positionsOf {group : List Nat} (hgroup : group ∈ p.groups) {i : Nat} (hi : i ∈ group) :
    ∃ pattern, p.truthAt? i = some pattern ∧ group = p.positionsOf pattern := by
  obtain ⟨pattern, -, rfl⟩ := List.mem_map.mp hgroup
  exact ⟨pattern, mem_positionsOf_iff_truthAt?.mp hi, rfl⟩

/-- Every position is in a group. -/
theorem exists_group {i : Nat} (hi : i < p.predicates.length) : ∃ group ∈ p.groups, i ∈ group := by
  have hk : p.predicates[i]? = some p.predicates[i] := List.getElem?_eq_getElem hi
  exact ⟨p.positionsOf p.predicates[i].truth,
    List.mem_map_of_mem (mem_patterns_iff.mpr ⟨_, List.mem_of_getElem? hk, rfl⟩),
    mem_positionsOf_iff.mpr ⟨_, hk, rfl⟩⟩

/-- **No position is in two groups, or twice in one.** -/
theorem nodup_flatten_groups : p.groups.flatten.Nodup := by
  rw [List.nodup_flatten]
  constructor
  · intro group hgroup
    obtain ⟨pattern, -, rfl⟩ := List.mem_map.mp hgroup
    exact (pairwise_positionsOf pattern).imp Nat.ne_of_lt
  · rw [groups, List.pairwise_map]
    have hnodup : p.patterns.Nodup := Expected.nodup_eraseDups _
    refine hnodup.imp fun {a b} hne i ha hb => hne ?_
    have htruth := mem_positionsOf_iff_truthAt?.mp ha
    rw [mem_positionsOf_iff_truthAt?.mp hb] at htruth
    exact (Option.some.inj htruth).symm

theorem flatten_groups_perm : p.groups.flatten.Perm (List.range p.predicates.length) := by
  refine (List.perm_ext_iff_of_nodup nodup_flatten_groups List.nodup_range).mpr fun i => ?_
  rw [List.mem_flatten, List.mem_range]
  constructor
  · rintro ⟨group, hgroup, hi⟩
    exact lt_of_mem_group hgroup hi
  · exact exists_group

/-- Two positions share a group exactly if their predicates have the same truth column. -/
theorem share_group_iff {i j : Nat} (hi : i < p.predicates.length) (hj : j < p.predicates.length) :
    (∃ group ∈ p.groups, i ∈ group ∧ j ∈ group) ↔
      p.predicates[i].truth = p.predicates[j].truth := by
  have htruth (i : Nat) (hi : i < p.predicates.length) :
      p.truthAt? i = some p.predicates[i].truth := by
    rw [truthAt?, List.getElem?_eq_getElem hi, Option.map_some]
  constructor
  · rintro ⟨group, hgroup, hmemi, hmemj⟩
    obtain ⟨pattern, hpattern, rfl⟩ := eq_positionsOf hgroup hmemi
    have hsame := mem_positionsOf_iff_truthAt?.mp hmemj
    rw [htruth i hi] at hpattern
    rw [htruth j hj, ← hpattern] at hsame
    exact (Option.some.inj hsame).symm
  · intro hsame
    obtain ⟨group, hgroup, hmem⟩ := exists_group hi
    obtain ⟨pattern, hpattern, rfl⟩ := eq_positionsOf hgroup hmem
    refine ⟨_, hgroup, hmem, mem_positionsOf_iff_truthAt?.mpr ?_⟩
    rw [htruth j hj, ← hsame, ← htruth i hi, hpattern]

/-- **`p.Divided`** -- the groups of the pool are the classes of its positions under having the same truth
column, by first appearance. -/
structure Divided (p : Pool) : Prop where
  /-- They come out of one pass over the positions. -/
  grown : p.groups = (List.range p.predicates.length).foldl p.place []
  nonempty : ∀ group ∈ p.groups, group ≠ []
  increasing : ∀ group ∈ p.groups, group.Pairwise (· < ·)
  /-- Every position is in one of them, once. -/
  positions : p.groups.flatten.Perm (List.range p.predicates.length)
  /-- Two positions are together exactly if their truth columns are equal. -/
  together : ∀ (i j : Nat) (hi : i < p.predicates.length) (hj : j < p.predicates.length),
    (∃ group ∈ p.groups, i ∈ group ∧ j ∈ group) ↔ p.predicates[i].truth = p.predicates[j].truth
  /-- They start with the first appearances of truth columns, in that order. -/
  ordered : p.groups.filterMap List.head? = p.firsts

theorem divided (p : Pool) : p.Divided where
  grown := groups_eq_foldl p
  nonempty := fun _ hgroup => group_ne_nil hgroup
  increasing := fun group hgroup => by
    obtain ⟨pattern, -, rfl⟩ := List.mem_map.mp hgroup
    exact pairwise_positionsOf pattern
  positions := flatten_groups_perm
  together := fun _ _ hi hj => share_group_iff hi hj
  ordered := heads_groups p

/-! ## Places in groups -/

/-- The position at a place: place `m` of group `g`. -/
def positionAt? (p : Pool) (g m : Nat) : Option Nat := p.groups[g]?.bind (·[m]?)

theorem positionAt?_eq_some_iff {g m i : Nat} :
    p.positionAt? g m = some i ↔ ∃ group, p.groups[g]? = some group ∧ group[m]? = some i :=
  Option.bind_eq_some_iff

/-- There is a predicate at every place. -/
theorem lt_of_positionAt? {g m i : Nat} (h : p.positionAt? g m = some i) :
    i < p.predicates.length := by
  obtain ⟨group, hgroup, hi⟩ := positionAt?_eq_some_iff.mp h
  exact lt_of_mem_group (List.mem_of_getElem? hgroup) (List.mem_of_getElem? hi)

/-- The group of a place is that of the truth column found there. -/
theorem pattern_of_positionAt? {g m i : Nat} (h : p.positionAt? g m = some i) :
    ∃ pattern, p.truthAt? i = some pattern ∧ p.patterns[g]? = some pattern ∧
      (p.positionsOf pattern)[m]? = some i := by
  obtain ⟨group, hgroup, hi⟩ := positionAt?_eq_some_iff.mp h
  rw [groups, List.getElem?_map, Option.map_eq_some_iff] at hgroup
  obtain ⟨pattern, hpattern, rfl⟩ := hgroup
  exact ⟨pattern, mem_positionsOf_iff_truthAt?.mp (List.mem_of_getElem? hi), hpattern, hi⟩

/-- **Every predicate has one place.** -/
theorem existsUnique_place {i : Nat} (hi : i < p.predicates.length) :
    ∃! place : Nat × Nat, p.positionAt? place.1 place.2 = some i := by
  obtain ⟨group, hgroup, hmem⟩ := exists_group hi
  obtain ⟨g, hg⟩ := List.mem_iff_getElem?.mp hgroup
  obtain ⟨m, hm⟩ := List.mem_iff_getElem?.mp hmem
  have hplace : p.positionAt? g m = some i := positionAt?_eq_some_iff.mpr ⟨group, hg, hm⟩
  refine ⟨(g, m), hplace, fun ⟨g', m'⟩ hplace' => ?_⟩
  obtain ⟨pattern, htruth, hpattern, hi⟩ := pattern_of_positionAt? hplace
  obtain ⟨pattern', htruth', hpattern', hi'⟩ := pattern_of_positionAt? hplace'
  obtain rfl : pattern = pattern' := Option.some.inj (htruth.symm.trans htruth')
  have hgroups : g' = g :=
    (List.getElem?_inj (List.getElem?_eq_some_iff.mp hpattern').1 (Expected.nodup_eraseDups _)).mp
      (hpattern'.trans hpattern.symm)
  have hplaces : m' = m :=
    (List.getElem?_inj (List.getElem?_eq_some_iff.mp hi').1
      ((pairwise_positionsOf pattern).imp Nat.ne_of_lt)).mp (hi'.trans hi.symm)
  rw [hgroups, hplaces]

/-! ## Choices -/

/-- What a draw of an index comes to. -/
theorem exists_index {n : Nat} (hn : 0 < n) (s : Random.Stream) :
    ∃ k t, (Gen.index n).runOn s = (.ok k, t) ∧ k < n :=
  (Gen.yields_index hn).exists_value s

/-- **A choice by pattern draws the number of a group and a place in it**, and comes to the predicate
that is there. -/
theorem runOn_select_byPattern (hne : p.predicates ≠ []) (s : Random.Stream) :
    ∃ g group s₁ m i k t, (Gen.index p.groups.length).runOn s = (.ok g, s₁) ∧
      p.groups[g]? = some group ∧ (Gen.index group.length).runOn s₁ = (.ok m, t) ∧
      p.positionAt? g m = some i ∧ p.predicates[i]? = some k ∧
      (p.select .byPattern).runOn s = (.ok (some k), t) := by
  obtain ⟨g, s₁, hg, hlt⟩ := exists_index (List.length_pos_iff.mpr (groups_ne_nil hne)) s
  have hgroup : p.groups[g]? = some p.groups[g] := List.getElem?_eq_getElem hlt
  have hmem : p.groups[g] ∈ p.groups := List.mem_of_getElem? hgroup
  obtain ⟨m, t, hm, hlt'⟩ := exists_index (List.length_pos_iff.mpr (group_ne_nil hmem)) s₁
  have hi : p.groups[g][m]? = some p.groups[g][m] := List.getElem?_eq_getElem hlt'
  have hplace : p.positionAt? g m = some p.groups[g][m] :=
    positionAt?_eq_some_iff.mpr ⟨_, hgroup, hi⟩
  have hk : p.predicates[p.groups[g][m]]? = some _ :=
    List.getElem?_eq_getElem (lt_of_positionAt? hplace)
  refine ⟨g, _, s₁, m, _, _, t, hg, hgroup, hm, hplace, hk, ?_⟩
  have hisEmpty : p.predicates.isEmpty = false := List.isEmpty_eq_false_iff.mpr hne
  rw [select, hisEmpty, if_neg Bool.false_ne_true]
  simp only [position, Gen.pick, bind_assoc, Gen.runOn_bind, hg, Gen.element, hgroup,
    Gen.runOn_pure, hm, hi, hk]

/-- There are no more groups than predicates. -/
theorem length_groups_le (p : Pool) : p.groups.length ≤ p.predicates.length := by
  have hsub : p.patterns.Subperm (p.predicates.map (·.truth)) :=
    List.Nodup.subperm (Expected.nodup_eraseDups _) fun _ => List.mem_eraseDups.mp
  simpa [groups] using hsub.length_le

/-- A group has no more positions than there are predicates. -/
theorem length_group_le {group : List Nat} (hgroup : group ∈ p.groups) :
    group.length ≤ p.predicates.length := by
  obtain ⟨pattern, -, rfl⟩ := List.mem_map.mp hgroup
  have hle := List.length_filter_le (fun i => p.predicates[i]?.any (·.truth = pattern))
    (List.range p.predicates.length)
  rwa [List.length_range] at hle

/-- **Every predicate can be chosen by pattern**: some two double words at the start of a stream lead to
its place. -/
theorem exists_words_select (hlength : p.predicates.length ≤ 2 ^ (64 : Nat)) {g m i : Nat} {k : Known}
    (hplace : p.positionAt? g m = some i) (hk : p.predicates[i]? = some k) :
    ∃ v < 2 ^ (64 : Nat), ∃ w < 2 ^ (64 : Nat), ∀ s, (readDoubleWord s).1 = v →
      (readDoubleWord (readDoubleWord s).2).1 = w →
        (p.select .byPattern).runOn s = (.ok (some k), (readDoubleWord (readDoubleWord s).2).2) := by
  obtain ⟨group, hgroup, hi⟩ := positionAt?_eq_some_iff.mp hplace
  obtain ⟨v, hv, hfirst⟩ := Gen.exists_word_pick hgroup (Nat.le_trans (length_groups_le p) hlength)
  obtain ⟨w, hw, hsecond⟩ := Gen.exists_word_pick hi
    (Nat.le_trans (length_group_le (List.mem_of_getElem? hgroup)) hlength)
  refine ⟨v, hv, w, hw, fun s hsv hsw => ?_⟩
  have hisEmpty : p.predicates.isEmpty = false :=
    List.isEmpty_eq_false_iff.mpr (List.ne_nil_of_mem (List.mem_of_getElem? hk))
  rw [select, hisEmpty, if_neg Bool.false_ne_true]
  simp only [position, Gen.runOn_bind, hfirst s hsv, hsecond _ hsw, hk, Gen.runOn_pure]

/-- **A pool is divided by truth columns, and a predicate is chosen at its place.** Nothing is chosen from
an empty pool, and nothing read for it; any other choice comes to a predicate of the pool. By pattern it
comes to the predicate at the place that was drawn: each predicate has one place, and each place can be
drawn, in a pool no longer than there are double words. -/
theorem divided_by_truth (p : Pool) :
    p.Divided ∧
    (∀ how s, (p.select how).runOn s = (.ok none, s) ↔ p.predicates = []) ∧
    (∀ how s, p.predicates ≠ [] →
      ∃ k ∈ p.predicates, ∃ t, (p.select how).runOn s = (.ok (some k), t)) ∧
    (∀ s, p.predicates ≠ [] → ∃ g group s₁ m i k t,
      (Gen.index p.groups.length).runOn s = (.ok g, s₁) ∧ p.groups[g]? = some group ∧
      (Gen.index group.length).runOn s₁ = (.ok m, t) ∧
      p.positionAt? g m = some i ∧ p.predicates[i]? = some k ∧
      (p.select .byPattern).runOn s = (.ok (some k), t)) ∧
    (∀ g m i, p.positionAt? g m = some i → i < p.predicates.length) ∧
    (∀ i < p.predicates.length,
      ∃! place : Nat × Nat, p.positionAt? place.1 place.2 = some i) ∧
    (p.predicates.length ≤ 2 ^ (64 : Nat) →
      ∀ g m i k, p.positionAt? g m = some i → p.predicates[i]? = some k →
        ∃ v < 2 ^ (64 : Nat), ∃ w < 2 ^ (64 : Nat), ∀ s, (readDoubleWord s).1 = v →
          (readDoubleWord (readDoubleWord s).2).1 = w →
            (p.select .byPattern).runOn s =
              (.ok (some k), (readDoubleWord (readDoubleWord s).2).2)) := by
  have hchosen : ∀ how s, p.predicates ≠ [] →
      ∃ k ∈ p.predicates, ∃ t, (p.select how).runOn s = (.ok (some k), t) := by
    intro how s hne
    obtain ⟨chosen, t, hrun, hvalue⟩ := (yields_select p how).exists_value s
    cases chosen with
    | none => exact absurd hvalue hne
    | some k => exact ⟨k, hvalue, t, hrun⟩
  refine ⟨divided p, fun how s => ⟨fun hnone => ?_, fun hempty => ?_⟩, hchosen,
    fun s hne => runOn_select_byPattern hne s, fun g m i => lt_of_positionAt?,
    fun i hi => existsUnique_place hi, fun hlength g m i k => exists_words_select hlength⟩
  · by_contra hne
    obtain ⟨k, -, t, hsome⟩ := hchosen how s hne
    rw [hnone] at hsome
    cases hsome
  · rw [select, List.isEmpty_iff.mpr hempty, if_pos rfl, Gen.runOn_pure]

/-- Three predicates with two truth columns: the first and the last share a group. A stream that starts
with the words found here leads to the last one, and another stream leads to one of the three. -/
theorem divided_by_truth_two_columns :
    let k : String → TruthColumn → Known := fun name truth => ⟨.column ⟨"t0", name⟩, truth⟩
    let p : Pool := ⟨[k "c0" [.holds, .fails], k "c1" [.unknown, .unknown], k "c2" [.holds, .fails]]⟩
    p.groups = [[0, 2], [1]] ∧ p.Divided ∧
      (∃! place : Nat × Nat, p.positionAt? place.1 place.2 = some 2) ∧
      (∃ v < 2 ^ (64 : Nat), ∃ w < 2 ^ (64 : Nat), ∀ s, (readDoubleWord s).1 = v →
        (readDoubleWord (readDoubleWord s).2).1 = w →
          (p.select .byPattern).runOn s =
            (.ok (some (k "c2" [.holds, .fails])), (readDoubleWord (readDoubleWord s).2).2)) ∧
      ∃ known ∈ p.predicates, ∃ t,
        (p.select .uniform).runOn (.ofSeed 17) = (.ok (some known), t) := by
  intro k p
  obtain ⟨hdivided, -, hchosen, -, -, honce, hreached⟩ := divided_by_truth p
  exact ⟨by decide, hdivided, honce 2 (by decide),
    hreached (by decide) 0 1 2 (k "c2" [.holds, .fails]) (by decide) rfl,
    hchosen .uniform (.ofSeed 17) (by decide)⟩

end PredicateOracle.Pool
