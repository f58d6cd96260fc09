import PredicateOracle.Random.Draw

/-!
# PredicateOracle.Proofs.Random.Draw -- what a draw can come to

`Gen.Yields F g P` says of a random value `g` what holds on *every* stream: the draw keeps the seed
of its stream, its value has the property `P`, and if there is no value the fault has the property
`F`. Both sides are stated at once, so `Yields (fun _ => False) g P` is total correctness, and a
larger `F` says exactly which faults remain. The faults that do remain in this library come from
probabilities that are no numbers (`Fault.OfChance`), and from lists for which there is no room
(`Fault.OfRoom`).

Each draw of `PredicateOracle.Random.Draw` has one lemma here. Nothing later in the development
unfolds a draw: it combines these lemmas with `Yields.bind`.
-/

namespace PredicateOracle

open PredicateOracle.Random

/-- Outcomes of draws can be compared. -/
instance decidableEqExcept {ε α : Type} [DecidableEq ε] [DecidableEq α] :
    DecidableEq (Except ε α)
  | .ok a, .ok b => decidable_of_iff (a = b) ⟨congrArg Except.ok, Except.ok.inj⟩
  | .error e, .error f => decidable_of_iff (e = f) ⟨congrArg Except.error, Except.error.inj⟩
  | .ok _, .error _ => .isFalse nofun
  | .error _, .ok _ => .isFalse nofun

/-! ## Words -/

namespace Random

theorem readWord_seed (s : Stream) : (readWord s).2.seed = s.seed := by
  simp [readWord]

theorem readWord_lt (s : Stream) : (readWord s).1 < 2 ^ (32 : Nat) := s.word.1.toNat_lt

theorem readDoubleWord_seed (s : Stream) : (readDoubleWord s).2.seed = s.seed := by
  simp [readDoubleWord]

theorem readDoubleWord_lt (s : Stream) : (readDoubleWord s).1 < 2 ^ (64 : Nat) :=
  s.doubleWord.1.toNat_lt

theorem reduceFrom_seed {read : Stream → Nat × Stream} {bits range : Nat}
    (hread : ∀ s, (read s).2.seed = s.seed) (n : Nat) (s : Stream) :
    (reduceFrom read bits range n s).2.seed = s.seed := by
  induction n generalizing s with
  | zero => exact hread s
  | succ n ih =>
    unfold reduceFrom
    dsimp only
    split
    · exact hread s
    · rw [ih, hread]

/-- The high part of a product with the range lies below the range, whichever word is taken. -/
theorem reduceFrom_lt {read : Stream → Nat × Stream} {bits range : Nat}
    (hread : ∀ s, (read s).1 < 2 ^ bits) (hrange : 0 < range) (n : Nat) (s : Stream) :
    (reduceFrom read bits range n s).1 < range := by
  -- Refused or taken as it comes at the end, what is returned is the high part of some word.
  have hhigh : ∀ s, (read s).1 * range / 2 ^ bits < range := by
    intro s
    rw [Nat.div_lt_iff_lt_mul (Nat.two_pow_pos bits), Nat.mul_comm]
    exact Nat.mul_lt_mul_of_pos_left (hread s) hrange
  induction n generalizing s with
  | zero => exact hhigh s
  | succ n ih =>
    unfold reduceFrom
    dsimp only
    split
    · exact hhigh s
    · exact ih _

theorem below_seed (range : Nat) (s : Stream) : (below range s).2.seed = s.seed := by
  unfold below
  split
  · exact readDoubleWord_seed s
  · exact reduceFrom_seed readDoubleWord_seed _ s

theorem below_lt {range : Nat} (hrange : 0 < range) (s : Stream) : (below range s).1 < range := by
  unfold below
  split
  · rename_i h
    rw [h]
    exact readDoubleWord_lt s
  · exact reduceFrom_lt readDoubleWord_lt hrange _ s

theorem slot_seed (length : Nat) (s : Stream) : (slot length s).2.seed = s.seed := by
  unfold slot
  split
  · exact reduceFrom_seed readWord_seed _ s
  · exact below_seed length s

theorem slot_lt {length : Nat} (hlength : 0 < length) (s : Stream) : (slot length s).1 < length := by
  unfold slot
  split
  · exact reduceFrom_lt readWord_lt hlength _ s
  · exact below_lt hlength s

end Random

/-! ## Running -/

namespace Gen

variable {α β : Type}

@[simp] theorem runOn_pure (a : α) (s : Stream) : (pure a : Gen α).runOn s = (.ok a, s) := rfl

@[simp] theorem runOn_fail (f : Fault) (s : Stream) :
    (Gen.fail f : Gen α).runOn s = (.error f, s) := rfl

@[simp] theorem runOn_ofDraw (f : Stream → α × Stream) (s : Stream) :
    (ofDraw f).runOn s = (.ok (f s).1, (f s).2) := rfl

theorem runOn_bind (g : Gen α) (k : α → Gen β) (s : Stream) :
    (g >>= k).runOn s =
      match g.runOn s with
      | (.ok a, s) => (k a).runOn s
      | (.error f, s) => (.error f, s) := by
  unfold runOn
  rw [ExceptT.run_bind, StateT.run_bind]
  rcases hrun : (ExceptT.run g).run s with ⟨_ | a, t⟩ <;> rfl

/-- Two draws, one after the other, come to a value if both do. -/
theorem runOn_bind_eq_ok {g : Gen α} {k : α → Gen β} {s t : Stream} {b : β} :
    (g >>= k).runOn s = (.ok b, t) ↔
      ∃ a s', g.runOn s = (.ok a, s') ∧ (k a).runOn s' = (.ok b, t) := by
  rw [runOn_bind]
  rcases g.runOn s with ⟨f | a, s'⟩
  · simp
  · simp [Prod.ext_iff, and_assoc]

/-- They come to a fault if the first one does, or else the second. -/
theorem runOn_bind_eq_error {g : Gen α} {k : α → Gen β} {s t : Stream} {f : Fault} :
    (g >>= k).runOn s = (.error f, t) ↔
      g.runOn s = (.error f, t) ∨
        ∃ a s', g.runOn s = (.ok a, s') ∧ (k a).runOn s' = (.error f, t) := by
  rw [runOn_bind]
  rcases g.runOn s with ⟨f | a, s'⟩
  · simp
  · simp [Prod.ext_iff, and_assoc]

/-! ## Properties of every draw -/

/-- **`Yields F g P`** -- on every stream `g` keeps the seed and gives a value with property `P`, or
else a fault with property `F`. -/
def Yields (F : Fault → Prop) (g : Gen α) (P : α → Prop) : Prop :=
  ∀ s, (g.runOn s).2.seed = s.seed ∧
    match (g.runOn s).1 with
    | .ok a => P a
    | .error f => F f

namespace Yields

variable {F G : Fault → Prop} {g : Gen α} {k : α → Gen β} {P Q : α → Prop} {R : β → Prop}

theorem pure {a : α} (h : P a) : Yields F (pure a) P := fun _ => ⟨rfl, h⟩

theorem bind (hg : Yields F g P) (hk : ∀ a, P a → Yields F (k a) R) : Yields F (g >>= k) R := by
  intro s
  obtain ⟨hseed, hval⟩ := hg s
  rw [runOn_bind]
  rcases hrun : g.runOn s with ⟨_ | a, t⟩
  · rw [hrun] at hseed hval
    exact ⟨hseed, hval⟩
  · rw [hrun] at hseed hval
    obtain ⟨hseed', hval'⟩ := hk a hval t
    exact ⟨hseed'.trans hseed, hval'⟩

/-- Fewer faults and a stronger property are more to say. -/
theorem mono (hg : Yields F g P) (hF : ∀ f, F f → G f) (hP : ∀ a, P a → Q a) : Yields G g Q := by
  intro s
  obtain ⟨hseed, hval⟩ := hg s
  refine ⟨hseed, ?_⟩
  rcases hrun : (g.runOn s).1 with f | a
  · rw [hrun] at hval
    exact hF f hval
  · rw [hrun] at hval
    exact hP a hval

theorem weaken (hg : Yields F g P) (hP : ∀ a, P a → Q a) : Yields F g Q :=
  hg.mono (fun _ h => h) hP

theorem ofDraw {f : Stream → α × Stream} (hseed : ∀ s, (f s).2.seed = s.seed)
    (hval : ∀ s, P (f s).1) : Yields F (Gen.ofDraw f) P := fun s => ⟨hseed s, hval s⟩

theorem ite {c : Bool} {g h : Gen α} (hg : c = true → Yields F g P)
    (hh : c = false → Yields F h P) : Yields F (if c then g else h) P := by
  cases c with
  | true => exact hg rfl
  | false => exact hh rfl

/-- What a draw that came to a value says about it. -/
theorem of_runOn_ok (hg : Yields F g P) {s t : Stream} {a : α} (h : g.runOn s = (.ok a, t)) :
    P a ∧ t.seed = s.seed := by
  have := hg s
  rw [h] at this
  exact ⟨this.2, this.1⟩

/-- What a draw that came to a fault says about it. -/
theorem of_runOn_error (hg : Yields F g P) {s t : Stream} {f : Fault}
    (h : g.runOn s = (.error f, t)) : F f ∧ t.seed = s.seed := by
  have := hg s
  rw [h] at this
  exact ⟨this.2, this.1⟩

/-- A draw without faults comes to a value. -/
theorem exists_value (hg : Yields (fun _ => False) g P) (s : Stream) :
    ∃ a t, g.runOn s = (.ok a, t) ∧ P a := by
  rcases hrun : g.runOn s with ⟨f | a, t⟩
  · exact (hg.of_runOn_error hrun).1.elim
  · exact ⟨a, t, rfl, (hg.of_runOn_ok hrun).1⟩

end Yields

end Gen

/-! ## Room -/

namespace Record

variable {r : Record} {m n : Nat}

/-- Where there is room for some records there is room for fewer. -/
theorem HasRoom.mono (hle : m ≤ n) (h : r.HasRoom n) : r.HasRoom m :=
  Nat.lt_of_le_of_lt (Nat.mul_le_mul_right r.bytes hle) h

theorem reserve_of_hasRoom (h : r.HasRoom n) : r.reserve n = .ok () := if_pos h

theorem reserve_of_not_hasRoom (h : ¬ r.HasRoom n) : r.reserve n = .error .capacityOverflow :=
  if_neg h

end Record

/-- **`Fault.OfRoom r n f`** -- the fault `f` is that there is no room for `n` records. -/
def Fault.OfRoom (r : Record) (n : Nat) (f : Fault) : Prop :=
  f = .capacityOverflow ∧ ¬ r.HasRoom n

theorem Fault.OfRoom.mono {r : Record} {m n : Nat} {f : Fault} (hle : m ≤ n)
    (h : Fault.OfRoom r m f) : Fault.OfRoom r n f := ⟨h.1, mt (Record.HasRoom.mono hle) h.2⟩

namespace Gen

theorem runOn_reserve (r : Record) (n : Nat) (s : Stream) :
    (reserve r n).runOn s = (r.reserve n, s) := by
  unfold reserve
  cases r.reserve n <;> rfl

/-- There is room, or a fault that says that there is none; nothing is drawn. -/
theorem yields_reserve (r : Record) (n : Nat) :
    Yields (Fault.OfRoom r n) (reserve r n) fun _ => r.HasRoom n := by
  intro s
  rw [runOn_reserve]
  by_cases h : r.HasRoom n
  · rw [Record.reserve_of_hasRoom h]
    exact ⟨rfl, h⟩
  · rw [Record.reserve_of_not_hasRoom h]
    exact ⟨rfl, rfl, h⟩

end Gen

/-! ## Coins -/

/-- **`Fault.OfChance ps f`** -- the fault `f` comes of a coin whose probability, one of `ps`, is
not a number. -/
def Fault.OfChance (ps : List Float) (f : Fault) : Prop :=
  f = .undefinedProbability ∧ ∃ p ∈ ps, Odds.ofProbability p = .undefined

theorem Fault.OfChance.mono {ps qs : List Float} {f : Fault} (hsub : ps ⊆ qs)
    (h : Fault.OfChance ps f) : Fault.OfChance qs f := by
  obtain ⟨hf, p, hp, hodds⟩ := h
  exact ⟨hf, p, hsub hp, hodds⟩

namespace Gen

variable {α : Type} {F : Fault → Prop}

/-- Of any draw it can be said that it keeps the seed and has a value. -/
theorem yields_ofDraw {f : Stream → α × Stream} (hseed : ∀ s, (f s).2.seed = s.seed) :
    Yields F (ofDraw f) fun _ => True := .ofDraw hseed fun _ => trivial

theorem yields_coin : Yields F coin fun _ => True := yields_ofDraw fun s => readDoubleWord_seed s

theorem yields_toss {odds : Odds} (hodds : odds = .undefined → F .undefinedProbability) :
    Yields F (toss odds) fun _ => True := by
  cases odds with
  | certain => exact .pure trivial
  | threshold n => exact yields_ofDraw fun s => readDoubleWord_seed s
  | undefined => exact fun _ => ⟨rfl, hodds rfl⟩

/-- A coin has a side whenever its probability is a number. -/
theorem yields_chance {p : Float} {ps : List Float} (hp : p ∈ ps) :
    Yields (Fault.OfChance ps) (chance p) fun _ => True :=
  yields_toss fun hodds => ⟨rfl, p, hp, hodds⟩

theorem yields_rarely : Yields F rarely fun _ => True :=
  yields_toss fun hodds => absurd hodds (by decide +kernel)

theorem yields_seldom : Yields F seldom fun _ => True :=
  yields_toss fun hodds => absurd hodds (by decide +kernel)

/-! ## Numbers and choices -/

theorem yields_below {range : Nat} (hrange : 0 < range) :
    Yields F (ofDraw (below range)) (· < range) :=
  .ofDraw (fun s => below_seed range s) fun s => below_lt hrange s

theorem yields_index {n : Nat} (hn : 0 < n) : Yields F (index n) (· < n) := by
  unfold index
  rw [if_neg (Nat.ne_of_gt hn)]
  exact yields_below hn

/-- A number from an interval lies in it, unless the interval holds every double word. -/
theorem yields_between {low high : Int} (hle : low ≤ high) (hsmall : high - low + 1 < 2 ^ (64 : Nat)) :
    Yields F (between low high) fun n => low ≤ n ∧ n ≤ high := by
  unfold between
  rw [if_neg (Int.not_lt.mpr hle)]
  have hpos : 0 < (high - low + 1).toNat := by omega
  refine .bind (yields_below hpos) fun k hk => ?_
  rw [if_neg (by omega)]
  exact .pure (by omega)

/-- A position of the list has an element. -/
theorem yields_element {items : List α} {i : Nat} (hi : i < items.length) :
    Yields F (element items i) fun a => items[i]? = some a := by
  unfold element
  rw [List.getElem?_eq_getElem hi]
  exact .pure rfl

theorem yields_elements {items : List α} {ps : List Nat} (hps : ∀ i ∈ ps, i < items.length) :
    Yields F (elements items ps) (· = ps.filterMap (items[·]?)) := by
  induction ps with
  | nil => exact .pure rfl
  | cons i ps ih =>
    obtain ⟨hi, hps⟩ := List.forall_mem_cons.mp hps
    refine .bind (yields_element hi) fun a ha => .bind (ih hps) fun as has => .pure ?_
    rw [List.filterMap_cons_some ha, has]

theorem yields_remove {items : List α} {i : Nat} (hi : i < items.length) :
    Yields F (remove items i) (· = items.eraseIdx i) := by
  unfold remove
  rw [if_pos hi]
  exact .pure rfl

theorem yields_slot {n : Nat} (hn : 0 < n) : Yields F (ofDraw (slot n)) (· < n) :=
  .ofDraw (fun s => slot_seed n s) fun s => slot_lt hn s

/-- An element is chosen if there is one. -/
theorem yields_choose?_of_ne {items : List α} (hne : items ≠ []) :
    Yields F (choose? items) fun a => ∃ b ∈ items, a = some b := by
  cases items with
  | nil => exact absurd rfl hne
  | cons b bs =>
    refine .bind (yields_slot (Nat.succ_pos _)) fun k hk => ?_
    refine .bind (yields_element hk) fun a ha => .pure ?_
    exact ⟨a, List.mem_of_getElem? ha, rfl⟩

theorem yields_choose? (items : List α) : Yields F (choose? items) fun a => ∀ b ∈ a, b ∈ items := by
  cases items with
  | nil => exact .pure (by simp)
  | cons b bs =>
    refine (yields_choose?_of_ne (List.cons_ne_nil b bs)).weaken fun a ha => ?_
    obtain ⟨c, hc, rfl⟩ := ha
    rintro _ ⟨⟩
    exact hc

theorem yields_pick {items : List α} (hne : items ≠ []) : Yields F (pick items) (· ∈ items) := by
  refine .bind (yields_index (List.length_pos_iff.mpr hne)) fun k hk => ?_
  exact (yields_element hk).weaken fun a ha => List.mem_of_getElem? ha

theorem yields_times {g : Gen α} {P : α → Prop} (hg : Yields F g P) (n : Nat) :
    Yields F (times n g) fun as => as.length = n ∧ ∀ a ∈ as, P a := by
  induction n with
  | zero => exact .pure ⟨rfl, by simp⟩
  | succ n ih =>
    refine .bind hg fun a ha => .bind ih fun as has => .pure ?_
    obtain ⟨hlength, hall⟩ := has
    exact ⟨by rw [List.length_cons, hlength], List.forall_mem_cons.mpr ⟨ha, hall⟩⟩

theorem yields_text {alphabet : List Char} (hne : alphabet ≠ []) (maxLength : Nat) :
    Yields F (text alphabet maxLength) fun t =>
      t.toList.length ≤ maxLength ∧ ∀ c ∈ t.toList, c ∈ alphabet := by
  refine .bind (yields_below (Nat.succ_pos maxLength)) fun length hlength => ?_
  refine .bind (yields_times (yields_pick hne) length) fun cs hcs => .pure ?_
  rw [String.toList_ofList, hcs.1]
  exact ⟨Nat.le_of_lt_succ hlength, hcs.2⟩

/-! ## Selections -/

theorem yields_exchange {a : Array α} {i j : Nat} (hi : i < a.size) (hj : j < a.size) :
    Yields F (exchange a i j) fun b => b.Perm a := by
  unfold exchange
  rw [dif_pos ⟨hi, hj⟩]
  exact .pure (Array.swap_perm hi hj)

theorem yields_shuffleFrom (n : Nat) {a : Array α} (hn : n ≤ a.size - 1) :
    Yields F (shuffleFrom n a) fun b => b.Perm a := by
  induction n generalizing a with
  | zero => exact .pure (.refl a)
  | succ n ih =>
    refine .bind (yields_slot (Nat.succ_pos _)) fun j hj => ?_
    refine .bind (yields_exchange (by omega) (by omega)) fun b hb => ?_
    have hsize : b.size = a.size := hb.size_eq
    exact (ih (by omega)).weaken fun c hc => hc.trans hb

/-- Positions come in increasing order, below the bound, and at least one of them if there is any. -/
theorem yields_positions (n : Nat) :
    Yields F (positions n) fun ps =>
      ps.Pairwise (· < ·) ∧ (∀ i ∈ ps, i < n) ∧ (0 < n → ps ≠ []) := by
  unfold positions
  split
  · rename_i hn
    exact .pure ⟨.nil, by simp, by omega⟩
  · rename_i hn
    refine .bind (yields_index (Nat.pos_of_ne_zero hn)) fun k _ => ?_
    refine .bind (yields_shuffleFrom _ (Nat.le_refl _)) fun order horder => .pure ?_
    -- The positions are a sorted beginning of a permutation: distinct because it is one, and in
    -- range because all of it is.
    have hperm : order.toList.Perm (List.range n) := by
      simpa using Array.perm_iff_toList_perm.mp horder
    have hsorted : ((order.toList.take (1 + k)).mergeSort).Perm (order.toList.take (1 + k)) :=
      List.mergeSort_perm _ _
    have hnodup : (order.toList.take (1 + k)).Nodup :=
      (hperm.nodup_iff.mpr List.nodup_range).sublist (List.take_sublist _ _)
    refine ⟨?_, fun i hi => ?_, fun _ hnil => ?_⟩
    · have hle : ((order.toList.take (1 + k)).mergeSort).Pairwise fun a b => decide (a ≤ b) = true :=
        List.pairwise_mergeSort (by simp; omega) (by simp; omega) _
      refine (hle.and (hsorted.nodup_iff.mpr hnodup)).imp fun {a b} hab => ?_
      obtain ⟨hab, hne⟩ := hab
      have := of_decide_eq_true hab
      omega
    · have hmem := List.mem_of_mem_take (hsorted.mem_iff.mp hi)
      exact List.mem_range.mp (hperm.mem_iff.mp hmem)
    · have hlength := hsorted.length_eq
      rw [hnil, List.length_take, hperm.length_eq, List.length_range] at hlength
      simp only [List.length_nil] at hlength
      omega

/-- Elements at increasing positions are a sublist. -/
theorem filterMap_getElem?_sublist {items : List α} {ps : List Nat} (hps : ps.Pairwise (· < ·))
    (hlt : ∀ i ∈ ps, i < items.length) : (ps.filterMap (items[·]?)).Sublist items := by
  -- Nothing is lost, since every position is in range: the filter is a map.
  have hmap : ps.filterMap (items[·]?) = (ps.pmap Fin.mk hlt).map (items[·]) := by
    clear hps
    induction ps with
    | nil => rfl
    | cons i ps ih =>
      have hi : items[i]? = some (items.get ⟨i, hlt i (by simp)⟩) := List.getElem?_eq_getElem _
      rw [List.filterMap_cons_some hi, ih fun j hj => hlt j (List.mem_cons_of_mem i hj)]
      rfl
  rw [hmap]
  exact List.map_getElem_sublist (hps.pmap hlt fun i _ j _ hij => hij)

/-- **A subset is an order-preserving selection**, with at least one element if there is any. -/
theorem yields_subset (items : List α) :
    Yields F (subset items) fun chosen => chosen.Sublist items ∧ (items ≠ [] → chosen ≠ []) := by
  refine .bind (yields_positions items.length) fun ps hps => ?_
  obtain ⟨hsorted, hlt, hne⟩ := hps
  refine (yields_elements hlt).weaken ?_
  rintro _ rfl
  refine ⟨filterMap_getElem?_sublist hsorted hlt, fun hitems hnil => ?_⟩
  obtain ⟨i, hi⟩ := List.exists_mem_of_ne_nil ps (hne (List.length_pos_iff.mpr hitems))
  have hnone := List.filterMap_eq_nil_iff.mp hnil i hi
  exact absurd (hlt i hi) (Nat.not_lt.mpr (List.getElem?_eq_none_iff.mp hnone))

end Gen
end PredicateOracle
