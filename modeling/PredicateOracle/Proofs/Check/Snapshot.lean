import PredicateOracle.Check.Snapshot

/-!
# PredicateOracle.Proofs.Check.Snapshot -- what a snapshot knows

An answer to the first query is well formed if each of its rows has the contents and one truth cell
for every predicate. Such an answer is always split, and the snapshot that comes of it states the
answer again: its rows are the contents, and the truth of predicate number `j` on a row is what the
`j`-th truth cell of that row says (`Snapshot.ofRows_wellFormed`). Nothing is lost by this, since the answer
can be read off the snapshot. Any other answer is refused at its first fault, in the order of the rows and
of their cells (`Snapshot.ofRows_exact`).
-/

namespace PredicateOracle.Snapshot

open Sql

/-! ## Answers -/

/-- The cells that may state the truth of a predicate: `true`, `false` and NULL. -/
def IsTruthCell (c : Option String) : Prop := c = some "true" ∨ c = some "false" ∨ c = none

instance (c : Option String) : Decidable (IsTruthCell c) :=
  inferInstanceAs (Decidable (c = some "true" ∨ c = some "false" ∨ c = none))

/-- What a cell states. -/
def cellTruth : Option String → Truth
  | some "true" => .holds
  | some "false" => .fails
  | _ => .unknown

/-- **`WellFormed width count rows`** -- each row has `width` cells of contents and `count` cells that
state a truth. -/
def WellFormed (width count : Nat) (rows : List Row) : Prop :=
  ∀ row ∈ rows, row.length = width + count ∧ ∀ c ∈ row.drop width, IsTruthCell c

instance (width count : Nat) (rows : List Row) : Decidable (WellFormed width count rows) :=
  inferInstanceAs (Decidable (∀ row ∈ rows, row.length = width + count ∧
    ∀ c ∈ row.drop width, IsTruthCell c))

/-- What a row with `width` cells of contents states about predicate number `j`. -/
def stated (width : Nat) (j : Nat) (row : Row) : Truth := cellTruth (row.getD (width + j) none)

theorem ofCell_of_isTruthCell {c : Option String} (h : IsTruthCell c) :
    Truth.ofCell c = .ok (cellTruth c) := by
  rcases h with rfl | rfl | rfl <;> rfl

theorem isTruthCell_cell (a : Truth) : IsTruthCell a.cell := by
  cases a <;> simp [IsTruthCell, Truth.cell]

theorem not_isTruthCell_iff {c : Option String} :
    ¬ IsTruthCell c ↔ c ≠ none ∧ c ≠ some "true" ∧ c ≠ some "false" := by
  unfold IsTruthCell
  constructor
  · intro h
    exact ⟨fun hc => h (.inr (.inr hc)), fun hc => h (.inl hc), fun hc => h (.inr (.inl hc))⟩
  · rintro ⟨hnone, htrue, hfalse⟩ (h | h | h)
    · exact htrue h
    · exact hfalse h
    · exact hnone h

theorem cellTruth_cell (a : Truth) : cellTruth a.cell = a := by cases a <;> rfl

/-! ## Splitting -/

theorem readTruths_ok (row i : Nat) {cells : List (Option String)}
    (h : ∀ c ∈ cells, IsTruthCell c) : readTruths row i cells = .ok (cells.map cellTruth) := by
  induction cells generalizing i with
  | nil => rfl
  | cons c cells ih =>
    obtain ⟨hc, hcells⟩ := List.forall_mem_cons.mp h
    rw [readTruths, ofCell_of_isTruthCell hc]
    simp only [ih (i + 1) hcells]
    rfl

theorem splitRows_ok {width count : Nat} (i : Nat) {rows : List Row}
    (h : WellFormed width count rows) :
    splitRows width count i rows =
      .ok (rows.map fun row => (row.take width, (row.drop width).map cellTruth)) := by
  induction rows generalizing i with
  | nil => rfl
  | cons row rows ih =>
    obtain ⟨⟨hwidth, hcells⟩, hrows⟩ := List.forall_mem_cons.mp h
    rw [splitRows, splitRow, if_neg (by omega), readTruths_ok i 0 hcells, ih (i + 1) hrows]
    rfl

theorem isTruthCell_of_readTruths {row i : Nat} {cells : List (Option String)} {ts : List Truth}
    (h : readTruths row i cells = .ok ts) : ∀ c ∈ cells, IsTruthCell c := by
  induction cells generalizing i ts with
  | nil => simp
  | cons c cells ih =>
    rw [readTruths] at h
    rcases hcell : Truth.ofCell c with text | t
    · rw [hcell] at h
      cases h
    · rw [hcell] at h
      rcases hrest : readTruths row (i + 1) cells with d | ts'
      · rw [hrest] at h
        cases h
      · rw [← Truth.cell_of_ofCell hcell]
        exact List.forall_mem_cons.mpr ⟨isTruthCell_cell t, ih hrest⟩

/-- Only a well-formed answer can be split. -/
theorem wellFormed_of_splitRows {width count i : Nat} {rows : List Row}
    {split : List (Row × List Truth)} (h : splitRows width count i rows = .ok split) :
    WellFormed width count rows := by
  induction rows generalizing i split with
  | nil => simp [WellFormed]
  | cons row rows ih =>
    rw [splitRows, splitRow] at h
    by_cases hwidth : row.length = width + count
    · rw [if_neg (not_not_intro hwidth)] at h
      rcases hcells : readTruths i 0 (row.drop width) with d | ts
      · rw [hcells] at h
        cases h
      · rw [hcells] at h
        rcases hrest : splitRows width count (i + 1) rows with d | split'
        · rw [hrest] at h
          cases h
        · have hrow := isTruthCell_of_readTruths hcells
          exact List.forall_mem_cons.mpr ⟨⟨hwidth, hrow⟩, ih hrest⟩
    · rw [if_pos hwidth] at h
      cases h

/-- An answer is not well formed because of a row that is too short or too long, or because of a cell
that states no truth. -/
theorem not_wellFormed_iff {width count : Nat} {rows : List Row} :
    ¬ WellFormed width count rows ↔
      ∃ row ∈ rows, row.length ≠ width + count ∨ ∃ c ∈ row.drop width, ¬ IsTruthCell c := by
  simp only [WellFormed, Classical.not_forall, Classical.not_and_iff_not_or_not, exists_prop, ne_eq]

/-- The columns of a table whose rows are all complete. -/
theorem transpose_eq {count : Nat} {table : List (List Truth)}
    (h : ∀ row ∈ table, row.length = count) :
    transpose count table = (List.range count).map fun j => table.map (·.getD j .unknown) := by
  induction table with
  | nil => simp [transpose, List.map_const']
  | cons row table ih =>
    obtain ⟨hrow, htable⟩ := List.forall_mem_cons.mp h
    -- A row more puts its `j`-th value in front of column number `j`.
    have hcons : transpose count (row :: table) =
        List.zipWith (· :: ·) row (transpose count table) := rfl
    rw [hcons, ih htable]
    refine List.ext_getElem (by simp [hrow]) fun j _ hj => ?_
    have hlt : j < row.length := by simpa [hrow] using hj
    simp [hlt]

/-- **A well-formed answer is split without loss.** The rows of the snapshot are the contents of the
answer, and each predicate is known with the truth that the answer states on every row. -/
theorem ofRows_wellFormed {width : Nat} {predicates : List Expr} {rows : List Row}
    (h : WellFormed width predicates.length rows) (query : String) :
    ofRows rows width predicates query =
      .ok ⟨rows.map (·.take width),
        predicates.mapIdx fun j e => ⟨e, rows.map (stated width j)⟩, query⟩ := by
  have htable : ∀ row ∈ rows.map fun row => (row.drop width).map cellTruth,
      row.length = predicates.length := by
    intro row hrow
    obtain ⟨row, hmem, rfl⟩ := List.mem_map.mp hrow
    have hwidth := (h row hmem).1
    simp only [List.length_map, List.length_drop]
    omega
  rw [ofRows, splitRows_ok 0 h]
  change Except.ok (Snapshot.mk _ _ _) = Except.ok _
  simp only [List.map_map, Function.comp_def]
  rw [transpose_eq htable]
  refine congrArg (fun ps => Except.ok (Snapshot.mk _ ps query)) ?_
  refine List.ext_getElem (by simp) fun j _ hj => ?_
  have hlt : j < predicates.length := by simpa using hj
  simp only [List.getElem_zipWith, List.getElem_map, List.getElem_range, List.getElem_mapIdx,
    Known.mk.injEq, true_and]
  rw [List.map_map, List.map_inj_left]
  intro row hrow
  have hwidth := (h row hrow).1
  have hpos : width + j < row.length := by omega
  simp [stated, hpos]

theorem wellFormed_of_ofRows {width : Nat} {predicates : List Expr} {rows : List Row}
    {query : String} {s : Snapshot} (h : ofRows rows width predicates query = .ok s) :
    WellFormed width predicates.length rows := by
  rw [ofRows] at h
  rcases hsplit : splitRows width predicates.length 0 rows with d | split
  · rw [hsplit] at h
    cases h
  · exact wellFormed_of_splitRows hsplit

/-! ## Defects -/

/-- **`OfRows d`** -- the defect `d` is one of a fetched row: its width or one of its cells. -/
inductive OfRows : Defect → Prop
  | width (row width expected : Nat) : OfRows (.rowWidth row width expected)
  | cell (predicate : Nat) (text : String) (row : Nat) : OfRows (.notTruth predicate text row)

/-- **`RowFault width count index row d`** -- the defect `d` is what is wrong with row number `index`:
that it has too few or too many cells, or else the leftmost of its predicate cells that states no
truth. -/
inductive RowFault (width count index : Nat) (row : Row) : Defect → Prop
  | width (hwidth : row.length ≠ width + count) :
    RowFault width count index row (.rowWidth index row.length (width + count))
  | cell {j : Nat} {text : String} (hwidth : row.length = width + count)
      (hcell : (row.drop width)[j]? = some (some text)) (htext : ¬ IsTruthCell (some text))
      (hleft : ∀ c ∈ (row.drop width).take j, IsTruthCell c) :
    RowFault width count index row (.notTruth j text index)

/-- **`FirstFault width count rows d`** -- the defect `d` is that of the first row that is not well
formed. -/
def FirstFault (width count : Nat) (rows : List Row) (d : Defect) : Prop :=
  ∃ i row, rows[i]? = some row ∧ WellFormed width count (rows.take i) ∧
    RowFault width count i row d

theorem eq_of_ofCell_error {c : Option String} {text : String} (h : Truth.ofCell c = .error text) :
    c = some text ∧ ¬ IsTruthCell c := by
  have hcell : ¬ IsTruthCell c := by
    intro hc
    rw [ofCell_of_isTruthCell hc] at h
    cases h
  refine ⟨?_, hcell⟩
  unfold Truth.ofCell at h
  split at h <;> cases h
  rfl

/-- Reading stops at the leftmost cell that states no truth. -/
theorem readTruths_error {row i : Nat} {cells : List (Option String)} {d : Defect}
    (h : readTruths row i cells = .error d) :
    ∃ j text, cells[j]? = some (some text) ∧ ¬ IsTruthCell (some text) ∧
      (∀ c ∈ cells.take j, IsTruthCell c) ∧ d = .notTruth (i + j) text row := by
  induction cells generalizing i with
  | nil => cases h
  | cons c cells ih =>
    rw [readTruths] at h
    rcases hcell : Truth.ofCell c with text | t
    · rw [hcell] at h
      obtain rfl := Except.error.inj h
      obtain ⟨rfl, htext⟩ := eq_of_ofCell_error hcell
      exact ⟨0, text, rfl, htext, nofun, rfl⟩
    · rw [hcell] at h
      rcases hrest : readTruths row (i + 1) cells with d' | ts
      · rw [hrest] at h
        obtain rfl := Except.error.inj h
        obtain ⟨j, text, hj, htext, hleft, rfl⟩ := ih hrest
        refine ⟨j + 1, text, hj, htext, ?_, congrArg (Defect.notTruth · text row) (by omega)⟩
        rw [List.take_succ_cons, ← Truth.cell_of_ofCell hcell]
        exact List.forall_mem_cons.mpr ⟨isTruthCell_cell t, hleft⟩
      · rw [hrest] at h
        cases h

theorem splitRow_error {width count index : Nat} {row : Row} {d : Defect}
    (h : splitRow width count index row = .error d) : RowFault width count index row d := by
  unfold splitRow at h
  split at h
  · rename_i hwidth
    obtain rfl := Except.error.inj h
    exact .width hwidth
  · rename_i hwidth
    rcases hcells : readTruths index 0 (row.drop width) with d' | ts
    · rw [hcells] at h
      obtain rfl := Except.error.inj h
      obtain ⟨j, text, hj, htext, hleft, rfl⟩ := readTruths_error hcells
      rw [Nat.zero_add]
      exact .cell (Decidable.not_not.mp hwidth) hj htext hleft
    · rw [hcells] at h
      cases h

/-- Splitting stops at the first row that is not well formed. -/
theorem splitRows_error {width count start : Nat} {rows : List Row} {d : Defect}
    (h : splitRows width count start rows = .error d) :
    ∃ i row, rows[i]? = some row ∧ WellFormed width count (rows.take i) ∧
      RowFault width count (start + i) row d := by
  induction rows generalizing start with
  | nil => cases h
  | cons row rows ih =>
    rw [splitRows] at h
    rcases hfirst : splitRow width count start row with d' | first
    · rw [hfirst] at h
      obtain rfl := Except.error.inj h
      exact ⟨0, row, rfl, nofun, splitRow_error hfirst⟩
    · rw [hfirst] at h
      rcases hrest : splitRows width count (start + 1) rows with d' | rest
      · rw [hrest] at h
        obtain rfl := Except.error.inj h
        obtain ⟨i, row', hi, hbefore, hfault⟩ := ih hrest
        have hrow : splitRows width count start [row] = .ok [first] := by
          rw [splitRows, hfirst]
          rfl
        refine ⟨i + 1, row', hi, List.forall_mem_cons.mpr ⟨?_, hbefore⟩, ?_⟩
        · exact wellFormed_of_splitRows hrow row (List.mem_singleton_self row)
        · rwa [Nat.add_assoc, Nat.add_comm 1] at hfault
      · rw [hrest] at h
        cases h

/-- **An answer that cannot be split is refused at its first fault.** -/
theorem firstFault_of_ofRows {rows : List Row} {width : Nat} {predicates : List Expr}
    {query : String} {d : Defect} (h : ofRows rows width predicates query = .error d) :
    FirstFault width predicates.length rows d := by
  rw [ofRows] at h
  rcases hsplit : splitRows width predicates.length 0 rows with d' | split
  · rw [hsplit] at h
    obtain rfl := Except.error.inj h
    obtain ⟨i, row, hi, hbefore, hfault⟩ := splitRows_error hsplit
    exact ⟨i, row, hi, hbefore, Nat.zero_add i ▸ hfault⟩
  · rw [hsplit] at h
    cases h

/-- **Splitting an answer has no other defects than those of its rows.** -/
theorem ofRows_error {rows : List Row} {width : Nat} {predicates : List Expr} {query : String}
    {d : Defect} (h : ofRows rows width predicates query = .error d) : OfRows d := by
  obtain ⟨i, row, -, -, hfault⟩ := firstFault_of_ofRows h
  cases hfault with
  | width => exact .width i row.length _
  | cell => exact .cell _ _ i

/-! ## Restoring an answer -/

/-- **`s.answer`** -- the rows that a snapshot was split from: the contents, then a cell for the truth of
each predicate. -/
def answer (s : Snapshot) : List Row :=
  s.rows.mapIdx fun i contents => contents ++ s.predicates.map fun k => k.truth[i]?.bind Truth.cell

theorem cell_cellTruth {c : Option String} (h : IsTruthCell c) : (cellTruth c).cell = c := by
  rcases h with rfl | rfl | rfl <;> rfl

/-- A snapshot of a well-formed answer gives the answer back. -/
theorem answer_of_wellFormed {width : Nat} {predicates : List Expr} {rows : List Row}
    (h : WellFormed width predicates.length rows) (query : String) :
    answer ⟨rows.map (·.take width),
      predicates.mapIdx fun j e => ⟨e, rows.map (stated width j)⟩, query⟩ = rows := by
  refine List.ext_getElem (by simp [answer]) fun i _ hi => ?_
  obtain ⟨hwidth, hcells⟩ := h rows[i] (List.getElem_mem hi)
  have htruths : ((predicates.mapIdx fun j e => Known.mk e (rows.map (stated width j))).map
      fun k => k.truth[i]?.bind Truth.cell) = rows[i].drop width := by
    refine List.ext_getElem (by simp; omega) fun j _ hj => ?_
    have hlt : width + j < rows[i].length := by
      rw [List.length_drop] at hj
      omega
    have hcell : IsTruthCell rows[i][width + j] :=
      hcells _ (List.getElem_drop (h := hj) ▸ List.getElem_mem hj)
    simp [hi, hlt, stated, cell_cellTruth hcell]
  simp only [answer, List.getElem_mapIdx, List.getElem_map, htruths, List.take_append_drop]

/-- **An answer is split losslessly or refused at its first fault.** It is split exactly if every row has
the contents and a truth for each predicate. The snapshot then has the predicates with their
expressions in order, as many rows as the answer and as many truths for each predicate, and it gives
the answer back, row by row. Otherwise the defect is that of the first row that is not well formed: its
width or else its leftmost cell that states no truth. -/
theorem ofRows_exact (rows : List Row) (width : Nat) (predicates : List Expr) (query : String) :
    ((∃ s, ofRows rows width predicates query = .ok s) ↔ WellFormed width predicates.length rows) ∧
      match ofRows rows width predicates query with
      | .ok s =>
        s.query = query ∧ s.predicates.map (·.expression) = predicates ∧
          s.rows.length = rows.length ∧ (∀ r ∈ s.rows, r.length = width) ∧
          (∀ k ∈ s.predicates, k.truth.length = rows.length) ∧ s.answer = rows
      | .error d => FirstFault width predicates.length rows d := by
  refine ⟨⟨fun ⟨s, hs⟩ => wellFormed_of_ofRows hs, fun h => ⟨_, ofRows_wellFormed h query⟩⟩, ?_⟩
  rcases hrows : ofRows rows width predicates query with d | s
  · exact firstFault_of_ofRows hrows
  · have h := wellFormed_of_ofRows hrows
    rw [ofRows_wellFormed h query] at hrows
    obtain rfl := Except.ok.inj hrows
    refine ⟨rfl, ?_, List.length_map _, ?_, ?_, answer_of_wellFormed h query⟩
    · exact List.ext_getElem (by simp) fun j _ _ => by simp
    · intro r hr
      obtain ⟨row, hrow, rfl⟩ := List.mem_map.mp hr
      rw [List.length_take, (h row hrow).1, Nat.min_eq_left (Nat.le_add_right _ _)]
    · intro k hk
      obtain ⟨j, hj, rfl⟩ := List.mem_mapIdx.mp hk
      rw [List.length_map]

/-- The second row is the first one at fault, and there the second predicate. -/
example :
    ofRows [[some "a", none, some "true"], [none, some "false", some "TRUE"], []] 1
      [.column ⟨"t0", "p0"⟩, .column ⟨"t0", "p1"⟩] "" = .error (.notTruth 1 "TRUE" 1) := rfl

end PredicateOracle.Snapshot
