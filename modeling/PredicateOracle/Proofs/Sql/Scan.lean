import PredicateOracle.Proofs.Number.Reader
import PredicateOracle.Proofs.Sql.Tree
import PredicateOracle.Sql.Printer

/-!
# PredicateOracle.Proofs.Sql.Scan -- the text of an expression leaves nothing open

A scan goes through a text once. Every quote takes it into a literal or out of one, and outside of
literals it counts parentheses. A text is closed if the scan never counts more closing than opening
parentheses, comes out of every literal and parenthesis, and meets neither a comment nor a semicolon
outside of literals (`Closed`). So whatever a closed text is put into is not cut short by it.

Closed texts cannot simply be put one after the other, since two minus signs may come together. That
is why a stricter scan (`Guard`) also remembers a minus; it stops where a closed text may not go on.
What it gets through from outside, and comes back from without a minus, is sealed (`Sealed`). Sealed
texts can be put together, and the text of every expression with plain names is one.
-/

namespace PredicateOracle.Sql

/-! ## Scans -/

/-- What is known after some characters of a text. -/
structure Scan where
  /-- Whether a literal has begun and not ended. -/
  inside : Bool
  /-- How many more parentheses were opened than closed. -/
  depth : Int
  deriving DecidableEq, Repr

namespace Scan

/-- Before the first character. -/
def start : Scan := ⟨false, 0⟩

/-- One character. Parentheses count outside of literals only. -/
def step (s : Scan) (c : Char) : Scan :=
  if c = '\'' then { s with inside := !s.inside }
  else if s.inside then s
  else if c = '(' then { s with depth := s.depth + 1 }
  else if c = ')' then { s with depth := s.depth - 1 }
  else s

/-- What is known at the end of a text. -/
def after (text : List Char) : Scan := text.foldl step start

end Scan

/-- **`Closed text`** -- the text leaves nothing open, and it neither begins a comment nor ends a
statement. -/
structure Closed (text : List Char) : Prop where
  /-- No parenthesis is closed that was not opened. -/
  opened : ∀ p, p <+: text → 0 ≤ (Scan.after p).depth
  /-- At the end the scan is outside of literals, and all parentheses are closed. -/
  balanced : Scan.after text = Scan.start
  /-- Two minus signs come together in literals only. -/
  comment : ∀ p q, text = p ++ '-' :: '-' :: q → (Scan.after p).inside = true
  /-- Semicolons are in literals only. -/
  separator : ∀ p q, text = p ++ ';' :: q → (Scan.after p).inside = true

/-! ## The stricter scan -/

/-- What the stricter scan knows. -/
structure Guard where
  inside : Bool
  /-- Whether the last character was a minus outside of literals. -/
  minus : Bool
  depth : Nat

namespace Guard

/-- What a scan knows of it. -/
def scan (g : Guard) : Scan := ⟨g.inside, g.depth⟩

/-- One character; none if a closed text cannot have it here. -/
def step? (g : Guard) (c : Char) : Option Guard :=
  if c = '\'' then some ⟨!g.inside, false, g.depth⟩
  else if g.inside then some ⟨true, false, g.depth⟩
  else if c = '(' then some ⟨false, false, g.depth + 1⟩
  else if c = ')' then if g.depth = 0 then none else some ⟨false, false, g.depth - 1⟩
  else if c = ';' ∨ (c = '-' ∧ g.minus = true) then none
  else some ⟨false, c = '-', g.depth⟩

/-- Some characters. -/
def read? (g : Guard) (text : List Char) : Option Guard := text.foldlM step? g

variable {g g' : Guard} {c : Char} {a b text : List Char}

theorem read?_append (g : Guard) (a b : List Char) :
    g.read? (a ++ b) = (g.read? a).bind (read? · b) := List.foldlM_append

theorem read?_cons (g : Guard) (c : Char) (text : List Char) :
    g.read? (c :: text) = (g.step? c).bind (read? · text) := rfl

/-- Where the stricter scan goes on, it knows what the scan knows. -/
theorem scan_step? (h : g.step? c = some g') : g.scan.step c = g'.scan := by
  obtain ⟨inside, minus, depth⟩ := g
  unfold step? at h
  unfold Scan.step scan
  dsimp only at h ⊢
  split_ifs at h ⊢ with hquote hinside hopen hclose hdepth hstop
  · obtain rfl := Option.some.inj h
    rfl
  · obtain rfl := Option.some.inj h
    rw [hinside]
  · obtain rfl := Option.some.inj h
    simp [hinside]
  · obtain rfl := Option.some.inj h
    simp [hinside]
    omega
  · obtain rfl := Option.some.inj h
    simp [hinside]

theorem scan_read? (h : g.read? text = some g') : text.foldl Scan.step g.scan = g'.scan := by
  induction text generalizing g with
  | nil =>
    obtain rfl := Option.some.inj h
    rfl
  | cons c text ih =>
    rw [read?_cons] at h
    obtain ⟨g₁, hstep, hrest⟩ := Option.bind_eq_some_iff.mp h
    rw [List.foldl_cons, scan_step? hstep, ih hrest]

/-- Outside of literals the stricter scan goes on at no semicolon and at no second minus. -/
theorem inside_of_step? (h : g.step? ';' = some g') : g.inside = true := by
  by_contra hinside
  simp [step?, hinside] at h

theorem inside_of_two_minus {g₁ : Guard} (h : g.step? '-' = some g₁) (h₁ : g₁.step? '-' = some g') :
    g.inside = true := by
  by_contra hinside
  simp only [Bool.not_eq_true] at hinside
  by_cases hminus : g.minus = true
  · simp [step?, hinside, hminus] at h
  · have hg₁ : g₁ = ⟨false, true, g.depth⟩ := by simpa [step?, hinside, hminus, eq_comm] using h
    simp [hg₁, step?] at h₁

end Guard

/-- **What the stricter scan gets through is closed**, if it ends outside of literals and parentheses. -/
theorem Closed.of_read? {text : List Char} {minus : Bool}
    (h : Guard.read? ⟨false, false, 0⟩ text = some ⟨false, minus, 0⟩) : Closed text := by
  -- Wherever the text is divided, the stricter scan comes to that place and goes on from there.
  have hsplit {p q : List Char} (hpq : text = p ++ q) : ∃ g : Guard, Scan.after p = g.scan ∧
      g.read? q = some ⟨false, minus, 0⟩ := by
    rw [hpq, Guard.read?_append] at h
    obtain ⟨g, hp, hq⟩ := Option.bind_eq_some_iff.mp h
    exact ⟨g, Guard.scan_read? hp, hq⟩
  refine ⟨?_, Guard.scan_read? h, ?_, ?_⟩
  · rintro p ⟨q, hpq⟩
    obtain ⟨g, hp, -⟩ := hsplit hpq.symm
    rw [hp]
    exact Int.natCast_nonneg g.depth
  · intro p q hpq
    obtain ⟨g, hp, hq⟩ := hsplit hpq
    rw [Guard.read?_cons] at hq
    obtain ⟨g₁, hfirst, hq⟩ := Option.bind_eq_some_iff.mp hq
    rw [Guard.read?_cons] at hq
    obtain ⟨g₂, hsecond, -⟩ := Option.bind_eq_some_iff.mp hq
    rw [hp]
    exact Guard.inside_of_two_minus hfirst hsecond
  · intro p q hpq
    obtain ⟨g, hp, hq⟩ := hsplit hpq
    rw [Guard.read?_cons] at hq
    obtain ⟨g₁, hfirst, -⟩ := Option.bind_eq_some_iff.mp hq
    rw [hp]
    exact Guard.inside_of_step? hfirst

/-! ## Sealed texts -/

/-- **`Sealed text`** -- begun outside of literals and not behind a minus, the stricter scan gets through
the text and is there again, with as many parentheses open. -/
def Sealed (text : List Char) : Prop :=
  ∀ depth, Guard.read? ⟨false, false, depth⟩ text = some ⟨false, false, depth⟩

/-- A character that means nothing to a scan. -/
def IsQuiet (c : Char) : Prop := c ∉ ['\'', '(', ')', ';', '-']

instance (c : Char) : Decidable (IsQuiet c) := inferInstanceAs (Decidable (c ∉ _))

namespace Sealed

variable {a b text : List Char}

theorem closed (h : Sealed text) : Closed text := .of_read? (h 0)

theorem append (ha : Sealed a) (hb : Sealed b) : Sealed (a ++ b) := by
  intro depth
  rw [Guard.read?_append, ha]
  exact hb depth

theorem paren (h : Sealed text) : Sealed ('(' :: text ++ [')']) := by
  intro depth
  rw [List.cons_append, Guard.read?_cons]
  show Guard.read? ⟨false, false, depth + 1⟩ (text ++ [')']) = _
  rw [Guard.read?_append, h]
  rfl

theorem of_quiet (h : ∀ c ∈ text, IsQuiet c) : Sealed text := by
  intro depth
  induction text with
  | nil => rfl
  | cons c text ih =>
    obtain ⟨hc, htext⟩ := List.forall_mem_cons.mp h
    have hstep : Guard.step? ⟨false, false, depth⟩ c = some ⟨false, false, depth⟩ := by
      simp [IsQuiet] at hc
      simp [Guard.step?, hc]
    rw [Guard.read?_cons, hstep]
    exact ih htext

/-- A minus is harmless before a character that means nothing. -/
theorem minus {c : Char} (hc : IsQuiet c) (h : ∀ c ∈ text, IsQuiet c) :
    Sealed ('-' :: c :: text) := by
  intro depth
  have hstep : Guard.step? ⟨false, true, depth⟩ c = some ⟨false, false, depth⟩ := by
    simp [IsQuiet] at hc
    simp [Guard.step?, hc]
  rw [Guard.read?_cons]
  show Guard.read? ⟨false, true, depth⟩ (c :: text) = _
  rw [Guard.read?_cons, hstep]
  exact of_quiet h depth

/-- A text in quotes is sealed, whatever is in it: a quote that is written twice leaves the literal and
enters it again. -/
theorem quoted (s : String) : Sealed (Sql.quoted '\'' s).toList := by
  intro depth
  have hbody (text : List Char) : Guard.read? ⟨true, false, depth⟩
      (text.flatMap fun c => if c = '\'' then ['\'', '\''] else [c]) =
        some ⟨true, false, depth⟩ := by
    induction text with
    | nil => rfl
    | cons c text ih =>
      rw [List.flatMap_cons, Guard.read?_append]
      by_cases hc : c = '\''
      · rw [if_pos hc]
        exact ih
      · have hstep : Guard.read? ⟨true, false, depth⟩ [c] = some ⟨true, false, depth⟩ := by
          simp [Guard.read?, Guard.step?, hc]
        rw [if_neg hc, hstep]
        exact ih
  rw [Sql.quoted, String.toList_ofList, List.cons_append, Guard.read?_cons]
  show Guard.read? ⟨true, false, depth⟩ _ = _
  rw [Guard.read?_append, hbody]
  rfl

end Sealed

/-! ## Texts of expressions -/

theorem isQuiet_of_isAlphanum {c : Char} (h : c.isAlphanum = true) : IsQuiet c := by
  intro hmem
  simp only [List.mem_cons, List.not_mem_nil, or_false] at hmem
  rcases hmem with rfl | rfl | rfl | rfl | rfl <;> exact absurd h (by decide)

theorem isQuiet_of_isPlain {name : String} (h : IsPlain name) : ∀ c ∈ name.toList, IsQuiet c := by
  intro c hc
  rcases h.2 c hc with halnum | rfl
  · exact isQuiet_of_isAlphanum halnum
  · decide

theorem sealed_columnRef {r : ColumnRef} (hr : r.Plain) : Sealed r.sql.toList := by
  refine .of_quiet fun c hc => ?_
  simp only [ColumnRef.sql, String.toList_append, List.mem_append] at hc
  rcases hc with (hc | hc) | hc
  · exact isQuiet_of_isPlain hr.1 c hc
  · obtain rfl : c = '.' := by simpa using hc
    decide
  · exact isQuiet_of_isPlain hr.2 c hc

/-- A printed number has at most one minus, and a digit behind it. -/
theorem sealed_integer (n : Int) : Sealed (toString n).toList := by
  have hquiet (n : Nat) : ∀ c ∈ Nat.toDigits 10 n, IsQuiet c := fun c hc =>
    isQuiet_of_isAlphanum (by simp [Char.isAlphanum, Number.isDigit_of_mem_toDigits hc])
  cases n with
  | ofNat n =>
    rw [Int.ofNat_eq_natCast, Number.toList_toString_ofNat]
    exact .of_quiet (hquiet n)
  | negSucc n =>
    rw [Number.toList_toString_negSucc]
    have hdigits := hquiet (n + 1)
    obtain ⟨c, digits, hcons⟩ :=
      List.exists_cons_of_ne_nil (Nat.toDigits_ne_nil (n := n + 1) (b := 10))
    rw [hcons] at hdigits ⊢
    obtain ⟨hc, hrest⟩ := List.forall_mem_cons.mp hdigits
    exact .minus hc hrest

theorem sealed_literal (l : Literal) : Sealed l.sql.toList := by
  cases l with
  | null t => cases t <;> exact fun _ => rfl
  | integer n => exact sealed_integer n
  | varchar s => exact .quoted s
  | boolean b => cases b <;> exact fun _ => rfl

/-- The text of a node with two operands is sealed if those of the operands are, and the mark between
them. -/
theorem Sealed.node {a mark b : String} (ha : Sealed a.toList) (hmark : Sealed mark.toList)
    (hb : Sealed b.toList) : Sealed ("(" ++ a ++ mark ++ b ++ ")").toList := by
  have htext : ("(" ++ a ++ mark ++ b ++ ")").toList =
      '(' :: (a.toList ++ mark.toList ++ b.toList) ++ [')'] := by simp
  rw [htext]
  exact ((ha.append hmark).append hb).paren

/-- An operator stands between blanks. -/
theorem Sealed.operator {a op b : String} (ha : Sealed a.toList) (hop : Sealed (" " ++ op ++ " ").toList)
    (hb : Sealed b.toList) : Sealed ("(" ++ a ++ " " ++ op ++ " " ++ b ++ ")").toList := by
  have htext : "(" ++ a ++ " " ++ op ++ " " ++ b ++ ")" =
      "(" ++ a ++ (" " ++ op ++ " ") ++ b ++ ")" := by simp only [String.append_assoc]
  rw [htext]
  exact ha.node hop hb

namespace Expr

/-- **The text of every expression with plain names is sealed.** -/
theorem sealed_sql {e : Expr} (h : e.Plain) : Sealed e.sql.toList := by
  -- Behind a minus there is a blank or a digit, so no operand can make a comment of it.
  induction e with
  | column r => exact sealed_columnRef (h r List.mem_cons_self)
  | literal l => exact sealed_literal l
  | prefixed op e ih =>
    have hop : Sealed (op.text ++ " ").toList := by cases op <;> exact fun _ => rfl
    have htext : (prefixed op e).sql.toList =
        '(' :: ((op.text ++ " ").toList ++ e.sql.toList) ++ [')'] := by simp [sql]
    rw [htext]
    exact (hop.append (ih h)).paren
  | postfixed op e ih =>
    have hblank : Sealed " ".toList := fun _ => rfl
    have hop : Sealed op.text.toList := by cases op <;> exact fun _ => rfl
    exact (ih h).node hblank hop
  | logical op l r ihl ihr =>
    obtain ⟨hl, hr⟩ := List.forall_mem_append.mp h
    exact (ihl hl).operator (by cases op <;> exact fun _ => rfl) (ihr hr)
  | comparison op l r ihl ihr =>
    obtain ⟨hl, hr⟩ := List.forall_mem_append.mp h
    exact (ihl hl).operator (by cases op <;> exact fun _ => rfl) (ihr hr)
  | arithmetic op l r ihl ihr =>
    obtain ⟨hl, hr⟩ := List.forall_mem_append.mp h
    exact (ihl hl).operator (by cases op <;> exact fun _ => rfl) (ihr hr)
  | concat l r ihl ihr =>
    obtain ⟨hl, hr⟩ := List.forall_mem_append.mp h
    have hmark : Sealed " || ".toList := fun _ => rfl
    exact (ihl hl).node hmark (ihr hr)
  | like negated l r ihl ihr =>
    obtain ⟨hl, hr⟩ := List.forall_mem_append.mp h
    exact (ihl hl).node (by cases negated <;> exact fun _ => rfl) (ihr hr)
  | between negated e l u ihe ihl ihu =>
    obtain ⟨hel, hu⟩ := List.forall_mem_append.mp h
    obtain ⟨he, hl⟩ := List.forall_mem_append.mp hel
    have hmark : Sealed (if negated then " NOT BETWEEN " else " BETWEEN ").toList := by
      cases negated <;> exact fun _ => rfl
    have hand : Sealed " AND ".toList := fun _ => rfl
    have hbounds := ((ihl hl).append hand).append (ihu hu)
    have htext : (between negated e l u).sql.toList =
        '(' :: (e.sql.toList ++ (if negated then " NOT BETWEEN " else " BETWEEN ").toList
          ++ (l.sql.toList ++ " AND ".toList ++ u.sql.toList)) ++ [')'] := by simp [sql]
    rw [htext]
    exact (((ihe he).append hmark).append hbounds).paren

/-- **The text of an expression leaves nothing open**, whatever its strings and numbers are: read from
left to right, it never closes a parenthesis that it has not opened, it ends outside of literals with
every parenthesis closed, and outside of literals there is no comment and no semicolon. -/
theorem closed_sql {e : Expr} (h : e.Plain) : Closed e.sql.toList := (sealed_sql h).closed

/-- Two minus signs before a negative number, and a string that would end the literal, the parenthesis
and the statement, and begin a comment. -/
theorem closed_sql_hostile_text :
    let e : Expr := .logical .or
      (.comparison .lt
        (.arithmetic .subtract (.prefixed .minus (.literal (.integer (-5))))
          (.literal (.integer (-9223372036854775808))))
        (.column ⟨"t0", "c0"⟩))
      (.like true (.literal (.varchar "'); DROP TABLE t0; --\n((")) (.literal (.null .varchar)))
    e.Plain ∧
      e.sql = "((((- -5) - -9223372036854775808) < t0.c0) OR "
        ++ "('''); DROP TABLE t0; --\n((' NOT LIKE CAST(NULL AS VARCHAR)))" ∧
      Closed e.sql.toList := by
  intro e
  have hplain : e.Plain := by decide
  exact ⟨hplain, by decide +kernel, closed_sql hplain⟩

end Expr
end PredicateOracle.Sql
