import PredicateOracle.Proofs.Number.Reader
import PredicateOracle.Proofs.Sql.Quoted
import PredicateOracle.Proofs.Sql.Tree
import PredicateOracle.Sql.Printer
import Mathlib.Data.List.Infix

/-!
# PredicateOracle.Proofs.Sql.Reader -- a reader for the text of expressions

Every node of a printed expression stands in parentheses, so a reader needs no rule of precedence.
It only has to decide three times what it sees: a parenthesis, a quote or a word at the beginning; a
prefix operator or an operand behind a parenthesis; and one of nineteen marks behind the first
operand. The marks are a prefix code (`Mark.prefixFree`): none of them is the beginning of another
one, and so at most one can be read. What has no operand is read back here (`readAtom_column`,
`readAtom_literal`); that the reader also takes every node apart as it was put together is shown in
`PredicateOracle.Proofs.Sql.Readability`.
-/

namespace PredicateOracle.Sql.Reader

/-! ## Choices by text -/

variable {α : Type}

/-- The first of some items whose text the input begins with, and the rest of the input. -/
def readOne (text : α → String) (items : List α) (cs : List Char) : Option (α × List Char) :=
  items.findSome? fun a => (cs.dropPrefix? (text a).toList).map (a, ·)

/-- **`PrefixFree text items`** -- the text of no item is the beginning of the text of another. -/
def PrefixFree (text : α → String) (items : List α) : Prop :=
  ∀ a ∈ items, ∀ b ∈ items, (text a).toList <+: (text b).toList → a = b

instance [DecidableEq α] (text : α → String) (items : List α) : Decidable (PrefixFree text items) :=
  inferInstanceAs
    (Decidable (∀ a ∈ items, ∀ b ∈ items, (text a).toList <+: (text b).toList → a = b))

theorem dropPrefix?_append (p rest : List Char) : (p ++ rest).dropPrefix? p = some rest :=
  List.dropPrefix?_append_of_beq rest (beq_self_eq_true p)

/-- Of a prefix code at most one text can be read. -/
theorem readOne_append {text : α → String} {items : List α} (hfree : PrefixFree text items)
    {a : α} (ha : a ∈ items) (rest : List Char) :
    readOne text items ((text a).toList ++ rest) = some (a, rest) := by
  unfold readOne
  -- The search finds something, since it would find `a` at the latest.
  have hsome : (items.findSome? fun b =>
      (((text a).toList ++ rest).dropPrefix? (text b).toList).map (b, ·)).isSome = true := by
    refine List.findSome?_isSome_iff.mpr ⟨a, ha, ?_⟩
    rw [dropPrefix?_append]
    rfl
  obtain ⟨found, hfound⟩ := Option.isSome_iff_exists.mp hsome
  obtain ⟨b, hb, hread⟩ := List.exists_of_findSome?_eq_some hfound
  obtain ⟨rest', hrest, rfl⟩ := Option.map_eq_some_iff.mp hread
  -- Both texts begin the input, so one of them begins the other.
  have hprefix : (text b).toList <+: (text a).toList ++ rest := by
    obtain ⟨p, hp, hbeq⟩ := List.dropPrefix?_eq_some_iff.mp hrest
    rw [hp, eq_of_beq hbeq]
    exact List.prefix_append _ _
  obtain rfl : b = a := by
    rcases List.prefix_or_prefix_of_prefix hprefix (List.prefix_append _ _) with h | h
    · exact hfree b hb a ha h
    · exact (hfree a ha b hb h).symm
  rw [dropPrefix?_append] at hrest
  rw [hfound, Option.some.inj hrest]

/-! ## Words -/

/-- Whether a character may stand in a word. -/
def isWordChar (c : Char) : Bool := c.isAlphanum || c == '_' || c == '.' || c == '-'

/-- The expression that a word stands for. A point is part of every column and of nothing else. -/
def ofWord (word : List Char) : Option Expr :=
  if '.' ∈ word then
    some (.column ⟨String.ofList (word.takeWhile (· ≠ '.')),
      String.ofList (word.dropWhile (· ≠ '.')).tail⟩)
  else if word = "TRUE".toList then some (.literal (.boolean true))
  else if word = "FALSE".toList then some (.literal (.boolean false))
  else (Number.readInt? (String.ofList word)).map fun n => .literal (.integer n)

/-- **`IsWord w`** -- every character of `w` may stand in a word. -/
def IsWord (w : List Char) : Prop := ∀ c ∈ w, isWordChar c = true

instance (w : List Char) : Decidable (IsWord w) :=
  decidable_of_iff (w.all isWordChar = true) List.all_eq_true

/-- **`IsBoundary s`** -- a word ends before `s`: nothing is there, or a blank, a parenthesis or a
comma. -/
def IsBoundary (s : List Char) : Prop := ∀ c ∈ s.head?, c = ' ' ∨ c = ')' ∨ c = ','

instance : (s : List Char) → Decidable (IsBoundary s)
  | [] => .isTrue nofun
  | c :: s => decidable_of_iff (c = ' ' ∨ c = ')' ∨ c = ',') (by simp [IsBoundary])

theorem isBoundary_cons {c : Char} (hc : c = ' ' ∨ c = ')' ∨ c = ',') (s : List Char) :
    IsBoundary (c :: s) := by
  intro c' hc'
  rw [List.head?_cons, Option.mem_def, Option.some.injEq] at hc'
  exact hc' ▸ hc

theorem isBoundary_paren (s : List Char) : IsBoundary (')' :: s) :=
  isBoundary_cons (.inr (.inl rfl)) s

/-- **`EndsWord s`** -- what begins here belongs to no word and to no quoted text. -/
def EndsWord (s : List Char) : Prop := ∀ c ∈ s.head?, isWordChar c = false ∧ c ≠ '\''

theorem IsBoundary.endsWord {s : List Char} (hs : IsBoundary s) : EndsWord s := by
  intro c hc
  rcases hs c hc with rfl | rfl | rfl <;> decide

theorem endsWord_cons {c : Char} (hc : isWordChar c = false ∧ c ≠ '\'') (s : List Char) :
    EndsWord (c :: s) := by
  intro c' hc'
  rw [List.head?_cons, Option.mem_def, Option.some.injEq] at hc'
  exact hc' ▸ hc

theorem takeWhile_word {w s : List Char} (hw : IsWord w) (hs : EndsWord s) :
    (w ++ s).takeWhile isWordChar = w := by
  rw [List.takeWhile_append_of_pos hw]
  cases s with
  | nil => simp
  | cons c s => simp [(hs c rfl).1]

theorem dropWhile_word {w s : List Char} (hw : IsWord w) (hs : EndsWord s) :
    (w ++ s).dropWhile isWordChar = s := by
  rw [List.dropWhile_append_of_pos hw]
  cases s with
  | nil => rfl
  | cons c s => simp [(hs c rfl).1]

/-! ## What words stand for -/

theorem isWord_of_isPlain {name : String} (hname : IsPlain name) : IsWord name.toList := by
  intro c hc
  rcases hname.2 c hc with h | rfl
  · simp [isWordChar, h]
  · decide

/-- No plain name holds a point. -/
theorem point_notMem_of_isPlain {name : String} (hname : IsPlain name) : '.' ∉ name.toList := by
  intro hpoint
  rcases hname.2 '.' hpoint with h | h
  · exact absurd h (by decide)
  · exact absurd h (by decide)

theorem toList_sql_columnRef (r : ColumnRef) :
    r.sql.toList = r.table.toList ++ '.' :: r.column.toList := by
  simp [ColumnRef.sql]

theorem isWord_of_plain {r : ColumnRef} (hr : r.Plain) : IsWord r.sql.toList := by
  intro c hc
  rw [toList_sql_columnRef, List.mem_append, List.mem_cons] at hc
  rcases hc with h | rfl | h
  · exact isWord_of_isPlain hr.1 c h
  · decide
  · exact isWord_of_isPlain hr.2 c h

/-- The first point of a reference stands between its two names. -/
theorem ofWord_columnRef {r : ColumnRef} (hr : r.Plain) :
    ofWord r.sql.toList = some (.column r) := by
  have htable : ∀ c ∈ r.table.toList, decide (c ≠ '.') = true := by
    intro c hc
    have hne : c ≠ '.' := fun h => point_notMem_of_isPlain hr.1 (h ▸ hc)
    simp [hne]
  have htake : r.sql.toList.takeWhile (· ≠ '.') = r.table.toList := by
    rw [toList_sql_columnRef, List.takeWhile_append_of_pos htable]
    simp
  have hdrop : r.sql.toList.dropWhile (· ≠ '.') = '.' :: r.column.toList := by
    rw [toList_sql_columnRef, List.dropWhile_append_of_pos htable]
    simp
  have hpoint : '.' ∈ r.sql.toList := by
    simp [toList_sql_columnRef]
  unfold ofWord
  rw [if_pos hpoint, htake, hdrop]
  simp

theorem isWord_of_integer (n : Int) : IsWord (toString n).toList := by
  intro c hc
  rcases Number.isDigit_or_minus_of_mem hc with h | rfl
  · simp [isWordChar, Char.isAlphanum, h]
  · decide

theorem ofWord_integer (n : Int) :
    ofWord (toString n).toList = some (.literal (.integer n)) := by
  -- Neither the point nor the letters of the two truth values occur in a printed number.
  have hpoint : '.' ∉ (toString n).toList := by
    intro h
    exact Number.toString_ne h (by decide) (by decide) rfl
  have htrue : (toString n).toList ≠ "TRUE".toList :=
    Number.toString_ne (c := 'T') (by decide) (by decide) (by decide)
  have hfalse : (toString n).toList ≠ "FALSE".toList :=
    Number.toString_ne (c := 'F') (by decide) (by decide) (by decide)
  unfold ofWord
  rw [if_neg hpoint, if_neg htrue, if_neg hfalse, String.ofList_toList, Number.readInt?_toString]
  rfl

/-! ## Atoms -/

/-- How a NULL goes on behind its first word. -/
def nullText (t : DataType) : String := "(NULL AS " ++ t.name ++ ")"

/-- Reads an expression without an operator. -/
def readAtom : List Char → Option (Expr × List Char)
  | '\'' :: cs =>
    (readQuoted '\'' cs).map fun (text, rest) => (.literal (.varchar (String.ofList text)), rest)
  | cs =>
    let word := cs.takeWhile isWordChar
    let rest := cs.dropWhile isWordChar
    if word = "CAST".toList then
      (readOne nullText DataType.all rest).map fun (t, rest) => (.literal (.null t), rest)
    else (ofWord word).map (·, rest)

/-- What begins with a word, even with an empty one, does not begin with a quote. -/
theorem readAtom_append {w s : List Char} (hw : IsWord w) (hs : EndsWord s) :
    readAtom (w ++ s) =
      if w = "CAST".toList then
        (readOne nullText DataType.all s).map fun (t, rest) => (.literal (.null t), rest)
      else (ofWord w).map (·, s) := by
  -- With an empty word the quote would have to be the first character of `s`.
  have hquote : ∀ cs, w ++ s ≠ '\'' :: cs := by
    intro cs h
    cases w with
    | nil =>
      rw [List.nil_append] at h
      exact (hs '\'' (by rw [h]; rfl)).2 rfl
    | cons c w =>
      obtain rfl : c = '\'' := (List.cons.inj h).1
      exact absurd (hw '\'' List.mem_cons_self) (by decide)
  unfold readAtom
  split
  · rename_i cs heq
    exact absurd heq (hquote cs)
  · rw [takeWhile_word hw hs, dropWhile_word hw hs]

/-- Every word but one is read as what it stands for. -/
theorem readAtom_word {w s : List Char} (hw : IsWord w) (hcast : w ≠ "CAST".toList)
    (hs : EndsWord s) : readAtom (w ++ s) = (ofWord w).map (·, s) := by
  rw [readAtom_append hw hs, if_neg hcast]

/-- The types of a NULL are told apart by their names. -/
theorem nullText_prefixFree : PrefixFree nullText DataType.all := by decide

/-- A NULL is read with its type. -/
theorem readAtom_null (t : DataType) (s : List Char) :
    readAtom ((Literal.null t).sql.toList ++ s) = some (.literal (.null t), s) := by
  have hsql : (Literal.null t).sql.toList ++ s = "CAST".toList ++ ((nullText t).toList ++ s) := by
    simp [Literal.sql, nullText]
  have hends : EndsWord ((nullText t).toList ++ s) := by
    cases t <;> exact endsWord_cons (by decide) _
  have hword : IsWord "CAST".toList := by decide
  rw [hsql, readAtom_append hword hends, if_pos rfl,
    readOne_append nullText_prefixFree (DataType.mem_all t)]
  rfl

/-- A literal string is read back, whatever is in it. -/
theorem readAtom_varchar (text : String) {s : List Char} (hs : IsBoundary s) :
    readAtom ((Literal.varchar text).sql.toList ++ s) = some (.literal (.varchar text), s) := by
  have hsql : (Literal.varchar text).sql.toList ++ s
      = '\'' :: (text.toList.flatMap (fun c => if c = '\'' then ['\'', '\''] else [c])
        ++ '\'' :: s) := by
    simp [Literal.sql, Literal.valueSql, quoted]
  rw [hsql]
  show (readQuoted '\'' _).map _ = _
  rw [readQuoted_flatMap text.toList fun c hc => (hs.endsWord c hc).2]
  simp

/-- A column is read back. -/
theorem readAtom_column {r : ColumnRef} (hr : r.Plain) {s : List Char} (hs : IsBoundary s) :
    readAtom (r.sql.toList ++ s) = some (.column r, s) := by
  -- A table may be named CAST, but the word goes on with a point.
  have hcast : r.sql.toList ≠ "CAST".toList := by
    intro h
    have hpoint : '.' ∈ r.sql.toList := by simp [toList_sql_columnRef]
    rw [h] at hpoint
    exact absurd hpoint (by decide)
  rw [readAtom_word (isWord_of_plain hr) hcast hs.endsWord, ofWord_columnRef hr]
  rfl

/-- Every literal is read back. -/
theorem readAtom_literal (l : Literal) {s : List Char} (hs : IsBoundary s) :
    readAtom (l.sql.toList ++ s) = some (.literal l, s) := by
  cases l with
  | null t => exact readAtom_null t s
  | varchar text => exact readAtom_varchar text hs
  | integer n =>
    show readAtom ((toString n).toList ++ s) = _
    have hcast : (toString n).toList ≠ "CAST".toList :=
      Number.toString_ne (c := 'C') (by decide) (by decide) (by decide)
    rw [readAtom_word (isWord_of_integer n) hcast hs.endsWord, ofWord_integer]
    rfl
  | boolean b =>
    cases b
    · exact readAtom_word (w := "FALSE".toList) (by decide) (by decide) hs.endsWord
    · exact readAtom_word (w := "TRUE".toList) (by decide) (by decide) hs.endsWord

/-- The text of an operator in front of its operand. -/
def prefixText (op : PrefixOp) : String := op.text ++ " "

/-- A prefix operator is no atom: NOT and the minus are words that stand for nothing. -/
theorem readAtom_prefixText (op : PrefixOp) (s : List Char) :
    readAtom ((prefixText op).toList ++ s) = none := by
  cases op with
  | not =>
    have hends : EndsWord (' ' :: s) := endsWord_cons (by decide) s
    exact readAtom_word (w := "NOT".toList) (by decide) (by decide) hends
  | plus =>
    have hends : EndsWord ('+' :: ' ' :: s) := endsWord_cons (by decide) _
    exact readAtom_word (w := []) (by decide) (by decide) hends
  | minus =>
    have hends : EndsWord (' ' :: s) := endsWord_cons (by decide) s
    exact readAtom_word (w := "-".toList) (by decide) (by decide) hends

theorem readAtom_paren (s : List Char) : readAtom ('(' :: s) = none :=
  readAtom_word (w := []) (by decide) (by decide) (endsWord_cons (by decide) s)

/-! ## Nodes -/

/-- What stands behind the first operand of a node, up to the second operand or the end. -/
inductive Mark where
  | postfixed (op : PostfixOp)
  | logical (op : Connective)
  | comparison (op : ComparisonOp)
  | arithmetic (op : ArithmeticOp)
  | concat
  | between (negated : Bool)
  | like (negated : Bool)
  deriving DecidableEq, Repr

/-- All marks. -/
def Mark.all : List Mark :=
  PostfixOp.all.map .postfixed ++ Connective.all.map .logical ++ ComparisonOp.all.map .comparison
    ++ ArithmeticOp.all.map .arithmetic
    ++ [.concat, .between false, .between true, .like false, .like true]

/-- The text of a mark. Behind the operators that have one operand, the node ends. -/
def Mark.text : Mark → String
  | .postfixed op => " " ++ op.text ++ ")"
  | .logical op => " " ++ op.text ++ " "
  | .comparison op => " " ++ op.text ++ " "
  | .arithmetic op => " " ++ op.text ++ " "
  | .concat => " || "
  | .between negated => if negated then " NOT BETWEEN " else " BETWEEN "
  | .like negated => if negated then " NOT LIKE " else " LIKE "

theorem Mark.mem_all (m : Mark) : m ∈ all := by
  cases m with
  | postfixed op => cases op <;> decide
  | logical op => cases op <;> decide
  | comparison op => cases op <;> decide
  | arithmetic op => cases op <;> decide
  | concat => decide
  | between negated => cases negated <;> decide
  | like negated => cases negated <;> decide

/-- **The marks are a prefix code**, so what stands behind an operand is read in one way only. -/
theorem Mark.prefixFree : PrefixFree text all := by decide +kernel

/-- Reads the last operand of a node and the parenthesis behind it. -/
def readLast (operand : List Char → Option (Expr × List Char)) (node : Expr → Expr)
    (cs : List Char) : Option (Expr × List Char) := do
  let (e, cs) ← operand cs
  return (node e, ← cs.dropPrefix? [')'])

/-- Reads what stands behind the first operand of a node and a mark. -/
def readBehind (operand : List Char → Option (Expr × List Char)) (first : Expr) :
    Mark → List Char → Option (Expr × List Char)
  | .postfixed op, cs => some (.postfixed op first, cs)
  | .logical op, cs => readLast operand (.logical op first) cs
  | .comparison op, cs => readLast operand (.comparison op first) cs
  | .arithmetic op, cs => readLast operand (.arithmetic op first) cs
  | .concat, cs => readLast operand (.concat first) cs
  | .like negated, cs => readLast operand (.like negated first) cs
  | .between negated, cs => do
    let (low, cs) ← operand cs
    let cs ← cs.dropPrefix? " AND ".toList
    readLast operand (.between negated first low) cs

/-- Reads a node behind its first parenthesis: an operand and a mark, or a prefix operator, which is
no operand. -/
def readNode (operand : List Char → Option (Expr × List Char)) (cs : List Char) :
    Option (Expr × List Char) :=
  match operand cs with
  | some (first, cs) => do
    let (mark, cs) ← readOne Mark.text Mark.all cs
    readBehind operand first mark cs
  | none => do
    let (op, cs) ← readOne prefixText [.not, .plus, .minus] cs
    readLast operand (.prefixed op) cs

/-- Reads an expression with at most so many operators on top of each other: an atom, or else a node
in its parentheses. -/
def readWithin : Nat → List Char → Option (Expr × List Char)
  | 0, cs => readAtom cs
  | n + 1, cs => readAtom cs <|> match cs with
    | '(' :: cs => readNode (readWithin n) cs
    | _ => none

end PredicateOracle.Sql.Reader
