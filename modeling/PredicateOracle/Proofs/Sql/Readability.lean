import PredicateOracle.Proofs.Sql.Reader

/-!
# PredicateOracle.Proofs.Sql.Readability -- the text of an expression has one reading

The reader gives back every expression with plain names, and whatever stands behind it
(`Expr.readable`). The proof follows the tree: one lemma for each shape of a node says that the node
is readable if its operands are. Since both of two texts are read by one reader, the text of an
expression says which expression it is and where it ends (`Expr.sql_append_inj`).
-/

namespace PredicateOracle.Sql

namespace Reader

theorem readWithin_of_readAtom {cs : List Char} {found : Expr × List Char}
    (h : readAtom cs = some found) (n : Nat) : readWithin n cs = some found := by
  cases n with
  | zero => exact h
  | succ n =>
    unfold readWithin
    rw [h]
    rfl

theorem readWithin_paren (n : Nat) (cs : List Char) :
    readWithin (n + 1) ('(' :: cs) = readNode (readWithin n) cs := by
  show (readAtom ('(' :: cs) <|> readNode (readWithin n) cs) = _
  rw [readAtom_paren]
  rfl

/-- A prefix operator is no operand. -/
theorem readWithin_prefixText (op : PrefixOp) (n : Nat) (s : List Char) :
    readWithin n ((prefixText op).toList ++ s) = none := by
  cases n with
  | zero => exact readAtom_prefixText op s
  | succ n =>
    unfold readWithin
    rw [readAtom_prefixText]
    cases op <;> rfl

variable {operand : List Char → Option (Expr × List Char)} {cs rest : List Char}

theorem readNode_mark {first : Expr} (m : Mark)
    (hfirst : operand cs = some (first, m.text.toList ++ rest)) :
    readNode operand cs = readBehind operand first m rest := by
  unfold readNode
  rw [hfirst]
  show ((readOne Mark.text Mark.all (m.text.toList ++ rest)).bind _) = _
  rw [readOne_append Mark.prefixFree m.mem_all]
  rfl

theorem prefixText_prefixFree : PrefixFree prefixText [.not, .plus, .minus] := by decide

theorem readNode_prefixText (op : PrefixOp)
    (hnone : operand ((prefixText op).toList ++ rest) = none) :
    readNode operand ((prefixText op).toList ++ rest) = readLast operand (.prefixed op) rest := by
  have hop : op ∈ [PrefixOp.not, .plus, .minus] := by cases op <;> decide
  unfold readNode
  rw [hnone]
  show ((readOne prefixText _ _).bind _) = _
  rw [readOne_append prefixText_prefixFree hop]
  rfl

theorem readLast_of_operand {e : Expr} (h : operand cs = some (e, ')' :: rest))
    (node : Expr → Expr) : readLast operand node cs = some (node e, rest) := by
  have hclose : (')' :: rest).dropPrefix? [')'] = some rest := dropPrefix?_append [')'] rest
  unfold readLast
  rw [h]
  show (((')' :: rest).dropPrefix? [')']).bind _) = _
  rw [hclose]
  rfl

/-- The AND behind the lower bound belongs to the node and is no connective. -/
theorem readBehind_between {first low high : Expr} {behind : List Char}
    (hlow : operand cs = some (low, " AND ".toList ++ rest))
    (hhigh : operand rest = some (high, ')' :: behind)) (negated : Bool) :
    readBehind operand first (.between negated) cs
      = some (.between negated first low high, behind) := by
  show (operand cs).bind _ = _
  rw [hlow]
  show (List.dropPrefix? _ _).bind _ = _
  rw [dropPrefix?_append]
  exact readLast_of_operand hhigh _

theorem Mark.isBoundary (m : Mark) (s : List Char) : IsBoundary (m.text.toList ++ s) := by
  have hblank : ∃ rest, m.text.toList ++ s = ' ' :: rest := by
    cases m with
    | between negated => cases negated <;> exact ⟨_, rfl⟩
    | like negated => cases negated <;> exact ⟨_, rfl⟩
    | _ => simp [Mark.text]
  obtain ⟨rest, hrest⟩ := hblank
  exact hrest ▸ isBoundary_cons (.inl rfl) rest

end Reader

namespace Expr

open Reader

/-- **`Readable e`** -- before a boundary, the text of `e` is read as `e`, if the names in it are plain
and the reader goes as deep as `e`. -/
def Readable (e : Expr) : Prop :=
  e.Plain → ∀ n, e.height ≤ n → ∀ s, IsBoundary s → readWithin n (e.sql.toList ++ s) = some (e, s)

theorem readable_column (r : ColumnRef) : Readable (.column r) := by
  intro hplain n _ s hs
  exact readWithin_of_readAtom (readAtom_column (hplain r List.mem_cons_self) hs) n

theorem readable_literal (l : Literal) : Readable (.literal l) := by
  intro _ n _ s hs
  exact readWithin_of_readAtom (readAtom_literal l hs) n

theorem Readable.prefixed {e : Expr} (he : Readable e) (op : PrefixOp) :
    Readable (.prefixed op e) := by
  intro hplain n hn s _
  cases n with
  | zero => exact absurd hn (Nat.not_succ_le_zero _)
  | succ n =>
    have hsql : (Expr.prefixed op e).sql.toList ++ s
        = '(' :: ((prefixText op).toList ++ (e.sql.toList ++ ')' :: s)) := by
      simp [Expr.sql, prefixText]
    -- The operand stands last, before the parenthesis that closes the node.
    have hlast := he hplain n (Nat.le_of_succ_le_succ hn) _ (isBoundary_paren s)
    rw [hsql, readWithin_paren, readNode_prefixText op (readWithin_prefixText op _ _)]
    exact readLast_of_operand hlast _

theorem Readable.postfixed {e : Expr} (he : Readable e) (op : PostfixOp) :
    Readable (.postfixed op e) := by
  intro hplain n hn s _
  cases n with
  | zero => exact absurd hn (Nat.not_succ_le_zero _)
  | succ n =>
    have hsql : (Expr.postfixed op e).sql.toList ++ s
        = '(' :: (e.sql.toList ++ ((Mark.postfixed op).text.toList ++ s)) := by
      simp [Expr.sql, Mark.text]
    have hfirst := he hplain n (Nat.le_of_succ_le_succ hn) _ (Mark.isBoundary (.postfixed op) s)
    rw [hsql, readWithin_paren, readNode_mark (.postfixed op) hfirst]
    rfl

/-- A node that has two operands and a mark between them. -/
theorem Readable.binary {l r e : Expr} (hl : Readable l) (hr : Readable r) (m : Mark)
    (node : Expr → Expr) (hnode : node r = e)
    (hbehind : ∀ operand cs, readBehind operand l m cs = readLast operand node cs)
    (hrefs : e.refs = l.refs ++ r.refs) (hheight : e.height = max l.height r.height + 1)
    (hsql : e.sql = "(" ++ l.sql ++ m.text ++ r.sql ++ ")") : Readable e := by
  intro hplain n hn s _
  rw [hheight] at hn
  cases n with
  | zero => exact absurd hn (Nat.not_succ_le_zero _)
  | succ n =>
    have htext : e.sql.toList ++ s
        = '(' :: (l.sql.toList ++ (m.text.toList ++ (r.sql.toList ++ ')' :: s))) := by
      simp [hsql]
    have hplainl : l.Plain := fun c hc => hplain c (hrefs ▸ List.mem_append_left _ hc)
    have hplainr : r.Plain := fun c hc => hplain c (hrefs ▸ List.mem_append_right _ hc)
    -- Behind the first operand the mark is a boundary, behind the second one the parenthesis.
    have hfirst := hl hplainl n (by omega) _ (m.isBoundary (r.sql.toList ++ ')' :: s))
    have hlast := hr hplainr n (by omega) _ (isBoundary_paren s)
    rw [htext, readWithin_paren, readNode_mark m hfirst, hbehind, readLast_of_operand hlast, hnode]

theorem Readable.between {e l h : Expr} (he : Readable e) (hl : Readable l) (hh : Readable h)
    (negated : Bool) : Readable (.between negated e l h) := by
  intro hplain n hn s _
  simp only [height] at hn
  cases n with
  | zero => exact absurd hn (Nat.not_succ_le_zero _)
  | succ n =>
    have htext : (Expr.between negated e l h).sql.toList ++ s
        = '(' :: (e.sql.toList ++ ((Mark.between negated).text.toList
          ++ (l.sql.toList ++ (" AND ".toList ++ (h.sql.toList ++ ')' :: s))))) := by
      cases negated <;> simp [Expr.sql, Mark.text]
    have hplain' : e.Plain ∧ l.Plain ∧ h.Plain := by
      simp only [Plain, refs, List.mem_append] at hplain ⊢
      exact ⟨fun c hc => hplain c (.inl (.inl hc)), fun c hc => hplain c (.inl (.inr hc)),
        fun c hc => hplain c (.inr hc)⟩
    have hfirst := he hplain'.1 n (by omega) _
      (Mark.isBoundary (.between negated)
        (l.sql.toList ++ (" AND ".toList ++ (h.sql.toList ++ ')' :: s))))
    have hand : IsBoundary (" AND ".toList ++ (h.sql.toList ++ ')' :: s)) :=
      isBoundary_cons (.inl rfl) _
    have hlow := hl hplain'.2.1 n (by omega) _ hand
    have hhigh := hh hplain'.2.2 n (by omega) _ (isBoundary_paren s)
    rw [htext, readWithin_paren, readNode_mark (.between negated) hfirst]
    exact readBehind_between hlow hhigh negated

/-- **Every expression is readable.** -/
theorem readable (e : Expr) : Readable e := by
  -- Five kinds of nodes differ in their marks only.
  induction e with
  | column r => exact readable_column r
  | literal l => exact readable_literal l
  | prefixed op e ih => exact ih.prefixed op
  | postfixed op e ih => exact ih.postfixed op
  | logical op l r ihl ihr =>
    exact ihl.binary ihr (.logical op) (.logical op l) rfl (fun _ _ => rfl) rfl rfl
      (by simp [sql, Mark.text, String.append_assoc])
  | comparison op l r ihl ihr =>
    exact ihl.binary ihr (.comparison op) (.comparison op l) rfl (fun _ _ => rfl) rfl rfl
      (by simp [sql, Mark.text, String.append_assoc])
  | arithmetic op l r ihl ihr =>
    exact ihl.binary ihr (.arithmetic op) (.arithmetic op l) rfl (fun _ _ => rfl) rfl rfl
      (by simp [sql, Mark.text, String.append_assoc])
  | concat l r ihl ihr => exact ihl.binary ihr .concat (.concat l) rfl (fun _ _ => rfl) rfl rfl rfl
  | like negated l r ihl ihr =>
    exact ihl.binary ihr (.like negated) (.like negated l) rfl (fun _ _ => rfl) rfl rfl rfl
  | between negated e l h ihe ihl ihh => exact ihe.between ihl ihh negated

example : readWithin 2 "((- 5) NOT LIKE 'it''s'), TRUE".toList =
    some (.like true (.prefixed .minus (.literal (.integer 5))) (.literal (.varchar "it's")),
      ", TRUE".toList) := by
  decide +kernel

/-- **The text of an expression says where it ends and which expression it is**, with no rule of
precedence, whatever else is behind it. -/
theorem sql_append_inj {e₁ e₂ : Expr} {s₁ s₂ : String} (h₁ : e₁.Plain) (h₂ : e₂.Plain)
    (hs₁ : IsBoundary s₁.toList) (hs₂ : IsBoundary s₂.toList) (h : e₁.sql ++ s₁ = e₂.sql ++ s₂) :
    e₁ = e₂ ∧ s₁ = s₂ := by
  have hread₁ := readable e₁ h₁ (max e₁.height e₂.height) (Nat.le_max_left _ _) s₁.toList hs₁
  have hread₂ := readable e₂ h₂ (max e₁.height e₂.height) (Nat.le_max_right _ _) s₂.toList hs₂
  -- One reader reads both texts, so it finds the same expression and the same rest.
  have htext : e₁.sql.toList ++ s₁.toList = e₂.sql.toList ++ s₂.toList := by
    rw [← String.toList_append, h, String.toList_append]
  rw [htext, hread₂] at hread₁
  obtain ⟨rfl, hrest⟩ := Prod.mk.inj (Option.some.inj hread₁)
  exact ⟨rfl, String.toList_inj.mp hrest.symm⟩

/-- AND, NOT and the minus stand twice in one text with different meanings, a quote stands in a
literal, and a second expression follows. The expression that a reader finds in this text is the one that
was written. -/
theorem sql_append_inj_two_meanings :
    let text := "(NOT (((- 5) NOT BETWEEN -5 AND t0.c0) AND ('it''s' LIKE CAST(NULL AS VARCHAR)))), TRUE"
    let written : Expr := .prefixed .not (.logical .and
      (.between true (.prefixed .minus (.literal (.integer 5))) (.literal (.integer (-5)))
        (.column ⟨"t0", "c0"⟩))
      (.like false (.literal (.varchar "it's")) (.literal (.null .varchar))))
    ∃ (found : Expr) (rest : List Char), readWithin 4 text.toList = some (found, rest) ∧
      found.Plain ∧ IsBoundary (String.ofList rest).toList ∧ written.Plain ∧
      IsBoundary ", TRUE".toList ∧ found.sql ++ String.ofList rest = written.sql ++ ", TRUE" ∧
      found = written ∧ String.ofList rest = ", TRUE" := by
  intro text written
  have hread : (readWithin 4 text.toList).map (fun r =>
      (decide (r.1.Plain ∧ IsBoundary (String.ofList r.2).toList), r.1.sql ++ String.ofList r.2)) =
      some (true, written.sql ++ ", TRUE") := by
    decide +kernel
  obtain ⟨⟨found, rest⟩, hfound, hparts⟩ := Option.map_eq_some_iff.mp hread
  obtain ⟨hlegible, htext⟩ := Prod.mk.inj hparts
  obtain ⟨hplain, hrest⟩ := of_decide_eq_true hlegible
  have hwritten : written.Plain ∧ IsBoundary ", TRUE".toList := by decide
  refine ⟨found, rest, hfound, hplain, hrest, hwritten.1, hwritten.2, htext, ?_⟩
  exact sql_append_inj hplain hwritten.1 hrest hwritten.2 htext

end Expr
end PredicateOracle.Sql
