import PredicateOracle.Proofs.Sql.Readability

/-!
# PredicateOracle.Proofs.Sql.Clauses -- the text of a query has one reading

A query is a list of expressions and up to three clauses behind it. Each clause is a keyword and a
list, and an empty list has no clause at all. A text is `Unambiguous` if it tells what it is the text
of and where it ends, whatever of some kind is behind it. Names and expressions are, because they have
readers; lists and clauses are, because neither a comma nor a keyword can be taken for what may stand
there instead. The clauses are then taken off the text of a query from left to right
(`Select.sql_injective`).
-/

namespace PredicateOracle.Sql

open Reader

/-! ## Unambiguous texts -/

section Unambiguous

variable {α : Type} {P : α → Prop} {text : α → List Char} {B F : List Char → Prop}

/-- **`Unambiguous P text B`** -- before a rest of the kind `B`, the text of an item with the property
`P` tells which item it is and where it ends. -/
def Unambiguous (P : α → Prop) (text : α → List Char) (B : List Char → Prop) : Prop :=
  ∀ a b s t, P a → P b → B s → B t → text a ++ s = text b ++ t → a = b ∧ s = t

/-- What has a reader is unambiguous, since the reader finds one item only. -/
theorem Unambiguous.of_reader (read : Nat → List Char → Option (α × List Char)) (depth : α → Nat)
    (h : ∀ a, P a → ∀ n, depth a ≤ n → ∀ s, B s → read n (text a ++ s) = some (a, s)) :
    Unambiguous P text B := by
  intro a b s t ha hb hs ht heq
  have hreada := h a ha (max (depth a) (depth b)) (Nat.le_max_left _ _) s hs
  have hreadb := h b hb (max (depth a) (depth b)) (Nat.le_max_right _ _) t ht
  rw [heq, hreadb] at hreada
  obtain ⟨rfl, rfl⟩ := Prod.mk.inj (Option.some.inj hreada)
  exact ⟨rfl, rfl⟩

/-- Items one after the other, each behind a comma. -/
def tailText (text : α → List Char) (as : List α) : List Char :=
  as.flatMap fun a => ", ".toList ++ text a

/-- Items with commas between them. -/
def listText (text : α → List Char) : List α → List Char
  | [] => []
  | a :: as => text a ++ tailText text as

/-- Items behind a keyword; without items there is no keyword either. -/
def clauseText (keyword : String) (text : α → List Char) : List α → List Char
  | [] => []
  | a :: as => keyword.toList ++ listText text (a :: as)

theorem toList_join (text : α → String) (as : List α) :
    (Text.join ", " (as.map text)).toList = listText (fun a => (text a).toList) as := by
  induction as with
  | nil => rfl
  | cons a as ih =>
    cases as with
    | nil => simp [Text.join, listText, tailText]
    | cons b bs =>
      show (text a ++ ", " ++ Text.join ", " ((b :: bs).map text)).toList = _
      rw [String.toList_append, String.toList_append, ih]
      simp [listText, tailText]

/-- **`EndsItem B F`** -- an item of the kind `B` may end before a comma and before all that may
follow the list, and that never begins like a comma. -/
structure EndsItem (B F : List Char → Prop) : Prop where
  comma : ∀ s, B (", ".toList ++ s)
  rest : ∀ s, F s → B s
  noComma : ∀ s, F s → ¬ ", ".toList <+: s

theorem EndsItem.tail (hends : EndsItem B F) (as : List α) {s : List Char} (hs : F s) :
    B (tailText text as ++ s) := by
  cases as with
  | nil => exact hends.rest s hs
  | cons a as =>
    show B (((", ".toList ++ text a) ++ tailText text as) ++ s)
    rw [List.append_assoc, List.append_assoc]
    exact hends.comma _

namespace Unambiguous

variable (h : Unambiguous P text B) (hends : EndsItem B F)
include h hends

theorem tail : Unambiguous (fun as => ∀ a ∈ as, P a) (tailText text) F := by
  intro as
  induction as with
  | nil =>
    intro bs s t _ _ hs _ heq
    cases bs with
    | nil => exact ⟨rfl, heq⟩
    | cons b bs =>
      -- Nothing is left of the first list, so the comma would belong to what follows it.
      refine absurd ?_ (hends.noComma s hs)
      rw [show s = tailText text (b :: bs) ++ t from heq, tailText, List.flatMap_cons,
        List.append_assoc, List.append_assoc]
      exact List.prefix_append _ _
  | cons a as ih =>
    intro bs s t has hbs hs ht heq
    cases bs with
    | nil =>
      refine absurd ?_ (hends.noComma t ht)
      rw [show t = tailText text (a :: as) ++ s from heq.symm, tailText, List.flatMap_cons,
        List.append_assoc, List.append_assoc]
      exact List.prefix_append _ _
    | cons b bs =>
      have hitems : text a ++ (tailText text as ++ s) = text b ++ (tailText text bs ++ t) := by
        simpa [tailText, List.append_assoc] using heq
      obtain ⟨ha, has'⟩ := List.forall_mem_cons.mp has
      obtain ⟨hb, hbs'⟩ := List.forall_mem_cons.mp hbs
      obtain ⟨rfl, hrest⟩ := h a b _ _ ha hb (hends.tail as hs) (hends.tail bs ht) hitems
      obtain ⟨rfl, rfl⟩ := ih bs s t has' hbs' hs ht hrest
      exact ⟨rfl, rfl⟩

/-- Two lists that are not empty. -/
theorem cons {a b : α} {as bs : List α} {s t : List Char} (has : ∀ x ∈ a :: as, P x)
    (hbs : ∀ x ∈ b :: bs, P x) (hs : F s) (ht : F t)
    (heq : listText text (a :: as) ++ s = listText text (b :: bs) ++ t) :
    a :: as = b :: bs ∧ s = t := by
  simp only [listText, List.append_assoc] at heq
  obtain ⟨ha, has'⟩ := List.forall_mem_cons.mp has
  obtain ⟨hb, hbs'⟩ := List.forall_mem_cons.mp hbs
  obtain ⟨rfl, hrest⟩ := h a b _ _ ha hb (hends.tail as hs) (hends.tail bs ht) heq
  obtain ⟨rfl, rfl⟩ := h.tail hends as bs s t has' hbs' hs ht hrest
  exact ⟨rfl, rfl⟩

/-- **A list is unambiguous** before whatever begins no item. -/
theorem list (hbegins : ∀ a s t, P a → B s → F t → text a ++ s ≠ t) :
    Unambiguous (fun as => ∀ a ∈ as, P a) (listText text) F := by
  intro as bs s t has hbs hs ht heq
  cases as with
  | nil =>
    cases bs with
    | nil => exact ⟨rfl, heq⟩
    | cons b bs =>
      simp only [listText, List.append_assoc, List.nil_append] at heq
      have hb := hbs b List.mem_cons_self
      exact absurd heq.symm (hbegins b _ s hb (hends.tail bs ht) hs)
  | cons a as =>
    cases bs with
    | nil =>
      simp only [listText, List.append_assoc, List.nil_append] at heq
      have ha := has a List.mem_cons_self
      exact absurd heq (hbegins a _ t ha (hends.tail as hs) ht)
    | cons b bs => exact h.cons hends has hbs hs ht heq

/-- **A clause is unambiguous** before whatever does not begin with its keyword. -/
theorem clause {keyword : String} (hkeyword : ∀ s, F s → ¬ keyword.toList <+: s) :
    Unambiguous (fun as => ∀ a ∈ as, P a) (clauseText keyword text) F := by
  intro as bs s t has hbs hs ht heq
  cases as with
  | nil =>
    cases bs with
    | nil => exact ⟨rfl, heq⟩
    | cons b bs =>
      refine absurd ?_ (hkeyword s hs)
      rw [show s = clauseText keyword text (b :: bs) ++ t from heq, clauseText, List.append_assoc]
      exact List.prefix_append _ _
  | cons a as =>
    cases bs with
    | nil =>
      refine absurd ?_ (hkeyword t ht)
      rw [show t = clauseText keyword text (a :: as) ++ s from heq.symm, clauseText,
        List.append_assoc]
      exact List.prefix_append _ _
    | cons b bs =>
      simp only [clauseText, List.append_assoc] at heq
      exact h.cons hends has hbs hs ht (List.append_cancel_left heq)

end Unambiguous
end Unambiguous

/-! ## What may follow -/

/-- **`Opens keywords s`** -- nothing is here, or a clause with one of these keywords. -/
def Opens (keywords : List String) (s : List Char) : Prop :=
  s = [] ∨ ∃ keyword ∈ keywords, keyword.toList <+: s

namespace Opens

variable {keywords : List String} {s : List Char}

theorem clause {α : Type} (keyword : String) (text : α → List Char) (as : List α)
    (h : Opens keywords s) : Opens (keyword :: keywords) (clauseText keyword text as ++ s) := by
  cases as with
  | nil =>
    obtain rfl | ⟨other, hother, hprefix⟩ := h
    · exact .inl rfl
    · exact .inr ⟨other, List.mem_cons_of_mem _ hother, hprefix⟩
  | cons a as =>
    refine .inr ⟨keyword, List.mem_cons_self, ?_⟩
    rw [clauseText, List.append_assoc]
    exact List.prefix_append _ _

/-- What is neither the beginning of a keyword nor begins with one is not found before a clause. -/
theorem not_prefix (h : Opens keywords s) {p : List Char} (hp : p ≠ [])
    (hkeywords : ∀ keyword ∈ keywords, ¬ p <+: keyword.toList ∧ ¬ keyword.toList <+: p) :
    ¬ p <+: s := by
  intro hprefix
  obtain rfl | ⟨keyword, hkeyword, hother⟩ := h
  · exact hp (List.prefix_nil.mp hprefix)
  · rcases List.prefix_or_prefix_of_prefix hprefix hother with hbegins | hbegins
    · exact (hkeywords keyword hkeyword).1 hbegins
    · exact (hkeywords keyword hkeyword).2 hbegins

/-- A clause begins with a blank. -/
theorem head_eq (h : Opens keywords s)
    (hkeywords : ∀ keyword ∈ keywords, keyword.toList.head? = some ' ') :
    ∀ c ∈ s.head?, c = ' ' := by
  intro c hc
  obtain rfl | ⟨keyword, hkeyword, rest, rfl⟩ := h
  · cases hc
  · rw [List.head?_append, hkeywords keyword hkeyword] at hc
    exact (Option.some.inj hc).symm

end Opens

/-! ## Names and expressions -/

theorem unambiguous_name : Unambiguous IsPlain String.toList IsBoundary := by
  refine .of_reader (fun _ cs => some (String.ofList (cs.takeWhile isWordChar),
    cs.dropWhile isWordChar)) (fun _ => 0) ?_
  intro name hname n _ s hs
  have hword := isWord_of_isPlain hname
  simp only [takeWhile_word hword hs.endsWord, dropWhile_word hword hs.endsWord,
    String.ofList_toList]

theorem unambiguous_expr : Unambiguous Expr.Plain (fun e => e.sql.toList) IsBoundary :=
  .of_reader readWithin Expr.height fun e he n hn s hs => e.readable he n hn s hs

namespace Reader

/-- **`Unread cs`** -- no expression begins here. -/
def Unread (cs : List Char) : Prop := ∀ n, readWithin n cs = none

/-- A word that stands for nothing begins no expression. -/
theorem unread_word {w s : List Char} (hw : IsWord w) (hs : EndsWord s) (hcast : w ≠ "CAST".toList)
    (hnone : ofWord w = none) (hparen : ∀ c ∈ (w ++ s).head?, c ≠ '(') : Unread (w ++ s) := by
  have hatom : readAtom (w ++ s) = none := by rw [readAtom_word hw hcast hs, hnone]; rfl
  intro n
  cases n with
  | zero => exact hatom
  | succ n =>
    unfold readWithin
    rw [hatom]
    split
    · rename_i cs heq
      exact absurd rfl (hparen '(' (by rw [heq]; rfl))
    · rfl

/-- Nothing begins with a blank. -/
theorem unread_of_head {s : List Char} (hs : ∀ c ∈ s.head?, c = ' ') : Unread s := by
  refine unread_word (w := []) (by decide) ?_ (by decide) (by decide) ?_
  · intro c hc
    rw [hs c hc]
    decide
  · intro c hc
    rw [hs c hc]
    decide

end Reader

theorem Expr.sql_append_ne {e : Expr} (he : e.Plain) {s cs : List Char} (hs : IsBoundary s)
    (hcs : Unread cs) : e.sql.toList ++ s ≠ cs := by
  intro heq
  have hread := e.readable he e.height (Nat.le_refl _) s hs
  rw [heq, hcs] at hread
  cases hread

/-! ## Row sources -/

/-- Whether all names in a join are plain. -/
def Join.Plain (j : Join) : Prop := IsPlain j.left ∧ IsPlain j.right ∧ j.on.Plain

instance (j : Join) : Decidable j.Plain :=
  inferInstanceAs (Decidable (IsPlain j.left ∧ IsPlain j.right ∧ j.on.Plain))

/-- What stands between the two tables of a join. -/
def JoinKind.mark (k : JoinKind) : String := " " ++ k.text ++ " "

theorem JoinKind.mark_prefixFree : PrefixFree mark all := by decide

theorem JoinKind.mem_all (k : JoinKind) : k ∈ all := by cases k <;> decide

/-- The text of a table or a join in a FROM clause. -/
def entryText : String ⊕ Join → List Char
  | .inl name => name.toList
  | .inr j => j.sql.toList

/-- Whether all names in an entry are plain. -/
def PlainEntry : String ⊕ Join → Prop
  | .inl name => IsPlain name
  | .inr j => j.Plain

/-- **`EndsEntry s`** -- an entry of a FROM clause may end here: a boundary, but no join. -/
def EndsEntry (s : List Char) : Prop := IsBoundary s ∧ ∀ k : JoinKind, ¬ k.mark.toList <+: s

theorem toList_sql_join (j : Join) (s : List Char) :
    j.sql.toList ++ s = j.left.toList ++
      (j.kind.mark.toList ++ (j.right.toList ++ (" ON ".toList ++ (j.on.sql.toList ++ s)))) := by
  simp [Join.sql, JoinKind.mark]

theorem JoinKind.isBoundary_mark (k : JoinKind) (s : List Char) :
    IsBoundary (k.mark.toList ++ s) := by
  cases k <;> exact isBoundary_cons (.inl rfl) _

/-- A join is read from left to right: a table, the kind, a table and the condition. -/
theorem unambiguous_join : Unambiguous Join.Plain (fun j => j.sql.toList) IsBoundary := by
  intro j j' s t hj hj' hs ht heq
  obtain ⟨left, kind, right, on⟩ := j
  obtain ⟨left', kind', right', on'⟩ := j'
  have honBoundary (rest : List Char) : IsBoundary (" ON ".toList ++ rest) :=
    isBoundary_cons (.inl rfl) _
  simp only [toList_sql_join] at heq
  obtain ⟨rfl, hkind⟩ := unambiguous_name left left' _ _ hj.1 hj'.1 (kind.isBoundary_mark _)
    (kind'.isBoundary_mark _) heq
  -- The kinds are a prefix code, so one reader finds both.
  have hread := readOne_append JoinKind.mark_prefixFree kind.mem_all
    (right.toList ++ (" ON ".toList ++ (on.sql.toList ++ s)))
  rw [hkind, readOne_append JoinKind.mark_prefixFree kind'.mem_all] at hread
  obtain ⟨rfl, hright⟩ := Prod.mk.inj (Option.some.inj hread)
  obtain ⟨rfl, hon⟩ := unambiguous_name right' right _ _ hj'.2.1 hj.2.1
    (honBoundary _) (honBoundary _) hright
  obtain ⟨rfl, rfl⟩ := unambiguous_expr on' on t s hj'.2.2 hj.2.2 ht hs
    (List.append_cancel_left hon)
  exact ⟨rfl, rfl⟩

/-- **A table is told from a join** by what stands behind its name. -/
theorem unambiguous_entry : Unambiguous PlainEntry entryText EndsEntry := by
  have hmixed : ∀ (name : String) (j : Join) (s t : List Char), IsPlain name → j.Plain →
      EndsEntry s → name.toList ++ s ≠ j.sql.toList ++ t := by
    intro name j s t hname hj hs heq
    rw [toList_sql_join] at heq
    obtain ⟨-, hmark⟩ := unambiguous_name name j.left _ _ hname hj.1 hs.1 (j.kind.isBoundary_mark _)
      heq
    exact hs.2 j.kind (hmark ▸ List.prefix_append _ _)
  intro a b s t ha hb hs ht heq
  cases a with
  | inl name =>
    cases b with
    | inl name' =>
      obtain ⟨rfl, rfl⟩ := unambiguous_name name name' s t ha hb hs.1 ht.1 heq
      exact ⟨rfl, rfl⟩
    | inr j => exact absurd heq (hmixed name j s t ha hb hs)
  | inr j =>
    cases b with
    | inl name => exact absurd heq.symm (hmixed name j t s hb ha ht)
    | inr j' =>
      obtain ⟨rfl, rfl⟩ := unambiguous_join j j' s t ha hb hs.1 ht.1 heq
      exact ⟨rfl, rfl⟩

/-! ## Queries -/

namespace RowSource

/-- The tables and the joins of a source, as they are printed. -/
def parts (s : RowSource) : List (String ⊕ Join) := s.tables.map .inl ++ s.joins.map .inr

theorem parts_injective {s t : RowSource} (h : s.parts = t.parts) : s = t := by
  obtain ⟨tables, joins⟩ := s
  obtain ⟨tables', joins'⟩ := t
  have htables := congrArg (List.filterMap Sum.getLeft?) h
  have hjoins := congrArg (List.filterMap Sum.getRight?) h
  simp [parts, List.filterMap_append, List.filterMap_map, Function.comp_def] at htables hjoins
  rw [htables, hjoins]

theorem toList_sql (s : RowSource) : s.sql.toList = clauseText " FROM " entryText s.parts := by
  have hentries : s.entries = s.parts.map fun part => String.ofList (entryText part) := by
    simp [entries, parts, entryText, Function.comp_def]
  have hjoin := toList_join (fun part => String.ofList (entryText part)) s.parts
  unfold sql
  rw [hentries]
  cases hparts : s.parts with
  | nil => rfl
  | cons part parts =>
    rw [hparts] at hjoin
    show (" FROM " ++ Text.join ", " _).toList = _
    rw [String.toList_append, hjoin]
    simp [clauseText]

end RowSource

namespace Select

/-- Whether all names in a query are plain. -/
def Plain (q : Select) : Prop :=
  (∀ e ∈ q.projection, e.Plain) ∧ (∀ t ∈ q.source.tables, IsPlain t) ∧
    (∀ j ∈ q.source.joins, j.Plain) ∧ (∀ e ∈ q.filter.toList, e.Plain) ∧ ∀ e ∈ q.orderBy, e.Plain

instance (q : Select) : Decidable q.Plain :=
  inferInstanceAs (Decidable ((∀ e ∈ q.projection, e.Plain) ∧ (∀ t ∈ q.source.tables, IsPlain t) ∧
    (∀ j ∈ q.source.joins, j.Plain) ∧ (∀ e ∈ q.filter.toList, e.Plain) ∧
    ∀ e ∈ q.orderBy, e.Plain))

/-- The text of an expression, as a list of characters. -/
def exprText (e : Expr) : List Char := e.sql.toList

/-- The clauses behind the projection. -/
def clauses (q : Select) : List Char :=
  clauseText " FROM " entryText q.source.parts
    ++ (clauseText " WHERE " exprText q.filter.toList
      ++ (clauseText " ORDER BY " exprText q.orderBy ++ []))

theorem toList_listSql (es : List Expr) : (Expr.listSql es).toList = listText exprText es :=
  toList_join _ _

theorem toList_sql (q : Select) :
    q.sql.toList = "SELECT ".toList ++ ((if q.distinct then "DISTINCT ".toList else [])
      ++ (listText exprText q.projection ++ q.clauses)) := by
  obtain ⟨distinct, projection, source, filter, orderBy⟩ := q
  -- Each of the three optional parts is there or not.
  cases distinct <;> cases filter <;> cases orderBy <;>
    simp [sql, clauses, toList_listSql, RowSource.toList_sql, clauseText, listText, tailText,
      exprText]

/-! ### Taking the clauses off -/

theorem endsItem_boundary (keywords : List String)
    (hkeywords : ∀ keyword ∈ keywords, keyword.toList.head? = some ' ') :
    EndsItem IsBoundary (Opens keywords) where
  comma s := isBoundary_cons (.inr (.inr rfl)) _
  rest s hs := fun c hc => .inl (hs.head_eq hkeywords c hc)
  noComma s hs := by
    rintro ⟨rest, rfl⟩
    exact absurd (hs.head_eq hkeywords ',' rfl) (by decide)

theorem endsItem_entry : EndsItem EndsEntry (Opens [" WHERE ", " ORDER BY "]) where
  comma s := by
    refine ⟨isBoundary_cons (.inr (.inr rfl)) _, fun k => ?_⟩
    cases k <;> simp [JoinKind.mark, JoinKind.text]
  rest s hs := by
    refine ⟨fun c hc => .inl (hs.head_eq (by decide) c hc), fun k => ?_⟩
    cases k <;> exact hs.not_prefix (by decide) (by decide)
  noComma s hs := hs.not_prefix (by decide) (by decide)

theorem unambiguous_source : Unambiguous (fun parts => ∀ part ∈ parts, PlainEntry part)
    (clauseText " FROM " entryText) (Opens [" WHERE ", " ORDER BY "]) :=
  unambiguous_entry.clause endsItem_entry fun _ hs => hs.not_prefix (by decide) (by decide)

theorem unambiguous_filter : Unambiguous (fun es => ∀ e ∈ es, e.Plain)
    (clauseText " WHERE " exprText) (Opens [" ORDER BY "]) :=
  unambiguous_expr.clause (endsItem_boundary _ (by decide)) fun _ hs =>
    hs.not_prefix (by decide) (by decide)

theorem unambiguous_order : Unambiguous (fun es => ∀ e ∈ es, e.Plain)
    (clauseText " ORDER BY " exprText) (Opens []) :=
  unambiguous_expr.clause (endsItem_boundary _ (by decide)) fun _ hs =>
    hs.not_prefix (by decide) (by decide)

variable {q q' : Select}

theorem opens_clauses (q : Select) : Opens [" FROM ", " WHERE ", " ORDER BY "] q.clauses :=
  .clause _ _ _ (.clause _ _ _ (.clause _ _ _ (.inl rfl)))

theorem Plain.parts (h : q.Plain) : ∀ part ∈ q.source.parts, PlainEntry part := by
  intro part hpart
  simp only [RowSource.parts, List.mem_append, List.mem_map] at hpart
  obtain ⟨name, hname, rfl⟩ | ⟨j, hj, rfl⟩ := hpart
  · exact h.2.1 name hname
  · exact h.2.2.1 j hj

/-- The clauses tell everything but the projection. -/
theorem clauses_injective (h : q.Plain) (h' : q'.Plain) (heq : q.clauses = q'.clauses) :
    q.source = q'.source ∧ q.filter = q'.filter ∧ q.orderBy = q'.orderBy := by
  obtain ⟨hsource, hrest⟩ := unambiguous_source _ _ _ _ h.parts h'.parts
    (.clause _ _ _ (.clause _ _ _ (.inl rfl))) (.clause _ _ _ (.clause _ _ _ (.inl rfl))) heq
  obtain ⟨hfilter, hrest⟩ := unambiguous_filter _ _ _ _ h.2.2.2.1 h'.2.2.2.1
    (.clause _ _ _ (.inl rfl)) (.clause _ _ _ (.inl rfl)) hrest
  obtain ⟨horder, -⟩ := unambiguous_order _ _ _ _ h.2.2.2.2 h'.2.2.2.2 (.inl rfl) (.inl rfl) hrest
  have hhead : q.filter.toList.head? = q'.filter.toList.head? := by rw [hfilter]
  exact ⟨RowSource.parts_injective hsource, by simpa using hhead, horder⟩

/-- What may stand behind a projection. -/
def EndsProjection : List Char → Prop := Opens [" FROM ", " WHERE ", " ORDER BY "]

theorem EndsProjection.unread {s : List Char} (hs : EndsProjection s) : Unread s :=
  unread_of_head (hs.head_eq (by decide))

theorem endsItem_projection : EndsItem IsBoundary EndsProjection := endsItem_boundary _ (by decide)

theorem unambiguous_projection : Unambiguous (fun es => ∀ e ∈ es, e.Plain) (listText exprText)
    EndsProjection :=
  unambiguous_expr.list endsItem_projection fun _ _ _ he hs ht =>
    Expr.sql_append_ne he hs ht.unread

/-- No projection begins like DISTINCT: a column of a table of that name goes on with a point. -/
theorem projection_ne_distinct (h : q.Plain) (rest : List Char) :
    listText exprText q.projection ++ q.clauses ≠ "DISTINCT ".toList ++ rest := by
  have hdistinct : Unread ("DISTINCT".toList ++ ' ' :: rest) :=
    unread_word (by decide) (endsWord_cons (by decide) rest) (by decide) (by decide)
      (by simp)
  intro heq
  cases hprojection : q.projection with
  | nil =>
    rw [hprojection] at heq
    have hhead := q.opens_clauses.head_eq (by decide) 'D'
    rw [show q.clauses = "DISTINCT ".toList ++ rest from heq] at hhead
    exact absurd (hhead rfl) (by decide)
  | cons e es =>
    have he : e.Plain := h.1 e (by rw [hprojection]; exact List.mem_cons_self)
    rw [hprojection, listText, List.append_assoc] at heq
    exact Expr.sql_append_ne he (endsItem_projection.tail es q.opens_clauses) hdistinct heq

/-- **The text of a query says which query it is**: whether rows are kept apart, the projection, the
tables and the joins, the filter and the order, each of which may be missing. -/
theorem sql_injective (h : q.Plain) (h' : q'.Plain) (heq : q.sql = q'.sql) : q = q' := by
  have htext : q.sql.toList = q'.sql.toList := by rw [heq]
  rw [toList_sql, toList_sql] at htext
  have hselect := List.append_cancel_left htext
  -- Behind SELECT either both texts go on with DISTINCT or none does.
  have hdistinct : q.distinct = q'.distinct ∧ listText exprText q.projection ++ q.clauses =
      listText exprText q'.projection ++ q'.clauses := by
    cases hd : q.distinct <;> cases hd' : q'.distinct <;> rw [hd, hd'] at hselect
    · exact ⟨rfl, hselect⟩
    · exact absurd hselect (projection_ne_distinct h _)
    · exact absurd hselect.symm (projection_ne_distinct h' _)
    · exact ⟨rfl, List.append_cancel_left hselect⟩
  obtain ⟨hprojection, hclauses⟩ := unambiguous_projection _ _ _ _ h.1 h'.1 q.opens_clauses
    q'.opens_clauses hdistinct.2
  obtain ⟨hsource, hfilter, horder⟩ := clauses_injective h h' hclauses
  obtain ⟨distinct, projection, source, filter, orderBy⟩ := q
  obtain ⟨distinct', projection', source', filter', orderBy'⟩ := q'
  obtain rfl : distinct = distinct' := hdistinct.1
  obtain rfl : projection = projection' := hprojection
  obtain rfl : source = source' := hsource
  obtain rfl : filter = filter' := hfilter
  obtain rfl : orderBy = orderBy' := horder
  rfl

/-- Names that are keywords, a comma and a quote within a literal: the text still has one reading. A
query whose condition a reader has found in the text of another query, and whose text is the same, is that
query. -/
theorem sql_injective_keywords :
    let text := "(DISTINCT.WHERE = ''', t')"
    let condition : Expr := .comparison .eq (.column ⟨"DISTINCT", "WHERE"⟩) (.literal (.varchar "', t"))
    let query (on : Expr) : Select := ⟨true, [.column ⟨"DISTINCT", "FROM"⟩, .literal (.null .integer)],
      ⟨["ORDER", "BY"], [⟨"DISTINCT", .left, "WHERE", on⟩]⟩, some on.negate, []⟩
    ∃ found : Expr, readWithin 1 text.toList = some (found, []) ∧
      (query found).Plain ∧ (query condition).Plain ∧ (query found).sql = (query condition).sql ∧
      (query condition).sql = "SELECT DISTINCT DISTINCT.FROM, CAST(NULL AS INTEGER) FROM ORDER, BY, "
        ++ "DISTINCT LEFT JOIN WHERE ON (DISTINCT.WHERE = ''', t') "
        ++ "WHERE (NOT (DISTINCT.WHERE = ''', t'))" ∧
      query found = query condition := by
  intro text condition query
  have hread : (readWithin 1 text.toList).map (fun r =>
      (decide (query r.1).Plain, (query r.1).sql, r.2)) = some (true, (query condition).sql, []) := by
    decide +kernel
  obtain ⟨⟨found, rest⟩, hfound, hparts⟩ := Option.map_eq_some_iff.mp hread
  obtain ⟨hplain, hrest⟩ := Prod.mk.inj hparts
  obtain ⟨htext, rfl⟩ := Prod.mk.inj hrest
  have hplain' : (query condition).Plain := by decide
  refine ⟨found, hfound, of_decide_eq_true hplain, hplain', htext, by decide +kernel, ?_⟩
  exact sql_injective (of_decide_eq_true hplain) hplain' htext

end Select
end PredicateOracle.Sql
