import PredicateOracle.Sql.Printer

/-!
# PredicateOracle.Proofs.Sql.Quoted -- texts in quotes

A string in quotes has each quote inside it written twice. So whoever reads it from its first quote on
knows where it ends: a quote that is followed by another one stands for a quote, and one by itself ends
the string (`readQuoted`). Every string is read back from its quoted form, whatever quotes are in it,
and different strings have different quoted forms.
-/

namespace PredicateOracle.Sql

variable {quote : Char}

/-- The text in quotes that begins behind its first quote, and the rest. -/
def readQuoted (quote : Char) : List Char → Option (List Char × List Char)
  | [] => none
  | [c] => if c = quote then some ([], []) else none
  | c :: d :: cs =>
    if c ≠ quote then (readQuoted quote (d :: cs)).map fun (text, rest) => (c :: text, rest)
    else if d = quote then (readQuoted quote cs).map fun (text, rest) => (quote :: text, rest)
    else some ([], d :: cs)

/-- Any other character than a quote is part of the text. -/
theorem readQuoted_cons_of_ne {c : Char} (hc : c ≠ quote) (cs : List Char) :
    readQuoted quote (c :: cs) =
      (readQuoted quote cs).map fun (text, rest) => (c :: text, rest) := by
  cases cs with
  | nil => simp [readQuoted, hc]
  | cons d cs => rw [readQuoted, if_pos hc]

/-- A quote that is written twice is part of the text. -/
theorem readQuoted_cons_cons (cs : List Char) :
    readQuoted quote (quote :: quote :: cs) =
      (readQuoted quote cs).map fun (text, rest) => (quote :: text, rest) := by
  rw [readQuoted, if_neg (not_not_intro rfl), if_pos rfl]

/-- One quote ends the text only if no other one follows. -/
theorem readQuoted_cons_of_head {s : List Char} (hs : ∀ c ∈ s.head?, c ≠ quote) :
    readQuoted quote (quote :: s) = some ([], s) := by
  cases s with
  | nil => rw [readQuoted, if_pos rfl]
  | cons c s => rw [readQuoted, if_neg (not_not_intro rfl), if_neg (hs c rfl)]

/-- A text in quotes is read back, whatever quotes are in it, if no quote follows. -/
theorem readQuoted_flatMap (text : List Char) {s : List Char} (hs : ∀ c ∈ s.head?, c ≠ quote) :
    readQuoted quote (text.flatMap (fun c => if c = quote then [quote, quote] else [c]) ++ quote :: s)
      = some (text, s) := by
  induction text with
  | nil => exact readQuoted_cons_of_head hs
  | cons c text ih =>
    rw [List.flatMap_cons, List.append_assoc]
    -- The reader splits as the printer did: a quote was written twice, all else once.
    by_cases hc : c = quote
    · subst hc
      rw [if_pos rfl, List.cons_append, List.cons_append, List.nil_append, readQuoted_cons_cons, ih]
      rfl
    · rw [if_neg hc, List.cons_append, List.nil_append, readQuoted_cons_of_ne hc, ih]
      rfl

/-- Reads a string in quotes, and gives back what follows it. -/
def unquote (quote : Char) : List Char → Option (String × List Char)
  | [] => none
  | c :: cs =>
    if c = quote then (readQuoted quote cs).map fun (text, rest) => (String.ofList text, rest)
    else none

/-- **A quoted string is read back as a whole**, whatever quotes are in it, if no quote follows. -/
theorem unquote_quoted (quote : Char) (text : String) {s : List Char}
    (hs : ∀ c ∈ s.head?, c ≠ quote) :
    unquote quote ((quoted quote text).toList ++ s) = some (text, s) := by
  have htext : (quoted quote text).toList ++ s
      = quote :: (text.toList.flatMap (fun c => if c = quote then [quote, quote] else [c])
        ++ quote :: s) := by
    simp [quoted]
  rw [htext, unquote, if_pos rfl, readQuoted_flatMap _ hs]
  simp

/-- Different strings have different quoted forms. -/
theorem quoted_injective (quote : Char) : Function.Injective (quoted quote) := by
  intro text text' h
  have hend : ∀ c ∈ ([] : List Char).head?, c ≠ quote := nofun
  have hread := unquote_quoted quote text hend
  rw [h, unquote_quoted quote text' hend] at hread
  exact (congrArg Prod.fst (Option.some.inj hread)).symm

end PredicateOracle.Sql
