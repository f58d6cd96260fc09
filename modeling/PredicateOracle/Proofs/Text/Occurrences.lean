import PredicateOracle.Text.Blank
import Mathlib.Algebra.Order.Ring.Nat
import Mathlib.Data.List.Infix

/-!
# PredicateOracle.Proofs.Text.Occurrences -- how often a word stands in a text

A word stands in a text wherever a rest of the text begins with it; occurrences may overlap. A text
that is put together from pieces has the occurrences of its pieces if no occurrence can run from one
piece into the next. That is so at a character that the word does not have, and behind a piece that has
no character the word could begin with.
-/

namespace PredicateOracle.Text

/-- The occurrences of a word among characters. -/
def occurrencesIn (word text : List Char) : Nat := text.tails.countP word.isPrefixOf

/-- **`occurrences word text`** -- how often the word stands in the text. -/
def occurrences (word text : String) : Nat := occurrencesIn word.toList text.toList

variable {word a b text : List Char} {c : Char}

theorem occurrencesIn_nil (hne : word ≠ []) : occurrencesIn word [] = 0 := by
  cases word with
  | nil => exact absurd rfl hne
  | cons c word => rfl

theorem occurrencesIn_cons (word : List Char) (c : Char) (text : List Char) :
    occurrencesIn word (c :: text) =
      occurrencesIn word text + if word <+: c :: text then 1 else 0 := by
  rw [occurrencesIn, List.tails_cons, List.countP_cons]
  simp only [List.isPrefixOf_iff_prefix]
  rfl

/-! ## Pieces -/

/-- A word does not run over a character that it does not have. -/
theorem prefix_append_cons_iff (hc : c ∉ word) : word <+: a ++ c :: b ↔ word <+: a := by
  refine ⟨fun h => ?_, fun h => h.trans (List.prefix_append a _)⟩
  rcases Nat.lt_or_ge a.length word.length with hlt | hle
  · have hwhole : a ++ [c] <+: a ++ c :: b := ⟨b, List.append_assoc a [c] b⟩
    have hmem : a ++ [c] <+: word := by
      refine List.prefix_of_prefix_length_le hwhole h ?_
      rwa [List.length_append]
    exact absurd (hmem.subset (List.mem_append_right a (List.mem_singleton_self c))) hc
  · exact List.prefix_of_prefix_length_le h (List.prefix_append a _) hle

/-- **A character that the word does not have divides the occurrences.** -/
theorem occurrencesIn_append_cons (hne : word ≠ []) (hc : c ∉ word) (a b : List Char) :
    occurrencesIn word (a ++ c :: b) = occurrencesIn word a + occurrencesIn word b := by
  have hfirst : ¬ word <+: c :: b := by
    rw [← List.nil_append (c :: b), prefix_append_cons_iff hc, List.prefix_nil]
    exact hne
  induction a with
  | nil => rw [List.nil_append, occurrencesIn_cons, if_neg hfirst, occurrencesIn_nil hne,
      Nat.add_zero, Nat.zero_add]
  | cons x a ih =>
    have hsame : word <+: x :: (a ++ c :: b) ↔ word <+: x :: a :=
      prefix_append_cons_iff (a := x :: a) hc
    rw [List.cons_append, occurrencesIn_cons, occurrencesIn_cons, ih]
    simp only [hsame]
    omega

/-- A piece that has no character the word begins with adds nothing. -/
theorem occurrencesIn_append_of_head (hne : word ≠ []) (ha : ∀ c ∈ a, word.head? ≠ some c) :
    occurrencesIn word (a ++ text) = occurrencesIn word text := by
  induction a with
  | nil => rfl
  | cons x a ih =>
    obtain ⟨hx, ha⟩ := List.forall_mem_cons.mp ha
    have hfirst : ¬ word <+: x :: (a ++ text) := by
      intro h
      cases word with
      | nil => exact hne rfl
      | cons c word => exact hx (congrArg some (List.cons_prefix_cons.mp h).1)
    rw [List.cons_append, occurrencesIn_cons, if_neg hfirst, Nat.add_zero, ih ha]

theorem occurrencesIn_of_head (hne : word ≠ []) (ha : ∀ c ∈ a, word.head? ≠ some c) :
    occurrencesIn word a = 0 := by
  rw [← List.append_nil a, occurrencesIn_append_of_head hne ha, occurrencesIn_nil hne]

/-- A last character that the word does not end in adds nothing. -/
theorem occurrencesIn_concat (hne : word ≠ []) (hc : word.getLast? ≠ some c) (a : List Char) :
    occurrencesIn word (a ++ [c]) = occurrencesIn word a := by
  have hsame (a : List Char) : word <+: a ++ [c] ↔ word <+: a := by
    rw [List.prefix_concat_iff]
    refine or_iff_right fun h => hc ?_
    rw [h, List.getLast?_append, List.getLast?_singleton]
    rfl
  induction a with
  | nil =>
    have hfirst : ¬ word <+: [c] := mt (hsame []).mp (mt List.prefix_nil.mp hne)
    rw [List.nil_append, occurrencesIn_cons, if_neg hfirst, Nat.add_zero]
  | cons x a ih =>
    rw [List.cons_append, occurrencesIn_cons, occurrencesIn_cons, ih]
    simp only [← List.cons_append, hsame]

/-- **A list with commas has the occurrences of its items**, if the word has no comma and begins with no
blank. -/
theorem occurrencesIn_join (hne : word ≠ []) (hcomma : ',' ∉ word) (hblank : word.head? ≠ some ' ')
    (items : List String) :
    occurrencesIn word (join ", " items).toList =
      (items.map fun item => occurrencesIn word item.toList).sum := by
  induction items with
  | nil => exact occurrencesIn_nil hne
  | cons item items ih =>
    cases items with
    | nil => rfl
    | cons next items =>
      have hchars : (join ", " (item :: next :: items)).toList =
          item.toList ++ ',' :: ([' '] ++ (join ", " (next :: items)).toList) := by
        rw [join, String.toList_append, String.toList_append, List.append_assoc]
        · rfl
        · exact nofun
      rw [hchars, occurrencesIn_append_cons hne hcomma, occurrencesIn_append_of_head hne, ih]
      · rfl
      · simpa using hblank

end PredicateOracle.Text
