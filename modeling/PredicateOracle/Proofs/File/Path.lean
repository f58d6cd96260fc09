import PredicateOracle.File.Path
import Mathlib.Data.List.Basic

/-!
# PredicateOracle.Proofs.File.Path -- a marked path stays in its directory

A file name is what stands behind the last slash of a path. A name that is joined to a directory is the
name of the path that comes out, and the directory is the directory of that path, up to slashes and
single dots at its end (`splitName?_join`). So a mark changes the name of a path and nothing else, and
what stands around the mark does not depend on it (`splitName?_withMark`).
-/

namespace PredicateOracle.Path

/-! ## The ends of paths -/

/-- A path without the slashes and single dots at its end that do not count. -/
def trimmed (path : String) : String := String.ofList (trimEnd path.toList.reverse).reverse

theorem trimEnd_trimEnd (cs : List Char) : trimEnd (trimEnd cs) = trimEnd cs := by
  fun_induction trimEnd cs with
  | case1 c rest ih => exact ih
  | case2 rest ih => exact ih
  | case3 rest hslash hdot =>
    unfold trimEnd
    split
    · rename_i c rest
      exact absurd rfl (hslash c rest)
    · rename_i rest
      exact absurd rfl (hdot rest)
    · rfl

/-- **`IsName name`** -- the text can name a file: it has no slash and is none of the names that
stand for a directory. -/
structure IsName (name : String) : Prop where
  noSlash : '/' ∉ name.toList
  ne_empty : name.toList ≠ []
  ne_dot : name.toList ≠ ['.']
  ne_dots : name.toList ≠ ['.', '.']

/-- What has no slash and more than dots in it is a name. -/
theorem IsName.of_mem {name : String} (hslash : '/' ∉ name.toList) {c : Char}
    (hc : c ∈ name.toList) (hdot : c ≠ '.') : IsName name := by
  refine ⟨hslash, fun h => ?_, fun h => ?_, fun h => ?_⟩ <;> rw [h] at hc <;> simp at hc <;>
    exact hdot hc

/-- Nothing is taken off behind a name. -/
theorem trimEnd_name {name : String} (hname : IsName name) (rest : List Char) :
    trimEnd (name.toList.reverse ++ rest) = name.toList.reverse ++ rest := by
  have hslash : ∀ cs, name.toList.reverse ++ rest ≠ '/' :: cs := by
    intro cs h
    cases hreverse : name.toList.reverse with
    | nil => exact hname.ne_empty (List.reverse_eq_nil_iff.mp hreverse)
    | cons c back =>
      rw [hreverse, List.cons_append] at h
      obtain rfl := (List.cons.inj h).1
      exact hname.noSlash (List.mem_reverse.mp (hreverse ▸ List.mem_cons_self))
  have hdot : ∀ cs, name.toList.reverse ++ rest ≠ '.' :: '/' :: cs := by
    intro cs h
    cases hreverse : name.toList.reverse with
    | nil => exact hname.ne_empty (List.reverse_eq_nil_iff.mp hreverse)
    | cons c back =>
      rw [hreverse, List.cons_append] at h
      obtain ⟨rfl, hback⟩ := List.cons.inj h
      cases back with
      | nil => exact hname.ne_dot (by simpa using congrArg List.reverse hreverse)
      | cons c back =>
        obtain rfl := (List.cons.inj hback).1
        exact hname.noSlash (List.mem_reverse.mp (hreverse ▸ by simp))
  unfold trimEnd
  split
  · rename_i c cs heq
    exact absurd heq (hslash _)
  · rename_i cs heq
    exact absurd heq (hdot _)
  · rfl

/-- A path that ends in a name behind a slash, or is that name. -/
theorem splitName?_of_reverse {path name : String} (hname : IsName name) {rest : List Char}
    (hpath : path.toList.reverse = name.toList.reverse ++ rest) (hrest : ∀ c ∈ rest.head?, c = '/') :
    splitName? path = some (String.ofList (trimEnd rest).reverse, name) := by
  have hnoSlash : ∀ c ∈ name.toList.reverse, decide (c ≠ '/') = true := by
    intro c hc
    have hne : c ≠ '/' := fun h => hname.noSlash (h ▸ List.mem_reverse.mp hc)
    simp [hne]
  have htake : (name.toList.reverse ++ rest).takeWhile (· ≠ '/') = name.toList.reverse := by
    rw [List.takeWhile_append_of_pos hnoSlash]
    cases rest with
    | nil => simp
    | cons c rest => simp [hrest c rfl]
  have hdrop : (name.toList.reverse ++ rest).dropWhile (· ≠ '/') = rest := by
    rw [List.dropWhile_append_of_pos hnoSlash]
    cases rest with
    | nil => rfl
    | cons c rest => simp [hrest c rfl]
  have hproper : ¬ (name.toList = [] ∨ name.toList = ['.'] ∨ name.toList = ['.', '.']) := by
    rintro (h | h | h)
    · exact hname.ne_empty h
    · exact hname.ne_dot h
    · exact hname.ne_dots h
  unfold splitName?
  simp only [hpath, trimEnd_name hname, htake, hdrop, List.reverse_reverse, if_neg hproper,
    String.ofList_toList]

/-- **A name joined to a directory is taken off again**, and leaves the directory. -/
theorem splitName?_join (base : String) {name : String} (hname : IsName name) :
    splitName? (join base name) = some (trimmed base, name) := by
  have hrelative : isAbsolute name = false := by
    refine decide_eq_false fun h => ?_
    obtain ⟨cs, hcs⟩ := List.head?_eq_some_iff.mp h
    exact hname.noSlash (hcs ▸ List.mem_cons_self)
  unfold join
  rw [hrelative, if_neg (by decide)]
  split
  · -- The directory is empty or has its slash already.
    rename_i hbase
    refine splitName?_of_reverse hname (by simp) fun c hc => ?_
    rw [List.head?_reverse] at hc
    simp only [Bool.or_eq_true, String.isEmpty_iff, decide_eq_true_eq] at hbase
    rcases hbase with rfl | hlast
    · cases hc
    · rw [hlast] at hc
      exact (Option.some.inj hc).symm
  · rename_i hbase
    have hpath : (base ++ "/" ++ name).toList.reverse =
        name.toList.reverse ++ '/' :: base.toList.reverse := by simp
    have hsplit := splitName?_of_reverse hname hpath (by simp)
    rw [hsplit]
    -- The slash between the two is the first thing that is taken off the directory.
    cases hreverse : base.toList.reverse with
    | nil =>
      have hempty : base = "" := by simpa using hreverse
      simp [hempty] at hbase
    | cons c rest =>
      have hslash : trimEnd ('/' :: c :: rest) = trimEnd (c :: rest) := by rw [trimEnd]
      rw [trimmed, hreverse, hslash]

/-- The name of a path has no slash, and there is nothing more to take off its directory. -/
theorem splitName?_some {path directory name : String}
    (hsplit : splitName? path = some (directory, name)) :
    '/' ∉ name.toList ∧ trimmed directory = directory := by
  unfold splitName? at hsplit
  dsimp only at hsplit
  split at hsplit
  · cases hsplit
  · obtain ⟨rfl, rfl⟩ := Prod.mk.inj (Option.some.inj hsplit)
    constructor
    · intro hmem
      rw [String.toList_ofList, List.mem_reverse] at hmem
      have hne := List.all_eq_true.mp (List.all_takeWhile (p := (· ≠ '/'))) '/' hmem
      simp at hne
    · rw [trimmed, String.toList_ofList, List.reverse_reverse, trimEnd_trimEnd]

/-! ## Marked names -/

/-- The characters behind the last dot of a name, with the dot. -/
def extensionText : Option String → String
  | none => ""
  | some e => "." ++ e

/-- Cutting a name at its last dot loses nothing. -/
theorem splitExtension_eq (name : String) :
    (splitExtension name).1 ++ extensionText (splitExtension name).2 = name := by
  have hback : name.toList.reverse.takeWhile (· ≠ '.') ++ name.toList.reverse.dropWhile (· ≠ '.')
      = name.toList.reverse := List.takeWhile_append_dropWhile
  unfold splitExtension
  dsimp only
  split
  · simp [extensionText]
  · simp [extensionText]
  · rename_i c stem _ hdrop
    have hc : c = '.' := by
      have hhead := List.head?_dropWhile_not (· ≠ '.') name.toList.reverse
      rw [hdrop] at hhead
      simpa using hhead
    rw [hdrop, hc] at hback
    apply String.toList_inj.mp
    apply List.reverse_injective
    refine Eq.trans ?_ hback
    simp [extensionText]

/-- The stem and the extension a marked path is put together from. -/
def nameParts (path defaultStem : String) : String × String :=
  match splitName? path with
  | some (_, name) => ((splitExtension name).1, extensionText (splitExtension name).2)
  | none => (defaultStem, "")

/-- The directory a file name is put into. -/
def directory (path : String) : String :=
  match splitName? path with
  | some (directory, _) => directory
  | none => trimmed path

/-- A marked path is the directory with the name that has the mark between its two parts. -/
theorem withMark_eq (path mark defaultStem : String) :
    withMark path mark defaultStem = withFileName path
      ((nameParts path defaultStem).1 ++ mark ++ (nameParts path defaultStem).2) := by
  unfold withMark nameParts
  cases splitName? path with
  | none => simp
  | some parts => cases h : (splitExtension parts.2).2 <;> simp [extensionText, h, String.append_assoc]

/-- The two parts of a marked name have no slash. -/
theorem slash_not_mem_nameParts (path : String) {defaultStem : String}
    (hdefault : '/' ∉ defaultStem.toList) :
    '/' ∉ (nameParts path defaultStem).1.toList ∧ '/' ∉ (nameParts path defaultStem).2.toList := by
  unfold nameParts
  cases hsplit : splitName? path with
  | none => exact ⟨hdefault, by simp⟩
  | some parts =>
    have hname := (splitName?_some hsplit).1
    rw [← splitExtension_eq parts.2, String.toList_append, List.mem_append, not_or] at hname
    exact hname

/-- **A mark stays in the name.** A marked path has the directory of the path, and its name is the mark
between two texts that the mark does not change. -/
theorem splitName?_withMark (path : String) {mark defaultStem : String}
    (hdefault : '/' ∉ defaultStem.toList) (hmark : '/' ∉ mark.toList)
    {c : Char} (hc : c ∈ mark.toList) (hdot : c ≠ '.') :
    splitName? (withMark path mark defaultStem) = some (directory path,
      (nameParts path defaultStem).1 ++ mark ++ (nameParts path defaultStem).2) := by
  have hparts := slash_not_mem_nameParts path hdefault
  have hname : IsName
      ((nameParts path defaultStem).1 ++ mark ++ (nameParts path defaultStem).2) := by
    apply IsName.of_mem (c := c) _ _ hdot
    · simp [hparts.1, hparts.2, hmark]
    · simp [hc]
  rw [withMark_eq, withFileName, directory]
  cases hsplit : splitName? path with
  | none => exact splitName?_join path hname
  | some parts =>
    show splitName? (join parts.1 _) = some (parts.1, _)
    rw [splitName?_join parts.1 hname, (splitName?_some hsplit).2]

/-- The name of a path keeps its extension, the part behind its last dot. -/
example : withMark "/tmp/fuzz.v2.duckdb" "-w3" "trivalent" = "/tmp/fuzz.v2-w3.duckdb" := by
  decide +kernel

end PredicateOracle.Path
