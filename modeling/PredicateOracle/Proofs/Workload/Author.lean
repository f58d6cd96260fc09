import PredicateOracle.Proofs.Workload.Tables

/-!
# PredicateOracle.Proofs.Workload.Author -- one request after another

An author is asked for statements, in any order and for any tables, and all that it keeps between two
requests is how many objects of each kind it has named. An answer either makes an object of a kind,
which then has the next name, or leaves the count of that kind alone (`Step`); so over any requests the
names of a kind are numbered in the order in which they are given. A request that cannot be met
(`Unmeetable`) is, as a program, the one that answers `none` and does nothing. Any other requests go on
as if it had not been made.
-/

namespace PredicateOracle.Generate

open Gen (Yields)
open Sql

variable {w : Workload} {o : Options}

/-! ## Requests -/

/-- What an author can be asked for. -/
inductive Request where
  /-- A table of this name. -/
  | newTable (name : String)
  /-- A statement of a kind for the table; views are made over all the tables. -/
  | statement (a : Action) (tables : List Table) (t : Table)

namespace Request

/-- The kind of statement that is asked for. Tables are none of these. -/
def action? : Request → Option Action
  | .newTable _ => none
  | .statement a _ _ => some a

/-- The answer to a request, and the author after it. -/
def answer (w : Workload) (o : Options) (author : Author) :
    Request → Gen (Option Statement × Author)
  | .newTable name => do return (some (.createTable (← tableDefinition w name)), author)
  | .statement a tables t => Populate.statement w o author tables t a

/-- **`r.Unmeetable`** -- the request needs a column, and there is none. -/
def Unmeetable : Request → Prop
  | .statement .createIndex _ t | .statement .update _ t => t.columns = []
  | .statement .createView tables _ => ∀ t ∈ tables, t.columns = []
  | _ => False

/-- **A request that cannot be met does nothing.** -/
theorem answer_of_unmeetable {r : Request} (h : r.Unmeetable) (author : Author) :
    r.answer w o author = pure (none, author) := by
  cases r with
  | newTable name => exact h.elim
  | statement a tables t =>
    cases a with
    | insert | delete => exact h.elim
    | createIndex =>
      have hcolumns : t.columns = [] := h
      simp [answer, Populate.statement, createIndex, hcolumns]
    | update =>
      have hcolumns : t.columns = [] := h
      simp [answer, Populate.statement, update, Gen.choose?, hcolumns]
    | createView =>
      have hcolumns : ∀ t ∈ tables, t.columns = [] := h
      have husable : Schema.usable ⟨tables⟩ = [] := by simpa [Schema.usable] using hcolumns
      simp [answer, Populate.statement, createView, targets, husable]

end Request

/-- Requests to one author, one after the other: their answers, and the author after them. -/
def answerAll (w : Workload) (o : Options) :
    List Request → Author → Gen (List (Option Statement) × Author)
  | [], author => return ([], author)
  | r :: rest, author => do
    let (s, author) ← r.answer w o author
    let (ss, author) ← answerAll w o rest author
    return (s :: ss, author)

/-! ## Names -/

/-- What has a name that an author gives. -/
inductive Kind where
  | index
  | view
  deriving DecidableEq, Repr

namespace Kind

/-- The letter that the names begin with. -/
def letter : Kind → String
  | .index => "i"
  | .view => "v"

/-- How many an author has named. -/
def count : Kind → Author → Nat
  | .index, author => author.indexes
  | .view, author => author.views

/-- What is done to make one. -/
def action : Kind → Action
  | .index => .createIndex
  | .view => .createView

/-- The name of the one that a statement makes. -/
def name? : Kind → Statement → Option String
  | .index, .createIndex _ name _ _ => some name
  | .view, .createView v _ => some v.name
  | _, _ => none

/-- The statements that were the answers to requests for this kind. -/
def made (kind : Kind) (requests : List Request) (answers : List (Option Statement)) :
    List Statement :=
  (requests.zip answers).filterMap fun (r, s) => if r.action? = some kind.action then s else none

/-- All names of this kind that are given in some answers. -/
def names (kind : Kind) (answers : List (Option Statement)) : List String :=
  answers.filterMap (·.bind kind.name?)

/-- **`kind.Step r author s author'`** -- to the request `r` the author gives the answer `s` and is
`author'` after it. If this makes an object of the kind, it was asked for and it has the next name; if
not, none was asked for or the request was refused. -/
inductive Step (kind : Kind) (r : Request) (author : Author) :
    Option Statement → Author → Prop
  | made {s : Statement} {author' : Author} (hasked : r.action? = some kind.action)
      (hname : kind.name? s = some (numbered kind.letter (kind.count author)))
      (hcount : kind.count author' = kind.count author + 1) : Step kind r author (some s) author'
  | other {s : Option Statement} {author' : Author}
      (hasked : r.action? = some kind.action → s = none) (hname : s.bind kind.name? = none)
      (hcount : kind.count author' = kind.count author) : Step kind r author s author'

variable {kind : Kind} {author author' : Author}

/-- A refusal is a step for all kinds. -/
theorem Step.refused (r : Request) : kind.Step r author none author :=
  .other (fun _ => rfl) rfl rfl

/-- A statement that makes no object of a kind is a step for it. -/
theorem Step.unnamed {r : Request} {s : Statement} (hasked : r.action? ≠ some kind.action)
    (hname : kind.name? s = none) (hcount : kind.count author' = kind.count author) :
    kind.Step r author (some s) author' :=
  .other (fun h => absurd h hasked) hname hcount

end Kind

/-- **Every request is a step for each kind of object**, and it is refused only if it cannot be met. -/
theorem yields_answer (r : Request) (author : Author) :
    Yields (StatementFault w o) (r.answer w o author) fun (s, author') =>
      (∀ kind : Kind, kind.Step r author s author') ∧ (s = none → r.Unmeetable) := by
  have hp : o.nullProbability ∈ [o.nullProbability] := List.mem_singleton_self _
  have hcoin (f : Fault) (hf : f.OfChance [o.nullProbability]) : StatementFault w o f := .inl hf
  have hroom (f : Fault) (hf : f.OfRoom .column (max 1 w.maxColumns)) : StatementFault w o f :=
    .inr hf
  cases r with
  | newTable name =>
    refine .bind ((yields_tableDefinition name).mono hroom fun _ h => h) fun d _ => .pure ?_
    refine ⟨fun kind => ?_, nofun⟩
    cases kind <;> exact .unnamed (fun h => by cases h) rfl rfl
  | statement a tables t =>
    cases a with
    | insert =>
      refine .bind ((yields_insert hp t).mono hcoin fun _ h => h) fun s hs => .pure ?_
      obtain ⟨rows, rfl, -⟩ := hs
      refine ⟨fun kind => ?_, nofun⟩
      cases kind <;> exact .unnamed (fun h => by cases h) rfl rfl
    | createIndex =>
      refine (yields_nextIndex author t).weaken fun answer hanswer => ?_
      rcases hanswer with ⟨rfl, hnone⟩ | ⟨unique, columns, rfl, -⟩
      · exact ⟨fun kind => .refused _, fun _ => hnone⟩
      · refine ⟨fun kind => ?_, nofun⟩
        cases kind with
        | index => exact .made rfl rfl rfl
        | view => exact .unnamed (fun h => by cases h) rfl rfl
    | update =>
      by_cases hnone : t.columns = []
      · have hrefused : (Request.statement .update tables t).Unmeetable := hnone
        rw [Request.answer_of_unmeetable hrefused]
        exact .pure ⟨fun kind => .refused _, fun _ => hnone⟩
      · have hupdate : Yields (Fault.OfChance [o.nullProbability]) (update o t) fun s =>
            ∃ c v f, s = some (.update t.name c v f) := by
          refine .bind (Gen.yields_choose?_of_ne hnone) fun c ⟨b, _, hb⟩ => ?_
          subst hb
          refine .bind (yields_storable hp b) fun v _ => .bind (yields_filter hp t.columns) ?_
          exact fun f _ => .pure ⟨b.name, v, f, rfl⟩
        refine .bind (hupdate.mono hcoin fun _ h => h) fun s ⟨c, v, f, hs⟩ => .pure ?_
        subst hs
        refine ⟨fun kind => ?_, nofun⟩
        cases kind <;> exact .unnamed (fun h => by cases h) rfl rfl
    | delete =>
      refine .bind ((yields_delete hp t).mono hcoin fun _ h => h) fun s hs => .pure ?_
      obtain ⟨f, rfl, -⟩ := hs
      refine ⟨fun kind => ?_, nofun⟩
      cases kind <;> exact .unnamed (fun h => by cases h) rfl rfl
    | createView =>
      refine .bind (yields_nextView w o author tables) fun answer hanswer => .pure ?_
      rcases hanswer with ⟨rfl, husable⟩ | ⟨view, q, rfl, hview⟩
      · have hnone : ∀ t ∈ tables, t.columns = [] := by simpa [Schema.usable] using husable
        exact ⟨fun kind => .refused _, fun _ => hnone⟩
      · refine ⟨fun kind => ?_, fun h => by cases h⟩
        cases kind with
        | index => exact .unnamed (fun h => by cases h) rfl rfl
        | view => exact .made rfl (congrArg some hview.name) rfl

/-! ## Sequences of requests -/

namespace Kind

/-- **`kind.Told author requests answers last`** -- between the author `author` and the author `last`
the objects of this kind have been numbered in the order in which they were made, and nothing else has
such a name. -/
def Told (kind : Kind) (author : Author) (requests : List Request)
    (answers : List (Option Statement)) (last : Author) : Prop :=
  ∃ n, kind.count last = kind.count author + n ∧
    kind.names answers = (List.range' (kind.count author) n).map (numbered kind.letter) ∧
    (kind.made requests answers).map kind.name? = (kind.names answers).map some

variable {kind : Kind} {author author' last : Author}

theorem Told.nil : kind.Told author [] [] author := ⟨0, rfl, rfl, rfl⟩

/-- One more request, before the others. -/
theorem Told.cons {r : Request} {requests : List Request} {s : Option Statement}
    {answers : List (Option Statement)} (hstep : kind.Step r author s author')
    (hrest : kind.Told author' requests answers last) :
    kind.Told author (r :: requests) (s :: answers) last := by
  obtain ⟨n, hlast, hnames, hmade⟩ := hrest
  cases hstep with
  | @made s _ hasked hname hcount =>
    have hcons : kind.names (some s :: answers) =
        numbered kind.letter (kind.count author) :: kind.names answers := by
      simp [names, hname]
    refine ⟨n + 1, by omega, ?_, ?_⟩
    · rw [hcons, hnames, hcount, List.range'_succ, List.map_cons]
    · have hfirst : kind.made (r :: requests) (some s :: answers) =
          s :: kind.made requests answers := by simp [Kind.made, hasked]
      rw [hfirst, hcons, List.map_cons, List.map_cons, hname, hmade]
  | other hasked hname hcount =>
    have hsame : kind.names (s :: answers) = kind.names answers := by simp [names, hname]
    refine ⟨n, by omega, by rw [hsame, hnames, hcount], ?_⟩
    have hrest : kind.made (r :: requests) (s :: answers) = kind.made requests answers := by
      by_cases hr : r.action? = some kind.action
      · simp [Kind.made, hasked hr]
      · simp [Kind.made, hr]
    rw [hrest, hsame, hmade]

end Kind

/-- **Over any requests the objects of every kind are numbered in order.** -/
theorem yields_answerAll (requests : List Request) (author : Author) :
    Yields (StatementFault w o) (answerAll w o requests author)
      fun (answers, last) => answers.length = requests.length ∧
        ∀ kind : Kind, kind.Told author requests answers last := by
  induction requests generalizing author with
  | nil => exact .pure ⟨rfl, fun kind => .nil⟩
  | cons r requests ih =>
    refine .bind (yields_answer r author) fun (s, author') ⟨hstep, _⟩ => ?_
    refine .bind (ih author') fun (answers, last) ⟨hlength, htold⟩ => .pure ?_
    exact ⟨congrArg (· + 1) hlength, fun kind => .cons (hstep kind) (htold kind)⟩

/-- A request that cannot be met leaves no trace but its own answer. -/
theorem answerAll_unmeetable {r : Request} (h : r.Unmeetable) (before after : List Request)
    (author : Author) : answerAll w o (before ++ r :: after) author = do
      let (answers, last) ← answerAll w o (before ++ after) author
      return (answers.insertIdx before.length none, last) := by
  induction before generalizing author with
  | nil =>
    rw [List.nil_append, answerAll, Request.answer_of_unmeetable h, pure_bind]
    rfl
  | cons r' before ih =>
    simp only [List.cons_append, answerAll, ih, bind_assoc, pure_bind]
    rfl

/-- **An author names everything once, and refuses without a trace.** Over any requests to a new
author, for any tables and on any stream, the `k`-th statement that answers a request for an index or a
view names it with the number `k`, and no answer has a name of this kind that another one has; if there
are no answers, it is because the probability of NULL is not a number or because there is no room for as
many columns as there can be. A request is refused exactly if it needs a column and there is none: then
it leaves the author and the stream as they were, and all requests before and after it are answered as
if it had not been made, with the same author and the same stream in the end. -/
theorem author_names_once (w : Workload) (o : Options) :
    (∀ requests, Yields (StatementFault w o) (answerAll w o requests .fresh)
      fun (answers, last) => answers.length = requests.length ∧ ∀ kind : Kind,
        (kind.made requests answers).map kind.name? =
          (List.range (kind.count last)).map (fun k => some (numbered kind.letter k)) ∧
        (kind.names answers).Nodup) ∧
    (∀ (r : Request) (author : Author) (s : Random.Stream),
      ((∃ author' s', (r.answer w o author).runOn s = (.ok (none, author'), s')) ↔ r.Unmeetable) ∧
      (r.Unmeetable → (r.answer w o author).runOn s = (.ok (none, author), s))) ∧
    ∀ (before : List Request) (r : Request) (after : List Request) (author : Author)
      (s : Random.Stream), r.Unmeetable →
      (answerAll w o (before ++ r :: after) author).runOn s =
        match (answerAll w o (before ++ after) author).runOn s with
        | (.ok (answers, last), s') => (.ok (answers.insertIdx before.length none, last), s')
        | (.error f, s') => (.error f, s') := by
  refine ⟨fun requests => ?names, fun r author s => ?refusal, fun before r after author s h => ?_⟩
  case names =>
    refine (yields_answerAll requests .fresh).weaken fun (answers, last) ⟨hlength, htold⟩ => ?_
    refine ⟨hlength, fun kind => ?_⟩
    obtain ⟨n, hlast, hnames, hmade⟩ := htold kind
    have hfresh : kind.count .fresh = 0 := by cases kind <;> rfl
    rw [hfresh, Nat.zero_add] at hlast
    rw [hfresh, ← List.range_eq_range'] at hnames
    rw [hmade, hnames, hlast, List.map_map]
    exact ⟨rfl, nodup_numbered kind.letter n⟩
  case refusal =>
    have hnothing (h : r.Unmeetable) : (r.answer w o author).runOn s = (.ok (none, author), s) := by
      rw [Request.answer_of_unmeetable h, Gen.runOn_pure]
    refine ⟨⟨fun ⟨author', s', hrun⟩ => ?_, fun h => ⟨author, s, hnothing h⟩⟩, hnothing⟩
    exact ((yields_answer r author).of_runOn_ok hrun).1.2 rfl
  · rw [answerAll_unmeetable h, Gen.runOn_bind]
    rcases (answerAll w o (before ++ after) author).runOn s with ⟨f | ⟨answers, last⟩, s'⟩ <;> rfl

/-- An index on a table without columns is asked for between two others, and refused: these are named
one after the other, and the stream is left as if it had not been asked for. -/
theorem author_names_once_bare_table :
    let index (columns : List Column) : Request := .statement .createIndex [] ⟨"t0", columns⟩
    let bare := index []
    let full := index [⟨"t0", "c0", .integer, true⟩]
    let run (requests : List Request) :=
      (answerAll .standard .standard requests .fresh).runOn (.ofSeed 7)
    bare.Unmeetable ∧ ¬ full.Unmeetable ∧
    (run [full, full]).1.map (fun (answers, last) => (Kind.index.names answers, last)) =
      .ok (["i0", "i1"], ⟨2, 0⟩) ∧
    (run [full, bare, full]).1.map Prod.snd = .ok ⟨2, 0⟩ ∧
    (run [full, bare, full]).2 = (run [full, full]).2 := by
  intro index bare full run
  have hbare : bare.Unmeetable := rfl
  have hfull : ¬ full.Unmeetable := nofun
  have hnames : (run [full, full]).1.map (fun (answers, last) => (Kind.index.names answers, last)) =
      .ok (["i0", "i1"], ⟨2, 0⟩) := by decide +kernel
  have hsame : run [full, bare, full] = _ :=
    (author_names_once .standard .standard).2.2 [full] bare [full] .fresh (.ofSeed 7) hbare
  rcases hrun : run [full, full] with ⟨f | ⟨answers, last⟩, s'⟩
  · rw [hrun] at hnames
    cases hnames
  · have hwithout : (answerAll .standard .standard ([full] ++ [full]) .fresh).runOn (.ofSeed 7) =
        (.ok (answers, last), s') := hrun
    rw [hwithout] at hsame
    rw [hrun] at hnames
    rw [hsame]
    exact ⟨hbare, hfull, hnames, congrArg Except.ok (Prod.mk.inj (Except.ok.inj hnames)).2, rfl⟩

end PredicateOracle.Generate
