import PredicateOracle.Setting.Basic

/-!
# PredicateOracle.Toml.Node -- a document while it is read

A TOML document defines each key once, but the parts of a table may stand far from each other. While
a document is read, every table remembers what brought it about, since that decides what may still be
added: a header opens a table once, dotted keys only add to tables that dotted keys began, and an
array of tables grows by headers of its own. A finished document is an ordinary table
(`Node.setting`).
-/

namespace PredicateOracle.Toml

/-- What brought a table about. -/
inductive Origin where
  /-- A header of a table below it. -/
  | implied
  /-- A dotted key. -/
  | dotted
  /-- A header of its own. -/
  | headed
  deriving DecidableEq, Repr

/-- What a key stands for while a document is read. -/
inductive Node where
  /-- A value that is complete. -/
  | value (value : Setting)
  | table (origin : Origin) (entries : List (String × Node))
  /-- An array of tables, each with its entries. -/
  | tables (items : List (List (String × Node)))

namespace Node

/-! ## Adding -/

/-- Changes the entries of the table under a path. Missing tables are made on the way; of an array of
tables the last one is meant. -/
def update? (f : Entries Node → Option (Entries Node)) :
    List String → Entries Node → Option (Entries Node)
  | [], es => f es
  | key :: rest, es =>
    match Entries.find? key es with
    | none => (update? f rest []).map fun sub => Entries.put key (.table .implied sub) es
    | some (.table origin sub) =>
      (update? f rest sub).map fun sub => Entries.put key (.table origin sub) es
    | some (.tables items) =>
      match items.getLast? with
      | none => none
      | some last =>
        (update? f rest last).map fun last =>
          Entries.put key (.tables (items.dropLast ++ [last])) es
    | some (.value _) => none

/-- Opens a table for the first time. -/
def openTable? (key : String) (es : Entries Node) : Option (Entries Node) :=
  match Entries.find? key es with
  | none => some (Entries.put key (.table .headed []) es)
  | some (.table .implied sub) => some (Entries.put key (.table .headed sub) es)
  | some _ => none

/-- Opens another table of an array. -/
def openItem? (key : String) (es : Entries Node) : Option (Entries Node) :=
  match Entries.find? key es with
  | none => some (Entries.put key (.tables [[]]) es)
  | some (.tables items) => some (Entries.put key (.tables (items ++ [[]])) es)
  | some _ => none

/-- Gives a dotted key its value. -/
def define? (value : Setting) : List String → Entries Node → Option (Entries Node)
  | [], _ => none
  | [key], es =>
    match Entries.find? key es with
    | none => some (Entries.put key (.value value) es)
    | some _ => none
  | key :: rest, es =>
    match Entries.find? key es with
    | none => (define? value rest []).map fun sub => Entries.put key (.table .dotted sub) es
    | some (.table .dotted sub) =>
      (define? value rest sub).map fun sub => Entries.put key (.table .dotted sub) es
    | some (.table .implied sub) =>
      if rest.length = 1 then none
      else (define? value rest sub).map fun sub => Entries.put key (.table .implied sub) es
    | some _ => none

/-! ## Finished documents -/

mutual

/-- The setting that a finished node is. -/
def setting : Node → Setting
  | .value v => v
  | .table _ es => .table (settings es)
  | .tables items => .list (tableSettings items)

/-- The settings that finished entries are. -/
def settings : List (String × Node) → List (String × Setting)
  | [] => []
  | (key, node) :: rest => (key, node.setting) :: settings rest

/-- The tables that finished items are. -/
def tableSettings : List (List (String × Node)) → List Setting
  | [] => []
  | es :: rest => .table (settings es) :: tableSettings rest

end

end Node
end PredicateOracle.Toml
