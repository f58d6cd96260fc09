import PredicateOracle.Json.Basic
import PredicateOracle.Setting.Entries

/-!
# PredicateOracle.Setting.Basic -- settings as trees

What configuration files, requests and the environment say is a tree: scalars, lists, and tables
with a value for each key. A tree can be laid over another one (`Setting.overlay`): tables are merged
key by key, and everything else is replaced as a whole.
-/

namespace PredicateOracle

/-- A value of a configuration. -/
inductive Setting where
  /-- Nothing, said in so many words. -/
  | null
  | bool (value : Bool)
  | int (value : Int)
  | float (value : Float)
  | text (value : String)
  /-- A date or a time of day, as it is written. -/
  | date (value : String)
  | list (items : List Setting)
  | table (entries : List (String × Setting))
  deriving Inhabited

namespace Setting

/-! ## Equality -/

mutual

/-- Whether two values are the same. -/
def same : Setting → Setting → Bool
  | .null, .null => true
  | .bool a, .bool b => a = b
  | .int a, .int b => a = b
  | .float a, .float b => a = b
  | .text a, .text b => a = b
  | .date a, .date b => a = b
  | .list as, .list bs => sameItems as bs
  | .table es, .table fs => sameEntries es fs
  | _, _ => false

/-- Whether two lists of values are the same. -/
def sameItems : List Setting → List Setting → Bool
  | [], [] => true
  | a :: as, b :: bs => same a b && sameItems as bs
  | _, _ => false

/-- Whether two lists of entries are the same. -/
def sameEntries : Entries Setting → Entries Setting → Bool
  | [], [] => true
  | (k, a) :: es, (l, b) :: fs => k = l && same a b && sameEntries es fs
  | _, _ => false

end

mutual

/-- Values are the same if they are equal, so equality can be decided. -/
theorem same_iff (a b : Setting) : a.same b = true ↔ a = b := by
  match a with
  | .list as => cases b <;> simp [same, sameItems_iff as]
  | .table es => cases b <;> simp [same, sameEntries_iff es]
  | .null | .bool _ | .int _ | .float _ | .text _ | .date _ => cases b <;> simp [same]

theorem sameItems_iff (as bs : List Setting) : sameItems as bs = true ↔ as = bs := by
  match as with
  | [] => cases bs <;> simp [sameItems]
  | a :: as => cases bs <;> simp [sameItems, same_iff a, sameItems_iff as]

theorem sameEntries_iff (es fs : Entries Setting) : sameEntries es fs = true ↔ es = fs := by
  match es with
  | [] => cases fs <;> simp [sameEntries]
  | (k, a) :: es =>
    rcases fs with _ | ⟨⟨l, b⟩, fs⟩ <;> simp [sameEntries, same_iff a, sameEntries_iff es]

end

instance : DecidableEq Setting := fun a b => decidable_of_iff _ (same_iff a b)

/-! ## Tables -/

/-- The entries of a table; nothing else has any. -/
def entries : Setting → Entries Setting
  | .table es => es
  | _ => []

/-- The value under a key; `null` if there is none. -/
def valueAt (key : String) (es : Entries Setting) : Setting := (Entries.find? key es).getD .null

/-! ## Layers -/

mutual

/-- A value laid over another one. -/
def overlay (old : Setting) : Setting → Setting
  | .table es => .table (overlayEntries old.entries es)
  | new => new

/-- The entries of a table laid over those of another one. -/
def overlayEntries (old : Entries Setting) :
    Entries Setting → Entries Setting
  | [] => old
  | (key, new) :: rest => overlayEntries (Entries.put key (overlay (valueAt key old) new) old) rest

end

/-- A value put under a path of keys. Whatever stands in the way is taken for an empty table. -/
def assign (value : Setting) : List String → Setting → Setting
  | [], old => old.overlay value
  | key :: rest, old =>
    .table (Entries.put key (assign value rest (valueAt key old.entries)) old.entries)

/-! ## JSON -/

mutual

/-- The JSON value of a setting. -/
def json : Setting → Json
  | .null => .null
  | .bool b => .bool b
  | .int n => .int n
  | .float x => .float x
  | .text s => .text s
  | .date s => .text s
  | .list vs => .list (jsonItems vs)
  | .table es => .object (jsonFields es)

/-- The JSON values of settings. -/
def jsonItems : List Setting → List Json
  | [] => []
  | v :: rest => v.json :: jsonItems rest

/-- The JSON fields of entries. -/
def jsonFields : Entries Setting → List (String × Json)
  | [] => []
  | (key, v) :: rest => (key, v.json) :: jsonFields rest

end

mutual

/-- The setting that a JSON value is. A field that occurs twice counts as it stands the last time. -/
def ofJson : Json → Setting
  | .null => .null
  | .bool b => .bool b
  | .int n => .int n
  | .float x => .float x
  | .text s => .text s
  | .list vs => .list (ofJsonItems vs)
  | .object fs => .table (ofJsonFields [] fs)

/-- The settings that JSON values are. -/
def ofJsonItems : List Json → List Setting
  | [] => []
  | v :: rest => ofJson v :: ofJsonItems rest

/-- The entries that JSON fields are, behind those already read. -/
def ofJsonFields (read : Entries Setting) :
    List (String × Json) → Entries Setting
  | [] => read
  | (key, v) :: rest => ofJsonFields (Entries.put key (ofJson v) read) rest

end

end Setting
end PredicateOracle
