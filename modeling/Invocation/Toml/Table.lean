/-
# TOML tables

What a TOML text says: a table of named nodes. A table remembers how it came
about, because that decides what may still be added to it. A table written in
braces is finished. A header finishes a table except for what the lines below it
add, unless an earlier header had only passed through it. A dotted key adds to
tables that dotted keys made, and passes through tables that no header has
defined yet.

Key definitions: `Toml.Node`, `Toml.Entries.set`, `Toml.Entries.within`,
`Toml.Entries.define`.
-/
namespace Invocation
namespace Toml

/-- How a table came about. -/
inductive Origin where
  /-- Defined by a header of its own. -/
  | header
  /-- Passed through by a header. -/
  | implied
  /-- Made by a dotted key. -/
  | dotted
  /-- Written in braces. -/
  | inline
deriving DecidableEq

/-- A value of a TOML text. Of floats and dates only the kind is kept. -/
inductive Node where
  | string (text : String)
  | integer (n : Int)
  | boolean (b : Bool)
  | float
  | dateTime
  | list (items : List Node)
  | table (origin : Origin) (entries : List (String × Node))
  /-- An array of tables made by headers; it is never empty, and lines go to its last table. Those
  before it come the latest first. -/
  | tables (earlier : List (List (String × Node))) (last : List (String × Node))
deriving Inhabited

/-- Named nodes, in the order in which the names first appeared. -/
abbrev Entries : Type := List (String × Node)

namespace Entries

/-- Changes what stands at a name: `change` is given the node there, if there is one, and
may refuse. -/
def update (name : String) (change : Option Node → Option Node) : Entries → Option Entries
  | [] => (change none).map fun n => [(name, n)]
  | (k, n) :: es =>
    if k = name then (change (some n)).map fun n' => (k, n') :: es
    else (update name change es).map ((k, n) :: ·)

/-- Adds a node under a name that is not taken. -/
def add (name : String) (node : Node) : Entries → Option Entries :=
  update name fun
    | none => some node
    | some _ => none

/-- Sets a value at a dotted key, whose parts but the last are `path`. -/
def set (key : String) (value : Node) : List String → Entries → Option Entries
  | [], es => es.add key value
  | p :: ps, es =>
    es.update p fun
      | none => (set key value ps []).map (.table .dotted)
      | some (.table .dotted es') => (set key value ps es').map (.table .dotted)
      | some (.table .implied es') =>
        if ps.isEmpty then none else (set key value ps es').map (.table .implied)
      | some (.tables earlier last) =>
        if ps.isEmpty then none else (set key value ps last).map (.tables earlier)
      | some _ => none

/-- Changes the table that a header path leads to, making the tables on the way that are
not there. -/
def within (change : Entries → Option Entries) : List String → Entries → Option Entries
  | [], es => change es
  | p :: ps, es =>
    es.update p fun
      | none => (within change ps []).map (.table .implied)
      | some (.table .inline _) => none
      | some (.table origin es') => (within change ps es').map (.table origin)
      | some (.tables earlier last) => (within change ps last).map (.tables earlier)
      | some _ => none

/-- Begins the table of a header, which may have been passed through but not defined. -/
def define (name : String) : Entries → Option Entries :=
  update name fun
    | none => some (.table .header [])
    | some (.table .implied es) => some (.table .header es)
    | some _ => none

/-- Begins a further table in an array of tables. -/
def defineNext (name : String) : Entries → Option Entries :=
  update name fun
    | none => some (.tables [] [])
    | some (.tables earlier last) => some (.tables (last :: earlier) [])
    | some _ => none

end Entries

/-! ### Lines -/

/-- A key: its parts but the last, and the last. -/
structure Key where
  path : List String
  name : String

/-- What a line of a TOML text does. -/
inductive Line where
  | blank
  | assign (key : Key) (value : Node)
  | header (key : Key)
  | nextHeader (key : Key)

/-- The table that lines make, where `current` is the path of the last header. -/
def assemble : List Line → (current : List String) → Entries → Option Entries
  | [], _, root => some root
  | .blank :: lines, current, root => assemble lines current root
  | .assign key value :: lines, current, root =>
    (root.within (Entries.set key.name value key.path) current).bind (assemble lines current)
  | .header key :: lines, _, root =>
    (root.within (Entries.define key.name) key.path).bind
      (assemble lines (key.path ++ [key.name]))
  | .nextHeader key :: lines, _, root =>
    (root.within (Entries.defineNext key.name) key.path).bind
      (assemble lines (key.path ++ [key.name]))

end Toml
end Invocation
