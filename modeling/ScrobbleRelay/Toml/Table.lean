import ScrobbleRelay.Toml.Value

/-!
# The table that a document means

Assignments and headings add to a growing table.  A table remembers how it came about, since that
decides what may still be added to it: a table with a heading of its own, or written in braces, is
closed to paths of names from elsewhere; a table that stands only in the path of a heading may still
get its heading; a table that stands in the path of an assignment grows by such assignments only.
Nothing is ever given twice.
-/

namespace ScrobbleRelay.Toml

/-- How a table came about. -/
inductive Origin
  | heading
  | headingPath
  | assignmentPath
  deriving Repr, DecidableEq

/-- What a name stands for while a document is being read. -/
inductive Node where
  | value (v : Value)
  | table (origin : Origin) (entries : List (String × Node))
  | elements (tables : List (List (String × Node)))
  deriving Repr

abbrev Table := List (String × Node)

namespace Table

def get? (name : String) (t : Table) : Option Node :=
  (List.find? (fun entry => entry.1 == name) t).map (·.2)

/-- The table with another meaning for a name that it has. -/
def replace (name : String) (node : Node) (t : Table) : Table :=
  t.map fun entry => if entry.1 == name then (name, node) else entry

/-- The table with one more name, at its end. -/
def append (name : String) (node : Node) (t : Table) : Table := t ++ [(name, node)]

def without (name : String) (t : Table) : Table := t.filter fun entry => entry.1 != name

/-- Change the last of the tables of an array; an array without elements has none. -/
def changeLast (f : Table → Option Table) (tables : List Table) : Option (List Table) :=
  match tables.getLast? with
  | some last => (f last).map fun changed => tables.dropLast ++ [changed]
  | none => none

/-- Give a value to a name at the end of a path of names. -/
def assign (name : String) (value : Value) : List String → Table → Option Table
  | [], t =>
    match t.get? name with
    | none => some (t.append name (.value value))
    | some _ => none
  | part :: path, t =>
    match t.get? part with
    | none =>
      (assign name value path []).map fun inner => t.append part (.table .assignmentPath inner)
    | some (.table .heading _) => none
    | some (.table .headingPath inner) =>
      if path.isEmpty then none
      else (assign name value path inner).map fun inner =>
        t.replace part (.table .headingPath inner)
    | some (.table .assignmentPath inner) =>
      (assign name value path inner).map fun inner => t.replace part (.table .assignmentPath inner)
    | some (.elements tables) =>
      if path.isEmpty then none
      else (changeLast (assign name value path) tables).map fun tables =>
        t.replace part (.elements tables)
    | some (.value _) => none

/-- Make some assignments, in their order. -/
def assignAll (assignments : List Assignment) (t : Table) : Option Table :=
  assignments.foldlM (fun t a => t.assign a.name a.value a.path) t

/-- Change the table at the end of the path of a heading; tables that are missing on the way are
made. -/
def descend (f : Table → Option Table) : List String → Table → Option Table
  | [], t => f t
  | part :: path, t =>
    match t.get? part with
    | none => (descend f path []).map fun inner => t.append part (.table .headingPath inner)
    | some (.table origin inner) =>
      (descend f path inner).map fun inner => t.replace part (.table origin inner)
    | some (.elements tables) =>
      (changeLast (descend f path) tables).map fun tables => t.replace part (.elements tables)
    | some (.value _) => none

/-- Add a table under its heading.  A table that so far stood only in paths of headings keeps what
it has, and moves to the end. -/
def addTable (name : String) (assignments : List Assignment) (t : Table) : Option Table :=
  match t.get? name with
  | none => (assignAll assignments []).map fun inner => t.append name (.table .heading inner)
  | some (.table .headingPath inner) =>
    (assignAll assignments inner).map fun inner =>
      (t.without name).append name (.table .heading inner)
  | some _ => none

/-- Add one more element to an array of tables. -/
def addElement (name : String) (assignments : List Assignment) (t : Table) : Option Table :=
  match t.get? name with
  | none => (assignAll assignments []).map fun inner => t.append name (.elements [inner])
  | some (.elements tables) =>
    (assignAll assignments []).map fun inner => t.replace name (.elements (tables ++ [inner]))
  | some _ => none

def addSection (t : Table) (s : Section) : Option Table :=
  descend
    (if s.heading.isElement then addElement s.heading.name s.assignments
      else addTable s.heading.name s.assignments)
    s.heading.path t

end Table

mutual

def Node.meaning : Node → Value
  | .value v => v
  | .table _ entries => .table (Table.meaning entries)
  | .elements tables => .array (Table.meanings tables)

def Table.meaning : List (String × Node) → Entries
  | [] => []
  | (name, node) :: rest => (name, node.meaning) :: Table.meaning rest

/-- What the elements of an array of tables mean. -/
def Table.meanings : List (List (String × Node)) → List Value
  | [] => []
  | t :: rest => .table (Table.meaning t) :: Table.meanings rest

end

def Assignment.tableOf? (assignments : List Assignment) : Option Value :=
  (Table.assignAll assignments []).map fun t => .table (Table.meaning t)

/-- The table that a document means, if nothing in it is given twice. -/
def Document.entries? (d : Document) : Option Entries := do
  let t ← Table.assignAll d.assignments []
  let t ← d.sections.foldlM Table.addSection t
  return Table.meaning t

end ScrobbleRelay.Toml
