import StatementLexer.Toml.Value

/-! # Putting a document together

Headers and dotted keys open tables, and each table may be opened in one way only. What a header names
on its way is there by implication, and may still get a header of its own; what a dotted key opens is
closed to headers; what a value holds is closed to both.
-/

namespace StatementLexer.Toml

/-- How a table came to be. -/
inductive Origin where
  /-- Named on the way by a longer header. -/
  | implied
  /-- Opened by a dotted key. -/
  | dotted
  /-- Opened by a header of its own, or the whole document. -/
  | declared
  deriving DecidableEq, Repr

inductive Node where
  | value (v : Value)
  | table (origin : Origin) (members : List (String × Node))
  | tables (elements : List (List (String × Node)))

abbrev Members := List (String × Node)

namespace Members

def get? (ms : Members) (key : String) : Option Node :=
  (ms.find? (·.1 = key)).map (·.2)

def set (key : String) (node : Node) : Members → Members
  | [] => [(key, node)]
  | (k, n) :: rest => if k = key then (k, node) :: rest else (k, n) :: set key node rest

/-- Changes the table under a path by `change`, opening what is missing on the way: as dotted tables if
`origin` says so, else as implied ones. The last element stands for an array of tables. A dotted key
does not enter a declared table. -/
def alter (origin : Origin) (change : Origin → Members → Option Members) :
    List String → Origin → Members → Option Members
  | [], own, ms => change own ms
  | key :: path, _, ms =>
      match get? ms key with
      | none => (alter origin change path origin []).map fun inner => ms.set key (.table origin inner)
      | some (.value _) => none
      | some (.table own inner) =>
          if origin = .dotted ∧ own = .declared then none
          else (alter origin change path own inner).map fun inner => ms.set key (.table own inner)
      | some (.tables elements) =>
          match elements.getLast? with
          | none => none
          | some inner =>
              (alter origin change path .declared inner).map fun inner =>
                ms.set key (.tables (elements.dropLast ++ [inner]))

/-- Adds a value under a dotted key. The table it goes to was opened by such keys too, unless it is
the table at hand. -/
def insert (path : List String) (key : String) (v : Value) (ms : Members) : Option Members :=
  let change (own : Origin) (inner : Members) : Option Members :=
    if path ≠ [] ∧ own ≠ .dotted then none
    else
      match get? inner key with
      | some _ => none
      | none => some (inner.set key (.value v))
  alter .dotted change path .declared ms

def declare (path : List String) (key : String) (ms : Members) : Option Members :=
  let change (_ : Origin) (inner : Members) : Option Members :=
    match get? inner key with
    | none => some (inner.set key (.table .declared []))
    | some (.table .implied own) => some (inner.set key (.table .declared own))
    | some _ => none
  alter .implied change path .declared ms

def append (path : List String) (key : String) (ms : Members) : Option Members :=
  let change (_ : Origin) (inner : Members) : Option Members :=
    match get? inner key with
    | none => some (inner.set key (.tables [[]]))
    | some (.tables elements) => some (inner.set key (.tables (elements ++ [[]])))
    | some _ => none
  alter .implied change path .declared ms

def insertBelow (header : List String) (path : List String) (key : String) (v : Value)
    (ms : Members) : Option Members :=
  alter .implied (fun _ inner => inner.insert path key v) header .declared ms

end Members

mutual

def Node.finish : Node → Value
  | .value v => v
  | .table _ members => .table (finishMembers members)
  | .tables elements => .array (finishElements elements)

def finishMembers : List (String × Node) → List (String × Value)
  | [] => []
  | (k, n) :: rest => (k, n.finish) :: finishMembers rest

def finishElements : List (List (String × Node)) → List Value
  | [] => []
  | ms :: rest => .table (finishMembers ms) :: finishElements rest

end

/-- A line of a document; a key that is not simple has its last part by itself. -/
inductive Statement where
  | header (path : List String) (key : String)
  | element (path : List String) (key : String)
  | pair (path : List String) (key : String) (value : Value)

/-- The table that the lines so far are below, and everything they hold. -/
structure Draft where
  header : List String
  members : Members

namespace Draft

def empty : Draft := ⟨[], []⟩

def add (d : Draft) : Statement → Option Draft
  | .header path key => (d.members.declare path key).map (⟨path ++ [key], ·⟩)
  | .element path key => (d.members.append path key).map (⟨path ++ [key], ·⟩)
  | .pair path key value => (d.members.insertBelow d.header path key value).map (⟨d.header, ·⟩)

end Draft

def assemble (statements : List Statement) : Option (List (String × Value)) :=
  (statements.foldlM Draft.add Draft.empty).map fun d => finishMembers d.members

def inlineTable (pairs : List (List String × String × Value)) : Option Value :=
  (pairs.foldlM (fun (ms : Members) (path, key, v) => ms.insert path key v) []).map fun ms =>
    .table (finishMembers ms)

end StatementLexer.Toml
