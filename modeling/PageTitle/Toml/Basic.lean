import PageTitle.Text.Basic

/-!
# TOML documents

A document is a table of members. Tables come about in several ways, and how one came about decides
what may still be added to it: `descend` changes the table that a path of keys leads to, and a
header, an assignment and an array of tables are each one use of it.
-/

namespace PageTitle.Toml

/-- How a table that can still grow came about: by a header of its own, as a part of a longer
header, or as a part of a dotted key. -/
inductive Origin where
  | header | implied | dotted
  deriving DecidableEq, Repr

/-- A value. Of numbers, dates and times only their presence is kept. An array of tables holds one
table at least, and the last one can grow. -/
inductive Node where
  | text (t : Text)
  | bool (b : Bool)
  | scalar
  | array (items : List Node)
  | inline (members : List (Text × Node))
  | table (origin : Origin) (members : List (Text × Node))
  | tables (closed : List (List (Text × Node))) (last : List (Text × Node))
  deriving Repr

/-- The members of a table in the order in which they were added. -/
abbrev Members := List (Text × Node)

namespace Members

def has (m : Members) (k : Text) : Bool := (m.lookup k).isSome

/-- The members with the value of one that is there replaced. -/
def replace (m : Members) (k : Text) (v : Node) : Members :=
  m.map fun (k', v') => (k', if k' = k then v else v')

/-- Changes by `f` the table that a path leads to, where missing tables come about on the way. A
dotted key cannot enter a table that has a header. `f` is told whether the table is one that came
about by a dotted key. -/
def descend (isDotted : Bool) (f : Bool → Members → Option Members) :
    Bool → List Text → Members → Option Members
  | here, [], m => f here m
  | _, k :: ks, m =>
    match m.lookup k with
    | none => (descend isDotted f isDotted ks []).map fun t =>
        m ++ [(k, .table (if isDotted then .dotted else .implied) t)]
    | some (.table origin t) =>
      if isDotted && origin = .header then none
      else (descend isDotted f (origin = .dotted) ks t).map fun t' => m.replace k (.table origin t')
    | some (.tables closed last) =>
      (descend isDotted f false ks last).map fun t' => m.replace k (.tables closed t')
    | some _ => none

/-- Adds a member under a dotted key. A key of one part cannot add to a table that came about by a
dotted key, and no key can replace a member. -/
def assign (path : List Text) (k : Text) (v : Node) (m : Members) : Option Members :=
  m.descend true (fun here m =>
    if here = path.isEmpty || m.has k then none else some (m ++ [(k, v)])) false path

/-- Adds a table for a header. Only a table that is part of longer headers may be there already. -/
def openTable (path : List Text) (k : Text) (m : Members) : Option Members :=
  m.descend false (fun _ m =>
    match m.lookup k with
    | none => some (m ++ [(k, .table .header [])])
    | some (.table .implied t) => some (m.replace k (.table .header t))
    | some _ => none) false path

/-- Adds an empty table to an array of tables. -/
def pushTable (path : List Text) (k : Text) (m : Members) : Option Members :=
  m.descend false (fun _ m =>
    match m.lookup k with
    | none => some (m ++ [(k, .tables [] [])])
    | some (.tables closed last) => some (m.replace k (.tables (closed ++ [last]) []))
    | some _ => none) false path

end Members

/-- A key in its parts: those that lead to a table, and the name of a member. -/
structure Key where
  path : List Text
  name : Text
  deriving DecidableEq, Repr

/-- What a line says. -/
inductive Statement where
  | assign (k : Key) (v : Node)
  | openTable (k : Key)
  | pushTable (k : Key)
  deriving Repr

/-- A document that is being built, and the path of the table that assignments add to. -/
structure Draft where
  members : Members := []
  current : List Text := []

namespace Draft

/-- The document after one more statement. -/
def add (d : Draft) : Statement → Option Draft
  | .assign k v =>
    (d.members.descend false (fun _ m => m.assign k.path k.name v) false d.current).map
      fun m => { d with members := m }
  | .openTable k => (d.members.openTable k.path k.name).map fun m => ⟨m, k.path ++ [k.name]⟩
  | .pushTable k => (d.members.pushTable k.path k.name).map fun m => ⟨m, k.path ++ [k.name]⟩

end Draft

/-- The document that statements make up. -/
def Members.ofStatements? (l : List Statement) : Option Members :=
  (l.foldlM Draft.add {}).map (·.members)

/-- The members of an inline table. -/
def Members.ofAssignments? (l : List (Key × Node)) : Option Members :=
  l.foldlM (fun m (k, v) => m.assign k.path k.name v) []

end PageTitle.Toml
