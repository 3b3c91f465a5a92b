import Outline.Double

/-!
# TOML documents

The values of the format, and a document that grows statement by statement. Tables may be extended
from several places, but only in the ways the format allows; marks on paths remember which ones are
closed.
-/

namespace Outline.Toml

/-- A value. A date or a time is kept as such, without its parts. -/
inductive Value where
  | str (value : String)
  | int (value : Int)
  | real (value : Double)
  | bool (value : Bool)
  | moment
  | array (items : List Value)
  | table (members : List (String × Value))
  deriving Inhabited

/-- Whether a value holds other values. -/
def Value.isCompound : Value → Bool
  | .array _ | .table _ => true
  | _                   => false

/-- The members of a table in order. -/
abbrev Table := List (String × Value)

/-- Names from the document down. -/
abbrev Path := List String

/-- The table with a member put in the place of the one before it or at the end. -/
def Table.put (name : String) (value : Value) : Table → Table
  | []             => [(name, value)]
  | member :: rest =>
    if member.1 = name then (name, value) :: rest else member :: put name value rest

/-- Changes the table at a path, making the tables on the way where there is nothing. The way may
lead through the last item of an array of tables if `throughArrays` says so. -/
def Table.change (throughArrays : Bool) (f : Table → Option Table) : Path → Table → Option Table
  | [], table           => f table
  | name :: rest, table =>
    match table.lookup name with
    | none                => (change throughArrays f rest []).map fun inner =>
        table.put name (.table inner)
    | some (.table inner) => (change throughArrays f rest inner).map fun inner =>
        table.put name (.table inner)
    | some (.array items) =>
      match throughArrays, items.getLast? with
      | true, some (.table inner) => (change throughArrays f rest inner).map fun inner =>
          table.put name (.array (items.dropLast ++ [.table inner]))
      | _, _ => none
    | some _ => none

/-- Adds a member that is not there yet. -/
def Table.add (name : String) (value : Value) (table : Table) : Option Table :=
  if (table.lookup name).isSome then none else some (table.put name value)

/-- Adds an empty table to an array of tables, which is made if it is not there. -/
def Table.grow (name : String) (table : Table) : Option Table :=
  match table.lookup name with
  | none                => some (table.put name (.array [.table []]))
  | some (.array items) => some (table.put name (.array (items ++ [.table []])))
  | some _              => none

/-! ### Marks -/

/-- What is remembered of a path: that a statement named its table, or that nothing at or below it
may change. -/
inductive Mark where
  | named
  | frozen
  deriving DecidableEq

/-- The marks of paths. -/
abbrev Marks := List (Path × Mark)

/-- Whether a table was named. The document itself never is. -/
def Marks.isNamed (marks : Marks) (path : Path) : Bool :=
  marks.contains (path, .named)

/-- Whether a path or one above it is frozen. -/
def Marks.isFrozen (marks : Marks) (path : Path) : Bool :=
  marks.any fun mark => mark.2 = .frozen && mark.1.isPrefixOf path

/-- Forgets the marks at and below a path. -/
def Marks.forget (marks : Marks) (path : Path) : Marks :=
  marks.filter fun mark => !path.isPrefixOf mark.1

/-! ### Statements -/

/-- A document so far: its table, its marks, the tables that dotted names made since the last
heading, and the path of that heading. -/
structure Document where
  table   : Table := []
  marks   : Marks := []
  pending : List Path := []
  header  : Path := []

namespace Document

/-- Closes the tables that dotted names made. -/
def settle (doc : Document) : Document :=
  { doc with marks := doc.marks ++ doc.pending.map (·, .named), pending := [] }

/-- A heading of a table. -/
def openTable (doc : Document) (path : Path) : Option Document := do
  let doc := doc.settle
  if doc.marks.isNamed path || doc.marks.isFrozen path then none
  else
    let table ← doc.table.change true some path
    return { doc with table, marks := doc.marks ++ [(path, .named)], header := path }

/-- A heading of an item in an array of tables. -/
def openItem (doc : Document) (path : Path) : Option Document := do
  let doc := doc.settle
  let name ← path.getLast?
  if doc.marks.isFrozen path then none
  else
    let table ← doc.table.change true (Table.grow name) path.dropLast
    return { doc with table, marks := doc.marks.forget path ++ [(path, .named)], header := path }

/-- The paths of the tables that a dotted name goes through, from the heading down. -/
def waypoints (header path : Path) : List Path :=
  (List.range (path.length - 1)).map fun n => header ++ path.take (n + 1)

/-- A name and its value. -/
def assign (doc : Document) (path : Path) (value : Value) : Option Document := do
  let name ← path.getLast?
  let parent := doc.header ++ path.dropLast
  let ways := waypoints doc.header path
  if ways.any doc.marks.isNamed || doc.marks.isFrozen parent then none
  else
    let table ← doc.table.change true (Table.add name value) parent
    let frozen := if value.isCompound then [(doc.header ++ path, Mark.frozen)] else []
    return { doc with table, marks := doc.marks ++ frozen, pending := doc.pending ++ ways }

end Document

end Outline.Toml
