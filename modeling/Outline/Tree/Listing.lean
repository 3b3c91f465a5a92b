import Outline.Source.View
import Outline.Text.Digits

/-!
# Listings of parse trees

A listing shows a tree one node a line in document order, each level two spaces deeper. The rows of
a listing, nodes with their depths, determine the tree.
-/

namespace Outline

/-- A line of a listing: a node's depth, kind and points. -/
structure ListingRow where
  depth : Nat
  kind  : String
  start : Point
  stop  : Point
  deriving DecidableEq

namespace Node

/-- The rows of a tree and of the trees pending after it, in document order. -/
def rowsFrom (pending : List (Nat × Node)) (done : Array ListingRow) : Array ListingRow :=
  match pending with
  | []                    => done
  | (depth, node) :: rest =>
    rowsFrom (tagged (depth + 1) node.children ++ rest)
      (done.push ⟨depth, node.kind, node.start, node.stop⟩)
termination_by size.sizeList (pending.map (·.2))
decreasing_by
  simp only [List.map_append, List.map_cons, map_snd_tagged, sizeList_append, size.sizeList,
    size_eq]
  omega

/-- The rows of a tree in document order. -/
def rows (node : Node) : List ListingRow :=
  (rowsFrom [(0, node)] #[]).toList

end Node

/-- A point between brackets. -/
def Point.bracketed (point : Point) : String :=
  s!"[{point.row}, {point.column}]"

/-- The line of a row, after an indentation of the whole listing. -/
def ListingRow.line (indent : String) (row : ListingRow) : String :=
  let deeper := String.ofList (List.replicate (2 * row.depth) ' ')
  s!"{indent}{deeper}{row.kind} {row.start.bracketed} - {row.stop.bracketed}\n"

/-- The listing of rows. -/
def listRows (indent : String) (rows : List ListingRow) : String :=
  String.join (rows.map (ListingRow.line indent))

/-- The listing of a tree by its own points. -/
def Node.listing (node : Node) (indent : String) : String :=
  listRows indent node.rows

/-- A row with its points where they lie in a source. -/
def ListingRow.placed (row : ListingRow) (view : SourceView) : Except SpanError ListingRow := do
  return { row with start := ← view.place row.start, stop := ← view.place row.stop }

/-- The listing of a tree by the places of its points in a source. -/
def Node.listingIn (node : Node) (view : SourceView) (indent : String) :
    Except SpanError String := do
  return listRows indent (← node.rows.mapM (·.placed view))

/-! ### Back from rows to trees -/

/-- Puts a row before trees with their depths: the trees deeper than the row are its children. -/
def ListingRow.adopt (row : ListingRow) (trees : List (Nat × Node)) : List (Nat × Node) :=
  let deeper := trees.takeWhile (row.depth < ·.1)
  let rest := trees.dropWhile (row.depth < ·.1)
  (row.depth, ⟨row.kind, row.start, row.stop, deeper.map (·.2)⟩) :: rest

/-- The trees that rows in document order stand for. -/
def Node.ofRows (rows : List ListingRow) : List Node :=
  (rows.foldr ListingRow.adopt []).map (·.2)

/-- Splits at the last place where a mark stands. -/
def splitLast (mark : List Char) : List Char → Option (List Char × List Char)
  | []      => none
  | c :: cs =>
    match splitLast mark cs with
    | some (before, after) => some (c :: before, after)
    | none                 =>
      if mark.isPrefixOf (c :: cs) then some ([], (c :: cs).drop mark.length) else none

/-- Reads a point after its opening bracket. -/
def Point.ofBracketed? (cs : List Char) : Option Point := do
  let (row, rest) ← splitLast [',', ' '] cs
  let (column, rest) ← splitLast [']'] rest
  if rest.isEmpty then
    return ⟨← Text.intValue? row, ← Text.intValue? column⟩
  else none

/-- Reads a line of a listing, without its line feed. -/
def ListingRow.ofLine? (line : List Char) : Option ListingRow := do
  let text := line.dropWhile (· = ' ')
  let (before, stop) ← splitLast " - [".toList text
  let (kind, start) ← splitLast " [".toList before
  return {
    depth := (line.length - text.length) / 2
    kind  := String.ofList kind
    start := ← Point.ofBracketed? start
    stop  := ← Point.ofBracketed? stop }

/-- The tree of a listing, if every line of it can be read and there is one tree. -/
def Node.ofListing? (listing : String) : Option Node := do
  let lines := (cutAt '\n' listing.toList).filter (!·.isEmpty)
  let rows ← lines.mapM ListingRow.ofLine?
  match Node.ofRows rows with
  | [node] => return node
  | _      => none

end Outline
