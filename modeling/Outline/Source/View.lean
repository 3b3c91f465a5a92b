import Outline.Source.Column
import Outline.Tree.Node

/-!
# Views of a source

A tree over a source has points of its own kind: those of the lines themselves, or those of a
grammar that counts bytes. A view is the lines together with the place of each such point in them,
which is looked at only when a point is used.
-/

namespace Outline

/-- Lines, and where in them the points of a tree lie. -/
structure SourceView where
  lines : Lines
  place : Point → Except SpanError Point

namespace SourceView

/-- The view of lines by points that are their own. -/
def ofLines (lines : Lines) : SourceView :=
  ⟨lines, .ok⟩

/-- The view of a text by points in bytes. -/
def ofText (text : String) : SourceView :=
  ⟨splitLines text, charPoint (byteRows text)⟩

/-- The text from one point to another. Both are placed before either is looked up. -/
def spanText (view : SourceView) (start stop : Point) : Except SpanError String := do
  let first ← view.place start
  let last ← view.place stop
  view.lines.spanText first last

end SourceView

/-- The source text a node covers. -/
def Node.text (node : Node) (view : SourceView) : Except SpanError String :=
  view.spanText node.start node.stop

end Outline
