/-!
# Line breaks

A break is a line feed, a carriage return, or the two together.
-/

namespace Outline.Text

/-- One step, from the right, of dropping carriage returns before line feeds; with the characters
kept goes the one that followed. -/
def returnStep (c : Char) (after : List Char × Option Char) : List Char × Option Char :=
  (if c = '\r' && after.2 = some '\n' then after.1 else c :: after.1, some c)

/-- Drops the carriage return of each pair with a line feed. -/
def dropReturns (cs : List Char) : List Char :=
  (cs.foldr returnStep ([], none)).1

/-- Makes every line break a line feed: a carriage return, with the line feed after it if there is
one, becomes a line feed. -/
def unifyBreaks (cs : List Char) : List Char :=
  (dropReturns cs).map fun c => if c = '\r' then '\n' else c

end Outline.Text
