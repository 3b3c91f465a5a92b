import Outline.Traversal.Fact

/-!
# Log records

What the program tells about its work, and the line that shows a record.
-/

namespace Outline

/-- A record of the log. -/
inductive LogRecord where
  | placeholder (notice : Notice)
  | treeBuilt (path language : String) (lines contexts : Nat)
  | rendering (path language output : String)
  deriving DecidableEq

/-- A value in a record. -/
inductive LogValue where
  | text (value : String)
  | number (value : Int)

namespace LogRecord

/-- What happened. -/
def event : LogRecord → String
  | .placeholder _ => "Declaration is missing a child node; using placeholder"
  | .treeBuilt ..  => "Built context tree"
  | .rendering ..  => "Rendering report"

/-- The values of a record, sorted by name. -/
def values : LogRecord → List (String × LogValue)
  | .placeholder notice =>
    [("line", .number notice.line), ("missing", .text notice.missing.kind),
      ("node_type", .text notice.kind)]
  | .treeBuilt path language lines contexts =>
    [("contexts", .number contexts), ("language", .text language), ("lines", .number lines),
      ("path", .text path)]
  | .rendering path language output =>
    [("language", .text language), ("output", .text output), ("path", .text path)]

end LogRecord

/-- A value on a line: a text that could be mistaken for something else is quoted. -/
def LogValue.render : LogValue → String
  | .number n => toString n
  | .text s   =>
    let confusing (c : Char) : Bool :=
      c = ' ' || c = '\t' || c = '\r' || c = '\n' || c = '=' || c = '"' || c = '\''
    if s.toList.any confusing then Text.quoted s else s

/-- A text with spaces after it up to a width. -/
def padRight (width : Nat) (s : String) : String :=
  s ++ String.ofList (List.replicate (width - s.length) ' ')

/-- The line of a record after a time stamp. -/
def LogRecord.line (stamp : String) (record : LogRecord) : String :=
  let values := record.values.map fun (name, value) => s!" {name}={value.render}"
  s!"{stamp} [debug    ] {padRight 30 record.event}{String.join values}\n"

end Outline
