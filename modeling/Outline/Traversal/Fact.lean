import Outline.Context.Store
import Outline.Source.View
import Outline.Text.Blank
import Outline.Traversal.Role

/-!
# Facts of nodes

What one interpreted node says: the record it adds or the context it opens, and a notice when a part
of its declaration is missing. Parts are found among the children by kind, never by position. Every
text that a scan passes is read, so a span outside the source is an error even where a later child
decides.
-/

namespace Outline

/-- Stands for modifiers that are not there. -/
def defaultModifier : String := "default"

/-- Stands for a name that is not there. -/
def missingIdentifier : String := "none"

/-- What a node says about the source. -/
inductive Fact where
  | imported (text : String)
  | classOpened (modifier identifier : String)
  | functionOpened (modifiers identifier parameters returnType : String)
  | field (entry : FieldEntry String)
  | invocation (call : Invocation String)
  deriving DecidableEq

/-- The part that a declaration is missing. -/
inductive MissingPart where
  | identifier
  | variableDeclarator
  deriving DecidableEq

/-- The kind of node that is missing. -/
def MissingPart.kind : MissingPart → String
  | .identifier         => "identifier"
  | .variableDeclarator => "variable_declarator"

/-- A notice that a placeholder was used: the kind of the declaration, the missing part and the line
of the declaration, counted from one. -/
structure Notice where
  kind    : String
  missing : MissingPart
  line    : Int
  deriving DecidableEq

/-- A fact, and a notice if one is due. -/
structure Finding where
  fact   : Fact
  notice : Option Notice
  deriving DecidableEq

/-- A notice about a node, if it is due. Only then is the node's first point placed. -/
def Node.notice? (node : Node) (view : SourceView) (due : Bool) (missing : MissingPart) :
    Except SpanError (Option Notice) := do
  if due then return some ⟨node.kind, missing, (← view.place node.start).row + 1⟩
  else return none

/-! ### Classes -/

/-- The heading of a class. -/
structure ClassScan where
  modifier   : String := defaultModifier
  identifier : String := missingIdentifier

/-- Takes in a child of a class: the last of each kind counts. -/
def ClassScan.step (view : SourceView) (scan : ClassScan) (child : Node) :
    Except SpanError ClassScan := do
  if child.kind = "modifiers" then return { scan with modifier := ← child.text view }
  else if child.kind = "identifier" then return { scan with identifier := ← child.text view }
  else return scan

/-- What a class declaration says. -/
def classFinding (view : SourceView) (node : Node) : Except SpanError Finding := do
  let scan ← node.children.foldlM (ClassScan.step view) {}
  let notice ← node.notice? view (scan.identifier = missingIdentifier) .identifier
  return ⟨.classOpened scan.modifier scan.identifier, notice⟩

/-! ### Fields -/

/-- The parts of a field declaration. -/
structure FieldScan where
  modifier    : String := defaultModifier
  typeName    : String := ""
  identifiers : List String := []

/-- The name in a declarator: its first identifier, or all of it when there is none. -/
def declaratorName (view : SourceView) (declarator : Node) : Except SpanError String :=
  match declarator.children.find? (·.kind = "identifier") with
  | some child => child.text view
  | none       => declarator.text view

/-- Takes in a child of a field declaration: the last modifiers and the last type count, and every
declarator. -/
def FieldScan.step (view : SourceView) (scan : FieldScan) (child : Node) :
    Except SpanError FieldScan := do
  if child.kind = "modifiers" then return { scan with modifier := ← child.text view }
  else if typeKinds.contains child.kind then return { scan with typeName := ← child.text view }
  else if child.kind = "variable_declarator" then
    let name ← declaratorName view child
    return { scan with identifiers := scan.identifiers ++ [name] }
  else return scan

/-- The names of a field in one text, or the placeholder when that text would be empty. -/
def joinNames (names : List String) : String :=
  let joined := String.intercalate ", " names
  if joined = "" then missingIdentifier else joined

/-- What a field declaration says. -/
def fieldFinding (view : SourceView) (node : Node) : Except SpanError Finding := do
  let scan ← node.children.foldlM (FieldScan.step view) {}
  let notice ← node.notice? view scan.identifiers.isEmpty .variableDeclarator
  return ⟨.field ⟨scan.modifier, joinNames scan.identifiers, scan.typeName⟩, notice⟩

/-! ### Calls -/

/-- The parts of a call: the last dot so far, and the dot before the name. -/
structure CallScan where
  identifier : String := missingIdentifier
  arguments  : String := ""
  dot        : Option Node := none
  nameDot    : Option Node := none

/-- Scans the children of a call up to its arguments. The name is the last identifier. -/
def scanCall (view : SourceView) (scan : CallScan) : List Node → Except SpanError CallScan
  | []            => .ok scan
  | child :: rest =>
    if child.kind = "." then scanCall view { scan with dot := some child } rest
    else if child.kind = "identifier" then do
      let name ← child.text view
      scanCall view { scan with identifier := name, nameDot := scan.dot } rest
    else if child.kind = "argument_list" then do
      return { scan with arguments := ← child.text view }
    else scanCall view scan rest

/-- The receiver of a call: everything before the dot of the name, without blanks at its ends. -/
def receiver (view : SourceView) (node : Node) (nameDot : Option Node) : Except SpanError String :=
  match nameDot with
  | none     => .ok ""
  | some dot => do return Text.strip (← view.spanText node.start dot.start)

/-- What a call says. -/
def callFinding (view : SourceView) (node : Node) : Except SpanError Finding := do
  let scan ← scanCall view {} node.children
  let target ← receiver view node scan.nameDot
  let notice ← node.notice? view (scan.identifier = missingIdentifier) .identifier
  return ⟨.invocation ⟨target, scan.identifier, scan.arguments⟩, notice⟩

/-! ### Methods -/

/-- The heading of a method. -/
structure MethodScan where
  modifiers  : String := defaultModifier
  identifier : String := missingIdentifier
  parameters : String := ""
  returnType : String := ""

/-- Takes in a child of a method: the last modifiers, name and parameters count, and the first type
whose text is not empty. -/
def MethodScan.step (view : SourceView) (scan : MethodScan) (child : Node) :
    Except SpanError MethodScan := do
  if child.kind = "modifiers" then return { scan with modifiers := ← child.text view }
  else if child.kind = "identifier" then return { scan with identifier := ← child.text view }
  else if child.kind = "formal_parameters" then
    return { scan with parameters := ← child.text view }
  else if typeKinds.contains child.kind && scan.returnType = "" then
    return { scan with returnType := ← child.text view }
  else return scan

/-- What a method declaration says. -/
def methodFinding (view : SourceView) (node : Node) : Except SpanError Finding := do
  let scan ← node.children.foldlM (MethodScan.step view) {}
  let notice ← node.notice? view (scan.identifier = missingIdentifier) .identifier
  return ⟨.functionOpened scan.modifiers scan.identifier scan.parameters scan.returnType, notice⟩

/-! ### All nodes -/

/-- What an import declaration says. -/
def importFinding (view : SourceView) (node : Node) : Except SpanError Finding := do
  return ⟨.imported (← node.text view), none⟩

/-- What a node in a role says. -/
def Role.finding (role : Role) (view : SourceView) (node : Node) : Except SpanError Finding :=
  match role with
  | .importDeclaration => importFinding view node
  | .classDeclaration  => classFinding view node
  | .fieldDeclaration  => fieldFinding view node
  | .methodInvocation  => callFinding view node
  | .methodDeclaration => methodFinding view node

end Outline
