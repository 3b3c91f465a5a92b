import Outline.Files.Name
import Outline.Text.Breaks
import Outline.Text.Encoding

/-!
# File trees

The files and directories a run can see, looked up by path, and reading a file as text.
-/

namespace Outline.Files

/-- What a path leads to. -/
inductive Lookup where
  | missing
  | tooLong
  | notDirectory
  | directory
  | file (bytes : List UInt8)
  deriving DecidableEq

/-- A file with its bytes, or a directory. -/
structure Entry where
  path  : List String
  bytes : Option (List UInt8)

/-- The entries below a working directory. The directories on the way to an entry are there too. -/
abbrev Tree := List Entry

/-- What the names from the working directory lead to, all of them names. Of two entries at one path
the last counts. -/
def Tree.at (tree : Tree) (path : List String) : Lookup :=
  match tree.reverse.find? (·.path = path) with
  | some ⟨_, some bytes⟩ => .file bytes
  | some ⟨_, none⟩       => .directory
  | none                 => if tree.any (path.isPrefixOf ·.path) then .directory else .missing

/-- Where a walk along a path stands: on names from the working directory, or outside of it. -/
inductive Standing where
  | inside (path : List String)
  | outside

/-- Where a step from inside leads. A step back from the working directory leads outside. -/
def stepFrom (path : List String) (name : String) : Standing :=
  if name = ".." then
    if path.isEmpty then .outside else .inside path.dropLast
  else .inside (path ++ [name])

/-- What stands where a walk has come to. -/
def Tree.here (tree : Tree) : Standing → Lookup
  | .inside []   => .directory
  | .inside path => tree.at path
  | .outside     => .directory

/-- The greatest number of bytes in a name. -/
def mostNameBytes : Nat := 255

/-- The greatest number of bytes in a path. -/
def mostPathBytes : Nat := 4095

/-- Follows the steps of a path. Only from a directory does a step lead on, and outside of the
working directory no name leads anywhere. -/
def Tree.follow (tree : Tree) (standing : Standing) : List String → Lookup
  | []           => tree.here standing
  | name :: rest =>
    match tree.here standing, standing with
    | .directory, .inside path =>
      if mostNameBytes < name.utf8ByteSize then .tooLong
      else tree.follow (stepFrom path name) rest
    | .directory, .outside     =>
      if mostNameBytes < name.utf8ByteSize then .tooLong
      else if name = ".." then tree.follow .outside rest
      else .missing
    | .file _, _               => .notDirectory
    | found, _                 => found

/-- Looks a path up. A slash at its end asks for a directory; an empty path leads nowhere. -/
def Tree.lookup (tree : Tree) (path : String) : Lookup :=
  if path = "" then .missing
  else if mostPathBytes < path.utf8ByteSize then .tooLong
  else
    let start := if rootOf path = "" then Standing.inside [] else .outside
    match tree.follow start (steps path) with
    | .file bytes =>
      if (pieces path).getLast? = some "" || (pieces path).getLast? = some "." then .notDirectory
      else .file bytes
    | found => found

/-- The names in the directory at a path, in the order of the entries. -/
def Tree.names (tree : Tree) (path : String) : List String :=
  (tree.flatMap (·.path)).eraseDups.filter fun name =>
    tree.lookup (path ++ "/" ++ name) ≠ .missing

/-- Why a file cannot be read as text. -/
inductive ReadError where
  | nullInEncoding
  | nullInPath
  | looseEncoding (points : List Nat)
  | missing (path : String)
  | tooLong (path : String)
  | directory (path : String)
  | notDirectory (path : String)
  | unknownEncoding (name : String)
  | notTextEncoding (name : String)
  | undecodable (error : Text.DecodeError)
  deriving DecidableEq

/-- The wording about a path that is too long. -/
def tooLongMessage (path : String) : String :=
  s!"[Errno 36] File name too long: {Text.quoted path}"

/-- The most bytes of a name that are told about a codec that is none for texts. -/
def mostCodecBytes : Nat := 400

/-- The wording about a codec that is none for texts. -/
def notTextMessage (name : String) : String :=
  let told := String.ofList (Text.Utf8.cut mostCodecBytes name.toList)
  s!"'{told}' is not a text encoding; use codecs.open() to handle arbitrary codecs"

/-- The wording about code points that cannot be written as bytes, for the first run of them. -/
def looseMessage (points : List Nat) : String :=
  let start := (points.takeWhile Nat.isValidChar).length
  let run := (points.drop start).takeWhile (!Nat.isValidChar ·)
  let place := match run with
    | [point] => s!"character '{String.ofList (Text.numericEscape point)}' in position {start}"
    | _       => s!"characters in position {start}-{start + run.length - 1}"
  s!"'utf-8' codec can't encode {place}: surrogates not allowed"

/-- The wording of a read error. -/
def ReadError.message : ReadError → String
  | .nullInEncoding       => "embedded null character"
  | .nullInPath           => "embedded null byte"
  | .looseEncoding points => looseMessage points
  | .missing path         => s!"[Errno 2] No such file or directory: {Text.quoted path}"
  | .tooLong path         => tooLongMessage path
  | .directory path       => s!"[Errno 21] Is a directory: {Text.quoted path}"
  | .notDirectory path    => s!"[Errno 20] Not a directory: {Text.quoted path}"
  | .unknownEncoding name => s!"unknown encoding: {name}"
  | .notTextEncoding name => notTextMessage name
  | .undecodable error    => error.message

/-- How files are read: what paths lead to, and by which codecs. -/
structure Access where
  lookup : String → Lookup
  codecs : Text.Codecs := .bundled

/-- Decodes bytes and makes every line break a line feed. -/
def readBytes (decode : List UInt8 → Except Text.DecodeError String) (bytes : List UInt8) :
    Except Text.DecodeError String := do
  let text ← decode bytes
  return String.ofList (Text.unifyBreaks text.toList)

/-- The name of an encoding that may be looked up. -/
def encodingText : Text.Name → Except ReadError String
  | .loose points => .error (.looseEncoding points)
  | .text name    => if hasNull name then .error .nullInEncoding else .ok name

/-- Reads bytes in the encoding that goes by a name. -/
def readNamed (codecs : Text.Codecs) (encoding : String) (bytes : List UInt8) :
    Except ReadError String :=
  match codecs encoding with
  | none                => .error (.unknownEncoding encoding)
  | some .bytes         => .error (.notTextEncoding encoding)
  | some (.text decode) => (readBytes decode bytes).mapError .undecodable

/-- Reads the file at a path as text. Both names are looked over, then the file is opened, and then
the encoding is looked up. -/
def readText (files : Access) (path : String) (encoding : Text.Name) :
    Except ReadError String := do
  let encoding ← encodingText encoding
  if hasNull path then throw .nullInPath
  else
    let path := plain path
    match files.lookup path with
    | .missing      => .error (.missing path)
    | .tooLong      => .error (.tooLong path)
    | .directory    => .error (.directory path)
    | .notDirectory => .error (.notDirectory path)
    | .file bytes   => readNamed files.codecs encoding bytes

end Outline.Files
