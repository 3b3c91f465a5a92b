import Outline.Command.Run

/-!
# The command

Reads the world, runs the command on it and prints what the run leaves. The parse tree of the source
comes on the standard input, as a listing with columns in bytes.
-/

namespace Outline.Main

/-- What a path leads to now. -/
def probe (path : String) : IO Files.Lookup := do
  try
    let bytes ← IO.FS.readBinFile path
    return .file bytes.toList
  catch
    | .inappropriateType _ code _ => return if code = 21 then .directory else .notDirectory
    | _                           => return .missing

/-- The environment variables of the settings, with names in capitals or in small letters. -/
def environment : IO (List (String × String)) := do
  let lead := ({} : Settings.VariableRules).lead
  let names := Settings.names.flatMap fun name =>
    [(lead ++ name).toUpper, (lead ++ name).toLower]
  let found ← names.mapM fun name => do
    return (← IO.getEnv name).toList.map fun value => (name, value)
  return found.flatten

/-- What the arguments could lead to, in both forms of their paths. -/
def snapshot (arguments : List String) : IO (List (String × Files.Lookup)) := do
  let plain := match Command.Arguments.read arguments with
    | .ok arguments => arguments.plain
    | .error _      => []
  (plain ++ plain.map Files.plain).mapM fun path => do return (path, ← probe path)

/-- Whether a run on the arguments may come to parse. -/
def mayParse (arguments : List String) : Bool :=
  match Command.Arguments.read arguments with
  | .ok arguments => !arguments.options.contains .help
  | .error _      => false

/-- What is printed of a failure that is not a matter of usage. -/
def complaint : Command.Failure → String
  | .summary error  => error.message
  | .settings error => error.message

end Outline.Main

open Outline in
/-- Runs the command on the arguments of the process. -/
def main (arguments : List String) : IO UInt32 := do
  let files ← Main.snapshot arguments
  let listing ←
    if Main.mayParse arguments then (← IO.getStdin).readToEnd else pure ""
  let world : Command.World :=
    { lookup      := fun path => (files.lookup path).getD .missing
      namesIn     := fun _ => []
      environment := ← Main.environment
      isAccount   := Files.commonAccounts.contains
      stamp       := s!"{← IO.monoMsNow}ms"
      hasHandler  := false }
  let grammar : Grammar := fun _ => (Node.ofListing? listing).getD default
  let outcome := Command.run world .bundled grammar arguments
  IO.print outcome.stdout
  IO.eprint outcome.stderr
  for failure in outcome.failure do
    IO.eprintln (Main.complaint failure)
  return outcome.exitCode.toUInt32
