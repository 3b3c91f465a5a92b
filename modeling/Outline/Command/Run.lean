import Outline.Command.Arguments
import Outline.Settings.Load
import Outline.Summary
import Outline.Text.Sequence
import Outline.Text.Stamp

/-!
# Running the command

A run sees files, environment variables and a log handler, and leaves an exit code and what it
printed. Nothing is printed on the standard output before the source has been read and parsed, and
what is printed holds no control sequences, since there is no terminal to take them. The listing is
printed before the report is made, and so it has been printed also where there turns out to be no
room to make the report.
-/

namespace Outline.Command

/-- The text of the help option. -/
def helpText : String :=
  usageLine ++
  "\n" ++
  "  Print a structural summary of SOURCE: imports, classes, fields, methods and\n" ++
  "  method invocations.\n" ++
  "\n" ++
  "Options:\n" ++
  "  --language [java]     Source language (default: detected from the file\n" ++
  "                        extension).\n" ++
  "  --encoding TEXT       Source text encoding (default: utf-8).\n" ++
  "  --output [text|json]  Report format (default: text).\n" ++
  "  --tree / --no-tree    Print the raw parse tree before the report.\n" ++
  "  --debug / --no-debug  Enable debug logging.\n" ++
  "  -h, --help            Show this message and exit.\n"

/-- What a run can see, and what it has room for. -/
structure World extends Settings.Surroundings where
  stamp      : String
  hasHandler : Bool
  room       : Room String := {}

/-- A failure that is not a matter of usage. -/
inductive Failure where
  | settings (error : Settings.LoadError)
  | summary (error : SummaryError)
  deriving DecidableEq

/-- What a run leaves behind. Logging is set up once there are settings; `logLevel` is its level.
Records go to the handler that was there before the run, or else to the standard error. -/
structure Outcome where
  exitCode  : Nat
  stdout    : String := ""
  stderr    : String := ""
  failure   : Option Failure := none
  logLevel  : Option Nat := none
  handled   : List LogRecord := []
  deriving DecidableEq

/-- A text as it is printed where there is no terminal. -/
def printed (text : String) : String :=
  Text.SequenceForm.any.drop text

/-- A run that ends over its usage. -/
def Outcome.ofUsage (error : UsageError) : Outcome :=
  { exitCode := 2, stderr := printed error.report }

/-- A run that fails. -/
def Outcome.ofFailure (failure : Failure) : Outcome :=
  { exitCode := 1, failure := some failure }

/-- The file to summarise, or how the run ends without one. Whether it is there is asked of the
argument as it was given. -/
def sourcePath (world : World) (plain : List String) : Except Outcome String :=
  match plain with
  | []           => .error (.ofUsage .noSource)
  | path :: rest =>
    if Files.hasNull path then .error (.ofFailure (.summary (.read .nullInPath)))
    else match world.lookup path with
      | .missing | .tooLong | .notDirectory => .error (.ofUsage (.missingFile path))
      | .directory                          => .error (.ofUsage (.isDirectory path))
      | .file _                             =>
        if rest.isEmpty then .ok (Files.plain path)
        else .error (.ofUsage (.extraArguments rest))

/-- Whether a failure to load a source is told as a usage error. That a parser is not fit for use,
that the file is gone or that the encoding is unknown is not. -/
def isUsage : SummaryError → Bool
  | .parser (.unsetLanguage _)   => false
  | .parser (.unsetExtensions _) => false
  | .parser (.notConcrete ..)    => false
  | .parser (.misfit _)          => false
  | .parser _                    => true
  | .read .nullInPath            => true
  | .read .nullInEncoding        => true
  | .read (.looseEncoding _)     => true
  | .read (.undecodable _)       => true
  | .read (.missing _)           => false
  | .read (.tooLong _)           => false
  | .read (.directory _)         => false
  | .read (.notDirectory _)      => false
  | .read (.unknownEncoding _)   => false
  | .read (.notTextEncoding _)   => false
  | .misfit _                    => false
  | .visit _                     => false
  | .nesting                     => false

/-- The level of the log: that of debugging or that of information. -/
def logLevel (settings : Settings) : Nat :=
  if settings.debug then 10 else 20

/-- A run from its logging on: the records that get through and what else it leaves. -/
def finish (world : World) (settings : Settings) (records : List LogRecord) (outcome : Outcome) :
    Outcome :=
  let shown := if settings.debug then records else []
  let outcome := { outcome with logLevel := some (logLevel settings) }
  if world.hasHandler then { outcome with handled := shown }
  else
    let lines := String.join (shown.map (LogRecord.line world.stamp))
    { outcome with stderr := lines ++ outcome.stderr }

/-- A report with a line feed at its end. -/
def terminated (report : String) : String :=
  if report.endsWith "\n" then report else report ++ "\n"

/-- Prints the report of a parsed source after what was printed before. -/
def printReport (world : World) (settings : Settings) (path : String) (tree : SourceTree)
    (before : String) : Outcome :=
  let visited := tree.visit
  match visited.failure with
  | some error =>
    finish world settings visited.log
      { Outcome.ofFailure (.summary (.visit error)) with stdout := before }
  | none =>
    let rendering := LogRecord.rendering path tree.language settings.output.name
    finish world settings (visited.log ++ [rendering])
      (match visited.render world.room settings.output with
        | .ok report   => { exitCode := 0, stdout := before ++ printed (terminated report) }
        | .error error => { Outcome.ofFailure (.summary error) with stdout := before })

/-- Prints a parsed source: its listing if asked for, then its report. -/
def printSource (world : World) (settings : Settings) (path : String) (tree : SourceTree) :
    Outcome :=
  let listing := if settings.showTree then tree.listing "" else .ok ""
  match listing with
  | .error error  => finish world settings [] (.ofFailure (.summary (.visit (.span error))))
  | .ok listing   => printReport world settings path tree (printed listing)

/-- Summarises a file under settings. -/
def summarizeSource (world : World) (registry : Registry) (grammar : Grammar) (settings : Settings)
    (path : String) : Outcome :=
  match loadTree registry grammar world.toAccess settings path with
  | .ok tree     => printSource world settings path tree
  | .error error =>
    finish world settings []
      (if isUsage error then .ofUsage (.problem error.message)
        else .ofFailure (.summary error))

/-- Runs the command on arguments that could be read. -/
def runArguments (world : World) (registry : Registry) (grammar : Grammar)
    (arguments : Arguments) : Outcome :=
  let source := do
    (checkValues arguments.options).mapError Outcome.ofUsage
    sourcePath world arguments.plain
  match source with
  | .error outcome => outcome
  | .ok path       =>
    match Settings.load world.toSurroundings {} (overrides arguments.options) with
    | .error error  => .ofFailure (.settings error)
    | .ok settings  => summarizeSource world registry grammar settings path

/-- A run that ends, with each line break in its messages in one character. -/
def Outcome.unified (outcome : Outcome) : Outcome :=
  { outcome with stderr := String.ofList (Text.dropReturns outcome.stderr.toList) }

/-- What a run told on the standard error, in a form that can be compared with another run: without
colours, and with a mask in the place of the times that its lines begin with. -/
def Outcome.transcript (outcome : Outcome) (mask : String) : String :=
  Text.maskStamps mask (Text.SequenceForm.colour.drop outcome.stderr)

/-- Runs the command. -/
def run (world : World) (registry : Registry) (grammar : Grammar) (arguments : List String) :
    Outcome :=
  match Arguments.read arguments with
  | .error error  => (Outcome.ofUsage error).unified
  | .ok arguments =>
    if arguments.options.contains .help then { exitCode := 0, stdout := helpText }
    else (runArguments world registry grammar arguments).unified

end Outline.Command
