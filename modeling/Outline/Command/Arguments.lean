import Outline.Language
import Outline.Supplied

/-!
# Command-line arguments

Options may stand anywhere before a lone `--`; of an option given several times the last value
counts. What cannot be an option at all is reported before any value is judged.
-/

namespace Outline.Command

/-- The name by which the command calls itself. -/
def program : String := "treectx"

/-- Why the command was not used as it should be. -/
inductive UsageError where
  | noSuchOption (name : String)
  | needsValue (name : String)
  | takesNoValue (name : String)
  | badChoice (option value : String) (choices : List String)
  | noSource
  | missingFile (path : String)
  | isDirectory (path : String)
  | extraArguments (arguments : List String)
  | problem (text : String)
  deriving DecidableEq

/-- What choices a value is none of. -/
def noChoice : List String → String
  | [choice] => s!"is not '{choice}'"
  | choices  =>
    let quoted := String.intercalate ", " (choices.map fun choice => s!"'{choice}'")
    s!"is not one of {quoted}"

/-- The wording of a usage error. -/
def UsageError.message : UsageError → String
  | .noSuchOption name => s!"No such option {Text.quoted name}."
  | .needsValue name   => s!"Option {Text.quoted name} requires an argument."
  | .takesNoValue name => s!"Option {Text.quoted name} does not take a value."
  | .badChoice option value choices =>
    s!"Invalid value for '{option}': {Text.quoted value} {noChoice choices}."
  | .noSource          => "Missing argument 'SOURCE'."
  | .missingFile path  => s!"Invalid value for 'SOURCE': File {Text.quoted path} does not exist."
  | .isDirectory path  => s!"Invalid value for 'SOURCE': File {Text.quoted path} is a directory."
  | .extraArguments [argument] => s!"Got unexpected extra argument ({argument})"
  | .extraArguments arguments  =>
    let listed := String.intercalate " " arguments
    s!"Got unexpected extra arguments ({listed})"
  | .problem text      => text

/-- Whether an error is shown without a reminder of the usage. -/
def UsageError.isBare : UsageError → Bool
  | .needsValue _ | .takesNoValue _ => true
  | _                               => false

/-- The first line of help. -/
def usageLine : String := s!"Usage: {program} [OPTIONS] SOURCE\n"

/-- What a usage error prints. -/
def UsageError.report (error : UsageError) : String :=
  let reminder := if error.isBare then "" else s!"{usageLine}Try '{program} --help' for help.\n\n"
  s!"{reminder}Error: {error.message}\n"

/-! ### Options -/

/-- An option that takes a value. -/
inductive ValueOption where
  | language
  | encoding
  | output
  deriving DecidableEq

/-- An option that is on or off. -/
inductive SwitchOption where
  | tree
  | debug
  deriving DecidableEq

/-- An option as given. -/
inductive GivenOption where
  | value (option : ValueOption) (text : String)
  | switch (option : SwitchOption) (on : Bool)
  | help
  deriving DecidableEq

/-- The choices of an option, if it has only some. -/
def ValueOption.choices? : ValueOption → Option (List String)
  | .language => some (Language.all.map Language.name)
  | .encoding => none
  | .output   => some (OutputFormat.all.map OutputFormat.name)

/-- The name of an option on the command line. -/
def ValueOption.name : ValueOption → String
  | .language => "--language"
  | .encoding => "--encoding"
  | .output   => "--output"

/-- The setting that an option gives. -/
def ValueOption.setting : ValueOption → String
  | .language => "language"
  | .encoding => "encoding"
  | .output   => "output"

/-- The setting that a switch gives. -/
def SwitchOption.setting : SwitchOption → String
  | .tree  => "show_tree"
  | .debug => "debug"

/-- The options with a long name that take a value. -/
def longValues : List (String × ValueOption) :=
  [ValueOption.language, .encoding, .output].map fun option => (option.name, option)

/-- The options with a long name that take none. -/
def longSwitches : List (String × GivenOption) := [
  ("--tree", .switch .tree true), ("--no-tree", .switch .tree false),
  ("--debug", .switch .debug true), ("--no-debug", .switch .debug false), ("--help", .help)]

/-! ### Reading -/

/-- What an argument is by itself. -/
inductive Argument where
  | plain
  | options (given : List GivenOption)
  | valued (name : String) (option : ValueOption) (value : Option String)
  deriving DecidableEq

/-- Reads the letters after a single dash. -/
def readLetters : List Char → Except UsageError (List GivenOption)
  | []      => .ok []
  | c :: cs =>
    if c = 'h' then do return .help :: (← readLetters cs)
    else .error (.noSuchOption (String.ofList ['-', c]))

/-- The name before the first equality sign and the value after it. -/
def splitValue (argument : List Char) : String × Option String :=
  let name := String.ofList (argument.takeWhile (· ≠ '='))
  match argument.dropWhile (· ≠ '=') with
  | []         => (name, none)
  | _ :: value => (name, some (String.ofList value))

/-- Reads one argument. -/
def readArgument (argument : String) : Except UsageError Argument :=
  let cs := argument.toList
  match cs with
  | '-' :: c :: rest =>
    let (name, value) := splitValue cs
    match longValues.lookup name, longSwitches.lookup name, value with
    | some option, _, _           => .ok (.valued name option value)
    | none, some given, none      => .ok (.options [given])
    | none, some _, some _        => .error (.takesNoValue name)
    | none, none, _               =>
      if c = '-' then .error (.noSuchOption name)
      else (readLetters (c :: rest)).map .options
  | _ => .ok .plain

/-- The options and the plain arguments of a command line, both in order. -/
structure Arguments where
  options : List GivenOption := []
  plain   : List String := []
  deriving DecidableEq

/-- Adds options at the end. -/
def Arguments.addOptions (arguments : Arguments) (given : List GivenOption) : Arguments :=
  { arguments with options := arguments.options ++ given }

/-- Adds plain arguments at the end. -/
def Arguments.addPlain (arguments : Arguments) (plain : List String) : Arguments :=
  { arguments with plain := arguments.plain ++ plain }

/-- Reads on after the arguments so far. -/
def Arguments.readFrom (done : Arguments) : List String → Except UsageError Arguments
  | []               => .ok done
  | argument :: rest =>
    if argument = "--" then .ok (done.addPlain rest)
    else match readArgument argument with
      | .error error                       => .error error
      | .ok .plain                         => readFrom (done.addPlain [argument]) rest
      | .ok (.options given)               => readFrom (done.addOptions given) rest
      | .ok (.valued _ option (some text)) => readFrom (done.addOptions [.value option text]) rest
      | .ok (.valued name option none)     =>
        match rest with
        | []           => .error (.needsValue name)
        | text :: rest => readFrom (done.addOptions [.value option text]) rest

/-- Reads a command line. -/
def Arguments.read (arguments : List String) : Except UsageError Arguments :=
  readFrom {} arguments

/-! ### Values -/

/-- The last value of an option. -/
def lastValue (options : List GivenOption) (option : ValueOption) : Option String :=
  options.reverse.findSome? fun
    | .value o text => if o = option then some text else none
    | _             => none

/-- The last state of a switch. -/
def lastState (options : List GivenOption) (option : SwitchOption) : Option Bool :=
  options.reverse.findSome? fun
    | .switch o on => if o = option then some on else none
    | _            => none

/-- Judges the value of an option. -/
def checkValue (options : List GivenOption) (option : ValueOption) : Except UsageError Unit :=
  match option.choices?, lastValue options option with
  | some choices, some value =>
    if choices.contains value then .ok () else .error (.badChoice option.name value choices)
  | _, _ => .ok ()

/-- Judges the values of all options in the order in which they were first given. -/
def checkValues (options : List GivenOption) : Except UsageError Unit :=
  options.forM fun
    | .value option _ => checkValue options option
    | _               => .ok ()

/-- The settings that the options give, and no others. -/
def overrides (options : List GivenOption) : List (Text.Name × Supplied) :=
  let value (option : ValueOption) :=
    (lastValue options option).toList.map fun text =>
      (Text.Name.text option.setting, Supplied.text text)
  let switch (option : SwitchOption) :=
    (lastState options option).toList.map fun on =>
      (Text.Name.text option.setting, Supplied.flag on)
  value .language ++ value .encoding ++ value .output ++ switch .tree ++ switch .debug

end Outline.Command
