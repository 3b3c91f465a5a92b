import Outline.Settings.Options.Folding
import Outline.Settings.Options.Joined

/-!
# Settings as options

A row of arguments can give settings too, as options with their names. Options are looked at from
the left, and of several for one setting the last counts. An argument that is no option and no value
of one is left over.

Options of one letter can share a mark: each of them stands alone, but for the last, which may take
a value.
-/

namespace Outline.Settings

/-! ### Forms -/

/-- What an argument is: the mark after which all is left over, an option with what is written
behind it, something that looks like an option, or none of these. -/
inductive ArgumentForm where
  | ending
  | option (option : List Nat) (use : OptionUse) (written : Option (List Nat))
  | unknown
  | plain
  deriving DecidableEq

/-- Whether a row of code points occurs in another. -/
def occursIn (part : List Nat) : List Nat → Bool
  | []      => part.isEmpty
  | p :: ps => part.isPrefixOf (p :: ps) || occursIn part ps

/-- The argument after which all is left over. -/
def endingPoints : List Nat := "--".toList.map Char.toNat

namespace OptionTable

/-- Whether an option looks like a number below zero, so that no such number is a value. -/
def hasNegative (table : OptionTable) : Bool :=
  table.options.any fun (option, _) => isNegativeNumber option.toList

/-- What an argument with a mark is that neither is an option nor begins with one and an equals
sign. -/
def formOfRest (table : OptionTable) (first second : Nat) (rest : List Nat) : ArgumentForm :=
  let points := first :: second :: rest
  match if table.isMark second then none else table.find? [first, second] with
  | some use => .option [first, second] use (some rest)
  | none     =>
    if isNegative points && !table.hasNegative || points.contains ' '.toNat then .plain
    else .unknown

/-- What an argument is. -/
def formOf (table : OptionTable) (points : List Nat) : ArgumentForm :=
  if points = endingPoints then .ending
  else if !points.head?.any table.isMark then .plain
  else
    match table.find? points with
    | some use => .option points use none
    | none     =>
      let name := points.takeWhile (· ≠ '='.toNat)
      let joined? := if name.length < points.length then table.find? name else none
      match joined?, points with
      | some use, _                    => .option name use (some (points.drop (name.length + 1)))
      | none, first :: second :: rest  => table.formOfRest first second rest
      | none, _                        => .plain

/-- What an item of a row is. One that is not given is as good as an empty text; of others the
beginning is asked for. -/
def form (table : OptionTable) (item : Json) : Except OptionsError ArgumentForm :=
  match item, item.points? with
  | _, some points       => .ok (table.formOf points)
  | .arr (first :: _), _ =>
    match first.points? with
    | none        => .error (.misfit (.notSought first.kindWord))
    | some points =>
      if occursIn points (table.marks.map Char.toNat) then .error (.misfit (.noKey item.kindWord))
      else .ok .plain
  | .obj (_ :: _), _     => .error .noEntry
  | _, none              =>
    if item.isGiven then .error (.misfit (.noPlaces item.kindWord)) else .ok .plain

/-- The items of a row with what they are. -/
def forms (table : OptionTable) : List Json → Except OptionsError (List (Json × ArgumentForm))
  | []           => .ok []
  | item :: rest => do
    match ← table.form item with
    | .ending => return (item, .ending) :: rest.map (·, .plain)
    | form    => return (item, form) :: (← table.forms rest)

/-! ### Options that share a mark -/

/-- What one argument asks for: options that stand alone, and behind them a setting with its value
or one whose value is the next argument. -/
structure Chain where
  alone : List OptionUse
  value : Option (String × Option (List Nat))

/-- The end of a chain. -/
def Chain.last : OptionUse → Chain
  | .value setting => ⟨[], some (setting, none)⟩
  | use            => ⟨[use], none⟩

/-- Puts an option before a chain. -/
def Chain.before (use : OptionUse) (chain : Chain) : Chain :=
  { chain with alone := use :: chain.alone }

/-- The chain of an option, of which the mark and the sign behind it are given, and of what is
written behind the option. An option that stands alone can have only options behind it, and only
behind one mark. -/
def chain? (table : OptionTable) (mark sign : Nat) (use : OptionUse) : List Nat → Option Chain
  | [] =>
    match use with
    | .value setting => some ⟨[], some (setting, some [])⟩
    | _              => none
  | next :: rest =>
    match use with
    | .value setting => some ⟨[], some (setting, some (next :: rest))⟩
    | _              =>
      if table.isMark sign then none
      else do
        let following ← table.find? [mark, next]
        if rest.isEmpty then return (Chain.last following).before use
        else return (← table.chain? mark next following rest).before use

/-- The chain of an option and what is written behind it, if anything is. -/
def chainOf? (table : OptionTable) (option : List Nat) (use : OptionUse) :
    Option (List Nat) → Option Chain
  | none         => some (Chain.last use)
  | some written =>
    match option with
    | mark :: sign :: _ => table.chain? mark sign use written
    | _                 => none

end OptionTable

/-! ### Values -/

/-- What arguments give, and what is left over of them. -/
structure Taken where
  values   : List (String × Json) := []
  leftOver : List Json := []

/-- Leaves an argument over. -/
def Taken.leave (item : Json) (taken : Taken) : Taken :=
  { taken with leftOver := item :: taken.leftOver }

/-- The value that is written behind an option. The argument after which all is left over is no
value there, and an empty row remains. -/
def writtenValue (points : List Nat) : Json :=
  if points = endingPoints then .arr [] else .ofPoints points

/-- The values of options that stand alone. -/
def flagValues (alone : List OptionUse) : List (String × Json) :=
  alone.filterMap fun use =>
    match use with
    | .flag setting on => some (setting, .bool on)
    | _                => none

/-- Puts the values of options before what later arguments give, unless one asks for help. -/
def settle (alone : List OptionUse) (given : List (String × Json))
    (later : Except OptionsError Taken) : Except OptionsError Taken :=
  if alone.contains .help then .error (.ended 0)
  else later.map fun taken => { taken with values := flagValues alone ++ given ++ taken.values }

namespace OptionRules

/-- The error of arguments that cannot be taken. -/
def fault (rules : OptionRules) : OptionsError :=
  if rules.exits then .ended 2 else .refused

/-- Takes arguments one by one. A setting without a value of its own takes the next argument, unless
that looks like an option. -/
def take (rules : OptionRules) (table : OptionTable) :
    List (Json × ArgumentForm) → Except OptionsError Taken
  | []                   => .ok {}
  | (item, form) :: rest =>
    match form with
    | .ending          => .ok { leftOver := item :: rest.map (·.1) }
    | .unknown | .plain => (rules.take table rest).map (.leave item)
    | .option option use written =>
      match table.chainOf? option use written with
      | none                                        => .error rules.fault
      | some ⟨alone, none⟩                          => settle alone [] (rules.take table rest)
      | some ⟨alone, some (setting, some written)⟩  =>
        settle alone [(setting, writtenValue written)] (rules.take table rest)
      | some ⟨alone, some (setting, none)⟩          =>
        match rest with
        | (value, .plain) :: rest => settle alone [(setting, value)] (rules.take table rest)
        | _                       => .error rules.fault

/-- Nothing may be left over, unless that is passed over. What is left over is told, which asks for
texts. -/
def checkLeftOver (rules : OptionRules) (leftOver : List Json) : Except OptionsError Unit :=
  if rules.lenient || leftOver.isEmpty then .ok ()
  else
    match leftOver.zipIdx.find? fun (item, _) => item.points?.isNone with
    | some (item, index) => .error (.misfit (.notJoined index item.kindWord))
    | none               => .error rules.fault

/-- What the value of a setting's option supplies, if anything. -/
def supply (rules : OptionRules) (setting : String) (value : Json) :
    Except OptionsError (Option Supplied) :=
  let supplyText (text : String) : Supplied :=
    ({ capitals := true, nullWord := rules.nullWord } : VariableRules).supply setting text
  match value with
  | .null      => .ok none
  | .str text  => .ok (some (supplyText text))
  | .arr items =>
    match joinRow rules.nullWord items with
    | some text => .ok (some (supplyText text))
    | none      => .error .refused
  | value      => .ok (some (ofJson value))

/-- The settings that values give; of several values of one setting the last counts. -/
def sourceOf (rules : OptionRules) (values : List (String × Json)) :
    Except OptionsError Source :=
  names.filterMapM fun setting => do
    match values.reverse.lookup setting with
    | none       => return none
    | some value => return (← rules.supply setting value).map (.text setting, ·)

/-- The settings that a row of arguments gives. -/
def read (rules : OptionRules) (table : OptionTable) (row : List Json) :
    Except OptionsError Source := do
  let row ← if rules.exactCase then pure row else table.foldRow row
  let taken ← rules.take table (← table.forms row)
  rules.checkLeftOver taken.leftOver
  rules.sourceOf taken.values

end OptionRules

end Outline.Settings
