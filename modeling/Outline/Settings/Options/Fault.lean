import Outline.Json.Misfit
import Outline.Supplied

/-!
# Why options cannot be taken

Options can fail before the first argument is looked at, because of the keywords that say how they
are written, or at an argument.
-/

namespace Outline.Settings

/-- What is wrong with marks that are to be a pattern, and at which place of it. -/
inductive MarkFault where
  | nothingRepeated (place : Nat)
  | repeatedTwice (place : Nat)
  | unopened (place : Nat)
  | ownGroup
  | noGroup (digit : Char)
  | noCharacterName
  | noNameBegins
  | incomplete (mark : Char)
  | meaningless (mark : Char)
  deriving DecidableEq

/-- The wording of a mark fault. -/
def MarkFault.message : MarkFault → String
  | .nothingRepeated place => s!"nothing to repeat at position {place}"
  | .repeatedTwice place   => s!"multiple repeat at position {place}"
  | .unopened place        => s!"unbalanced parenthesis at position {place}"
  | .ownGroup              => "cannot refer to an open group at position 2"
  | .noGroup digit         => s!"invalid group reference {digit} at position 3"
  | .noCharacterName       => "undefined character name '1,2' at position 2"
  | .noNameBegins          => "missing \x7b at position 4"
  | .incomplete mark       => "incomplete escape " ++ escape mark ++ " at position 2"
  | .meaningless mark      => "bad escape " ++ escape mark ++ " at position 2"
where
  /-- A mark behind a backslash. -/
  escape (mark : Char) : String := String.ofList ['\\', mark]

/-- Why options cannot be taken. A rejected keyword is told with the place of the complaint. -/
inductive OptionsError where
  | badLead (lead : String)
  | noMark (row : String)
  | badMark (option marks : String)
  | badPattern (fault : MarkFault)
  | rejected (complaints : List (List String × Complaint))
  | conflict (options clashing : List String)
  | notRow (kind : String)
  | noEntry
  | refused
  | ended (code : Nat)
  | misfit (wrong : Misfit)
  deriving DecidableEq

/-- The line of a complaint at a place. -/
def complaintLine (place : List String) (complaint : Complaint) : String :=
  String.intercalate "." place ++ ": " ++ complaint.message

/-- The wording of an options error. A run that ends has said what is wrong, and tells its code. -/
def OptionsError.message : OptionsError → String
  | .badLead lead        => s!"CLI settings source prefix is invalid: {lead}"
  | .noMark row          => s!"{row} index out of range"
  | .badMark option marks =>
    s!"invalid option string {Text.quoted option}: must start with a character {marks}"
  | .badPattern fault    => fault.message
  | .rejected complaints =>
    String.intercalate "\n" (complaints.map fun (place, complaint) => complaintLine place complaint)
  | .conflict options clashing =>
    let argument := String.intercalate "/" options
    let strings := if clashing.length = 1 then "string" else "strings"
    let listed := String.intercalate ", " clashing
    s!"argument {argument}: conflicting option {strings}: {listed}"
  | .notRow kind         =>
    s!"cli_parse_args must be a list or tuple of strings, received <class '{kind}'>"
  | .noEntry             => "0"
  | .refused             => "error parsing CLI"
  | .ended code          => toString code
  | .misfit wrong        => wrong.message

end Outline.Settings
