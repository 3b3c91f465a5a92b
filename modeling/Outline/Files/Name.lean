import Outline.Source.Lines
import Outline.Text.Casing

/-!
# File names

The parts of a path, its plain form, and the extension of the file it names.
-/

namespace Outline.Files

/-- The pieces of a path between slashes. -/
def pieces (path : String) : List String :=
  (cutAt '/' path.toList).map String.ofList

/-- The names along a path; empty pieces and single dots lead nowhere. -/
def steps (path : String) : List String :=
  (pieces path).filter fun piece => piece ≠ "" && piece ≠ "."

/-- What a path starts from: nothing when it is relative. Two slashes are kept apart from any other
number of them. -/
def rootOf (path : String) : String :=
  match (path.toList.takeWhile (· = '/')).length with
  | 0 => ""
  | 2 => "//"
  | _ => "/"

/-- The plain form of a path, without repeated slashes, single dots or a slash at the end. -/
def plain (path : String) : String :=
  match rootOf path, steps path with
  | "", []       => "."
  | root, names  => root ++ String.intercalate "/" names

/-! ### Home directories -/

/-- A path after the tilde that it may begin with has been looked at. -/
inductive Expanded where
  | path (path : String)
  | elsewhere
  | noHome
  | nullInAccount
  deriving DecidableEq

/-- The path with a home directory in the place of its first step. -/
def underHome (home : String) (rest : List String) : Expanded :=
  let home := String.ofList (home.toList.reverse.dropWhile (· = '/')).reverse
  if home.startsWith "~" then .noHome
  else .path (plain (home ++ "/" ++ String.intercalate "/" rest))

/-- The accounts that a system comes with. -/
def commonAccounts : List String := [
  "root", "daemon", "bin", "sys", "sync", "games", "man", "lp", "mail", "news", "uucp", "proxy",
  "www-data", "backup", "list", "irc", "_apt", "nobody"]

/-- Whether a text holds the null character, which no name may. -/
def hasNull (text : String) : Bool :=
  text.toList.contains (Char.ofNat 0)

/-- Puts the home directory in the place of a tilde that is the first step of a path. Where no home
is given it lies out of sight, as do the homes of the accounts that may be named after the tilde. -/
def expandHome (home : Option String) (isAccount : String → Bool) (path : String) : Expanded :=
  match rootOf path, steps path with
  | "", step :: rest =>
    if step = "~" then
      match home with
      | some home => underHome home rest
      | none      => .elsewhere
    else if step.startsWith "~" then
      if hasNull step then .nullInAccount
      else if isAccount (String.ofList (step.toList.drop 1)) then .elsewhere
      else .noHome
    else .path (plain path)
  | _, _ => .path (plain path)

/-! ### Extensions -/

/-- The extension of a name: from its last dot on, unless only dots stand before that dot. -/
def nameExtension (name : List Char) : List Char :=
  let after := (name.reverse.takeWhile (· ≠ '.')).reverse
  let before := name.take (name.length - after.length - 1)
  if name.contains '.' && before.any (· ≠ '.') then '.' :: after else []

/-- The extension of the last name of a path, in lower case. -/
def extension (path : String) : String :=
  let name := (path.toList.reverse.takeWhile (· ≠ '/')).reverse
  Text.lower (String.ofList (nameExtension name))

end Outline.Files
