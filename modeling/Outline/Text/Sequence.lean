/-!
# Control sequences

The sequences by which a text tells a terminal what to do: an escape character, a bracket,
parameters, intermediate characters and a final one. Where a text does not go to a terminal, they
are left out.
-/

namespace Outline.Text

/-- A form of control sequence: what its parameters, its intermediate characters and its final
character may be. -/
structure SequenceForm where
  isParameter    : Char → Bool
  isIntermediate : Char → Bool
  isFinal        : Char → Bool

namespace SequenceForm

/-- Every control sequence. -/
def any : SequenceForm where
  isParameter c    := 0x30 ≤ c.toNat && c.toNat < 0x40
  isIntermediate c := 0x20 ≤ c.toNat && c.toNat < 0x30
  isFinal c        := 0x40 ≤ c.toNat && c.toNat < 0x7f

/-- The sequences that set colours. -/
def colour : SequenceForm where
  isParameter c    := c.isDigit || c = ';'
  isIntermediate _ := false
  isFinal c        := c = 'm'

/-- The length of the sequence that characters begin with, zero when they begin with none. -/
def lengthAt (form : SequenceForm) (cs : List Char) : Nat :=
  match cs with
  | escape :: '[' :: body =>
    let rest := (body.dropWhile form.isParameter).dropWhile form.isIntermediate
    if escape.toNat = 0x1b && rest.head?.any form.isFinal then cs.length - rest.length + 1 else 0
  | _ => 0

/-- Leaves out sequences, after `skip` more characters of the one that has begun; `done` holds what
stands before, last first. -/
def dropFrom (form : SequenceForm) (skip : Nat) (done : List Char) : List Char → List Char
  | []      => done.reverse
  | c :: cs =>
    match skip with
    | skip + 1 => dropFrom form skip done cs
    | 0        =>
      match form.lengthAt (c :: cs) with
      | 0        => dropFrom form 0 (c :: done) cs
      | skip + 1 => dropFrom form skip done cs

/-- A text without its sequences. -/
def drop (form : SequenceForm) (text : String) : String :=
  String.ofList (form.dropFrom 0 [] text.toList)

end SequenceForm

end Outline.Text
