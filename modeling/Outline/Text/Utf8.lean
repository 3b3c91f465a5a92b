import Outline.Text.Encoding.Fault

/-!
# UTF-8

Writing a text as bytes, and reading bytes as a text one byte at a time, either up to the first
fault or past all of them. A fault covers the longest beginning of a sequence that could still have
become a character.
-/

namespace Outline.Text.Utf8

/-- The bytes of a text. -/
def encode (text : String) : List UInt8 :=
  text.toList.flatMap String.utf8EncodeChar

/-- The character for what is none. -/
def replacement : Char := Char.ofNat 0xFFFD

/-- The characters that fit in so many bytes; the replacement character stands for one of which only
some do. -/
def cut (limit : Nat) : List Char → List Char
  | []      => []
  | c :: cs =>
    if c.utf8Size ≤ limit then c :: cut (limit - c.utf8Size) cs
    else if limit = 0 then []
    else [replacement]

/-- Whether a byte continues a character that an earlier byte began. -/
def isContinuation (b : UInt8) : Bool :=
  0x80 ≤ b && b ≤ 0xBF

/-- A character begun: how many bytes are owed, the bounds of the next one, the value of the bytes
seen and their number. -/
structure Begun where
  owed  : Nat
  least : UInt8
  most  : UInt8
  value : Nat
  seen  : Nat

/-- What a byte begins when it stands first, unless it is a character by itself. -/
def begin? (b : UInt8) : Option Begun :=
  if b < 0xC2 then none
  else if b < 0xE0 then some ⟨1, 0x80, 0xBF, b.toNat - 0xC0, 1⟩
  else if b < 0xF0 then
    some ⟨2, if b == 0xE0 then 0xA0 else 0x80, if b == 0xED then 0x9F else 0xBF, b.toNat - 0xE0, 1⟩
  else if b < 0xF5 then
    some ⟨3, if b == 0xF0 then 0x90 else 0x80, if b == 0xF4 then 0x8F else 0xBF, b.toNat - 0xF0, 1⟩
  else none

/-- What a byte comes to: a character ends with it, a character stands begun after it, or it is out
of place. -/
inductive Step where
  | char (c : Char)
  | begun (s : Begun)
  | fault

/-- What a byte comes to that stands first. -/
def first (b : UInt8) : Step :=
  if b < 0x80 then .char (Char.ofNat b.toNat)
  else match begin? b with
    | none   => .fault
    | some s => .begun s

/-- What a byte comes to after a character begun. -/
def Begun.next (s : Begun) (b : UInt8) : Step :=
  if s.least ≤ b && b ≤ s.most then
    let value := s.value * 64 + (b.toNat - 0x80)
    if s.owed ≤ 1 then .char (Char.ofNat value)
    else .begun ⟨s.owed - 1, 0x80, 0xBF, value, s.seen + 1⟩
  else .fault

/-! ### Reading up to a fault -/

/-- Reads on from a position, with the character begun before it and the characters before that. -/
def decodeFrom (position : Nat) (begun : Option Begun) (done : List Char) : List UInt8 → Decoded
  | [] =>
    match begun with
    | none   => .ok done
    | some s => .error ⟨position - s.seen, position, "unexpected end of data"⟩
  | b :: rest =>
    match begun with
    | none =>
      match first b with
      | .char c  => decodeFrom (position + 1) none (c :: done) rest
      | .begun s => decodeFrom (position + 1) (some s) done rest
      | .fault   => .error ⟨position, position + 1, "invalid start byte"⟩
    | some s =>
      match s.next b with
      | .char c  => decodeFrom (position + 1) none (c :: done) rest
      | .begun s => decodeFrom (position + 1) (some s) done rest
      | .fault   => .error ⟨position - s.seen, position, "invalid continuation byte"⟩

/-- Reads bytes as characters, last first. -/
def decode (bytes : List UInt8) : Decoded :=
  decodeFrom 0 none [] bytes

/-! ### Reading past faults -/

/-- The characters that are read with a step, and the character that stands begun after it. A byte
out of place is read as the replacement character. -/
def Step.replaced : Step → List Char × Option Begun
  | .char c  => ([c], none)
  | .begun s => ([], some s)
  | .fault   => ([replacement], none)

/-- The characters that are read with a byte. A character begun that the byte does not go on with is
read as the replacement character, and the byte as one that stands first. -/
def readPast (begun : Option Begun) (b : UInt8) : List Char × Option Begun :=
  match begun with
  | none   => (first b).replaced
  | some s =>
    match s.next b with
    | .fault => (replacement :: (first b).replaced.1, (first b).replaced.2)
    | step   => step.replaced

/-- Reads on after what is begun. What is still begun at the end is read as one replacement
character. -/
def replaceFrom (begun : Option Begun) : List UInt8 → List Char
  | []        => begun.toList.map fun _ => replacement
  | b :: rest => (readPast begun b).1 ++ replaceFrom (readPast begun b).2 rest

/-- Reads bytes as characters, with a replacement character for each fault. -/
def decodeReplacing (bytes : List UInt8) : List Char :=
  replaceFrom none bytes

/-- Two bytes that continue nothing are two faults, and three of the four bytes of a character are
one. -/
example : decodeReplacing [0x80, 0x80] = [replacement, replacement] ∧
    decodeReplacing [0xF0, 0x9F, 0x99] = [replacement] ∧
    decodeReplacing [0xE0, 0x80, 0x41] = [replacement, replacement, 'A'] := by
  decide +kernel

end Outline.Text.Utf8
