/-!
# Decoding faults

Where and why a sequence of bytes is no text.
-/

namespace Outline.Text

/-- A run of bytes, from `start` up to `stop`, that stands for no character. -/
structure Fault where
  start  : Nat
  stop   : Nat
  reason : String
  deriving DecidableEq

/-- Characters decoded so far, last first, or the first fault. -/
abbrev Decoded := Except Fault (List Char)

end Outline.Text
