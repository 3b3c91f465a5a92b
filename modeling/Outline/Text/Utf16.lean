import Outline.Text.Encoding.Fault

/-!
# Wide encodings

Units of two bytes, where a pair of surrogates stands for one character, and units of four bytes,
each a code point. The bytes of a unit come in either order.
-/

namespace Outline.Text

/-- The order of a unit's bytes: the low byte first or the high byte first. -/
inductive ByteOrder where
  | little
  | big
  deriving DecidableEq

/-- The value of a unit of two bytes. -/
def ByteOrder.unit : ByteOrder → UInt8 → UInt8 → Nat
  | .little, a, b => a.toNat + 0x100 * b.toNat
  | .big, a, b    => 0x100 * a.toNat + b.toNat

namespace Utf16

/-- Whether a unit is the first of a pair. -/
def isHigh (unit : Nat) : Bool := 0xD800 ≤ unit && unit < 0xDC00

/-- Whether a unit is the second of a pair. -/
def isLow (unit : Nat) : Bool := 0xDC00 ≤ unit && unit < 0xE000

/-- The code point of a pair of surrogates. -/
def join (high low : Nat) : Nat :=
  0x10000 + (high - 0xD800) * 0x400 + (low - 0xDC00)

/-- Reads on from a position, after a first surrogate if there is one. -/
def decodeFrom (order : ByteOrder) (position : Nat) (high : Option Nat) (done : List Char) :
    List UInt8 → Decoded
  | []  =>
    match high with
    | none   => .ok done
    | some _ => .error ⟨position - 2, position, "unexpected end of data"⟩
  | [_] =>
    match high with
    | none   => .error ⟨position, position + 1, "truncated data"⟩
    | some _ => .error ⟨position - 2, position + 1, "unexpected end of data"⟩
  | a :: b :: rest =>
    let unit := order.unit a b
    match high with
    | none =>
      if isHigh unit then decodeFrom order (position + 2) (some unit) done rest
      else if isLow unit then .error ⟨position, position + 2, "illegal encoding"⟩
      else decodeFrom order (position + 2) none (Char.ofNat unit :: done) rest
    | some h =>
      if isLow unit then
        decodeFrom order (position + 2) none (Char.ofNat (join h unit) :: done) rest
      else .error ⟨position - 2, position, "illegal UTF-16 surrogate"⟩

end Utf16

namespace Utf32

/-- The value of a unit of four bytes. -/
def unit (order : ByteOrder) (a b c d : UInt8) : Nat :=
  match order with
  | .little => order.unit a b + 0x10000 * order.unit c d
  | .big    => 0x10000 * order.unit a b + order.unit c d

/-- Reads on from a position. -/
def decodeFrom (order : ByteOrder) (position : Nat) (done : List Char) : List UInt8 → Decoded
  | [] => .ok done
  | a :: b :: c :: d :: rest =>
    let value := unit order a b c d
    if 0xD800 ≤ value && value < 0xE000 then
      .error ⟨position, position + 4, "code point in surrogate code point range(0xd800, 0xe000)"⟩
    else if value < 0x110000 then
      decodeFrom order (position + 4) (Char.ofNat value :: done) rest
    else .error ⟨position, position + 4, "code point not in range(0x110000)"⟩
  | left => .error ⟨position, position + left.length, "truncated data"⟩

end Utf32

end Outline.Text
