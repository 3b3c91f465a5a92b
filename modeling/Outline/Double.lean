/-!
# Numbers of double precision

Numbers are written in decimal and used as the binary numbers of double precision that they round
to: 53 binary digits, and a power of two within bounds. In messages a number has the fewest decimal
digits that still round to it.
-/

namespace Outline

/-- A number as it is written: `mantissa * 10 ^ exponent`, with a sign that zero has too. -/
structure Decimal where
  negative : Bool
  mantissa : Nat
  exponent : Int
  deriving DecidableEq

/-- A number of double precision. A finite one is `mantissa * 2 ^ exponent`, with a sign that zero
has too. -/
inductive Double where
  | nan
  | infinite (negative : Bool)
  | finite (negative : Bool) (mantissa : Nat) (exponent : Int)
  deriving DecidableEq

namespace Double

/-- The number of binary digits. -/
def precision : Nat := 53

/-- The least power of two. -/
def leastExponent : Int := -1074

/-- The least power of two that is too great. -/
def overflowPower : Nat := 1024

/-! ### Rounding -/

/-- The whole number nearest to `num / den`; of two, the even one. -/
def nearest (num den : Nat) : Nat :=
  let whole := num / den
  let twice := 2 * (num % den)
  if twice < den then whole
  else if den < twice then whole + 1
  else whole + whole % 2

/-- The greatest power of two that is at most `num / den`, both of them positive. -/
def floorLog2 (num den : Nat) : Int :=
  let top : Int := (Nat.log2 num : Int) - Nat.log2 den
  if den * Nat.pow 2 top.toNat ≤ num * Nat.pow 2 (-top).toNat then top else top - 1

/-- The double nearest to `num / den`, both of them positive. Rounding up may take one more binary
digit, which is a zero. -/
def ofRatio (negative : Bool) (num den : Nat) : Double :=
  let exponent := max (floorLog2 num den - (precision - 1)) leastExponent
  let mantissa := nearest (num * Nat.pow 2 (-exponent).toNat) (den * Nat.pow 2 exponent.toNat)
  if Nat.pow 2 overflowPower ≤ mantissa * Nat.pow 2 exponent.toNat then .infinite negative
  else if mantissa = Nat.pow 2 precision then .finite negative (mantissa / 2) (exponent + 1)
  else .finite negative mantissa exponent

/-- The double nearest to a decimal number. Numbers of a far magnitude are settled without their
power of ten. -/
def ofDecimal (d : Decimal) : Double :=
  let top := (Nat.toDigits 10 d.mantissa).length + d.exponent
  if d.mantissa = 0 || top < -330 then .finite d.negative 0 0
  else if 310 < top then .infinite d.negative
  else
    ofRatio d.negative (d.mantissa * Nat.pow 10 d.exponent.toNat)
      (Nat.pow 10 (-d.exponent).toNat)

/-- The whole number that a double is, if it is one and less than `2 ^ 63` in size. -/
def whole? : Double → Option Int
  | .finite negative mantissa exponent =>
    let num := mantissa * Nat.pow 2 exponent.toNat
    let den := Nat.pow 2 (-exponent).toNat
    if num % den = 0 && num / den < Nat.pow 2 63 then
      some (if negative then -(num / den : Nat) else (num / den : Nat))
    else none
  | _ => none

/-! ### The fewest digits -/

/-- A positive double between the ends of what rounds to it, all in parts of `1 / parts`. The ends
round to it too where `closed` says so. -/
structure Room where
  low    : Nat
  middle : Nat
  high   : Nat
  parts  : Nat
  closed : Bool

/-- The room of `mantissa * 2 ^ exponent`. Below a power of two the next number is nearer. -/
def roomOf (mantissa : Nat) (exponent : Int) : Room :=
  let scale := Nat.pow 2 (exponent - 2).toNat
  let near := mantissa = Nat.pow 2 (precision - 1) && leastExponent < exponent
  { low    := (4 * mantissa - if near then 1 else 2) * scale
    middle := 4 * mantissa * scale
    high   := (4 * mantissa + 2) * scale
    parts  := Nat.pow 2 (2 - exponent).toNat
    closed := mantissa % 2 = 0 }

/-- Whether `num / den` is in the room. -/
def Room.holds (room : Room) (num den : Nat) : Bool :=
  let left := room.low * den
  let right := room.high * den
  let value := num * room.parts
  if room.closed then left ≤ value && value ≤ right else left < value && value < right

/-- The multiple of `10 ^ power` that is in the room and nearest to its middle, as the number of
times; of two, the even one. -/
def Room.hit? (room : Room) (power : Int) : Option Nat :=
  let unit := Nat.pow 10 power.toNat
  let den := Nat.pow 10 (-power).toNat
  let below := room.middle * den / (room.parts * unit)
  let inside := [nearest (room.middle * den) (room.parts * unit), below, below + 1].filter
    fun times => room.holds (times * unit) den
  inside.head?

/-- The number of decimal digits before the point of the middle of a room, negative where zeros
stand after the point. -/
def Room.place (room : Room) : Int :=
  if room.parts ≤ room.middle then (Nat.toDigits 10 (room.middle / room.parts)).length
  else
    let zeros := (Nat.toDigits 10 (room.parts / room.middle)).length
    if room.middle * Nat.pow 10 (zeros - 1) = room.parts then 2 - (zeros : Int) else 1 - zeros

/-- The decimal number with the fewest digits in a room: how many times which power of ten. Every
double is known by 17 digits. -/
def Room.shortest (room : Room) : Nat × Int :=
  let place := room.place
  let hit := (List.range 17).findSome? fun n : Nat =>
    let power := place - (n + 1)
    (room.hit? power).map (·, power)
  hit.getD (0, 0)

/-! ### Text -/

/-- Drops the zeros that digits end in. -/
def significant (digits : List Char) : List Char :=
  (digits.reverse.dropWhile (· = '0')).reverse

/-- The digits with a point after the first `place` of them, filled up with zeros on either side. -/
def positional (digits : List Char) (place : Int) : List Char :=
  let zeros (n : Int) : List Char := List.replicate n.toNat '0'
  if place ≤ 0 then '0' :: '.' :: zeros (-place) ++ digits
  else
    let after := digits.drop place.toNat
    digits.take place.toNat ++ zeros (place - digits.length) ++ '.' ::
      (if after.isEmpty then ['0'] else after)

/-- The digits with a point after the first one and a power of ten of at least two digits. -/
def scientific (digits : List Char) (power : Int) : List Char :=
  let size := Nat.toDigits 10 power.natAbs
  let point := if digits.length ≤ 1 then [] else ['.']
  digits.take 1 ++ point ++ digits.drop 1 ++ 'e' :: (if power < 0 then '-' else '+') ::
    (if size.length < 2 then '0' :: size else size)

/-- A finite number without its sign, and without a power of ten unless it is far from one. -/
def magnitude (mantissa : Nat) (exponent : Int) : List Char :=
  if mantissa = 0 then "0.0".toList
  else
    let (times, power) := (roomOf mantissa exponent).shortest
    let digits := Nat.toDigits 10 times
    let place := digits.length + power
    if -4 < place && place ≤ 16 then positional (significant digits) place
    else scientific (significant digits) (place - 1)

/-- A number as a message shows it. -/
def text : Double → String
  | .nan                               => "nan"
  | .infinite negative                 => if negative then "-inf" else "inf"
  | .finite negative mantissa exponent =>
    let size := magnitude mantissa exponent
    String.ofList (if negative then '-' :: size else size)

end Double

end Outline
