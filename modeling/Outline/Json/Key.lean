import Outline.Json.Basic

/-!
# Values as keys

Values that are equal in worth are one key: a truth value is the number one or zero, and a number is
the same with and without a fraction. Arrays and objects are no keys; they are equal when all that
they hold is.
-/

namespace Outline

/-- The fraction that a finite number is. -/
def Double.ratio? : Double → Option (Int × Nat)
  | .finite negative mantissa exponent =>
    let size := mantissa * Nat.pow 2 exponent.toNat
    some (if negative then -(size : Int) else size, Nat.pow 2 (-exponent).toNat)
  | _ => none

namespace Json

/-- What is left of a value when only its worth counts; numbers are fractions in lowest terms. -/
inductive Key where
  | null
  | number (num : Int) (den : Nat)
  | infinite (negative : Bool)
  | notNumber
  | name (name : Text.Name)
  deriving DecidableEq

/-- The key of a fraction. -/
def Key.ofRatio (num : Int) (den : Nat) : Key :=
  let divisor := Nat.gcd num.natAbs den
  .number (Int.tdiv num divisor) (den / divisor)

/-- The key of a number. -/
def Key.ofDouble : Double → Key
  | .nan                               => .notNumber
  | .infinite negative                 => .infinite negative
  | .finite negative mantissa exponent =>
    match (Double.finite negative mantissa exponent).ratio? with
    | some (num, den) => .ofRatio num den
    | none            => .notNumber

/-- The key that a value is; arrays and objects are none. -/
def key? : Json → Option Key
  | .null         => some .null
  | .bool b       => some (.number (if b then 1 else 0) 1)
  | .int n        => some (.number n 1)
  | .real number  => some (.ofDouble number)
  | .str s        => some (.name s)
  | .loose points => some (.name (.loose points))
  | .arr _        => none
  | .obj _        => none

/-- Whether two values are equal in worth. The order of members does not count, and what is not a
number equals nothing. -/
def same : Json → Json → Bool
  | .arr items, .arr others   => sameItems items others
  | .obj members, .obj others => members.length = others.length && sameMembers members others
  | value, other              =>
    value.key?.isSome && value.key? ≠ some .notNumber && value.key? = other.key?
where
  /-- Whether items are equal one by one. -/
  sameItems : List Json → List Json → Bool
    | [], []                         => true
    | item :: items, other :: others => same item other && sameItems items others
    | _, _                           => false
  /-- Whether each member is among others. -/
  sameMembers : List (Text.Name × Json) → List (Text.Name × Json) → Bool
    | [], _                        => true
    | (name, item) :: rest, others =>
      (match others.lookup name with
        | some other => same item other
        | none       => false) && sameMembers rest others

end Json

end Outline
