/-
Numbers as they are written in decimal, and the binary64 number nearest to one.

A `Decimal` keeps what was written exactly. `Decimal.nearest` is the rounding to
binary64: 53 significant bits, a tie goes to the even neighbour, exponents below
-1074 are not available and magnitudes from 2 ^ 1024 on are infinite.
-/
namespace SavingsClub

/-- The number `significand * 10 ^ exponent`, negated if `negative`. -/
structure Decimal where
  negative : Bool
  significand : Nat
  exponent : Int
  deriving DecidableEq, Repr

/-- A binary64 number: an integer times a power of two, or out of range. -/
inductive Binary64 where
  | finite (mantissa : Int) (exponent : Int)
  /-- A magnitude from 2 ^ 1024 on. -/
  | infinite (negative : Bool)
  deriving DecidableEq, Repr

namespace Binary64

/-- The integer equal to a finite number, if there is one. -/
def whole? : Binary64 → Option Int
  | .finite m e =>
    if 0 ≤ e then some (m * Nat.pow 2 e.toNat)
    else if m % Nat.pow 2 (-e).toNat = 0 then some (m / Nat.pow 2 (-e).toNat)
    else none
  | .infinite _ => none

/-- The exponent that leaves `num / den` with 53 significant bits, and never
less than -1074. -/
def scale (num den : Nat) : Int :=
  let guess : Int := (Nat.log2 num : Int) - (Nat.log2 den : Int) - 52
  let short := num * Nat.pow 2 (-guess).toNat
    < den * Nat.pow 2 guess.toNat * Nat.pow 2 52
  max (if short then guess - 1 else guess) (-1074)

/-- `num / den` to the nearest natural number, a tie to the even one. -/
def roundHalfEven (num den : Nat) : Nat :=
  let q := num / den
  let twice := 2 * (num % den)
  if twice < den then q
  else if twice = den then q + q % 2
  else q + 1

/-- The one form of a magnitude `m * 2 ^ e` of at most 53 bits, or 2 ^ 53
itself: of 0, and of a power of two that rounding up has reached, there would be
two. -/
def ofParts (negative : Bool) (m : Nat) (e : Int) : Binary64 :=
  let (m, e) :=
    if m = 0 then (0, 0)
    else if m = Nat.pow 2 53 then (Nat.pow 2 52, e + 1)
    else (m, e)
  .finite (if negative then -(m : Int) else m) e

/-- The binary64 number nearest to `num / den`. -/
def ofRatio (negative : Bool) (num den : Nat) : Binary64 :=
  if num = 0 then .finite 0 0
  else
    let e := scale num den
    let m := roundHalfEven (num * Nat.pow 2 (-e).toNat)
      (den * Nat.pow 2 e.toNat)
    if Nat.pow 2 1024 ≤ m * Nat.pow 2 e.toNat then .infinite negative
    else ofParts negative m e

end Binary64

namespace Decimal

/-- How many decimal digits a natural number has; 0 has one. -/
def digitCount (n : Nat) : Nat := (Nat.toDigits 10 n).length

/-- The binary64 number nearest to a decimal. A decimal whose first digit stands
above 10 ^ 400 or below 10 ^ -400 is out of range without its power of ten being
computed. -/
def nearest (d : Decimal) : Binary64 :=
  let reach : Int := digitCount d.significand + d.exponent
  if d.significand = 0 ∨ reach < -400 then .finite 0 0
  else if 400 < reach then .infinite d.negative
  else
    .ofRatio d.negative (d.significand * Nat.pow 10 d.exponent.toNat)
      (Nat.pow 10 (-d.exponent).toNat)

end Decimal

end SavingsClub
