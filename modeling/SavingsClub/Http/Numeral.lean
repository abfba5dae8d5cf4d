/-
Integers that come as strings.

A text that begins as a plain integer does is too long if its sign and digits
are more than are read, whatever follows them. What is not a plain integer is
cleaned first: blanks around it go, and so do a plus sign, zeros at the start
with underscores among them, a point with zeros only after it, and single
underscores inside. What is left must be a plain integer that is not too long.
-/
import SavingsClub.Limits
import SavingsClub.Text.Basic

namespace SavingsClub.Http.Numeral

open Text (isDigit number)

-- ================================================================= code points

@[match_pattern] abbrev zero : Nat := 0x30
@[match_pattern] abbrev minus : Nat := 0x2D
@[match_pattern] abbrev plus : Nat := 0x2B
@[match_pattern] abbrev underscore : Nat := 0x5F
@[match_pattern] abbrev point : Nat := 0x2E

/-- The characters that Unicode calls white space. -/
def isBlank (n : Nat) : Bool :=
  (0x9 ≤ n && n ≤ 0xD) || n == 0x20 || n == 0x85 || n == 0xA0 || n == 0x1680 ||
    (0x2000 ≤ n && n ≤ 0x200A) || n == 0x2028 || n == 0x2029 || n == 0x202F ||
    n == 0x205F || n == 0x3000

/-- A text without the blanks around it. -/
def trim (cs : List Nat) : List Nat :=
  ((cs.dropWhile isBlank).reverse.dropWhile isBlank).reverse

-- ============================================================== plain integers

/-- Why a text is no plain integer. -/
inductive Fault where
  | malformed
  | tooLong
  deriving DecidableEq, Repr

/-- The natural number that digits stand for; only 0 itself begins with 0.
`taken` characters stand before the digits. -/
def magnitude (taken : Nat) (cs : List Nat) : Except Fault Nat :=
  match cs.takeWhile isDigit with
  | [] => .error .malformed
  | zero :: _ => if cs = [zero] then .ok 0 else .error .malformed
  | run =>
    if maxDigits < taken + run.length then .error .tooLong
    else if cs.length = run.length then .ok (number run)
    else .error .malformed

/-- The integer that is written plainly: a minus sign, if there is one, and
digits. -/
def plain : List Nat → Except Fault Int
  | minus :: r => (magnitude 1 r).map fun n => -(n : Int)
  | cs => (magnitude 0 cs).map fun n => (n : Int)

-- ==================================================================== cleaning

/-- The text from the first of these on that counts: a digit other than 0, a
minus sign, or the character `last` before a point. Before it there are zeros
and underscores only, and `last` is the last of them; if nothing follows them it
counts itself. -/
def afterZeros (last : Nat) : List Nat → Option (List Nat)
  | [] => some [last]
  | c :: r =>
    if c = zero ∨ c = underscore then afterZeros c r
    else if isDigit c ∨ c = minus then some (c :: r)
    else if c = point then some (last :: c :: r)
    else none

/-- A text that begins with a digit, without the zeros that it may begin
with. -/
def withoutZeros : List Nat → Option (List Nat)
  | zero :: r => afterZeros zero r
  | c :: r => if isDigit c then some (c :: r) else none
  | [] => none

/-- A text without its sign's plus, and without the zeros after the sign. -/
def withoutPlus : List Nat → Option (List Nat)
  | plus :: minus :: _ => none
  | plus :: r => withoutZeros r
  | minus :: r => (withoutZeros r).map (minus :: ·)
  | cs => withoutZeros cs

/-- A text without a point after which there are zeros, and only zeros. -/
def withoutFraction (cs : List Nat) : List Nat :=
  let places := cs.dropWhile (· ≠ point)
  if 2 ≤ places.length ∧ (places.drop 1).all (· = zero)
    then cs.takeWhile (· ≠ point) else cs

/-- Whether two underscores stand side by side. -/
def hasDouble : List Nat → Bool
  | underscore :: underscore :: _ => true
  | _ :: r => hasDouble r
  | [] => false

/-- A text without its underscores, if each of them stands between two other
characters. -/
def withoutUnderscores (cs : List Nat) : List Nat :=
  if cs.head? = some underscore ∨ cs.getLast? = some underscore ∨ hasDouble cs
    then cs
  else cs.filter (· ≠ underscore)

/-- A numeral as a plain integer would be written. -/
def clean? (cs : List Nat) : Option (List Nat) :=
  (withoutPlus (trim cs)).map fun cs => withoutUnderscores (withoutFraction cs)

-- ===================================================================== reading

/-- The integer that a text is a numeral of. -/
def read (t : Text) : Except Fault Int :=
  match plain t.points with
  | .ok n => .ok n
  | .error .tooLong => .error .tooLong
  | .error .malformed =>
    match (clean? t.points).map plain with
    | some (.ok n) => .ok n
    | _ => .error .malformed

/-- Signs, zeros, underscores and a fraction of zeros. -/
example : ([" 12 ", "+0_007.00", "-0__10", "1_000", "0-5"] : List Text).map
    (fun t => (read t).toOption)
    = [some 12, some 7, some (-10), some 1000, some (-5)] := by
  decide +kernel

/-- A point alone, a point at the end, two underscores after a digit, and two
signs. -/
example : ([".5", "100.", "1__0", "+-5"] : List Text).all
    (fun t => (read t).toOption = none) := by
  decide +kernel

end SavingsClub.Http.Numeral
