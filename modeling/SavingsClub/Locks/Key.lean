/-
The keys under which locks are kept.

Any value can be asked for a lock. Numbers are one key if they are equal,
whatever their type, and a truth value counts as 0 or 1; a text is never the key
of a number. A list or a mapping is no key.
-/
import SavingsClub.Json.Basic

namespace SavingsClub

/-- The number that a finite binary64 number is. -/
def Binary64.toRat? : Binary64 → Option Rat
  | .finite m e => some (mkRat (m * Nat.pow 2 e.toNat) (Nat.pow 2 (-e).toNat))
  | .infinite _ => none

/-- The key of a lock. -/
inductive LockKey where
  /-- No value. -/
  | absent
  | number (q : Rat)
  | nonFinite (n : NonFinite)
  | name (t : Text)
  deriving DecidableEq, Repr

namespace LockKey

/-- The key that a value is, if it can be one. -/
def ofJson? : Json → Option LockKey
  | .null => some absent
  | .bool b => some (number (if b then 1 else 0))
  | .integer n => some (number n)
  | .decimal d =>
    match d.nearest.toRat? with
    | some q => some (number q)
    | none =>
      some (nonFinite (if d.negative then .negativeInfinity else .infinity))
  | .nonFinite n => some (nonFinite n)
  | .string t => some (name t)
  | .array _ | .object _ => none

/-- True, 1 and 1.0 are one key; the string "1" is another. -/
example : ofJson? (.bool true) = ofJson? (.integer 1) ∧
    ofJson? (.decimal ⟨false, 10, -1⟩) = ofJson? (.integer 1) ∧
    ofJson? (.text "1") ≠ ofJson? (.integer 1) := by
  decide +kernel

end LockKey

end SavingsClub
