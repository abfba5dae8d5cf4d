/-
The shortest decimal of a binary64 number: as few significant digits as read
back to the number, and of those that do, the nearest to it; a tie goes to the
even digit.

On each decimal grid only the two neighbours of the number are tried, since a
grid has a point among the decimals that read back exactly if one of these two
is such a point. Seventeen digits always suffice.
-/
import SavingsClub.Decimal

namespace SavingsClub.Binary64

/-- A natural number times an integer power of ten, rounded down. -/
def scaleDown (num den : Nat) (exponent : Int) : Nat :=
  num * Nat.pow 10 (-exponent).toNat / (den * Nat.pow 10 exponent.toNat)

/-- Where the first significant digit of a positive `num / den` stands: 1 for
the units. -/
def leadingPlace (num den : Nat) : Int :=
  if den ≤ num then Decimal.digitCount (num / den)
  else 1 - (Decimal.digitCount ((den - 1) / num) : Int)

/-- Of a grid's points that read back to `num / den`, the nearest. `place` is
where the first digit stands, `count` how many digits the grid has. -/
def onGrid (num den : Nat) (place : Int) (count : Nat) : Option Decimal :=
  let exponent := place - (count : Int)
  let below := scaleDown num den exponent
  let readsBack (c : Nat) : Bool :=
    decide ((⟨false, c, exponent⟩ : Decimal).nearest = ofRatio false num den)
  let twice : Nat := num * Nat.pow 10 (-exponent).toNat * 2
  let middle : Nat := (2 * below + 1) * (den * Nat.pow 10 exponent.toNat)
  let above := below + 1
  let aboveFirst := middle < twice ∨ (middle = twice ∧ below % 2 = 1)
  let order := if aboveFirst then [above, below] else [below, above]
  (order.find? readsBack).map fun c => ⟨false, c, exponent⟩

/-- The shortest decimal of a positive `num / den` that is a binary64 number. -/
def shortestRatio (num den : Nat) : Decimal :=
  let place := leadingPlace num den
  let counts := (List.range 17).map (· + 1)
  (counts.findSome? (onGrid num den place)).getD
    ⟨false, scaleDown num den (place - 17), place - 17⟩

/-- The shortest decimal of a binary64 number, unless it is out of range. -/
def shortest? : Binary64 → Option Decimal
  | .infinite _ => none
  | .finite m e =>
    if m = 0 then some ⟨false, 0, 0⟩
    else
      let d := shortestRatio (m.natAbs * Nat.pow 2 e.toNat)
        (Nat.pow 2 (-e).toNat)
      some { d with negative := decide (m < 0) }

/-- A tenth, a number written with eighteen digits, and the smallest number. -/
example : (⟨false, 1, -1⟩ : Decimal).nearest.shortest? = some ⟨false, 1, -1⟩ ∧
    (⟨false, 123456789012345678, 0⟩ : Decimal).nearest.shortest? =
      some ⟨false, 12345678901234568, 1⟩ ∧
    (⟨true, 49, -325⟩ : Decimal).nearest.shortest? = some ⟨true, 5, -324⟩ := by
  decide +kernel

end SavingsClub.Binary64
