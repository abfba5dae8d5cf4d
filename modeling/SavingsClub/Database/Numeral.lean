/-
Integers as the columns of the database keep them.

An amount or a time is kept as a decimal numeral, so that none is too large to
be kept exactly but one that has more digits than are read back. A round number
is kept in 64 signed bits. Both types hold what can stand in a column and
nothing else: an integer is turned into either only together with a proof that
it fits, and what is read from either fits again (`Numeral.isWritable_toInt`). A
numeral gives back the integer that it was written for (`Numeral.toInt_ofInt`).
-/
import SavingsClub.Limits

namespace SavingsClub

/-- A sign and decimal digits, the last digit first. -/
structure Numeral where
  negative : Bool
  digits : List (Fin 10)
  length_le : digits.length ≤ maxDigits
  deriving DecidableEq, Repr

namespace Numeral

/-- The digits of a natural number, the last digit first; 0 has none. -/
def digitsOf (n : Nat) : List (Fin 10) :=
  if n = 0 then [] else ⟨n % 10, Nat.mod_lt n (by decide)⟩ :: digitsOf (n / 10)
termination_by n

/-- The number that digits stand for. -/
def valueOf : List (Fin 10) → Nat
  | [] => 0
  | d :: r => d + 10 * valueOf r

theorem valueOf_digitsOf (n : Nat) : valueOf (digitsOf n) = n := by
  induction n using Nat.strongRecOn with
  | ind n ih =>
    rw [digitsOf]
    split
    · simp_all [valueOf]
    · have := ih (n / 10) (by omega)
      simp only [valueOf, this]
      omega

/-- A number below a power of ten has no more digits than the power has
zeros. -/
theorem length_digitsOf_le {n k : Nat} (h : n < Nat.pow 10 k) :
    (digitsOf n).length ≤ k := by
  induction k generalizing n with
  | zero =>
      have hzero : n = 0 := Nat.lt_one_iff.mp h
      rw [hzero, digitsOf, if_pos rfl]
      exact Nat.le_refl 0
  | succ k ih =>
      rw [digitsOf]
      split
      · exact Nat.zero_le _
      · have hdiv : n < 10 * Nat.pow 10 k := Nat.mul_comm _ _ ▸ h
        exact Nat.succ_le_succ (ih (Nat.div_lt_of_lt_mul hdiv))

theorem valueOf_lt (digits : List (Fin 10)) :
    valueOf digits < Nat.pow 10 digits.length := by
  induction digits with
  | nil => exact Nat.zero_lt_one
  | cons d r ih =>
      have hd := d.isLt
      show valueOf (d :: r) < Nat.pow 10 r.length * 10
      rw [valueOf]
      omega

/-- The numeral of an integer that is short enough to be written. -/
def ofInt (n : Int) (h : isWritable n = true) : Numeral :=
  ⟨decide (n < 0), digitsOf n.natAbs,
    length_digitsOf_le ((isWritable_iff n).mp h)⟩

def toInt (n : Numeral) : Int :=
  if n.negative then -(valueOf n.digits : Int) else valueOf n.digits

/-- A numeral gives back the integer that it was written for. -/
@[simp] theorem toInt_ofInt (n : Int) (hn : isWritable n = true) :
    (ofInt n hn).toInt = n := by
  by_cases h : n < 0
  · have hneg : decide (n < 0) = true := decide_eq_true h
    simp only [ofInt, toInt, valueOf_digitsOf, hneg, if_true]
    omega
  · have hneg : decide (n < 0) = false := decide_eq_false h
    simp only [ofInt, toInt, valueOf_digitsOf, hneg,
      Bool.false_eq_true, if_false]
    omega

/-- Whatever a numeral stands for can be written. -/
theorem isWritable_toInt (n : Numeral) : isWritable n.toInt = true := by
  have hlt : valueOf n.digits < digitLimit :=
    Nat.lt_of_lt_of_le (valueOf_lt n.digits)
      (Nat.pow_le_pow_right (Nat.succ_pos 9) n.length_le)
  rw [isWritable_iff, toInt]
  split <;> omega

end Numeral

/-- Whether an integer fits 64 signed bits. -/
def fitsWord (n : Int) : Bool := -Int.pow 2 63 ≤ n && n < Int.pow 2 63

/-- An integer in 64 signed bits. -/
structure Word where
  toInt : Int
  fits : fitsWord toInt = true
  deriving DecidableEq, Repr

theorem isWritable_of_fitsWord {n : Int} (h : fitsWord n = true) :
    isWritable n = true := by
  have hbound : Int.pow 2 63 < digitLimit := lt_digitLimit (by decide)
  simp only [fitsWord, Bool.and_eq_true, decide_eq_true_eq] at h
  rw [isWritable_iff]
  omega

end SavingsClub
