/-
How large the numbers of a scheme may become: amounts fit 128 signed bits, round
numbers 32 unsigned bits, moments and durations 64 unsigned bits. An integer of
any kind is written and read in decimal only up to a length.
-/
namespace SavingsClub

/-- The largest contribution. -/
def maxAmount : Int := Int.pow 2 127 - 1

/-- The number of the last round; it can never end. -/
def maxRound : Int := Int.pow 2 32 - 1

/-- The most entries that a list can have. -/
def maxLength : Nat := Nat.pow 2 63 - 1

/-- The latest deadline and the longest round, in seconds. -/
def maxTime : Int := Int.pow 2 64 - 1

/-- The most decimal digits in which an integer is written or read. -/
@[irreducible] def maxDigits : Nat := 4300

/-- The first number that has more digits. -/
def digitLimit : Nat := Nat.pow 10 maxDigits

/-- Whether an integer is short enough to be written. -/
def isWritable (n : Int) : Bool := decide (n.natAbs < digitLimit)

theorem isWritable_iff (n : Int) :
    isWritable n = true ↔ n.natAbs < digitLimit := by
  rw [isWritable, decide_eq_true_iff]

/-- What lies between two numbers that can be written can be written. -/
theorem isWritable_of_between {low n high : Int} (hlow : isWritable low = true)
    (hle : low ≤ n) (hle' : n ≤ high) (hhigh : isWritable high = true) :
    isWritable n = true := by
  rw [isWritable_iff] at hlow hhigh ⊢
  generalize digitLimit = bound at hlow hhigh ⊢
  omega

/-- What can be written is not too far below 0. -/
theorem neg_digitLimit_lt {n : Int} (h : isWritable n = true) :
    -(digitLimit : Int) < n := by
  rw [isWritable_iff] at h
  omega

/-- Numbers of ordinary size are below the limit. -/
theorem lt_digitLimit {n : Int} (h : n < (Nat.pow 10 60 : Nat)) :
    n < digitLimit := by
  have hlen : 60 ≤ maxDigits := by
    unfold maxDigits
    decide
  have hpow : Nat.pow 10 60 ≤ digitLimit :=
    Nat.pow_le_pow_right (Nat.succ_pos 9) hlen
  generalize digitLimit = bound at hpow ⊢
  omega

theorem maxTime_lt : maxTime < digitLimit := lt_digitLimit (by decide)

theorem digitLimit_pos : 0 < digitLimit := Nat.pow_pos (Nat.succ_pos 9)

theorem isWritable_zero : isWritable 0 = true :=
  (isWritable_iff 0).mpr digitLimit_pos

/-- The number before the limit can be written. -/
theorem isWritable_last : isWritable (digitLimit - 1) = true := by
  have hpos := digitLimit_pos
  rw [isWritable_iff]
  omega

/-- From the limit on no number can be written. -/
theorem isWritable_of_long {n : Int} (h : digitLimit ≤ n) :
    isWritable n = false := by
  rw [Bool.eq_false_iff, Ne, isWritable_iff]
  omega

theorem maxAmount_lt : maxAmount < digitLimit := lt_digitLimit (by decide)

/-- What is not too far below 0, and not above a number of ordinary size, can be
written. -/
theorem isWritable_of_not_long {n bound : Int} (hlow : -(digitLimit : Int) < n)
    (hle : n ≤ bound) (hbound : bound < digitLimit) : isWritable n = true := by
  rw [isWritable_iff]
  omega

/-- Numbers from 0 up to one of ordinary size can be written. -/
theorem isWritable_of_le {n bound : Int} (h0 : 0 ≤ n) (hle : n ≤ bound)
    (hbound : bound < digitLimit) : isWritable n = true := by
  rw [isWritable_iff]
  omega

end SavingsClub
