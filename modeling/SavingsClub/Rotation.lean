/-
Whose turn a round is, what is in the pot, and who has not paid.

The order of the members is the order in which they receive the pot: round `r`
goes to place `r mod n`, so the turn depends on how many rounds have ended and
on nothing that happens inside one.
-/
import SavingsClub.Limits
import SavingsClub.Text.Basic

namespace SavingsClub.Rotation

/-- Where in a rotation of `n` places a round stands. -/
def place (n : Nat) (round : Int) : Nat := (round % (n : Int)).toNat

theorem place_lt {n : Nat} (hn : 0 < n) (round : Int) : place n round < n := by
  have hn' : (0 : Int) < n := by omega
  have := Int.emod_nonneg round (Int.ne_of_gt hn')
  have := Int.emod_lt_of_pos round hn'
  unfold place
  omega

/-- The member who receives the pot of a round. -/
def recipient (members : List Text) (round : Int) (h : members ≠ []) : Text :=
  members.get ⟨place members.length round,
    place_lt (List.length_pos_iff.2 h) round⟩

/-- The member who receives the pot of a round, if there are members. -/
def recipient? (members : List Text) (round : Int) : Option Text :=
  if h : members ≠ [] then some (recipient members round h) else none

/-- What `payers` contributions of one amount come to. -/
def pot (amount payers : Int) : Int := amount * payers

/-- The members who have not paid, in member order. -/
def defaulters (members paid : List Text) : List Text :=
  members.filter (· ∉ paid)

/-- A round is complete when as many contributions are in as there are
members. -/
def isComplete (members paid : List Text) : Bool :=
  paid.length == members.length

/-- The last moment at which a round opened at `now` takes contributions. -/
def deadline (now duration : Int) : Int := now + duration

/-- A deadline that is counted from a moment not too far back, and is not too
late, can be written. -/
theorem isWritable_deadline {now duration : Int} (hd : 0 ≤ duration)
    (h : deadline now duration ≤ maxTime) (hnow : -(digitLimit : Int) < now) :
    isWritable (deadline now duration) = true :=
  isWritable_of_not_long
    (Int.lt_of_lt_of_le hnow (Int.le_add_of_nonneg_right hd)) h maxTime_lt

end SavingsClub.Rotation
