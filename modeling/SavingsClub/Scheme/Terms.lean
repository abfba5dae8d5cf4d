/-
The terms on which a scheme is proposed, and the rules that they must keep.

A proposal comes from outside, so its amount and its duration need not be
integers at all. The rules are tried in a fixed order, and the first that is
broken is the one reported.
-/
import SavingsClub.Scheme

namespace SavingsClub

/-- A number as proposed. -/
inductive Quantity where
  | integer (n : Int)
  /-- Something that is no integer: a truth value, a float even if it is whole,
  a text, … -/
  | mistyped
  deriving DecidableEq, Repr

namespace Quantity

/-- A JSON value as a quantity: of all values only an integer is one. -/
def ofJson : Json → Quantity
  | .integer n => .integer n
  | _ => .mistyped

end Quantity

/-- What is proposed for a scheme. -/
structure Terms where
  admin : Text
  members : List Text
  amount : Quantity
  asset : Text
  duration : Quantity
  deriving DecidableEq, Repr

namespace Terms

/-- The rules about who takes part and what is paid in. -/
def checkNames (t : Terms) : Except Violation Unit :=
  if t.admin = "" then .error .adminEmpty
  else if t.asset = "" then .error .assetEmpty
  else if t.members = [] then .error .membersEmpty
  else if ("" : Text) ∈ t.members then .error .memberEmpty
  else if ¬ t.members.Nodup then .error .membersRepeat
  else .ok ()

/-- The contribution that is proposed, if it is an integer in range. -/
def checkAmount (t : Terms) : Except Violation Int :=
  match t.amount with
  | .mistyped => .error .amountMistyped
  | .integer n =>
    if 0 < n ∧ n ≤ maxAmount then .ok n else .error (.amountOutside n)

def checkDuration (t : Terms) : Except Violation Int :=
  match t.duration with
  | .mistyped => .error .durationMistyped
  | .integer n =>
    if 0 < n ∧ n ≤ maxTime then .ok n else .error (.durationOutside n)

/-- The contribution and the duration of terms that keep every rule. -/
def validate (t : Terms) : Except Violation (Int × Int) := do
  t.checkNames
  let amount ← t.checkAmount
  let duration ← t.checkDuration
  return (amount, duration)

/-- The record of a scheme that begins on these terms at `now`. -/
def opening (t : Terms) (now : Int) : Except Violation Scheme := do
  let (amount, duration) ← t.validate
  let deadline := Rotation.deadline now duration
  if maxTime < deadline then .error (.deadlineOutside deadline)
  else
    return {
      admin := t.admin
      members := t.members
      contributionAmount := amount
      assetId := t.asset
      roundDuration := duration
      roundDeadline := deadline
      currentRound := 0
      paidMembers := []
      defaulters := [] }

end Terms

end SavingsClub
