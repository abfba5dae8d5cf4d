/-
The record of a scheme, and how a round gives way to the next.

The first five fields are settled when the scheme begins. The rest is the state
of the current round and the members who had not paid when a round was last
closed by force. The record makes no promise about its fields: what the
operations of the club keep true is a matter of their runs.
-/
import SavingsClub.Fault
import SavingsClub.Rotation

namespace SavingsClub

/-- Everything that is kept about a scheme. -/
structure Scheme where
  admin : Text
  /-- The members, in the order in which they receive the pot. -/
  members : List Text
  contributionAmount : Int
  assetId : Text
  roundDuration : Int
  roundDeadline : Int
  currentRound : Int
  /-- Who has paid in the current round, in order of payment. -/
  paidMembers : List Text
  /-- Who had not paid when a round was last closed by force. -/
  defaulters : List Text
  deriving DecidableEq, Repr

/-- Where the current round of a scheme stands. -/
structure RoundState where
  currentRound : Int
  paidMembers : List Text
  roundDeadline : Int
  deriving DecidableEq, Repr

/-- The end of a round that was closed by force. -/
structure Closure where
  roundNumber : Int
  defaulters : List Text
  state : RoundState
  deriving DecidableEq, Repr

namespace Scheme

/-- The record as it is read where it was written: in its lists there is one
character in place of each surrogate pair. -/
def reread (s : Scheme) : Scheme :=
  { s with
    members := s.members.map Text.joined
    paidMembers := s.paidMembers.map Text.joined
    defaulters := s.defaulters.map Text.joined }

/-- What has been read is read again as it is. -/
@[simp] theorem reread_reread (s : Scheme) : s.reread.reread = s.reread := by
  simp [reread, Function.comp_def]

/-- Where the current round stands. -/
def state (s : Scheme) : RoundState :=
  ⟨s.currentRound, s.paidMembers, s.roundDeadline⟩

def isMember (s : Scheme) (principal : Text) : Bool := principal ∈ s.members

def hasPaid (s : Scheme) (principal : Text) : Bool := principal ∈ s.paidMembers

/-- Enters a principal as the last to have paid. -/
def pay (s : Scheme) (principal : Text) : Scheme :=
  { s with paidMembers := s.paidMembers ++ [principal] }

/-- The deadline of a round that opens after this one, if a further round can
open at `now`. -/
def nextDeadline (s : Scheme) (now : Int) : Except Fault Int :=
  if maxRound ≤ s.currentRound then .error .maxRoundsReached
  else
    let deadline := Rotation.deadline now s.roundDuration
    if maxTime < deadline then
      .error (.invalidParameters (.deadlineOutside deadline))
    else .ok deadline

/-- Opens the next round at `now`: nobody has paid in it, and its deadline
counts from `now`. -/
def advance (s : Scheme) (now : Int) : Except Fault Scheme := do
  let deadline ← s.nextDeadline now
  return { s with
    currentRound := s.currentRound + 1
    paidMembers := []
    roundDeadline := deadline }

/-- The deadline of the next round is counted from `now` and not too late. -/
theorem eq_of_nextDeadline {s : Scheme} {now d : Int}
    (h : s.nextDeadline now = .ok d) :
    d = Rotation.deadline now s.roundDuration ∧ d ≤ maxTime := by
  unfold nextDeadline at h
  split at h
  · nomatch h
  · dsimp only at h
    split at h
    · nomatch h
    · next hlate =>
      cases h
      exact ⟨rfl, Int.not_lt.1 hlate⟩

theorem nextDeadline_of_advance {s next : Scheme} {now : Int}
    (h : s.advance now = .ok next) :
    s.nextDeadline now = .ok next.roundDeadline := by
  unfold advance at h
  cases hd : s.nextDeadline now with
  | error f =>
    rw [hd] at h
    nomatch h
  | ok d =>
    rw [hd] at h
    cases h
    rfl

end Scheme

end SavingsClub
