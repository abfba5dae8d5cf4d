/-
Changes to a record by hand: fields that are assigned, and entries added to its
lists.
-/
import SavingsClub.Scheme

namespace SavingsClub

/-- New values for some of the fields of a record. -/
structure Edit where
  admin : Option Text
  members : Option (List Text)
  contributionAmount : Option Int
  assetId : Option Text
  roundDuration : Option Int
  roundDeadline : Option Int
  currentRound : Option Int
  paidMembers : Option (List Text)
  defaulters : Option (List Text)
  deriving DecidableEq, Repr

/-- Entries to be added at the end of some of the lists of a record. -/
structure Additions where
  members : Option Text
  paidMembers : Option Text
  defaulters : Option Text
  deriving DecidableEq, Repr

namespace Scheme

/-- The record with the fields of an edit in place of its own. -/
def edit (s : Scheme) (e : Edit) : Scheme where
  admin := e.admin.getD s.admin
  members := e.members.getD s.members
  contributionAmount := e.contributionAmount.getD s.contributionAmount
  assetId := e.assetId.getD s.assetId
  roundDuration := e.roundDuration.getD s.roundDuration
  roundDeadline := e.roundDeadline.getD s.roundDeadline
  currentRound := e.currentRound.getD s.currentRound
  paidMembers := e.paidMembers.getD s.paidMembers
  defaulters := e.defaulters.getD s.defaulters

/-- The record with entries added to its lists. -/
def extend (s : Scheme) (a : Additions) : Scheme :=
  { s with
    members := s.members ++ a.members.toList
    paidMembers := s.paidMembers ++ a.paidMembers.toList
    defaulters := s.defaulters ++ a.defaulters.toList }

end Scheme

namespace Additions

/-- One entry for each of the three lists. -/
def everywhere (principal : Text) : Additions :=
  ⟨some principal, some principal, some principal⟩

end Additions

end SavingsClub
