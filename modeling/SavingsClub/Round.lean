/-
What a round's operations decide.

Each decision is a function of the record and the moment alone: whether an
operation is refused, and if it is not, what it moves, keeps, tells and answers.
In particular a contribution that would complete a round is refused by
`Scheme.accept`, before any money has moved, if the next round could not open.

A `Plan` is a whole operation laid down beforehand: the transfers to make, in
order, and then the record to keep, the events to tell and the answer to give.

Whoever runs the club is kept informed: each transfer is reported as soon as it
is made, and so is a record that is kept without one, before its events are
told. A report names integers, and one that is too long to be written stops the
plan there, with everything before it done and nothing after it. The lengths of
lists, which are reported too, are never too long and left out.
-/
import SavingsClub.Event
import SavingsClub.Ledger
import SavingsClub.Scheme.Terms

namespace SavingsClub

/-- A transfer, and the integers that the report of it names. -/
structure Remittance where
  transfer : Transfer
  reported : List Int

/-- The effects of an operation that was not refused. -/
structure Plan (α : Type) where
  remittances : List Remittance
  record : Scheme
  /-- The integers that the report of the record names. -/
  reported : List Int := []
  events : List Event
  answer : α

namespace Plan

variable {α : Type}

def transfers (p : Plan α) : List Transfer :=
  p.remittances.map Remittance.transfer

/-- Whether all of the transfers can be reported. -/
def reportsTransfers (p : Plan α) : Bool :=
  p.remittances.all fun r => r.reported.all isWritable

/-- Whether the record can be reported. -/
def reportsRecord (p : Plan α) : Bool := p.reported.all isWritable

end Plan

/-- Whether a caller, if there is one, may act as a principal: only as
itself. -/
def authorize (caller : Option Text) (principal : Text) : Except Fault Unit :=
  if caller = some principal then .ok () else .error (.unauthorized principal)

namespace Terms

/-- Begins a scheme on these terms: no money moves. -/
def founding (t : Terms) (now : Int) : Except Fault (Plan Scheme) :=
  match t.opening now with
  | .error v => .error (.invalidParameters v)
  | .ok s => .ok {
      remittances := []
      record := s
      reported := [s.contributionAmount, s.roundDeadline]
      events := [.schemeInitialized s.admin s.members
        s.contributionAmount s.assetId s.roundDuration s.roundDeadline]
      answer := s }

end Terms

namespace Scheme

-- =============================================================== contributions

/-- A principal whose contribution to the round is taken. -/
structure Payer (s : Scheme) where
  contributor : Text
  isMember : contributor ∈ s.members

/-- Where somebody pays there are members. -/
theorem Payer.members_ne_nil {s : Scheme} (p : s.Payer) : s.members ≠ [] :=
  List.ne_nil_of_mem p.isMember

/-- Whether a principal may pay into the round at `now`. The contribution that
would complete the round is taken only if the next round can open. -/
def accept (s : Scheme) (contributor : Text) (now : Int) :
    Except Fault s.Payer :=
  if s.roundDeadline < now then .error (.deadlinePassed s.roundDeadline now)
  else if h : contributor ∈ s.members then
    if s.hasPaid contributor then
      .error (.alreadyContributed contributor s.currentRound)
    else if s.paidMembers.length + 1 = s.members.length then
      (s.nextDeadline now).map fun _ => ⟨contributor, h⟩
    else .ok ⟨contributor, h⟩
  else .error (.notAMember contributor)

/-- What a member pays into a round. -/
def payment (s : Scheme) (custody contributor : Text) : Transfer :=
  ⟨s.assetId, contributor, custody, s.contributionAmount⟩

/-- What is told of a contribution. -/
def receipt (s : Scheme) (contributor : Text) : Event :=
  .contributionReceived s.currentRound contributor s.contributionAmount

/-- The member whose turn the round is. -/
def recipient (s : Scheme) (h : s.members ≠ []) : Text :=
  Rotation.recipient s.members s.currentRound h

/-- What has been paid into the round. -/
def pot (s : Scheme) : Int :=
  Rotation.pot s.contributionAmount s.paidMembers.length

/-- What is paid out of a complete round. -/
def payout (s : Scheme) (custody : Text) (h : s.members ≠ []) : Transfer :=
  ⟨s.assetId, custody, s.recipient h, s.pot⟩

/-- What is told of a complete round. -/
def completion (s : Scheme) (h : s.members ≠ []) : Event :=
  .roundCompleted s.currentRound (s.recipient h) s.pot

/-- A payment, and the report of it. -/
def paymentReported (s : Scheme) (custody contributor : Text) : Remittance :=
  ⟨s.payment custody contributor, [s.contributionAmount, s.currentRound]⟩

/-- A payout, and the report of it: it names the deadline of the round that
opens. -/
def payoutReported (s : Scheme) (custody : Text) (h : s.members ≠ [])
    (next : Scheme) :
    Remittance :=
  ⟨s.payout custody h, [s.currentRound, s.pot, next.roundDeadline]⟩

/-- A member pays into the round. The last contribution also pays the pot to the
member whose turn it is and opens the next round. -/
def contribution (s : Scheme) (custody contributor : Text) (now : Int) :
    Except Fault (Plan RoundState) := do
  let payer ← s.accept contributor now
  let paid := s.pay contributor
  if Rotation.isComplete paid.members paid.paidMembers then
    let next ← paid.advance now
    return {
      remittances := [s.paymentReported custody contributor,
        paid.payoutReported custody payer.members_ne_nil next]
      record := next
      events := [s.receipt contributor, paid.completion payer.members_ne_nil]
      answer := next.state }
  else
    return {
      remittances := [s.paymentReported custody contributor]
      record := paid
      events := [s.receipt contributor]
      answer := paid.state }

-- ===================================================================== closure

/-- Ends the round by force once its deadline is past: whoever has not paid is
entered as a defaulter in place of those entered before, no money moves, and the
next round opens. -/
def closing (s : Scheme) (now : Int) : Except Fault (Plan Closure) :=
  if now ≤ s.roundDeadline then
    .error (.deadlineNotYetPassed s.roundDeadline now)
  else do
    let defaulters := Rotation.defaulters s.members s.paidMembers
    let next ← { s with defaulters := defaulters }.advance now
    return {
      remittances := []
      record := next
      reported := [s.currentRound, now]
      events := [.roundClosed s.currentRound defaulters]
      answer := ⟨s.currentRound, defaulters, next.state⟩ }

end Scheme

end SavingsClub
