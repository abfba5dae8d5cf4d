/-
The engine: the operations on one scheme.

An engine knows where the scheme is kept, under which key, and which account
holds the money of a round until it is paid out. An operation looks up the
record, lets `Round` decide, and carries out what was decided: transfers first,
then the record, then the events. Time and caller come with each operation. A
transfer is reported before anything else is done, and a record before its
events are told; a report that cannot be written leaves the operation half done.

A contribution is made in two steps, because the payout of a round is a transfer
of its own: the member pays, and only then the round is found to be complete and
paid out.
-/
import SavingsClub.Backend
import SavingsClub.Round

namespace SavingsClub

/-- The keeper of one scheme. -/
structure Engine (σ : Type) where
  backend : Backend σ
  /-- The account that holds the contributions of a round. -/
  custody : Text
  key : Text

inductive Operation where
  | establish (terms : Terms)
  | contribute (caller : Option Text) (contributor : Text)
  | closeRound (caller : Option Text)
  | getState
  | getScheme
  | getDefaulters
  deriving DecidableEq, Repr

namespace Operation

/-- Whether an operation only looks. -/
def isReading : Operation → Bool
  | getState | getScheme | getDefaulters => true
  | establish _ | contribute _ _ | closeRound _ => false

end Operation

namespace Engine

variable {σ α : Type} (e : Engine σ)

def load : Act σ Scheme := e.backend.load e.key

/-- Makes a transfer and reports it. -/
def remit (r : Remittance) : Act σ Unit := do
  e.backend.transfer r.transfer
  Act.report r.reported

/-- Carries out a plan. A transfer that fails ends it there, and so does a
report that cannot be written. -/
def carryOut (p : Plan α) : Act σ α := do
  p.remittances.forM e.remit
  e.backend.set e.key p.record
  Act.report p.reported
  p.events.forM (e.backend.emit e.key)
  return p.answer

/-- Begins the scheme, once and for all. -/
def establish (now : Int) (t : Terms) : Act σ Scheme := do
  if ← e.backend.has e.key then Act.refuse (.alreadyInitialized e.key)
  else
    let plan ← Act.check (t.founding now)
    e.carryOut plan

/-- Pays the pot of a complete round to the member whose turn it is, and opens
the next round. -/
def payOut (now : Int) (s : Scheme) (h : s.members ≠ []) : Act σ Scheme := do
  let next ← Act.check (s.advance now)
  e.remit (s.payoutReported e.custody h next)
  return next

/-- Takes a member's contribution; only the member itself may make it. -/
def contribute (now : Int) (caller : Option Text) (contributor : Text) :
    Act σ RoundState := do
  Act.check (authorize caller contributor)
  let s ← e.load
  let payer ← Act.check (s.accept contributor now)
  e.remit (s.paymentReported e.custody contributor)
  let paid := s.pay contributor
  if Rotation.isComplete paid.members paid.paidMembers then
    let next ← e.payOut now paid payer.members_ne_nil
    e.backend.set e.key next
    e.backend.emit e.key (s.receipt contributor)
    e.backend.emit e.key (paid.completion payer.members_ne_nil)
    return next.state
  else
    e.backend.set e.key paid
    e.backend.emit e.key (s.receipt contributor)
    return paid.state

/-- Closes the round by force; only the admin may do so. -/
def closeRound (now : Int) (caller : Option Text) : Act σ Closure := do
  let s ← e.load
  Act.check (authorize caller s.admin)
  let plan ← Act.check (s.closing now)
  e.carryOut plan

def state : Act σ RoundState := return (← e.load).state

def defaulters : Act σ (List Text) := return (← e.load).defaulters

def perform (now : Int) : Operation → Act σ Answer
  | .establish t => .scheme <$> e.establish now t
  | .contribute caller contributor =>
    .state <$> e.contribute now caller contributor
  | .closeRound caller => .closure <$> e.closeRound now caller
  | .getState => .state <$> e.state
  | .getScheme => .scheme <$> e.load
  | .getDefaulters => .names <$> e.defaulters

end Engine

end SavingsClub
