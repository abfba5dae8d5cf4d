/-
What can go wrong in the club's own terms.

A `Fault` names its cause and carries the values involved; the wording is built
from them in one place, `Fault.message`. Faults fall into kinds, and a kind says
under which more general kinds it stands and which HTTP status answers it. A
fault whose integers are too long to be written has no message that anybody
could read: see `Fault.isSpeakable`.
-/
import SavingsClub.Limits
import SavingsClub.Json.Basic

namespace SavingsClub

-- ====================================================================== causes

/-- The rule that proposed terms break. -/
inductive Violation where
  | adminEmpty
  | assetEmpty
  | membersEmpty
  | memberEmpty
  | membersRepeat
  | amountMistyped
  | amountOutside (amount : Int)
  | durationMistyped
  | durationOutside (duration : Int)
  | deadlineOutside (deadline : Int)
  deriving DecidableEq, Repr

namespace Violation

def message : Violation → Text
  | adminEmpty => "Admin must not be empty"
  | assetEmpty => "Asset id must not be empty"
  | membersEmpty => "Members must not be empty"
  | memberEmpty => "Member ids must not be empty"
  | membersRepeat => "Members must not contain duplicates"
  | amountMistyped => "Contribution amount must be an integer"
  | amountOutside n =>
    "Contribution amount must be in (0, " ++ Text.ofInt maxAmount ++ "], got "
      ++ Text.ofInt n
  | durationMistyped => "Round duration must be an integer"
  | durationOutside n =>
    "Round duration must be in (0, " ++ Text.ofInt maxTime ++ "], got "
      ++ Text.ofInt n
  | deadlineOutside d =>
    "Round deadline " ++ Text.ofInt d ++ " exceeds the 64-bit timestamp range"

end Violation

/-- Why a ledger refuses to move money whatever the balances are. -/
inductive Rejection where
  | mintNotPositive (amount : Int)
  | transferNotPositive (amount : Int)
  | toItself (holder : Text)
  /-- For a reason that whoever refuses puts into words. -/
  | stated (words : Text)
  deriving DecidableEq, Repr

namespace Rejection

def message : Rejection → Text
  | mintNotPositive n => "Mint amount must be positive, got " ++ Text.ofInt n
  | transferNotPositive n =>
    "Transfer amount must be positive, got " ++ Text.ofInt n
  | toItself h => "Cannot transfer from " ++ h ++ " to itself"
  | stated words => words

end Rejection

-- ======================================================================= kinds

namespace Fault

inductive Kind where
  | rosca
  | alreadyInitialized
  | notInitialized
  | invalidParameters
  | maxRoundsReached
  | unauthorized
  | notAMember
  | alreadyContributed
  | deadlinePassed
  | deadlineNotYetPassed
  | transfer
  | insufficientFunds
  | transferRejected
  deriving DecidableEq, Repr

namespace Kind

def name : Kind → String
  | rosca => "RoscaException"
  | alreadyInitialized => "AlreadyInitialized"
  | notInitialized => "NotInitialized"
  | invalidParameters => "InvalidSchemeParameters"
  | maxRoundsReached => "MaxRoundsReached"
  | unauthorized => "Unauthorized"
  | notAMember => "NotAMember"
  | alreadyContributed => "AlreadyContributed"
  | deadlinePassed => "DeadlinePassed"
  | deadlineNotYetPassed => "DeadlineNotYetPassed"
  | transfer => "TransferError"
  | insufficientFunds => "InsufficientFunds"
  | transferRejected => "TransferRejected"

def all : List Kind :=
  [rosca, alreadyInitialized, notInitialized, invalidParameters,
    maxRoundsReached, unauthorized, notAMember, alreadyContributed,
    deadlinePassed, deadlineNotYetPassed, transfer, insufficientFunds,
    transferRejected]

def ofName? (n : String) : Option Kind := all.find? (·.name = n)

/-- The kind that a kind belongs to; `rosca` is the most general one. -/
def parent? : Kind → Option Kind
  | rosca => none
  | insufficientFunds | transferRejected => some transfer
  | _ => some rosca

/-- The more general kinds, nearest first. -/
def ancestors (k : Kind) : List Kind :=
  match k.parent? with
  | none => []
  | some .rosca => [.rosca]
  | some p => [p, .rosca]

/-- Whether a fault of this kind is words and nothing else. -/
def carriesWords : Kind → Bool
  | rosca | invalidParameters | maxRoundsReached | transfer
  | transferRejected => true
  | _ => false

/-- The HTTP status of an answer that reports a fault of this kind. -/
def status : Kind → Nat
  | notInitialized => 404
  | unauthorized | notAMember => 403
  | alreadyInitialized | alreadyContributed => 409
  | insufficientFunds => 402
  | _ => 400

end Kind

end Fault

-- ===================================================================== wording

namespace Fault.Wording

def alreadyInitialized (scheme : Text) : Text :=
  "Scheme " ++ scheme ++ " is already initialized"

def notInitialized (scheme : Text) : Text :=
  "Scheme " ++ scheme ++ " is not initialized"

def unauthorized (principal : Text) : Text :=
  "Caller is not authorized to act as " ++ principal

def notAMember (principal : Text) : Text :=
  principal ++ " is not a member of this scheme"

def alreadyContributed (principal round : Text) : Text :=
  principal ++ " has already contributed in round " ++ round

def deadlinePassed (deadline now : Text) : Text :=
  "Round deadline " ++ deadline ++ " has passed (now=" ++ now ++ ")"

def deadlineNotYetPassed (deadline now : Text) : Text :=
  "Round deadline " ++ deadline ++ " has not passed yet (now=" ++ now ++ ")"

def insufficientFunds (holder required available : Text) : Text :=
  holder ++ " has insufficient funds: required " ++ required
    ++ ", available " ++ available

end Fault.Wording

-- ====================================================================== faults

/-- Why an operation of the club was refused. -/
inductive Fault where
  | alreadyInitialized (scheme : Text)
  | notInitialized (scheme : Text)
  | invalidParameters (rule : Violation)
  | maxRoundsReached
  /-- The caller is not who the operation asks for. -/
  | unauthorized (principal : Text)
  | notAMember (principal : Text)
  | alreadyContributed (principal : Text) (round : Int)
  | deadlinePassed (deadline now : Int)
  | deadlineNotYetPassed (deadline now : Int)
  | insufficientFunds (holder : Text) (required available : Int)
  | transferRejected (reason : Rejection)
  deriving DecidableEq, Repr

namespace Fault

def kind : Fault → Kind
  | alreadyInitialized _ => .alreadyInitialized
  | notInitialized _ => .notInitialized
  | invalidParameters _ => .invalidParameters
  | maxRoundsReached => .maxRoundsReached
  | unauthorized _ => .unauthorized
  | notAMember _ => .notAMember
  | alreadyContributed _ _ => .alreadyContributed
  | deadlinePassed _ _ => .deadlinePassed
  | deadlineNotYetPassed _ _ => .deadlineNotYetPassed
  | insufficientFunds _ _ _ => .insufficientFunds
  | transferRejected _ => .transferRejected

def message : Fault → Text
  | alreadyInitialized s => Wording.alreadyInitialized s
  | notInitialized s => Wording.notInitialized s
  | invalidParameters v => v.message
  | maxRoundsReached =>
    "Round counter cannot advance past " ++ Text.ofInt maxRound
  | unauthorized p => Wording.unauthorized p
  | notAMember p => Wording.notAMember p
  | alreadyContributed p r => Wording.alreadyContributed p (.ofInt r)
  | deadlinePassed d n => Wording.deadlinePassed (.ofInt d) (.ofInt n)
  | deadlineNotYetPassed d n =>
    Wording.deadlineNotYetPassed (.ofInt d) (.ofInt n)
  | insufficientFunds h r a => Wording.insufficientFunds h (.ofInt r) (.ofInt a)
  | transferRejected r => r.message

def integers : Fault → List Int
  | alreadyContributed _ r => [r]
  | deadlinePassed d n | deadlineNotYetPassed d n => [d, n]
  | insufficientFunds _ r a => [r, a]
  | invalidParameters (.amountOutside n)
  | invalidParameters (.durationOutside n) => [n]
  | invalidParameters (.deadlineOutside d) => [d]
  | transferRejected (.mintNotPositive n)
  | transferRejected (.transferNotPositive n) => [n]
  | _ => []

/-- Whether the message of a fault can be written. -/
def isSpeakable (f : Fault) : Bool := f.integers.all isWritable

/-- A fault that holds one integer can be put into words exactly if the integer
can be written. -/
theorem isSpeakable_eq_of_one {f : Fault} {n : Int} (hf : f.integers = [n]) :
    f.isSpeakable = isWritable n := by
  unfold isSpeakable
  rw [hf]
  exact Bool.and_true _

theorem isSpeakable_of_one {f : Fault} {n : Int} (hf : f.integers = [n])
    (hn : isWritable n = true) :
    f.isSpeakable = true := (isSpeakable_eq_of_one hf).trans hn

theorem isSpeakable_of_two {f : Fault} {n n' : Int} (hf : f.integers = [n, n'])
    (hn : isWritable n = true) (hn' : isWritable n' = true) :
    f.isSpeakable = true := by
  unfold isSpeakable
  rw [hf]
  exact List.all_eq_true.mpr
    (List.forall_mem_cons.mpr ⟨hn, List.forall_mem_singleton.mpr hn'⟩)

def values : Fault → List Json
  | alreadyInitialized s | notInitialized s => [.string s]
  | unauthorized p | notAMember p => [.string p]
  | alreadyContributed p r => [.string p, .integer r]
  | deadlinePassed d n | deadlineNotYetPassed d n => [.integer d, .integer n]
  | insufficientFunds h r a => [.string h, .integer r, .integer a]
  | invalidParameters _ | maxRoundsReached | transferRejected _ => []

end Fault

end SavingsClub
