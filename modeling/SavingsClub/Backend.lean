/-
What the operations of the club need from where its data is kept: the records of
schemes by key, the ledger, and the audit log.

The calls on a ledger and on the records are also data of their own, so that a
history of them can be played on one backend or on another.
-/
import SavingsClub.Act
import SavingsClub.Answer
import SavingsClub.Scheme.Edit

namespace SavingsClub

/-- A place that keeps schemes, money and events, as actions on its state. -/
structure Backend (σ : Type) where
  has : Text → Act σ Bool
  get : Text → Act σ (Option Scheme)
  set : Text → Scheme → Act σ Unit
  balance : Text → Text → Act σ Int
  mint : Text → Text → Int → Act σ Unit
  transfer : Transfer → Act σ Unit
  emit : Text → Event → Act σ Unit
  /-- The log of the scheme under a key, oldest entry first. -/
  log : Text → Act σ (List LogEntry)

namespace Backend

variable {σ : Type}

/-- A backend that cannot be reached. Money that would be refused in any case
still is. -/
def unavailable : Backend σ where
  has _ := throw (.storage .unavailable)
  get _ := throw (.storage .unavailable)
  set _ _ := throw (.storage .unavailable)
  balance _ _ := throw (.storage .unavailable)
  mint _ _ amount :=
    match mintRejection? amount with
    | some r => Act.refuse (.transferRejected r)
    | none => throw (.storage .unavailable)
  transfer t :=
    match t.rejection? with
    | some r => Act.refuse (.transferRejected r)
    | none => throw (.storage .unavailable)
  emit _ _ := throw (.storage .unavailable)
  log _ := throw (.storage .unavailable)

variable (b : Backend σ) (key : Text)

def load : Act σ Scheme := do
  match ← b.get key with
  | some s => return s
  | none => Act.refuse (.notInitialized key)

/-- Puts an edited record in place of the record under a key, past all rules. -/
def amend (edit : Edit) : Act σ Unit := do
  match ← b.get key with
  | some s => b.set key (s.edit edit)
  | none => throw .noRecord

/-- The log of the scheme under a key, which must have begun. -/
def history : Act σ (List LogEntry) := do
  if ← b.has key then b.log key else Act.refuse (.notInitialized key)

end Backend

-- ======================================================================= calls

inductive LedgerCall where
  | balance (asset holder : Text)
  | mint (asset holder : Text) (amount : Int)
  | transfer (t : Transfer)
  deriving DecidableEq, Repr

namespace LedgerCall

variable {σ : Type}

def perform (b : Backend σ) : LedgerCall → Act σ Answer
  | balance asset holder => .amount <$> b.balance asset holder
  | mint asset holder amount => do b.mint asset holder amount; return .done
  | transfer t => do b.transfer t; return .done

/-- Performs a call; a mint answers the new balance. -/
def performShowingBalance (b : Backend σ) : LedgerCall → Act σ Answer
  | mint asset holder amount => do
    b.mint asset holder amount
    return .amount (← b.balance asset holder)
  | c => c.perform b

end LedgerCall

inductive StoreCall where
  | has (key : Text)
  | get (key : Text)
  /-- Keeps a record under a key, if there is one to keep. -/
  | set (key : Text) (s : Option Scheme)
  deriving DecidableEq, Repr

namespace StoreCall

variable {σ : Type}

/-- Performs a call. Where nothing is to be kept, that is found out after the
key was looked up. -/
def perform (b : Backend σ) : StoreCall → Act σ Answer
  | has key => .truth <$> b.has key
  | get key => .record <$> b.get key
  | set key (some s) => do b.set key s; return .done
  | set key none => do
    let _ ← b.has key
    throw .noRecord

end StoreCall

end SavingsClub
